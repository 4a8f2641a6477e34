/-
# Proofs.Chronicle -- what a shell does to the world, put on record

A host may keep a record of what is done to it: the signals that are sent, the bytes that are
offered to streams or given to background writers, and the programs that are started, each
with the answer (`Host.Act`).  `Host.OnRecord` says that such a record is faithful: each of
these calls adds one entry at its end, and no other call adds any.  It asks nothing of the
answers.  Every host can be made to keep such a record (`Chronicle`), and nothing else about
it changes.

What a text adds to the record are offers to its stream, of which a beginning is taken
(`Output.writePieces_said`); and if not all of it is taken, one of the offers was balked at.
-/
import PipelineShell.Command
import PipelineShell.Proofs.Writing

namespace PipelineShell

set_option autoImplicit false

open Stateful

variable {W : Type} [Host W]

/-! ## Acts -/

namespace Host

/-- What a program is started amid: the environment of the shell's process, and the files
that there are. -/
structure Scene where
  environment : Environment
  isFile : Path → Bool

def scene (world : W) : Scene := ⟨Host.environment world, (Host.isFile · world)⟩

/-- An entry of the record. -/
inductive Act where
  /-- SIGKILL was sent to a process. -/
  | signal (pid : Nat) (answer : Except Int Unit)
  /-- SIGKILL was sent to a program that the shell had started. -/
  | stop (child : Child)
  /-- Bytes were offered to a stream. -/
  | offer (output : OutputHandle) (bytes : Bytes) (answer : Except IoError Nat)
  /-- Bytes were given to a background writer. -/
  | deliver (pipe : Nat) (bytes : Bytes)
  /-- A program was started. -/
  | start (launch : Launch) (scene : Scene) (answer : Except IoError Child)

namespace Act

/-- The process that was sent SIGKILL. -/
def signal? : Act → Option Nat
  | .signal pid _ => some pid
  | .stop child => some child.pid
  | _ => none

/-- The bytes that were to be written. -/
def bytes : Act → Bytes
  | .offer _ bytes _ => bytes
  | .deliver _ bytes => bytes
  | _ => []

/-- The bytes that a stream took. -/
def taken : Act → Bytes
  | .offer _ bytes (.ok n) => bytes.take n
  | _ => []

/-- What was started, and amid what. -/
def start? : Act → Option (Launch × Scene)
  | .start launch scene _ => some (launch, scene)
  | _ => none

/-- Something was offered to this stream. -/
def To (output : OutputHandle) (act : Act) : Prop :=
  ∃ bytes answer, act = .offer output bytes answer

/-- An offer failed, or nothing was taken of it. -/
def Balks : Act → Prop
  | .offer _ _ (.ok (_ + 1)) => False
  | .offer _ _ _ => True
  | _ => False

end Act

/-- The bytes that streams took. -/
def taken (acts : List Act) : Bytes := acts.flatMap Act.taken

theorem taken_append (acts acts' : List Act) : taken (acts ++ acts') = taken acts ++ taken acts' :=
  List.flatMap_append

/-- The calls of which nothing stands in the record. -/
inductive Silent : {α : Type} → StateM W α → Prop
  | changeDirectory (path : Path) : Silent (Host.changeDirectory path)
  | openPipe : Silent Host.openPipe
  | readToEnd (input : InputHandle) : Silent (Host.readToEnd input)
  | flush (output : OutputHandle) : Silent (Host.flush output)
  | closeInput (input : InputHandle) : Silent (Host.closeInput input)
  | closeOutput (output : OutputHandle) : Silent (Host.closeOutput output)
  | finishDelivery (delivery : Nat) : Silent (Host.finishDelivery delivery)
  | capture (child : Child) : Silent (Host.capture child)
  | wait (child : Child) : Silent (Host.wait child)

/-- The record says what is done to the world, in order. -/
structure OnRecord (past : W → List Act) : Prop where
  silent : ∀ {α : Type} {operation : StateM W α}, Silent operation →
    ∀ world, past (operation world).2 = past world
  terminate : ∀ pid world, past (Host.terminate pid world).2 =
    past world ++ [.signal pid (Host.terminate pid world).1]
  kill : ∀ child world, past (Host.kill child world).2 = past world ++ [.stop child]
  write : ∀ output bytes world, past (Host.write output bytes world).2 =
    past world ++ [.offer output bytes (Host.write output bytes world).1]
  deliver : ∀ pipe bytes world, past (Host.deliver pipe bytes world).2 =
    past world ++ [.deliver pipe bytes]
  spawn : ∀ launch world, past (Host.spawn launch world).2 =
    past world ++ [.start launch (Host.scene world) (Host.spawn launch world).1]

end Host

open Host (Act OnRecord)

/-! ## A text -/

namespace Host

/-- What the record holds of a text that was to be written. -/
structure Said (output : OutputHandle) (text : Bytes) (result : Except IoError Unit)
    (acts : List Act) : Prop where
  offers : ∀ act ∈ acts, act.To output
  begins : taken acts <+: text
  whole : result = .ok () → taken acts = text
  /-- A text that does not get through was balked at. -/
  balked : result ≠ .ok () → ∃ act ∈ acts, act.Balks

/-- Offers to the stream lead from one world to the other, and one of them was balked at, if
it is known that they `failed`. -/
def Offers (past : W → List Act) (output : OutputHandle) (failed : Prop) (before after : W) :
    Prop :=
  ∃ acts, past after = past before ++ acts ∧ (∀ act ∈ acts, act.To output) ∧
    (failed → ∃ act ∈ acts, act.Balks)

namespace Offers

variable {past : W → List Act} {output : OutputHandle} {failed failed' : Prop}
  {before between after : W}

omit [Host W] in
theorem none_ (fine : ¬ failed) : Offers past output failed before before :=
  ⟨[], (List.append_nil _).symm, List.forall_mem_nil _, fun wrong => absurd wrong fine⟩

omit [Host W] in
theorem one {act : Act} (grown : past after = past before ++ [act]) (to_ : act.To output)
    (balks : failed → act.Balks) : Offers past output failed before after :=
  ⟨[act], grown, List.forall_mem_singleton.2 to_, fun wrong =>
    ⟨act, List.mem_singleton_self act, balks wrong⟩⟩

omit [Host W] in
theorem trans (first : Offers past output failed before between)
    (second : Offers past output failed' between after) :
    Offers past output (failed ∨ failed') before after := by
  obtain ⟨acts, grown, offers, balked⟩ := first
  obtain ⟨acts', grown', offers', balked'⟩ := second
  refine ⟨acts ++ acts', ?_, List.forall_mem_append.2 ⟨offers, offers'⟩, ?_⟩
  · rw [grown', grown, List.append_assoc]
  · rintro (wrong | wrong)
    · exact (balked wrong).imp fun _ found => ⟨List.mem_append_left _ found.1, found.2⟩
    · exact (balked' wrong).imp fun _ found => ⟨List.mem_append_right _ found.1, found.2⟩

omit [Host W] in
theorem weaken (offers : Offers past output failed before after) (enough : failed' → failed) :
    Offers past output failed' before after := by
  obtain ⟨acts, grown, each, balked⟩ := offers
  exact ⟨acts, grown, each, fun wrong => balked (enough wrong)⟩

end Offers

end Host

namespace Output

/-- A beginning is written, and if nothing fails it is all. -/
theorem writePieces_answer (output : OutputHandle) (pieces : List Bytes) (world : W) :
    (writePieces output pieces world).1.1 <+: pieces.flatten ∧
      ((writePieces output pieces world).1.2 = .ok () →
        (writePieces output pieces world).1.1 = pieces.flatten) := by
  induction pieces generalizing world with
  | nil => exact ⟨List.prefix_rfl, fun _ => rfl⟩
  | cons piece rest ih =>
      simp only [writePieces, bind_apply, List.flatten_cons]
      rcases writeAll output piece world with ⟨⟨n, fault | done⟩, written⟩
      · refine ⟨(List.take_prefix n piece).trans (List.prefix_append _ _), fun ended => ?_⟩
        cases ended
      · obtain ⟨begins, whole⟩ := ih written
        exact ⟨(List.prefix_append_right_inj piece).2 begins, fun ended =>
          congrArg (piece ++ ·) (whole ended)⟩

variable {past : W → List Act} (onRecord : OnRecord past) (output : OutputHandle)
include onRecord

/-- What streams took is known from the record. -/
theorem logged_taken : Logged (fun world => Host.taken (past world)) output := by
  intro bytes world
  have grown := congrArg Host.taken (onRecord.write output bytes world)
  rw [Host.taken_append] at grown
  refine grown.trans ?_
  cases (Host.write output bytes world).1 with
  | ok n => simp [Host.taken, Act.taken]
  | error fault => simp [Host.taken, Act.taken]

/-- To write is to make offers; and whoever gives up before the calls are used up has been
balked at. -/
theorem writeFrom_offers (calls accepted : Nat) (bytes : Bytes) (world : W) :
    let ended := writeFrom output calls accepted bytes world
    Host.Offers past output (ended.1.2 ≠ .ok () ∧ bytes.length ≤ calls) world ended.2 := by
  induction calls generalizing accepted bytes world with
  | zero =>
      cases bytes with
      | nil => exact .none_ fun wrong => wrong.1 rfl
      | cons b rest => exact .none_ fun wrong => Nat.not_succ_le_zero _ wrong.2
  | succ calls ih =>
      cases bytes with
      | nil => exact .none_ fun wrong => wrong.1 rfl
      | cons b rest =>
          have grown := onRecord.write output (b :: rest) world
          simp only [writeFrom, bind_apply]
          generalize Host.write output (b :: rest) world = answered at grown ⊢
          obtain ⟨fault | n, offered⟩ := answered
          · have balks : Host.Offers past output True world offered :=
              .one grown ⟨_, _, rfl⟩ fun _ => trivial
            dsimp only
            split
            · exact (balks.trans (ih accepted (b :: rest) offered)).weaken fun _ => .inl trivial
            · exact balks.weaken fun _ => trivial
          · cases n with
            | zero => exact .one grown ⟨_, _, rfl⟩ fun _ => trivial
            | succ n =>
                have advances : Host.Offers past output False world offered :=
                  .one grown ⟨_, _, rfl⟩ False.elim
                refine (advances.trans (ih _ _ offered)).weaken fun wrong => .inr ⟨wrong.1, ?_⟩
                have few := wrong.2
                rw [List.length_cons] at few
                rw [List.length_drop]
                omega

theorem writeAll_offers (bytes : Bytes) (world : W) :
    let ended := writeAll output bytes world
    Host.Offers past output (ended.1.2 ≠ .ok ()) world ended.2 := by
  rw [writeAll_eq]
  exact (writeFrom_offers onRecord output _ 0 bytes world).weaken fun wrong => ⟨wrong, by omega⟩

theorem writePieces_offers (pieces : List Bytes) (world : W) :
    let ended := writePieces output pieces world
    Host.Offers past output (ended.1.2 ≠ .ok ()) world ended.2 := by
  induction pieces generalizing world with
  | nil => exact .none_ fun wrong => wrong rfl
  | cons piece rest ih =>
      have offers := writeAll_offers onRecord output piece world
      simp only [writePieces, bind_apply]
      generalize writeAll output piece world = answered at offers ⊢
      obtain ⟨⟨n, fault | done⟩, written⟩ := answered
      · exact offers
      · exact (offers.trans (ih written)).weaken fun wrong => .inr wrong

/-- **What the record holds of a text**, and what is answered of it. -/
theorem writePieces_said (pieces : List Bytes) (world : W) :
    let ended := writePieces output pieces world
    ∃ acts, past ended.2 = past world ++ acts ∧ Host.taken acts = ended.1.1 ∧
      Host.Said output pieces.flatten ended.1.2 acts := by
  obtain ⟨acts, grown, offers, balked⟩ := writePieces_offers onRecord output pieces world
  obtain ⟨begins, whole⟩ := writePieces_answer output pieces world
  have logged := writePieces_logged (logged_taken onRecord output) pieces world
  rw [grown, Host.taken_append] at logged
  have taken : Host.taken acts = (writePieces output pieces world).1.1 :=
    List.append_cancel_left logged
  rw [← taken] at begins whole
  exact ⟨acts, grown, taken, offers, begins, whole, balked⟩

end Output

/-! ## A host that keeps a record -/

/-- A world with a record of what was done to it. -/
structure Chronicle (W : Type) where
  world : W
  past : List Act

namespace Chronicle

variable {α : Type}

/-- Does to the world what is done. -/
def lift (operation : StateM W α) : StateM (Chronicle W) α := fun chronicle =>
  ((operation chronicle.world).1, { chronicle with world := (operation chronicle.world).2 })

/-- Does it, and puts it on record. -/
def noting (operation : StateM W α) (act : W → α → Act) : StateM (Chronicle W) α :=
  fun chronicle =>
    ((operation chronicle.world).1,
      ⟨(operation chronicle.world).2,
        chronicle.past ++ [act chronicle.world (operation chronicle.world).1]⟩)

end Chronicle

open Chronicle in
instance : Host (Chronicle W) where
  canonicalize path chronicle := Host.canonicalize path chronicle.world
  isFile path chronicle := Host.isFile path chronicle.world
  currentDirectory chronicle := Host.currentDirectory chronicle.world
  changeDirectory path := lift (Host.changeDirectory path)
  environment chronicle := Host.environment chronicle.world
  account chronicle := Host.account chronicle.world
  processes chronicle := Host.processes chronicle.world
  terminate pid := noting (Host.terminate pid) fun _ answer => .signal pid answer
  openPipe := lift Host.openPipe
  read input most := lift (Host.read input most)
  readToEnd input := lift (Host.readToEnd input)
  write output bytes := noting (Host.write output bytes) fun _ answer => .offer output bytes answer
  interruptionsLeft output chronicle := Host.interruptionsLeft output chronicle.world
  flush output := lift (Host.flush output)
  closeInput input := lift (Host.closeInput input)
  closeOutput output := lift (Host.closeOutput output)
  deliver pipe bytes := noting (Host.deliver pipe bytes) fun _ _ => .deliver pipe bytes
  finishDelivery delivery := lift (Host.finishDelivery delivery)
  spawn launch := noting (Host.spawn launch) fun world answer =>
    .start launch (Host.scene world) answer
  capture child := lift (Host.capture child)
  wait child := lift (Host.wait child)
  kill child := noting (Host.kill child) fun _ _ => .stop child

/-- **Every host can be put on record.** -/
theorem Chronicle.onRecord : OnRecord (Chronicle.past : Chronicle W → List Act) where
  silent silent _ := by cases silent <;> rfl
  terminate _ _ := rfl
  kill _ _ := rfl
  write _ _ _ := rfl
  deliver _ _ _ := rfl
  spawn _ _ := rfl

/-! ## A world with things in it -/

/-- A world in which it is settled what there is: an environment, some files, and processes,
of which some can be killed.  All other calls succeed. -/
structure Setting where
  environment : Environment
  files : List Path
  processes : List ProcessEntry
  mortal : List Nat

instance : Host Setting where
  canonicalize path _ := .ok path
  isFile path setting := setting.files.contains path
  currentDirectory _ := .ok .root
  changeDirectory _ := pure (.ok ())
  environment := Setting.environment
  account _ := ⟨"user", "group", none⟩
  processes := Setting.processes
  terminate pid setting := (if pid ∈ setting.mortal then .ok () else .error 3, setting)
  openPipe := pure (.ok 0)
  read _ _ := pure (.ok [])
  readToEnd _ := pure (.ok [])
  write _ bytes := pure (.ok bytes.length)
  interruptionsLeft _ _ := 0
  flush _ := pure (.ok ())
  closeInput _ := pure ()
  closeOutput _ := pure ()
  deliver _ _ := pure 0
  finishDelivery _ := pure (.ok ())
  spawn _ := pure (.ok ⟨1, none⟩)
  capture _ := pure (.ok ([], .exited 0))
  wait _ := pure (.ok (.exited 0))
  kill _ := pure (.ok ())

/-- The start of a run in such a world, with nothing on record. -/
def Setting.context (setting : Setting) : Context (Chronicle Setting) :=
  ⟨⟨[], .root, "user", "group", none⟩, ⟨setting, []⟩, []⟩

end PipelineShell
