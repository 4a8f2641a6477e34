/-
# Proofs.Outlets -- where the bytes of a shell go

`Outlets` is a way of looking at a world in three parts: what each stream has accepted, how
it stands with each pipe, and all the rest, on which the answers of the system depend.
`Outlets.Lawful` says what is expected of streams and pipes.  A stream has accepted what it
said it accepted, and a buffer in memory accepts everything.  What the shell does to one
pipe does nothing to the streams and to other pipes; but a background writer may get on with
its work during any call, if its pipe has room.  A reader gets what stands in its pipe, and
by the end of the file it has everything.

So a builtin at work lets its pipes lie still (`Lawful.leaves_stands`), no stream is written
to but its own (`Lawful.leaves_accepted`), and with its output in a buffer it does the same
whichever buffer that is (`Lawful.perform_alike`).
-/
import PipelineShell.Proofs.Conduit
import PipelineShell.Proofs.Intent

namespace PipelineShell

set_option autoImplicit false

open Stateful

variable {W F α : Type}

/-- A way of looking at worlds with streams and pipes. -/
structure Outlets (W F : Type) where
  /-- Everything that the stream has accepted. -/
  accepted : OutputHandle → W → Bytes
  /-- How it stands with the pipe, if it was ever opened. -/
  conduit : Nat → W → Option Conduit
  /-- How much a pipe holds. -/
  capacity : Nat
  /-- The stream is a buffer in memory. -/
  buffers : OutputHandle → Prop
  /-- Everything else. -/
  rest : W → F

namespace Outlets

variable (outlets : Outlets W F)

/-! ## What a call does to streams and pipes -/

/-- No stream accepts anything. -/
def Silent (operation : StateM W α) : Prop :=
  ∀ output world, outlets.accepted output (operation world).2 = outlets.accepted output world

/-- Nothing else is seen of it. -/
def Hidden (operation : StateM W α) : Prop :=
  ∀ world, outlets.rest (operation world).2 = outlets.rest world

/-- Worlds with the same rest. -/
def SameRest (world world' : W) : Prop := outlets.rest world = outlets.rest world'

/-- This is done to the pipe, and then its background writer may have been at work. -/
def Turns (pipe : Nat) (change : Conduit → Conduit) (operation : StateM W α) : Prop :=
  ∀ world conduit, outlets.conduit pipe world = some conduit →
    ∃ after, outlets.conduit pipe (operation world).2 = some after ∧
      Conduit.Drains outlets.capacity (change conduit) after

/-- What is done to one end of a pipe is done to that pipe. -/
def ofOutput (output : OutputHandle) (change : Conduit → Conduit) (pipe : Nat) :
    Conduit → Conduit := if output = .pipe pipe then change else id

@[inherit_doc ofOutput]
def ofInput (input : InputHandle) (change : Conduit → Conduit) (pipe : Nat) :
    Conduit → Conduit := if input = .pipe pipe then change else id

/-- A call on pipes, which does this to each of them. -/
structure Plumbs (change : Nat → Conduit → Conduit) (operation : StateM W α) : Prop where
  silent : outlets.Silent operation
  hidden : outlets.Hidden operation
  turns : ∀ pipe, outlets.Turns pipe (change pipe) operation

/-- A call on the rest, which has nothing to do with streams and pipes. -/
structure Apart (operation : StateM W α) : Prop where
  silent : outlets.Silent operation
  steady : Relates outlets.SameRest Eq operation operation
  turns : ∀ pipe, outlets.Turns pipe id operation

/-- The one who holds the read end, and can read from it, gets some bytes in their order. -/
def Yields (pipe : Nat) (arrives : Conduit → Prop)
    (operation : StateM W (Except IoError Bytes)) : Prop :=
  ∀ world conduit, outlets.conduit pipe world = some conduit → conduit.reading = true →
    conduit.writer ≠ .held →
    ∃ bytes after, (operation world).1 = .ok bytes ∧
      outlets.conduit pipe (operation world).2 = some after ∧
      Conduit.Steps outlets.capacity conduit after ∧ after.reading = true ∧
      after.taken = conduit.taken ++ bytes ∧ arrives after

/-- What is expected of streams and pipes, where errors go to `error`. -/
structure Lawful [Host W] (error : OutputHandle) : Prop where
  canonicalize : ∀ path world world', outlets.SameRest world world' →
    Host.canonicalize path world = Host.canonicalize path world'
  environment : ∀ world world' : W, outlets.SameRest world world' →
    Host.environment world = Host.environment world'
  account : ∀ world world' : W, outlets.SameRest world world' →
    Host.account world = Host.account world'
  patient : ∀ world world' : W, outlets.SameRest world world' →
    Host.interruptionsLeft error world = Host.interruptionsLeft error world'
  changeDirectory : ∀ path, outlets.Apart (Host.changeDirectory path)
  terminate : ∀ pid, outlets.Apart (Host.terminate pid)
  /-- A stream has accepted what it said it accepted, -/
  logged : ∀ output, Output.Logged (outlets.accepted output) output
  /-- and no other stream has accepted anything, -/
  elsewhere : ∀ output other bytes world, other ≠ output →
    outlets.accepted other (Host.write output bytes world).2 = outlets.accepted other world
  /-- nor has anything happened to a pipe that is not written to. -/
  beside : ∀ output pipe bytes, output ≠ .pipe pipe →
    outlets.Turns pipe id (Host.write output bytes)
  /-- Whether errors get through depends on the rest only. -/
  report : ∀ bytes, Relates outlets.SameRest Eq (Host.write error bytes) (Host.write error bytes)
  /-- A buffer accepts everything. -/
  whole : ∀ output, outlets.buffers output → ∀ bytes (world : W),
    (Host.write output bytes world).1 = .ok bytes.length
  inward : ∀ output, outlets.buffers output → ∀ bytes, outlets.Hidden (Host.write output bytes)
  scratch : outlets.buffers .scratch
  flush : ∀ output, outlets.Plumbs (fun _ => id) (Host.flush output)
  openPipe : outlets.Plumbs (fun _ => id) Host.openPipe
  /-- A pipe that is opened is a new one. -/
  opened : ∀ pipe world, (Host.openPipe world).1 = .ok pipe → outlets.conduit pipe world = none ∧
    outlets.conduit pipe (Host.openPipe world).2 = some (.unused .held true)
  closeInput : ∀ input,
    outlets.Plumbs (ofInput input Conduit.abandon) (Host.closeInput input)
  closeOutput : ∀ output,
    outlets.Plumbs (ofOutput output Conduit.close) (Host.closeOutput output)
  deliver : ∀ pipe bytes,
    outlets.Plumbs (ofOutput (.pipe pipe) (Conduit.feed bytes)) (Host.deliver pipe bytes)
  roomy : 0 < outlets.capacity
  read : ∀ pipe most, outlets.Yields pipe (fun _ => True) (Host.read (.pipe pipe) most)
  readToEnd : ∀ pipe, outlets.Yields pipe Conduit.AtEnd (Host.readToEnd (.pipe pipe))

/-! ## How it stands with a pipe -/

/-- The pipe was opened, and this holds of it. -/
def Stands (pipe : Nat) (good : Conduit → Prop) (world : W) : Prop :=
  ∃ conduit, outlets.conduit pipe world = some conduit ∧ good conduit

/-- The pipe was opened. -/
def Known (pipe : Nat) (world : W) : Prop := (outlets.conduit pipe world).isSome = true

/-- The pipe still has a reader. -/
def Attended (pipe : Nat) (world : W) : Prop :=
  outlets.Stands pipe (fun conduit => conduit.reading = true) world

/-- Nothing was ever written into the pipe, and its write end is as it is said. -/
def Rests (pipe : Nat) (writer : Writer) (world : W) : Prop :=
  outlets.Stands pipe (Conduit.Unused writer) world

variable {outlets} {error : OutputHandle} {pipe : Nat} {writer : Writer} {world : W}
  {good : Conduit → Prop} {change : Nat → Conduit → Conduit} {operation : StateM W α}

theorem Stands.known (stands : outlets.Stands pipe good world) : outlets.Known pipe world := by
  obtain ⟨conduit, here, -⟩ := stands
  rw [Known, here]
  rfl

theorem Turns.keeps_known {change : Conduit → Conduit}
    (turns : outlets.Turns pipe change operation) :
    Keeps (outlets.Known pipe) operation := by
  intro world known
  obtain ⟨conduit, here⟩ := Option.isSome_iff_exists.1 known
  obtain ⟨after, there, -⟩ := turns world conduit here
  rw [Known, there]
  rfl

/-- What is done to a pipe makes of it what can be told from what was known of it. -/
theorem Turns.stands {change : Conduit → Conduit} {good' : Conduit → Prop}
    (stable : Conduit.Stable good') (turns : outlets.Turns pipe change operation)
    (becomes : ∀ conduit, good conduit → good' (change conduit))
    (stands : outlets.Stands pipe good world) :
    outlets.Stands pipe good' (operation world).2 := by
  obtain ⟨conduit, here, holds⟩ := stands
  obtain ⟨after, there, drains⟩ := turns world conduit here
  exact ⟨after, there, stable.drains drains (becomes conduit holds)⟩

theorem Turns.keeps_stands (stable : Conduit.Stable good)
    (turns : outlets.Turns pipe id operation) : Keeps (outlets.Stands pipe good) operation :=
  fun _ stands => turns.stands stable (fun _ => id) stands

theorem Plumbs.keeps_stands (stable : Conduit.Stable good)
    (plumbs : outlets.Plumbs change operation) (apart : change pipe = id) :
    Keeps (outlets.Stands pipe good) operation := by
  have turns := plumbs.turns pipe
  rw [apart] at turns
  exact turns.keeps_stands stable

theorem ofOutput_of_ne {output : OutputHandle} (apart : output ≠ .pipe pipe)
    (change : Conduit → Conduit) : ofOutput output change pipe = id := if_neg apart

theorem ofInput_of_ne {input : InputHandle} (apart : input ≠ .pipe pipe)
    (change : Conduit → Conduit) : ofInput input change pipe = id := if_neg apart

theorem ofOutput_induction {output : OutputHandle} {change : Conduit → Conduit}
    (changes : ∀ conduit, good conduit → good (change conduit)) (conduit : Conduit)
    (here : good conduit) : good (ofOutput output change pipe conduit) := by
  rw [ofOutput]
  split
  · exact changes conduit here
  · exact here

theorem ofInput_induction {input : InputHandle} {change : Conduit → Conduit}
    (changes : ∀ conduit, good conduit → good (change conduit)) (conduit : Conduit)
    (here : good conduit) : good (ofInput input change pipe conduit) := by
  rw [ofInput]
  split
  · exact changes conduit here
  · exact here

/-! ## Worlds that are alike -/

variable (outlets error) in
/-- Worlds with the same rest, in which the same errors were reported. -/
structure Alike (world world' : W) : Prop where
  rest : outlets.SameRest world world'
  reported : outlets.accepted error world = outlets.accepted error world'

theorem Apart.alike (apart : outlets.Apart operation) :
    Relates (outlets.Alike error) Eq operation operation := by
  intro world world' alike
  obtain ⟨same, rest⟩ := apart.steady world world' alike.rest
  exact ⟨same, rest,
    (apart.silent error world).trans (alike.reported.trans (apart.silent error world').symm)⟩

namespace Lawful

variable [Host W] (lawful : outlets.Lawful error)
include lawful

/-- To let go of a read end is nothing to a pipe in which there is nothing. -/
theorem closeInput_rests (calm : writer.Calm) (input : InputHandle) :
    Keeps (outlets.Rests pipe writer) (Host.closeInput input) :=
  fun _ rests => ((lawful.closeInput input).turns pipe).stands (Conduit.stable_unused calm)
    (ofInput_induction fun _ => Conduit.Unused.abandon) rests

/-- A write end that the shell lets go of is closed. -/
theorem closeOutput_closes (rests : outlets.Rests pipe .held world) :
    outlets.Rests pipe .gone (Host.closeOutput (.pipe pipe) world).2 := by
  refine ((lawful.closeOutput (.pipe pipe)).turns pipe).stands Conduit.steady_gone.stable ?_ rests
  rw [ofOutput, if_pos rfl]
  exact fun _ => Conduit.Unused.close

theorem closeOutput_stands (steady : Conduit.Steady good) (output : OutputHandle) :
    Keeps (outlets.Stands pipe good) (Host.closeOutput output) :=
  fun _ stands => ((lawful.closeOutput output).turns pipe).stands steady.stable
    (ofOutput_induction fun _ => steady.close) stands

theorem deliver_stands (steady : Conduit.Steady good) (other : Nat) (bytes : Bytes) :
    Keeps (outlets.Stands pipe good) (Host.deliver other bytes) :=
  fun _ stands => ((lawful.deliver other bytes).turns pipe).stands steady.stable
    (ofOutput_induction fun _ => steady.feed bytes) stands

/-! ## A builtin at work -/

open Builtin

variable {streams streams' : Streams}

/-- A builtin at work has nothing to do with pipes that it does not write to. -/
theorem leaves_stands (stable : Conduit.Stable good) (output : streams.output ≠ .pipe pipe)
    (error : streams.error ≠ .pipe pipe) : Leaves (outlets.Stands pipe good) streams where
  changeDirectory path := ((lawful.changeDirectory path).turns pipe).keeps_stands stable
  terminate pid := ((lawful.terminate pid).turns pipe).keeps_stands stable
  print bytes := (lawful.beside _ _ bytes output).keeps_stands stable
  report bytes := (lawful.beside _ _ bytes error).keeps_stands stable

theorem upholds_accepted (output : OutputHandle) (bytes : Bytes) :
    Upholds fun world => outlets.accepted output world = bytes where
  changeDirectory path world here := ((lawful.changeDirectory path).silent output world).trans here
  terminate pid world here := ((lawful.terminate pid).silent output world).trans here

/-- A builtin at work writes to no stream but its own. -/
theorem leaves_accepted {other : OutputHandle} (output : other ≠ streams.output)
    (error : other ≠ streams.error) (bytes : Bytes) :
    Leaves (fun world => outlets.accepted other world = bytes) streams where
  toUpholds := lawful.upholds_accepted other bytes
  print offered world here := (lawful.elsewhere _ _ offered world output).trans here
  report offered world here := (lawful.elsewhere _ _ offered world error).trans here

theorem guides : Guides (outlets.Alike error) where
  canonicalize path world world' alike := lawful.canonicalize path world world' alike.rest
  environment world world' alike := lawful.environment world world' alike.rest
  account world world' alike := lawful.account world world' alike.rest
  changeDirectory path := (lawful.changeDirectory path).alike
  terminate pid := (lawful.terminate pid).alike

/-- Errors are reported with the same success. -/
theorem report_alike (pieces : List Bytes) :
    Relates (outlets.Alike error) Eq (Output.writePieces error pieces : StateM W _)
      (Output.writePieces error pieces) := by
  refine Output.writePieces_relates
    (fun world world' alike => lawful.patient world world' alike.rest) (fun bytes => ?_) pieces
  intro world world' alike
  obtain ⟨same, rest⟩ := lawful.report bytes world world' alike.rest
  refine ⟨same, rest, ?_⟩
  rw [lawful.logged error bytes world, lawful.logged error bytes world', same, alike.reported]

/-- What is written to a buffer is accepted, and seen nowhere else. -/
theorem writePieces_buffered {output : OutputHandle} (buffered : outlets.buffers output)
    (apart : output ≠ error) (pieces : List Bytes) (world : W) :
    (Output.writePieces output pieces world).1 = (pieces.flatten, .ok ()) ∧
      outlets.Alike error (Output.writePieces output pieces world).2 world := by
  have absorbs : ∀ bytes, Ensures (fun now => outlets.Alike error now world)
      (Host.write output bytes)
      fun answer now => answer = .ok bytes.length ∧ outlets.Alike error now world :=
    fun bytes now alike => ⟨lawful.whole output buffered bytes now,
      (lawful.inward output buffered bytes now).trans alike.rest,
      (lawful.elsewhere output error bytes now apart.symm).trans alike.reported⟩
  exact Output.writePieces_absorbed absorbs pieces world ⟨rfl, rfl⟩

theorem print_alike {output output' : OutputHandle} (buffered : outlets.buffers output)
    (apart : output ≠ error) (buffered' : outlets.buffers output') (apart' : output' ≠ error)
    (pieces : List Bytes) :
    Relates (outlets.Alike error) Eq (Output.writePieces output pieces : StateM W _)
      (Output.writePieces output' pieces) := by
  intro world world' alike
  obtain ⟨answer, rest, reported⟩ := lawful.writePieces_buffered buffered apart pieces world
  obtain ⟨answer', rest', reported'⟩ := lawful.writePieces_buffered buffered' apart' pieces world'
  exact ⟨answer.trans answer'.symm, rest.trans (alike.rest.trans rest'.symm),
    reported.trans (alike.reported.trans reported'.symm)⟩

/-- **With its output in a buffer, a builtin does the same whichever buffer that is.** -/
theorem perform_alike {output output' : OutputHandle} (buffered : outlets.buffers output)
    (apart : output ≠ error) (buffered' : outlets.buffers output') (apart' : output' ≠ error)
    (input input' : InputHandle) (reading : Except EarlyExit Invocation)
    (listless : reading ≠ .ok .ps) :
    Relates (Context.Related (outlets.Alike error)) Eq (perform ⟨input, output, error⟩ reading)
      (perform ⟨input', output', error⟩ reading) :=
  perform_relates (lawful.print_alike buffered apart buffered' apart') lawful.report_alike
    lawful.guides reading listless

end Lawful

/-! ## A reader at work -/

/-- What a reader asks for at once. -/
inductive Sip where
  | some (most : Nat)
  | rest
  deriving DecidableEq, Repr

def Sip.take [Host W] (pipe : Nat) : Sip → StateM W (Except IoError Bytes)
  | .some most => Host.read (.pipe pipe) most
  | .rest => Host.readToEnd (.pipe pipe)

/-- Reads from a pipe so many times; answers all that was read. -/
def drink [Host W] (pipe : Nat) : List Sip → StateM W Bytes
  | [] => pure []
  | sip :: later => do
      let answer ← sip.take pipe
      let more ← drink pipe later
      pure (answer.toOption.getD [] ++ more)

variable [Host W] {bytes : Bytes} {conduit : Conduit} (lawful : outlets.Lawful error)
include lawful

theorem Lawful.take_yields (sip : Sip) :
    outlets.Yields pipe (fun after => sip = .rest → after.AtEnd) (sip.take pipe) := by
  intro world conduit here reading unheld
  cases sip with
  | some most =>
      obtain ⟨bytes, after, answer, there, steps, still, taken, -⟩ :=
        lawful.read pipe most world conduit here reading unheld
      exact ⟨bytes, after, answer, there, steps, still, taken, (nomatch ·)⟩
  | rest =>
      obtain ⟨bytes, after, answer, there, steps, still, taken, atEnd⟩ :=
        lawful.readToEnd pipe world conduit here reading unheld
      exact ⟨bytes, after, answer, there, steps, still, taken, fun _ => atEnd⟩

/-- Whatever a reader asks for, it gets what comes next, and all there is if it reads to the
end. -/
theorem Lawful.drink_carries (sips : List Sip)
    (here : outlets.conduit pipe world = some conduit) (carries : conduit.Carries bytes)
    (reading : conduit.reading = true) :
    conduit.taken ++ (drink pipe sips world).1 <+: bytes ∧
      (.rest ∈ sips → conduit.taken ++ (drink pipe sips world).1 = bytes) := by
  induction sips generalizing world conduit with
  | nil =>
      refine ⟨?_, fun member => absurd member List.not_mem_nil⟩
      simpa only [drink, pure_apply, List.append_nil] using carries.taken_part
  | cons sip later ih =>
      have unheld : conduit.writer ≠ .held := by cases carries <;> exact nofun
      obtain ⟨got, after, answer, there, steps, still, taken, arrives⟩ :=
        lawful.take_yields sip world conduit here reading unheld
      have onward := carries.steps steps
      obtain ⟨part, whole⟩ := ih there onward still
      have drunk : conduit.taken ++ (drink pipe (sip :: later) world).1 =
          after.taken ++ (drink pipe later (sip.take pipe world).2).1 := by
        simp only [drink, bind_apply, pure_apply, answer, taken, List.append_assoc]
        rfl
      rw [drunk]
      refine ⟨part, fun member => ?_⟩
      rcases List.mem_cons.1 member with now | then_
      · -- all was read at once, so nothing is left for later
        rw [onward.taken_eq (arrives now.symm)] at part ⊢
        exact part.eq_of_length_le (by simp)
      · exact whole then_

variable (outlets) in
/-- These bytes wait for the reader of the pipe, whoever goes first and however it reads. -/
def Serves (pipe : Nat) (bytes : Bytes) (world : W) : Prop :=
  ∃ conduit, outlets.conduit pipe world = some conduit ∧
    conduit.Supplies outlets.capacity bytes ∧
    (conduit.reading = true → ∀ sips, (drink pipe sips world).1 <+: bytes ∧
      (.rest ∈ sips → (drink pipe sips world).1 = bytes))

variable (outlets) in
/-- The reader of the pipe is at the end of the file, and was from the beginning. -/
def Exhausted (pipe : Nat) (world : W) : Prop :=
  ∃ conduit, outlets.conduit pipe world = some conduit ∧ conduit.taken = [] ∧
    (conduit.reading = true → conduit.AtEnd ∧ ∀ sips, (drink pipe sips world).1 = [])

theorem Lawful.serves (here : outlets.conduit pipe world = some conduit)
    (carries : conduit.Carries bytes) (unread : conduit.taken = []) :
    outlets.Serves pipe bytes world := by
  refine ⟨conduit, here, carries.supplies lawful.roomy unread, fun reading sips => ?_⟩
  simpa only [unread, List.nil_append] using lawful.drink_carries sips here carries reading

theorem Lawful.exhausted (rests : outlets.Rests pipe .gone world) :
    outlets.Exhausted pipe world := by
  obtain ⟨_, here, reading, rfl⟩ := rests
  refine ⟨_, here, rfl, fun still => ⟨⟨still, rfl, rfl⟩, fun sips => ?_⟩⟩
  exact List.prefix_nil.1 (lawful.drink_carries sips here (Conduit.carries_closed reading) still).1

end Outlets

end PipelineShell
