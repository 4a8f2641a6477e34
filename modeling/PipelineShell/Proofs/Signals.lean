/-
# Proofs.Signals -- what `kill` can hit

`kill` hits the one process that is named, or none.  Its words name a process if there is a
single word, and this is a numeral for a number that a process can have, with a `+` in front
or not (`Builtin.Names`).  Numbers that are too large do not come out as others, and nothing
is negative by accident: zero and what is below it stand for groups of processes, or for all
of them, and are never signalled.

All that comes of a `kill` is listed by `Builtin.Struck`: it does nothing at all, or sends one
signal, and if that is refused it says so on its error stream.  `Builtin.kill_strikes` says
this of a run and of a request for the output, for any streams and on any host.
-/
import PipelineShell.Arguments.Scan
import PipelineShell.Proofs.Numeral
import PipelineShell.Proofs.Observed

namespace PipelineShell.Builtin

set_option autoImplicit false

open Stateful
open Host (Act OnRecord)

variable {W : Type} [Host W]

/-! ## The words -/

/-- There is one word, and it names this process. -/
def Names (words : List String) (pid : Nat) : Prop :=
  ∃ word numeral, words = [word] ∧ (word.toList = numeral ∨ word.toList = '+' :: numeral) ∧
    Numeral.Decimal numeral pid ∧ 1 ≤ pid ∧ pid ≤ 2147483647

/-- A number of 32 bits that is positive is written as a numeral, with a `+` or without. -/
theorem positive_iff {word : String} {pid : Nat} :
    (∃ value, Numeral.signed32 word = some value ∧ 0 < value ∧ value.toNat = pid) ↔
      ∃ numeral, (word.toList = numeral ∨ word.toList = '+' :: numeral) ∧
        Numeral.Decimal numeral pid ∧ 1 ≤ pid ∧ pid ≤ 2147483647 := by
  constructor
  · rintro ⟨value, read, positive, rfl⟩
    obtain ⟨whole, low, high⟩ := Numeral.signed32_eq_some_iff.1 read
    generalize spelled : word.toList = text at whole
    cases whole with
    | unsigned numeral =>
        exact ⟨_, .inl rfl, numeral, by omega, by omega⟩
    | plus numeral =>
        exact ⟨_, .inr rfl, numeral, by omega, by omega⟩
    | minus numeral => omega
  · rintro ⟨text, spelled, numeral, low, high⟩
    have whole : Numeral.Whole word.toList pid := by
      rcases spelled with plain | signed
      · exact plain ▸ .unsigned numeral
      · exact signed ▸ .plus numeral
    have fits : Numeral.Fits pid := ⟨by omega, by omega⟩
    exact ⟨pid, Numeral.signed32_eq_some_iff.2 ⟨whole, fits⟩, by omega, by omega⟩

/-- **The process that is aimed at is the one that is named.** -/
theorem target?_eq_some_iff {words : List String} {pid : Nat} :
    Invocation.target? words = some pid ↔ Names words pid := by
  match words with
  | [] => exact ⟨nofun, fun ⟨_, _, none_, _⟩ => nomatch none_⟩
  | _ :: _ :: _ => exact ⟨nofun, fun ⟨_, _, one, _⟩ => nomatch one⟩
  | [word] =>
      have aimed : Invocation.target? [word] = some pid ↔
          ∃ value, Numeral.signed32 word = some value ∧ 0 < value ∧ value.toNat = pid := by
        rw [Invocation.target?, Option.bind_eq_some_iff]
        refine exists_congr fun value => and_congr_right fun _ => ?_
        by_cases positive : 0 < value <;> simp [positive]
      rw [aimed, positive_iff]
      constructor
      · rintro ⟨numeral, named⟩
        exact ⟨word, numeral, rfl, named⟩
      · rintro ⟨_, numeral, only, named⟩
        obtain rfl := List.head_eq_of_cons_eq only
        exact ⟨numeral, named⟩

theorem target?_eq_none_iff {words : List String} :
    Invocation.target? words = none ↔ ∀ pid, ¬ Names words pid := by
  rw [Option.eq_none_iff_forall_ne_some]
  exact forall_congr' fun pid => not_congr target?_eq_some_iff

/-! ## The work -/

/-- What is done for the words, and the status that comes of it. -/
inductive Struck (words : List String) (error : OutputHandle) : List Act → ExitCode → Prop
  | idle (nameless : ∀ pid, ¬ Names words pid) : Struck words error [] 0
  | killed {pid : Nat} (names : Names words pid) : Struck words error [.signal pid (.ok ())] 0
  | refused {pid : Nat} {number : Int} {report : List Act} (names : Names words pid)
      (told : ∀ act ∈ report, act.To error) :
      Struck words error (.signal pid (.error number) :: report) 1

/-! ## The calls -/

/-- What a call comes to that sets `kill` to work. -/
structure Strikes {α : Type} (past : W → List Act) (words : List String) (context : Context W)
    (ran : (Except ShellError α × Builtin) × Context W) (acts : List Act) : Prop where
  grown : past ran.2.world = past context.world ++ acts
  /-- No more than one signal is sent. -/
  once : (acts.filterMap Act.signal?).length ≤ 1
  /-- It is sent to the process that is named. -/
  aimed : ∀ pid, pid ∈ acts.filterMap Act.signal? ↔ Names words pid
  /-- Words that name no process do nothing. -/
  idle : (∀ pid, ¬ Names words pid) → (∀ act ∈ acts, act.bytes = []) ∧ EndsWith ran 0
  session : ran.2.session = context.session
  /-- To fail is to have been refused the signal. -/
  status : ∃ code, EndsWith ran code ∧ (code = 0 ∨ code = 1) ∧
    (code = 1 ↔ ∃ pid number, Act.signal pid (.error number) ∈ acts)

/-- A report sends no signal. -/
theorem signal?_eq_none {acts : List Act} {output : OutputHandle}
    (told : ∀ act ∈ acts, act.To output) : ∀ act ∈ acts, act.signal? = none := by
  intro act member
  obtain ⟨bytes, answer, rfl⟩ := told act member
  rfl

/-- At most one signal is sent, and it is known which. -/
theorem Struck.signals {words : List String} {error : OutputHandle} {acts : List Act}
    {code : ExitCode} (struck : Struck words error acts code) :
    acts.filterMap Act.signal? = (Invocation.target? words).toList := by
  cases struck with
  | idle nameless =>
      rw [target?_eq_none_iff.2 nameless]
      rfl
  | killed names =>
      rw [target?_eq_some_iff.2 names]
      rfl
  | refused names told =>
      rw [target?_eq_some_iff.2 names, List.filterMap_cons,
        List.filterMap_eq_nil_iff.2 (signal?_eq_none told)]
      rfl

/-- To fail is to have been refused. -/
theorem Struck.fails_iff {words : List String} {error : OutputHandle} {acts : List Act}
    {code : ExitCode} (struck : Struck words error acts code) :
    (code = 0 ∨ code = 1) ∧
      (code = 1 ↔ ∃ pid number, Act.signal pid (.error number) ∈ acts) := by
  cases struck with
  | idle nameless => simp
  | killed names => simp
  | refused names told => exact ⟨.inr rfl, fun _ => ⟨_, _, List.mem_cons_self⟩, fun _ => rfl⟩

section Calls

variable {past : W → List Act} (onRecord : OnRecord past) {words : List String}
include onRecord

theorem Serves.struck {α : Type} {streams : Streams} {pipe : Option Nat} {begun : Context W}
    {ran : (Except ShellError α × Builtin) × Context W}
    (serves : Serves past streams pipe (.ok (.kill words)) begun ran) :
    ∃ acts code, Struck words streams.error acts code ∧
      Settles past pipe begun [] acts code ran := by
  cases target : Invocation.target? words with
  | none =>
      have worked : (Invocation.kill words).execute streams.output begun =
          (([], .ok 0), begun) := by
        simp only [Invocation.execute, map_apply, terminate, target, pure_apply]
      exact ⟨[], 0, .idle (target?_eq_none_iff.1 target), serves.settles (perform_done worked)⟩
  | some pid =>
      have names : Names words pid := target?_eq_some_iff.1 target
      have sent := onRecord.terminate pid begun.world
      have works : (Invocation.kill words).execute streams.output begun =
          (Prod.map (([], ·)) id (terminate words begun)) := rfl
      simp only [terminate, target, bind_apply, Context.act_apply] at works
      generalize Host.terminate pid begun.world = answered at sent works
      obtain ⟨number | done, struck⟩ := answered
      · obtain ⟨complaint, works⟩ : ∃ complaint : Complaint,
            (Invocation.kill words).execute streams.output begun =
              (([], .error complaint), { begun with world := struck }) := ⟨_, works⟩
        obtain ⟨told, _, said, settles⟩ :=
          serves.settles_reporting onRecord (perform_complained works)
        exact ⟨_, 1, .refused names said.offers, settles.since sent rfl⟩
      · have settles := serves.settles (perform_done works)
        exact ⟨_, 0, .killed names, settles.since sent rfl⟩

theorem Serves.strikes {α : Type} {streams : Streams} {pipe : Option Nat}
    {context begun : Context W} {ran : (Except ShellError α × Builtin) × Context W}
    (serves : Serves past streams pipe (.ok (.kill words)) begun ran)
    (session : begun.session = context.session) (unheard : past begun.world = past context.world) :
    ∃ acts, Strikes past words context ran acts := by
  obtain ⟨acts, code, struck, settles⟩ := serves.struck onRecord
  have ends := settles.status
  have signals : (acts ++ handed pipe []).filterMap Act.signal? =
      (Invocation.target? words).toList := by
    have silent : (handed pipe []).filterMap Act.signal? = [] :=
      List.filterMap_eq_nil_iff.2 fun act member => (act_of_mem_handed member).1
    rw [List.filterMap_append, silent, List.append_nil, struck.signals]
  refine ⟨_,
    { grown := settles.grown.trans (congrArg (· ++ _) unheard)
      once := ?once, aimed := ?aimed, idle := ?idle
      session := settles.session.trans session
      status := ⟨code, ends, ?status⟩ }⟩
  case once => exact signals ▸ Option.length_toList_le
  case aimed =>
    intro pid
    rw [signals, Option.mem_toList]
    exact target?_eq_some_iff
  case idle =>
    intro nameless
    cases struck with
    | idle => exact ⟨fun act member => (act_of_mem_handed member).2, ends⟩
    | killed names => exact absurd names (nameless _)
    | refused names => exact absurd names (nameless _)
  case status =>
    refine struck.fails_iff.imp_right fun fails => fails.trans ?_
    refine exists₂_congr fun pid number => ?_
    rw [List.mem_append, or_iff_left]
    exact fun member => nomatch (act_of_mem_handed member).1

/-- **`kill` hits the process that is named, or none.**  It is sent one signal, which may be
refused; other words do nothing, and the session is left alone in any case. -/
theorem kill_strikes [ArgumentReader] {kill : Builtin} (awaits : kill.Awaits .kill words)
    (context : Context W) : (∃ acts, Strikes past words context (kill.run context) acts) ∧
      ∃ acts, Strikes past words context (kill.output context) acts :=
  ⟨(run_serves onRecord awaits context).strikes onRecord rfl rfl,
    (output_serves onRecord awaits context).strikes onRecord
      (kill.setOutput_spares Context.aloof_session .scratch context)
      (setOutput_past onRecord kill .scratch context)⟩

end Calls

open scoped Arguments

/-- A world in which process 7 can be killed, and no other. -/
def fragile : Setting := { environment := [], files := [], processes := [], mortal := [7] }

/-- The signals that are sent by a `kill` with these words in that world, and its status. -/
def struck (words : List String) : List Nat × Option ExitCode :=
  let ran := ((fresh .kill).parseArguments words).run fragile.context
  (ran.2.world.past.filterMap Act.signal?, ran.1.2.status)

/-- A signal that is sent, one that is refused, and some that are not sent. -/
theorem kill_strikes_seven :
    OnRecord (Chronicle.past : Chronicle Setting → List Act) ∧
    ((fresh .kill).parseArguments ["+007"]).Awaits .kill ["+007"] ∧
    ((∃ acts, Strikes Chronicle.past ["+007"] fragile.context
        (((fresh .kill).parseArguments ["+007"]).run fragile.context) acts) ∧
      ∃ acts, Strikes Chronicle.past ["+007"] fragile.context
        (((fresh .kill).parseArguments ["+007"]).output fragile.context) acts) ∧
    struck ["+007"] = ([7], some 0) ∧ struck ["2147483647"] = ([2147483647], some 1) ∧
    struck ["4294967303"] = ([], some 0) ∧ struck ["-7"] = ([], some 0) ∧
    struck ["7", "7"] = ([], some 0) := by
  have awaits := awaits_parseArguments .kill ["+007"]
  exact ⟨Chronicle.onRecord, awaits,
    kill_strikes Chronicle.onRecord awaits fragile.context,
    by decide +kernel, by decide +kernel, by decide +kernel, by decide +kernel,
    by decide +kernel⟩

end PipelineShell.Builtin
