/-
# Proofs.Observed -- the work of a builtin, on record

A builtin that awaits its run does its work when it is run, or when its output is asked for.
Around the work streams are flushed and let go, of which nothing stands in the record, and at
the end what was printed is handed on if a pipe was opened for it.  So whatever is to be known
of either call is known from the work (`Builtin.run_serves`, `Builtin.output_serves`).
-/
import PipelineShell.Proofs.Chronicle
import PipelineShell.Proofs.Recording

namespace PipelineShell.Builtin

set_option autoImplicit false

open Stateful
open Host (Act OnRecord)

variable {W : Type} [Host W]

/-- The builtin was given these words, and has not run.  Its streams are any. -/
structure Awaits [ArgumentReader] (builtin : Builtin) (kind : Kind)
    (words : List String) : Prop where
  parsed : builtin.parsed = some (Invocation.parse kind [kind.name] words)
  status : builtin.status = none
  recorded : builtin.recorded = []

theorem awaits_parseArguments [ArgumentReader] (kind : Kind) (words : List String) :
    ((fresh kind).parseArguments words).Awaits kind words := ⟨rfl, rfl, rfl⟩

/-- What a background writer is given at the end of a run. -/
def handed (pipe : Option Nat) (bytes : Bytes) : List Act := pipe.toList.map (.deliver · bytes)

/-- What is handed on when nothing was printed. -/
theorem act_of_mem_handed {pipe : Option Nat} {act : Act} (member : act ∈ handed pipe []) :
    act.signal? = none ∧ act.bytes = [] := by
  obtain ⟨number, -, rfl⟩ := List.mem_map.1 member
  exact ⟨rfl, rfl⟩

/-- The work of a builtin that has these streams, and a pipe behind them or not, is all there
is to a call that it starts amid `begun`. -/
structure Serves {α : Type} (past : W → List Act) (streams : Streams) (pipe : Option Nat)
    (reading : Except EarlyExit Invocation) (begun : Context W)
    (ran : (Except ShellError α × Builtin) × Context W) : Prop where
  answer : ran.1.1.map (fun _ => ()) = (perform streams reading begun).1.2.map fun _ => ()
  status : ran.1.2.status = some (codeOf (perform streams reading begun).1.2)
  recorded : ran.1.2.recorded = (perform streams reading begun).1.1
  session : ran.2.session = (perform streams reading begun).2.session
  past : past ran.2.world = past (perform streams reading begun).2.world ++
    handed pipe (perform streams reading begun).1.1

/-- Whenever it is asked for, the status is this. -/
def EndsWith {α : Type} (ran : (Except ShellError α × Builtin) × Context W) (code : ExitCode) :
    Prop := ∀ later : Context W, (ran.1.2.wait later).1.1 = .ok code

/-- A call is over: work that left `left` behind and printed `accepted` was followed by these
acts, and by what is handed on. -/
structure Settles {α : Type} (past : W → List Act) (pipe : Option Nat) (left : Context W)
    (accepted : Bytes) (acts : List Act) (code : ExitCode)
    (ran : (Except ShellError α × Builtin) × Context W) : Prop where
  grown : past ran.2.world = past left.world ++ (acts ++ handed pipe accepted)
  recorded : ran.1.2.recorded = accepted
  session : ran.2.session = left.session
  status : EndsWith ran code

/-- What stood on record when the work was left is counted as well. -/
theorem Settles.since {α : Type} {past : W → List Act} {pipe : Option Nat}
    {begun left : Context W} {accepted : Bytes} {before acts : List Act} {code : ExitCode}
    {ran : (Except ShellError α × Builtin) × Context W}
    (settles : Settles past pipe left accepted acts code ran)
    (grown : past left.world = past begun.world ++ before)
    (session : left.session = begun.session) :
    Settles past pipe begun accepted (before ++ acts) code ran where
  grown := by
    rw [settles.grown, grown, List.append_assoc, List.append_assoc]
  recorded := settles.recorded
  session := settles.session.trans session
  status := settles.status

/-! ## A report -/

/-- What comes of a report, told from what came of its text. -/
def told (code : ExitCode) : Except IoError Unit → Except ShellError ExitCode
  | .ok () => .ok code
  | .error fault => .error (.io fault)

/-- What the record holds of a report. -/
theorem report_said {past : W → List Act} (onRecord : OnRecord past) (output : OutputHandle)
    (text : String) (code : ExitCode) (context : Context W) :
    ∃ acts result, past (report output text code context).2.world = past context.world ++ acts ∧
      Host.Said output (lineOf text) result acts ∧
      (report output text code context).1 = (Host.taken acts, told code result) ∧
      (report output text code context).2.session = context.session := by
  obtain ⟨acts, grown, taken, said⟩ := Output.writePieces_said onRecord output
    [Utf8.encode text, [0x0A]] context.world
  have line : [Utf8.encode text, [0x0A]].flatten = lineOf text := by simp [lineOf]
  rw [line] at said
  refine ⟨acts, _, ?_, said, ?_, ?_⟩
  · rw [report_context]
    exact grown
  · rw [taken, report, bind_apply, Context.act_apply, Output.writeLine]
    rcases Output.writePieces output _ context.world with ⟨⟨accepted, fault | done⟩, left⟩ <;> rfl
  · rw [report_context]

/-! ## The calls -/

section Calls

variable {past : W → List Act} (onRecord : OnRecord past) {builtin : Builtin} {kind : Kind}
  {words : List String}

theorem Serves.endsWith {α : Type} {streams : Streams} {pipe : Option Nat}
    {reading : Except EarlyExit Invocation} {begun : Context W}
    {ran : (Except ShellError α × Builtin) × Context W}
    (serves : Serves past streams pipe reading begun ran) :
    EndsWith ran (codeOf (perform streams reading begun).1.2) :=
  fun later => (answers_of_status serves.status later).1

/-- Work that ends with a code leaves no more to do. -/
theorem Serves.settles {α : Type} {streams : Streams} {pipe : Option Nat}
    {reading : Except EarlyExit Invocation} {begun left : Context W} {accepted : Bytes}
    {code : ExitCode} {ran : (Except ShellError α × Builtin) × Context W}
    (serves : Serves past streams pipe reading begun ran)
    (worked : perform streams reading begun = ((accepted, .ok code), left)) :
    Settles past pipe left accepted [] code ran := by
  have ends := serves.endsWith
  obtain ⟨-, -, recorded, session, grown⟩ := serves
  rw [worked] at ends recorded session grown
  exact ⟨grown, recorded, session, ends⟩

include onRecord

/-- Work that ends in a report tells it, and the status is 1 whether it gets through or not. -/
theorem Serves.settles_reporting {α : Type} {streams : Streams} {pipe : Option Nat}
    {reading : Except EarlyExit Invocation} {begun left : Context W} {accepted : Bytes}
    {text : String} {ran : (Except ShellError α × Builtin) × Context W}
    (serves : Serves past streams pipe reading begun ran)
    (worked : perform streams reading begun = reporting accepted streams.error text left) :
    ∃ acts result, Host.Said streams.error (lineOf text) result acts ∧
      Settles past pipe left accepted acts 1 ran := by
  obtain ⟨acts, result, reported, said, -, same⟩ := report_said onRecord streams.error text 1 left
  have ends := serves.endsWith
  obtain ⟨-, -, recorded, session, grown⟩ := serves
  simp only [worked, reporting] at ends recorded session grown
  rw [codeOf_report] at ends
  rw [reported, List.append_assoc] at grown
  exact ⟨acts, result, said, grown, recorded, session.trans same, ends⟩

/-- To bind the output is not put on record. -/
theorem setOutput_past (builtin : Builtin) (output : OutputHandle) (context : Context W) :
    past (builtin.setOutput output context).2.world = past context.world := by
  obtain ⟨kind, arguments, reading?, streams, pipe, delivery, recorded, status⟩ := builtin
  have closed := onRecord.silent (.closeOutput streams.output) context.world
  cases pipe with
  | none => exact closed
  | some pipe => exact (onRecord.silent (.closeOutput (.pipe pipe)) _).trans closed

/-- Only what is handed on is. -/
theorem conclude_past (builtin : Builtin) (accepted : Bytes) (context : Context W) :
    past (builtin.conclude accepted context).2.world =
      past context.world ++ handed builtin.pipe (builtin.recorded ++ accepted) := by
  obtain ⟨kind, arguments, reading?, streams, pipe, delivery, recorded, status⟩ := builtin
  have flushed := onRecord.silent (.flush streams.output) context.world
  have unbound := (onRecord.silent (.closeInput streams.input) _).trans flushed
  cases pipe with
  | none => exact unbound.trans (List.append_nil _).symm
  | some pipe =>
      have bound := (onRecord.silent (.closeOutput streams.output) _).trans unbound
      exact (onRecord.deliver pipe (recorded ++ accepted) _).trans (congrArg (· ++ _) bound)

/-- **A run is the work of the builtin.** -/
theorem run_serves [ArgumentReader] (awaits : builtin.Awaits kind words) (context : Context W) :
    Serves past builtin.streams builtin.pipe (Invocation.parse kind [kind.name] words) context
      (builtin.run context) := by
  have ran := run_unrun awaits.parsed awaits.status context
  generalize work : perform builtin.streams (Invocation.parse kind [kind.name] words) context =
    worked at ran
  have fate := builtin.conclude_fate worked.1.1 worked.2
  have concluded := conclude_past onRecord builtin worked.1.1 worked.2
  rw [awaits.recorded, List.nil_append] at concluded fate
  rw [ran]
  subst work
  refine ⟨?_, rfl, congrArg (·.2.2.1) fate, ?_, concluded⟩
  · dsimp only
    cases (perform builtin.streams (Invocation.parse kind [kind.name] words) context).1.2 <;> rfl
  · exact builtin.conclude_spares Context.aloof_session _ _

/-- **And so is a request for the output**, with a buffer bound before. -/
theorem output_serves [ArgumentReader] (awaits : builtin.Awaits kind words) (context : Context W) :
    Serves past { builtin.streams with output := .scratch } none
      (Invocation.parse kind [kind.name] words) (builtin.setOutput .scratch context).2
      (builtin.output context) := by
  have bound : (builtin.withOutput .scratch).Awaits kind words := ⟨awaits.parsed, awaits.status,
    awaits.recorded⟩
  have serves := run_serves onRecord bound (builtin.setOutput .scratch context).2
  rw [output_apply awaits.status]
  generalize (builtin.withOutput .scratch).run (builtin.setOutput .scratch context).2 = ran
    at serves ⊢
  obtain ⟨answer, status, recorded, session, past⟩ := serves
  refine ⟨Eq.trans ?_ answer, status, recorded, session, past⟩
  dsimp only
  cases ran.1.1 <;> rfl

end Calls

end PipelineShell.Builtin
