/-
# Proofs.Sequence -- a pipeline of builtins is the sequence of its stages

A builtin does all its work in the call that runs it, reads nothing, and leaves its output
in a buffer or to a background writer.  So builtins in a pipeline work one after the
other, each of them after all those to its left, and what is seen of it from outside is
what is seen of lines that hold one of them each (`Interpreter.runLine_sequence`).  The
outcome of the pipeline is the outcome of the last of these lines.

An `Errand` is a builtin with its arguments.  `Errand.workAll` does the work of errands in
order, without any pipeline; both ways of running them are compared with it.
-/
import PipelineShell.Arguments.Scan
import PipelineShell.Interpreter
import PipelineShell.Proofs.Invocation
import PipelineShell.Proofs.Ledger
import PipelineShell.Proofs.Line
import PipelineShell.Proofs.Performance
import PipelineShell.Proofs.Streams

namespace PipelineShell

set_option autoImplicit false

open Stateful

variable {W F : Type} [Host W] {sight : Sight W (Outlook F)}

/-! ## The calls on a builtin, as they are seen -/

namespace Builtin

section Unseen

variable (faithful : Outlook.Faithful sight) (builtin : Builtin)
include faithful

theorem closeInput_unseen (input : InputHandle) :
    Unseen (Context.seen sight) (fun _ => True)
      (Context.act (Host.closeInput input) : StateM (Context W) Unit) :=
  Context.act_unseen (faithful.closeInput input)

theorem closeOutput_unseen (output : OutputHandle) :
    Unseen (Context.seen sight) (fun _ => True)
      (Context.act (Host.closeOutput output) : StateM (Context W) Unit) :=
  Context.act_unseen (faithful.closeOutput output)

theorem bindInput_unseen (streams : Streams) (input : InputHandle) :
    Unseen (Context.seen sight) (· = { streams with input })
      (streams.bindInput input : StateM (Context W) Streams) :=
  (closeInput_unseen faithful _).bind fun _ _ => .pure rfl

theorem bindOutput_unseen (streams : Streams) (output : OutputHandle) :
    Unseen (Context.seen sight) (· = { streams with output })
      (streams.bindOutput output : StateM (Context W) Streams) :=
  (closeOutput_unseen faithful _).bind fun _ _ => .pure rfl

theorem setInput_unseen (input : InputHandle) :
    Unseen (Context.seen sight) (· = { builtin with streams := { builtin.streams with input } })
      (builtin.setInput input : StateM (Context W) Builtin) :=
  (closeInput_unseen faithful _).bind fun _ _ => .pure rfl

theorem setError_unseen (error : OutputHandle) :
    Unseen (Context.seen sight) (· = { builtin with streams := { builtin.streams with error } })
      (builtin.setError error : StateM (Context W) Builtin) :=
  (closeOutput_unseen faithful _).bind fun _ _ => .pure rfl

theorem closePipe_unseen :
    Unseen (Context.seen sight) (· = { builtin with pipe := none })
      (builtin.closePipe : StateM (Context W) Builtin) := by
  obtain ⟨kind, arguments, parsed, streams, pipe, delivery, recorded, status⟩ := builtin
  cases pipe with
  | none => exact .pure rfl
  | some pipe => exact (closeOutput_unseen faithful _).bind fun _ _ => .pure rfl

theorem setOutput_unseen (output : OutputHandle) :
    Unseen (Context.seen sight) (· = builtin.withOutput output)
      (builtin.setOutput output : StateM (Context W) Builtin) :=
  (closeOutput_unseen faithful _).bind fun _ _ => closePipe_unseen faithful _

theorem openPipe_unseen :
    Unseen (Context.seen sight)
      (fun answer => ∃ pipe,
        answer = (.ok (.pipe pipe), { builtin.withOutput .scratch with pipe := some pipe }))
      (builtin.openPipe : StateM (Context W) _) := by
  refine (Context.act_unseen faithful.openPipe).bind fun answer opened => ?_
  obtain ⟨pipe, rfl⟩ := opened
  refine (setOutput_unseen faithful builtin .scratch).bind fun bound same => ?_
  obtain rfl := same
  exact .pure ⟨pipe, rfl⟩

theorem startDelivery_unseen :
    Unseen (Context.seen sight)
      (fun started => started.recorded = builtin.recorded)
      (builtin.startDelivery : StateM (Context W) Builtin) := by
  obtain ⟨kind, arguments, parsed, streams, pipe, delivery, recorded, status⟩ := builtin
  cases pipe with
  | none => exact .pure rfl
  | some pipe =>
      refine (bindOutput_unseen faithful _ _).bind fun _ _ => ?_
      exact (Context.act_unseen (faithful.deliver pipe _)).bind fun _ _ => .pure rfl

/-- To wait for a builtin never fails. -/
theorem wait_unseen :
    Unseen (Context.seen sight) (fun answer => answer.1 = .ok (builtin.status.getD 0))
      (builtin.wait : StateM (Context W) _) := by
  obtain ⟨kind, arguments, parsed, streams, pipe, delivery, recorded, status⟩ := builtin
  cases delivery with
  | none => exact .pure rfl
  | some delivery =>
      exact (Context.act_unseen (faithful.finishDelivery delivery)).bind fun _ _ => .pure rfl

theorem release_unseen :
    Unseen (Context.seen sight) (fun _ => True) (builtin.release : StateM (Context W) Unit) := by
  have closed : Unseen (Context.seen sight) (fun _ => True)
      (builtin.streams.release : StateM (Context W) Unit) :=
    (closeInput_unseen faithful _).bind fun _ _ =>
      (closeOutput_unseen faithful _).bind fun _ _ => closeOutput_unseen faithful _
  exact closed.bind fun _ _ => (closePipe_unseen faithful builtin).bind fun _ _ => .pure trivial

end Unseen

end Builtin

/-! ## Errands -/

/-- A builtin with its arguments. -/
structure Errand where
  kind : Builtin.Kind
  arguments : List String
  deriving DecidableEq, Repr

namespace Errand

variable [ArgumentReader]

/-- What the arguments are read as. -/
def reading (errand : Errand) : Except EarlyExit Builtin.Invocation :=
  Builtin.Invocation.parse errand.kind [errand.kind.name] errand.arguments

/-- The builtin, before any call. -/
def builtin (errand : Errand) : Builtin :=
  (Builtin.fresh errand.kind).parseArguments errand.arguments

/-- The builtin as a stage of a pipeline. -/
def command (errand : Errand) : Command := .builtin errand.builtin

/-- Does the work, with the output kept in a buffer. -/
def work (errand : Errand) : StateM (Context W) (Bytes × Except ShellError ExitCode) :=
  Builtin.perform ⟨.inherited, .scratch, .standardError⟩ errand.reading

/-- Does the work of errands one after the other. -/
def workAll : List Errand → StateM (Context W) Unit
  | [] => pure ()
  | errand :: rest => do
      let _ ← errand.work
      workAll rest

/-- The errand is something else than to list processes. -/
def Listless (errand : Errand) : Prop := errand.kind ≠ .ps

theorem Listless.reading {errand : Errand} (listless : errand.Listless) :
    errand.reading ≠ .ok .ps := fun read =>
  listless (Builtin.Invocation.kind_of_parse read).symm

/-- The builtin still has all of the errand before it. -/
structure Awaits (errand : Errand) (builtin : Builtin) : Prop where
  status : builtin.status = none
  parsed : builtin.parsed = some errand.reading
  recorded : builtin.recorded = []

theorem builtin_awaits (errand : Errand) : errand.Awaits errand.builtin := ⟨rfl, rfl, rfl⟩

/-- What came of running the builtin is what came of the work. -/
def Tells (answer : Except ShellError Unit × Builtin) (done : Bytes × Except ShellError ExitCode) :
    Prop :=
  Builtin.Done done ∧ answer.1 = .ok () ∧ answer.2.recorded = done.1 ∧
    Except.ok (answer.2.status.getD 0) = done.2

variable (faithful : Outlook.Faithful sight) {errand : Errand} (listless : errand.Listless)
include faithful listless

/-- To run a builtin that has its output in a buffer is to do its work. -/
theorem run_matches {builtin : Builtin} (awaits : errand.Awaits builtin)
    (buffered : builtin.streams.output = .scratch)
    (reports : builtin.streams.error = .standardError) :
    Matches (Context.seen sight) Tells (builtin.run : StateM (Context W) _) errand.work := by
  obtain ⟨kind, arguments, parsed, ⟨input, output, error⟩, pipe, delivery, recorded, status⟩ :=
    builtin
  obtain ⟨rfl, rfl, rfl⟩ := awaits
  obtain rfl : output = .scratch := buffered
  obtain rfl : error = .standardError := reports
  have performed := Builtin.perform_matches faithful input .inherited errand.reading
    listless.reading
  refine performed.followed fun answer done ⟨same, finished⟩ => ?_
  obtain rfl := same
  obtain ⟨accepted, result⟩ := answer
  obtain ⟨code, ended⟩ := finished
  obtain rfl : result = .ok code := ended
  refine (Context.act_unseen (faithful.flush .scratch)).bind fun _ _ => ?_
  refine (Builtin.bindInput_unseen faithful _ _).bind fun streams _ => ?_
  refine (Builtin.startDelivery_unseen faithful _).bind fun started same => ?_
  exact .pure ⟨⟨code, rfl⟩, rfl, same, rfl⟩

/-- To collect the output of a builtin is to do its work. -/
theorem output_matches {builtin : Builtin} (awaits : errand.Awaits builtin)
    (reports : builtin.streams.error = .standardError) :
    Matches (Context.seen sight)
      (fun answer done => Builtin.Done done ∧ answer.1 = .ok done.1 ∧
        Except.ok (answer.2.status.getD 0) = done.2)
      (builtin.output : StateM (Context W) _) errand.work := by
  simp only [Builtin.output, awaits.status]
  refine (Builtin.setOutput_unseen faithful builtin .scratch).then_ fun buffered same => ?_
  obtain rfl := same
  have again : errand.Awaits (builtin.withOutput .scratch) :=
    ⟨awaits.status, awaits.parsed, awaits.recorded⟩
  refine (run_matches faithful listless again rfl reports).followed fun answer done tells => ?_
  obtain ⟨result, ran⟩ := answer
  obtain ⟨finished, succeeded, recorded, status⟩ := tells
  obtain rfl : result = .ok () := succeeded
  exact .pure ⟨finished, congrArg _ recorded, status⟩

end Errand

/-! ## Errands in a pipeline -/

namespace Pipeline

/-- All of the stages are builtins. -/
def Builtins (stages : List Command) : Prop := ∀ s ∈ stages, ∃ b, s = .builtin b

/-- The outcome of a run, told from what came of the last piece of work. -/
def outcomeOf (done : Bytes × Except ShellError ExitCode) : Outcome :=
  ⟨done.1, statusOf done.2, []⟩

variable (faithful : Outlook.Faithful sight)
include faithful

theorem releaseAll_unseen (stages : List Command) (builtins : Builtins stages) :
    Unseen (Context.seen sight) (fun _ => True)
      (releaseAll Command.contract stages : StateM (Context W) Unit) := by
  induction stages with
  | nil => exact .pure trivial
  | cons s rest ih =>
      obtain ⟨⟨b, rfl⟩, later⟩ := List.forall_mem_cons.1 builtins
      exact (Builtin.release_unseen faithful b).bind fun _ _ => ih later

theorem wait_unseen (b : Builtin) :
    Unseen (Context.seen sight)
      (fun answer => answer.1 = .ok (b.status.getD 0) ∧ ∃ b', answer.2 = .builtin b')
      (Command.contract.wait (.builtin b) : StateM (Context W) _) :=
  (Builtin.wait_unseen faithful b).map fun answer ended => ⟨ended, answer.2, rfl⟩

theorem waitAll_unseen (index : Nat) (stages : List Command) (builtins : Builtins stages) :
    Unseen (Context.seen sight) (fun answer => answer.1 = [] ∧ Builtins answer.2)
      (waitAll Command.contract index stages : StateM (Context W) _) := by
  induction stages generalizing index with
  | nil => exact .pure ⟨rfl, by simp [Builtins]⟩
  | cons s rest ih =>
      obtain ⟨⟨b, rfl⟩, later⟩ := List.forall_mem_cons.1 builtins
      refine (wait_unseen faithful b).bind fun (result, waited) ⟨ended, still⟩ => ?_
      obtain rfl : result = .ok (b.status.getD 0) := ended
      refine (ih (index + 1) later).bind fun (errors, rest) ⟨none_, builtins⟩ => ?_
      exact .pure ⟨none_, List.forall_mem_cons.2 ⟨still, builtins⟩⟩

variable [ArgumentReader] {errand : Errand}

theorem connect_unseen {b : Builtin} (awaits : errand.Awaits b) (pending : Option InputHandle) :
    Unseen (Context.seen sight) (fun command => ∃ b', command = .builtin b' ∧ errand.Awaits b')
      (connect Command.contract (.builtin b) pending : StateM (Context W) Command) := by
  cases pending with
  | none => exact .pure ⟨b, rfl, awaits⟩
  | some input =>
      refine (Builtin.setInput_unseen faithful b input).map fun bound same => ?_
      obtain rfl := same
      exact ⟨_, rfl, ⟨awaits.status, awaits.parsed, awaits.recorded⟩⟩

theorem openPipe_unseen {b : Builtin} (awaits : errand.Awaits b) :
    Unseen (Context.seen sight)
      (fun answer => ∃ reader b', answer = (.ok reader, .builtin b') ∧ errand.Awaits b' ∧
        b'.streams.output = .scratch)
      (Command.contract.openPipe (.builtin b) : StateM (Context W) _) := by
  refine (Builtin.openPipe_unseen faithful b).map fun answer opened => ?_
  obtain ⟨pipe, rfl⟩ := opened
  exact ⟨_, _, rfl, ⟨awaits.status, awaits.parsed, awaits.recorded⟩, rfl⟩

theorem setError_unseen {b : Builtin} (awaits : errand.Awaits b) (error : OutputHandle) :
    Unseen (Context.seen sight)
      (fun command => ∃ b', command = .builtin b' ∧ errand.Awaits b' ∧
        b'.streams.output = b.streams.output ∧ b'.streams.error = error)
      (Command.contract.setError (.builtin b) error : StateM (Context W) Command) := by
  refine (Builtin.setError_unseen faithful b error).map fun bound same => ?_
  obtain rfl := same
  exact ⟨_, rfl, ⟨awaits.status, awaits.parsed, awaits.recorded⟩, rfl, rfl⟩

/-- To start a builtin is to do its work, and it is started without fail. -/
theorem startStage_matches (listless : errand.Listless) {b : Builtin} (awaits : errand.Awaits b)
    (progress : Progress Command InputHandle) (builtins : Builtins progress.started) :
    Matches (Context.seen sight)
      (fun answer _ => ∃ next, answer = .ok next ∧ next.errors = progress.errors ∧
        Builtins next.started)
      (startStage Command.contract (pure .standardError) (.builtin b) progress :
        StateM (Context W) _)
      errand.work := by
  refine (connect_unseen faithful awaits progress.pending).then_ fun connected known => ?_
  obtain ⟨b, rfl, awaits⟩ := known
  refine (openPipe_unseen faithful awaits).then_ fun answer opened => ?_
  obtain ⟨reader, b, rfl, awaits, buffered⟩ := opened
  simp only [pure_bind]
  refine (setError_unseen faithful awaits .standardError).then_ fun bound known => ?_
  obtain ⟨b, rfl, awaits, still, reports⟩ := known
  have ran : Matches (Context.seen sight)
      (fun answer _ => answer.1 = .ok () ∧ ∃ b', answer.2 = .builtin b')
      (Command.contract.run (.builtin b) : StateM (Context W) _) errand.work :=
    (Errand.run_matches faithful listless awaits (still.trans buffered) reports).followed
      fun answer _ tells => .pure ⟨tells.2.1, answer.2, rfl⟩
  refine ran.followed fun (result, ran) _ ⟨succeeded, known⟩ => ?_
  obtain rfl : result = .ok () := succeeded
  obtain ⟨b, rfl⟩ := known
  refine .pure ⟨_, rfl, List.append_nil _, fun s member => ?_⟩
  rcases List.mem_append.1 member with before | here
  · exact builtins s before
  · exact ⟨b, List.mem_singleton.1 here⟩

/-- To start builtins is to do their work, one after the other. -/
theorem startAll_matches (errands : List Errand) (listless : ∀ errand ∈ errands, errand.Listless)
    (progress : Progress Command InputHandle) (builtins : Builtins progress.started) :
    Matches (Context.seen sight)
      (fun answer _ => ∃ next, answer = .ok next ∧ next.errors = progress.errors ∧
        Builtins next.started)
      (startAll Command.contract (pure .standardError) (errands.map Errand.command) progress :
        StateM (Context W) _)
      (Errand.workAll errands) := by
  induction errands generalizing progress with
  | nil => exact .pure ⟨progress, rfl, rfl, builtins⟩
  | cons errand rest ih =>
      obtain ⟨here, later⟩ := List.forall_mem_cons.1 listless
      refine (startStage_matches faithful here errand.builtin_awaits progress builtins).bind
        fun answer _ started => ?_
      obtain ⟨next, rfl, errors, builtins⟩ := started
      refine (ih later next builtins).weaken fun answer _ all => ?_
      obtain ⟨final, same, errors', builtins⟩ := all
      exact ⟨final, same, errors'.trans errors, builtins⟩

/-- To collect the last builtin is to do its work; the others are done. -/
theorem finish_matches (listless : errand.Listless) (progress : Progress Command InputHandle)
    (flawless : progress.errors = []) (builtins : Builtins progress.started) :
    Matches (Context.seen sight)
      (fun outcome done => Builtin.Done done ∧ outcome = outcomeOf done)
      (finish Command.contract (pure .standardError) errand.command progress :
        StateM (Context W) _)
      errand.work := by
  refine (connect_unseen faithful errand.builtin_awaits progress.pending).then_
    fun connected known => ?_
  obtain ⟨b, rfl, awaits⟩ := known
  simp only [pure_bind]
  refine (setError_unseen faithful awaits .standardError).then_ fun bound known => ?_
  obtain ⟨b, rfl, awaits, -, reports⟩ := known
  have collected : Matches (Context.seen sight)
      (fun answer done => Builtin.Done done ∧ ∃ b', answer = (.ok done.1, .builtin b') ∧
        Except.ok (b'.status.getD 0) = done.2)
      (Command.contract.output (.builtin b) : StateM (Context W) _) errand.work :=
    (Errand.output_matches faithful listless awaits reports).followed
      fun answer done ⟨finished, bytes, status⟩ =>
        .pure ⟨finished, answer.2, Prod.ext bytes rfl, status⟩
  refine collected.followed fun answer done ⟨finished, known⟩ => ?_
  obtain ⟨b, rfl, status⟩ := known
  refine (wait_unseen faithful b).bind fun (ended, last) ⟨waited, known⟩ => ?_
  obtain rfl : ended = .ok (b.status.getD 0) := waited
  obtain ⟨b', rfl⟩ := known
  refine (waitAll_unseen faithful 0 progress.started builtins).bind
    fun (errors, reaped) ⟨none_, builtins⟩ => ?_
  obtain rfl : errors = [] := none_
  refine (releaseAll_unseen faithful reaped builtins).bind fun _ _ => ?_
  refine (Builtin.release_unseen faithful b').bind fun _ _ => ?_
  refine .pure ⟨finished, ?_⟩
  simp [outcomeOf, outputResult, failure, flawless, Outcome.inOrder, statusOf, ← status]

/-- **To run builtins as a pipeline is to do their work, one after the other.** -/
theorem run_matches (before : List Errand) (last : Errand)
    (listless : ∀ errand ∈ before, errand.Listless) (lastListless : last.Listless) :
    Matches (Context.seen sight)
      (fun answer done => Builtin.Done done ∧ answer = .ok (outcomeOf done))
      (Pipeline.run .standardError ((before ++ [last]).map Errand.command) : StateM (Context W) _)
      (Errand.workAll before >>= fun _ => last.work) := by
  rw [List.map_append, Pipeline.run, execute, List.map_singleton, List.getLast?_concat,
    List.dropLast_concat]
  refine (startAll_matches faithful before listless ⟨[], [], none⟩ (by simp [Builtins])).bind
    fun answer _ started => ?_
  obtain ⟨next, rfl, flawless, builtins⟩ := started
  intro context context' alike
  exact (finish_matches faithful lastListless next flawless builtins context context' alike).imp_left
    fun ⟨finished, same⟩ => ⟨finished, congrArg _ same⟩

end Pipeline

/-! ## Lines of builtins -/

namespace Interpreter

/-- Runs lines one after the other; nothing is kept of their outcomes. -/
def runLines [ArgumentReader] (registry : Registry) : List String → StateM (Context W) Unit
  | [] => pure ()
  | line :: rest => do
      let _ ← runLine registry line
      runLines registry rest

/-- A segment of a line that begins with the name of a builtin other than `ps`. -/
structure Plain (registry : Registry) (segment : String) : Prop where
  unmarked : Line.bar ∉ segment.toList
  named : ∃ name arguments kind, Line.wordsOf segment = name :: arguments ∧
    registry.create name = some (.ofKind kind) ∧ kind ≠ .ps

variable {registry : Registry}

theorem Plain.worded {segment : String} (plain : Plain registry segment) :
    Line.wordsOf segment ≠ [] := by
  obtain ⟨name, arguments, kind, words, -, -⟩ := plain.named
  rw [words]
  exact List.cons_ne_nil _ _

theorem Plain.errand [ArgumentReader] {segment : String} (plain : Plain registry segment) :
    ∃ errand : Errand, Pipeline.commandOf registry (Line.wordsOf segment) = errand.command ∧
      errand.Listless := by
  obtain ⟨name, arguments, kind, words, registered, listless⟩ := plain.named
  refine ⟨⟨kind, arguments⟩, ?_, listless⟩
  simp only [words, Pipeline.commandOf, registered]
  rfl

/-- Segments with bars between them are run as a pipeline of their commands. -/
theorem runLine_intercalate [ArgumentReader] (segments : List String) (nonempty : segments ≠ [])
    (plain : ∀ segment ∈ segments, Plain registry segment) :
    (runLine registry ("|".intercalate segments) : StateM (Context W) _) =
      Pipeline.run .standardError
        (segments.map fun segment => Pipeline.commandOf registry (Line.wordsOf segment)) := by
  have stages := Line.stages_intercalate segments nonempty
    (fun segment member => (plain segment member).unmarked)
    fun segment member => (plain segment member).worded
  have built : Pipeline.construct registry ("|".intercalate segments) =
      .ok (segments.map fun segment => Pipeline.commandOf registry (Line.wordsOf segment)) := by
    rw [Pipeline.construct, stages]
    simp [Except.map, Function.comp_def]
  simp only [runLine, built]

/-- Plain segments stand for errands. -/
theorem exists_errands [ArgumentReader] (segments : List String)
    (plain : ∀ segment ∈ segments, Plain registry segment) :
    ∃ errands : List Errand,
      (segments.map fun segment => Pipeline.commandOf registry (Line.wordsOf segment)) =
        errands.map Errand.command ∧
      ∀ errand ∈ errands, errand.Listless := by
  induction segments with
  | nil => exact ⟨[], rfl, by simp⟩
  | cons segment rest ih =>
      obtain ⟨here, later⟩ := List.forall_mem_cons.1 plain
      obtain ⟨errand, command, listless⟩ := here.errand
      obtain ⟨errands, commands, others⟩ := ih later
      refine ⟨errand :: errands, ?_, List.forall_mem_cons.2 ⟨listless, others⟩⟩
      rw [List.map_cons, List.map_cons, command, commands]

section Lines

variable [ArgumentReader] (faithful : Outlook.Faithful sight)
include faithful

/-- A line with one builtin on it does the work of that builtin. -/
theorem runLine_matches {segment : String} (plain : Plain registry segment) {errand : Errand}
    (command : Pipeline.commandOf registry (Line.wordsOf segment) = errand.command)
    (listless : errand.Listless) :
    Matches (Context.seen sight)
      (fun answer done => Builtin.Done done ∧ answer = .ok (Pipeline.outcomeOf done))
      (runLine registry segment : StateM (Context W) _) errand.work := by
  have alone := runLine_intercalate (W := W) [segment] (List.cons_ne_nil _ _)
    fun other member => List.mem_singleton.1 member ▸ plain
  rw [String.intercalate_singleton, List.map_singleton, command] at alone
  rw [alone]
  exact Pipeline.run_matches faithful [] errand (fun _ member => by cases member) listless

/-- Lines with one builtin each do the work of these builtins, one after the other. -/
theorem runLines_matches (segments : List String)
    (plain : ∀ segment ∈ segments, Plain registry segment) (errands : List Errand)
    (commands : (segments.map fun segment => Pipeline.commandOf registry (Line.wordsOf segment)) =
      errands.map Errand.command)
    (listless : ∀ errand ∈ errands, errand.Listless) :
    Matches (Context.seen sight) (fun _ _ => True)
      (runLines registry segments : StateM (Context W) Unit) (Errand.workAll errands) := by
  induction segments generalizing errands with
  | nil =>
      obtain rfl : errands = [] := List.map_eq_nil_iff.1 commands.symm
      exact .pure trivial
  | cons segment rest ih =>
      cases errands with
      | nil => cases commands
      | cons errand errands =>
          obtain ⟨command, commands⟩ := List.cons.inj commands
          obtain ⟨here, later⟩ := List.forall_mem_cons.1 plain
          obtain ⟨able, others⟩ := List.forall_mem_cons.1 listless
          exact (runLine_matches faithful here command able).bind fun _ _ _ =>
            ih later errands commands others

/-- **A pipeline of builtins is the sequence of its stages.**  On a line whose stages all
begin with builtins other than `ps`, what is seen afterwards is what is seen when each stage
is a line of its own: the same session, the same working directory of the process, the
same text on standard error and the same signals.  The outcome is that of the last of
these lines. -/
theorem runLine_sequence (registry : Registry) (before : List String) (last : String)
    (plain : ∀ segment ∈ before ++ [last], Plain registry segment) (context : Context W)
    (calm : sight.calm context.world) :
    let joined := runLine registry ("|".intercalate (before ++ [last])) context
    let apart := (runLines registry before >>= fun _ => runLine registry last) context
    (∃ outcome, joined.1 = .ok outcome ∧ apart.1 = .ok outcome) ∧
      joined.2.session = apart.2.session ∧
      Host.currentDirectory joined.2.world = Host.currentDirectory apart.2.world ∧
      (sight.view joined.2.world).errorText = (sight.view apart.2.world).errorText ∧
      (sight.view joined.2.world).signals = (sight.view apart.2.world).signals := by
  intro joined apart
  have beforePlain : ∀ segment ∈ before, Plain registry segment := fun segment member =>
    plain segment (List.mem_append_left _ member)
  have lastPlain : Plain registry last :=
    plain last (List.mem_append_right _ (List.mem_singleton_self _))
  obtain ⟨errands, commands, listless⟩ := exists_errands before beforePlain
  obtain ⟨errand, command, able⟩ := lastPlain.errand
  -- Both ways of running the stages are compared with doing the work alone.
  have together : Matches (Context.seen sight)
      (fun answer done => Builtin.Done done ∧ answer = .ok (Pipeline.outcomeOf done))
      (runLine registry ("|".intercalate (before ++ [last])) : StateM (Context W) _)
      (Errand.workAll errands >>= fun _ => errand.work) := by
    rw [runLine_intercalate _ (by simp) plain, List.map_append, commands, List.map_singleton,
      command]
    have run := Pipeline.run_matches faithful errands errand listless able
    rwa [List.map_append] at run
  have inTurn : Matches (Context.seen sight)
      (fun answer done => Builtin.Done done ∧ answer = .ok (Pipeline.outcomeOf done))
      (runLines registry before >>= fun _ => runLine registry last : StateM (Context W) _)
      (Errand.workAll errands >>= fun _ => errand.work) :=
    (runLines_matches faithful before beforePlain errands commands listless).bind fun _ _ _ =>
      runLine_matches faithful lastPlain command able
  have start : (Context.seen sight).Alike context context := .refl calm
  obtain ⟨⟨-, answer⟩, seen⟩ := together context context start
  obtain ⟨⟨-, answer'⟩, seen'⟩ := inTurn context context start
  have alike : (Context.seen sight).Alike joined.2 apart.2 := seen.trans seen'.symm
  obtain ⟨session, rest⟩ := Prod.mk.inj alike.same
  obtain ⟨-, outlook⟩ := Prod.mk.inj rest
  refine ⟨⟨_, answer, answer'⟩, session, ?_, congrArg _ outlook, congrArg _ outlook⟩
  rw [faithful.currentDirectory _ alike.calm, faithful.currentDirectory _ alike.calm', outlook]

end Lines

open scoped Arguments

theorem runLine_sequence_fourBuiltins :
    (∀ segment ∈ ["cd /tmp ", " kill 7", "cd a b"] ++ [" pwd"],
      Plain Registry.withBuiltins segment) ∧
    let joined := runLine Registry.withBuiltins "cd /tmp | kill 7|cd a b| pwd" Ledger.context
    let apart := (runLines Registry.withBuiltins ["cd /tmp ", " kill 7", "cd a b"] >>= fun _ =>
      runLine Registry.withBuiltins " pwd") Ledger.context
    (∃ outcome, joined.1 = .ok outcome ∧ apart.1 = .ok outcome) ∧
      joined.2.session = apart.2.session ∧
      Host.currentDirectory joined.2.world = Host.currentDirectory apart.2.world ∧
      (Ledger.sight.view joined.2.world).errorText = (Ledger.sight.view apart.2.world).errorText ∧
      (Ledger.sight.view joined.2.world).signals = (Ledger.sight.view apart.2.world).signals := by
  have plain : ∀ segment ∈ ["cd /tmp ", " kill 7", "cd a b"] ++ [" pwd"],
      Plain Registry.withBuiltins segment := by
    simp only [List.cons_append, List.nil_append, List.forall_mem_cons, List.not_mem_nil]
    exact ⟨⟨by decide, "cd", ["/tmp"], .cd, by decide, rfl, by decide⟩,
      ⟨by decide, "kill", ["7"], .kill, by decide, rfl, by decide⟩,
      ⟨by decide, "cd", ["a", "b"], .cd, by decide, rfl, by decide⟩,
      ⟨by decide, "pwd", [], .pwd, by decide, rfl, by decide⟩, by simp⟩
  have line : "|".intercalate (["cd /tmp ", " kill 7", "cd a b"] ++ [" pwd"]) =
      "cd /tmp | kill 7|cd a b| pwd" := by decide
  have sequence := runLine_sequence Ledger.sight_faithful Registry.withBuiltins
    ["cd /tmp ", " kill 7", "cd a b"] " pwd" plain Ledger.context trivial
  rw [line] at sequence
  exact ⟨plain, sequence⟩

end Interpreter

end PipelineShell
