/-
# Proofs.LastStage -- the status tells of a failure of the last stage

The status of a line is what waiting for its last stage comes to; the failures of that
stage come from collecting its output.  These are two calls, and the second knows of the
first only what the command remembers.  `Command.collects` says what the two come to: a
command that fails remembers the code of its failure, except for a program that has been
started and whose output cannot be collected.

With that exception, a failure of the last stage is its only one, and shows in the status
of the line (`Interpreter.runLine_fails_visibly`).  A failure that standard error refuses to
be told of (`Interpreter.Refuses`) ends the shell in a panic.  Otherwise the program ends with
the status of its line, unless an `exit` in the line has left another code.
-/
import PipelineShell.Arguments.Scan
import PipelineShell.CommandLine
import PipelineShell.Proofs.Lifecycle.Builtin
import PipelineShell.Proofs.Lifecycle.Deeds
import PipelineShell.Proofs.Line
import PipelineShell.Proofs.Pipeline.Answers
import PipelineShell.Proofs.Pipeline.Links
import PipelineShell.Proofs.Service

namespace PipelineShell

set_option autoImplicit false

open Lifecycle Stateful

variable {W : Type} [Host W]

/-- What a stage may fail with when its output is collected, and the code that stands
for it. -/
inductive ShellError.Telling : ShellError → ExitCode → Prop where
  | notFound (name : String) : Telling (.notFound name) 127
  | spawn (name : String) (cause : IoError) : Telling (.spawn name cause) 126
  | io (cause : IoError) : Telling (.io cause) 1

namespace ShellError.Telling

variable {fault : ShellError} {code : ExitCode}

theorem exitCode (telling : fault.Telling code) : fault.exitCode = code := by
  cases telling <;> rfl

/-- None of these codes is taken for success, not even by the system. -/
theorem statusByte_ne_zero (telling : fault.Telling code) : CommandLine.statusByte code ≠ 0 := by
  cases telling <;> decide

theorem ne_zero (telling : fault.Telling code) : code ≠ 0 := by
  rintro rfl
  exact telling.statusByte_ne_zero rfl

theorem outputFault? (telling : fault.Telling code) :
    Pipeline.outputFault? (.error fault) = some fault := by
  cases telling <;> rfl

end ShellError.Telling

/-- What collecting the output of a command comes to: what is answered, and the code that
waiting answers afterwards.  `program` says whether the command is a program. -/
inductive Command.Collected (program : Bool) : Except ShellError Bytes → ExitCode → Prop where
  | printed (bytes : Bytes) (code : ExitCode) : Collected program (.ok bytes) code
  | exited (name : String) (bytes : Bytes) (code : ExitCode) :
      Collected program (.error (.exited name code bytes)) code
  | failed {fault : ShellError} {code : ExitCode} (telling : fault.Telling code) :
      Collected program (.error fault) code
  /-- A program that has been started is forgotten when its output cannot be collected. -/
  | forgotten (cause : IoError) (started : program = true) :
      Collected program (.error (.io cause)) 0

/-- A failure shows in the code, unless it is the failure to collect from a program. -/
theorem Command.Collected.telling {program : Bool} {answer : Except ShellError Bytes}
    {code : ExitCode} (collected : Collected program answer code) {fault : ShellError}
    (listed : Pipeline.outputFault? answer = some fault)
    (other : program = true → ∀ cause, fault ≠ .io cause) : fault.Telling code := by
  cases collected with
  | printed bytes code => cases listed
  | exited name bytes code => cases listed
  | failed telling =>
      rw [telling.outputFault?] at listed
      exact Option.some.inj listed ▸ telling
  | forgotten cause started =>
      cases listed
      exact absurd rfl (other started cause)

/-! ## Builtins -/

namespace Builtin

theorem wait_answer (builtin : Builtin) (context : Context W) :
    (builtin.wait context).1.1 = .ok (builtin.status.getD 0) := by
  obtain ⟨kind, arguments, parsed, streams, pipe, delivery, recorded, status⟩ := builtin
  cases delivery <;> rfl

/-- A builtin whose report does not get through has failed, with status 1. -/
theorem collects [ArgumentReader] {builtin : Builtin} {reading : Except EarlyExit Invocation}
    (parsed : builtin.parsed = some reading) (unrun : builtin.status = none)
    (context : Context W) :
    ∃ code, Command.Collected false (builtin.output context).1.1 code ∧
      ∀ context' : Context W, ((builtin.output context).1.2.wait context').1.1 = .ok code := by
  obtain ⟨code, bytes, ⟨concludes, -, status, -, -⟩⟩ :=
    exists_worked (.inr rfl) unrun parsed context
  simp only [answer, map_apply] at concludes status
  refine ⟨code, ?_, fun context' => ?_⟩
  · generalize (builtin.output context).1 = asked at concludes ⊢
    obtain ⟨answer, after⟩ := asked
    cases concludes with
    | produced => exact .printed bytes code
    | producedUnreported cause failed => exact failed ▸ .failed (.io cause)
  · have status : (builtin.output context).1.2.status = some code := status
    rw [wait_answer, status, Option.getD_some]

end Builtin

/-! ## Programs -/

namespace External

theorem Fails.telling {program : String} {deeds : List Deed} {fault : ShellError}
    {code : ExitCode} (failing : Fails program deeds fault code) : fault.Telling code := by
  cases failing with
  | unknown => exact .notFound program
  | refused path cause => exact .spawn program cause

theorem wait_past {external : External} {code : ExitCode}
    (past : external.progress = .finished code ∨ external.progress = .failed code)
    (context : Context W) : (external.wait context).1.1 = .ok code := by
  rcases past with finished | failed
  · simp only [wait, finished, pure_apply]
  · simp only [wait, failed, pure_apply]

/-- A program that cannot be started has failed, and the command remembers how.  One that
can is remembered by its status, but only when that is known. -/
theorem collects {external : External} (idle : external.progress = .idle)
    (worded : external.words ≠ []) (free : external.outputBound = false) (context : Context W) :
    ∃ code, Command.Collected true (external.output context).1.1 code ∧
      ∀ context' : Context W, ((external.output context).1.2.wait context').1.1 = .ok code := by
  obtain ⟨new, comes⟩ := external.answer_comes context .output
  simp only [answer, map_apply] at comes
  generalize external.output context = asked at comes ⊢
  obtain ⟨⟨answer, ⟨words, streams, bound, progress⟩⟩, left⟩ := asked
  cases comes with
  | aside answer other => exact absurd (.inr rfl) other.1
  | outputBound idle bound => simp [bound] at free
  | outputWordless idle free wordless => exact absurd wordless worded
  | outputFails idle free worded failing =>
      exact ⟨_, .failed failing.telling, wait_past (.inr rfl)⟩
  | outputCollects path child bytes status idle free worded =>
      refine ⟨status.code, ?_, wait_past (.inl rfl)⟩
      by_cases success : status = .exited 0
      · rw [collected, if_pos success]
        exact .printed bytes _
      · rw [collected, if_neg success]
        exact .exited _ bytes _
  | outputLoses path child cause idle free worded => exact ⟨0, .forgotten cause rfl, fun _ => rfl⟩
  | outputFailed failed => cases idle.symm.trans failed
  | outputReaps status running => cases idle.symm.trans running
  | outputLeaves fault running => cases idle.symm.trans running
  | outputFinished finished => cases idle.symm.trans finished

end External

/-! ## Commands -/

namespace Command

/-- The command has its words, and nothing has become of it yet. -/
def Awaits : Command → Bool → Prop
  | .builtin b, program => program = false ∧ b.status = none ∧ b.parsed.isSome
  | .external e, program =>
      program = true ∧ e.progress = .idle ∧ e.words ≠ [] ∧ e.outputBound = false
  | .scripted _, _ => False

variable {command : Command} {program : Bool}

theorem Awaits.setInput (awaits : command.Awaits program) (input : InputHandle)
    (context : Context W) : (command.setInput input context).1.Awaits program := by
  cases command <;> exact awaits

theorem Awaits.setError (awaits : command.Awaits program) (error : OutputHandle)
    (context : Context W) : (command.setError error context).1.Awaits program := by
  cases command <;> exact awaits

/-- To collect the output of a command settles what waiting for it will answer. -/
theorem collects [ArgumentReader] (awaits : command.Awaits program) (context : Context W) :
    ∃ code, Collected program (command.output context).1.1 code ∧
      ∀ context' : Context W, ((command.output context).1.2.wait context').1.1 = .ok code := by
  cases command with
  | builtin b =>
      obtain ⟨rfl, unrun, parsed⟩ := awaits
      obtain ⟨reading, parsed⟩ := Option.isSome_iff_exists.1 parsed
      exact Builtin.collects parsed unrun context
  | external e =>
      obtain ⟨rfl, idle, worded, unbound⟩ := awaits
      exact External.collects idle worded unbound context
  | scripted s => exact awaits.elim

end Command

/-! ## The last stage of a run -/

namespace Pipeline

variable {freshError : StateM (Context W) OutputHandle} {before : List Command} {last : Command}
  {program : Bool} {context : Context W} {outcome : Outcome}

theorem Finale.collects [ArgumentReader] {position : Nat} {given : Option InputHandle}
    {finale : Finale Command OutputHandle} (awaits : last.Awaits program)
    (leads : (Command.contract (W := W)).Leads last (finale.events position given)) :
    ∃ code, Command.Collected program finale.produced code ∧ finale.ended = .ok code := by
  have kept : ∀ {s : Command} (input : InputHandle) (context : Context W),
      s.Awaits program → (Command.contract.setInput s input context).1.Awaits program :=
    fun input context awaits => Command.Awaits.setInput awaits input context
  obtain ⟨connected, awaits, ⟨context₁, bound⟩, ⟨context₂, collected⟩, ⟨context₃, waited⟩, -⟩ :=
    leads.connected (Command.Awaits · program) kept awaits
  -- Up to here nothing has become of the stage; the next two calls belong together.
  have bound : (connected.setError finale.error context₁).1 = finale.bound := bound
  have awaits : finale.bound.Awaits program := bound ▸ awaits.setError finale.error context₁
  obtain ⟨code, comes, waits⟩ := Command.collects awaits context₂
  have collected : (finale.bound.output context₂).1 = (finale.produced, finale.collected) :=
    collected
  have waited : (finale.collected.wait context₃).1 = (finale.ended, finale.last) := waited
  rw [collected] at comes waits
  exact ⟨code, comes, (congrArg Prod.fst waited).symm.trans (waits context₃)⟩

/-- What is said of the last stage of a completed run: its status is the one of the whole,
and it fails in nothing but its output. -/
theorem execute_last [ArgumentReader] (awaits : last.Awaits program)
    (succeeds : (execute Command.contract freshError (before ++ [last]) context).1 = .ok outcome) :
    ∃ answer, Command.Collected program answer outcome.status ∧
      ofStage before.length outcome.errors =
        (outputFault? answer).toList.map (⟨before.length, ·⟩) := by
  obtain ⟨run, before', last', context', of, watched⟩ :=
    watch_of_opened (List.append_ne_nil_of_right_ne_nil _ (List.cons_ne_nil _ _))
      (opened_of_ok succeeds)
  obtain ⟨rfl, same⟩ := List.append_inj' of.stages_eq rfl
  obtain rfl : last = last' := List.head_eq_of_cons_eq same
  obtain rfl : run.outcome = outcome := by
    rw [← watch_forget, watched] at succeeds
    exact Except.ok.inj succeeds
  obtain ⟨code, collected, ended⟩ := Finale.collects awaits of.finale
  have status : run.outcome.status = code := congrArg statusOf ended
  have position : run.answers.earlier.length = before.length := by
    simp [Completion.answers, of.reaps_length, of.started.length_eq]
  have faults : run.answers.faults[before.length]? =
      some (outputFault? run.finale.produced).toList := by
    rw [← position, run.answers.faults_last]
    simp [Completion.answers, ended, fault?]
  refine ⟨run.finale.produced, status ▸ collected, ?_⟩
  rw [Completion.errors_eq of, ofStage_numbered, if_pos (Nat.zero_le _), Nat.sub_zero, faults]
  rfl

end Pipeline

/-! ## Lines -/

namespace Registry

/-- The words of a stage are left to the programs. -/
def leaves (registry : Registry) (words : List String) : Bool :=
  !registry.contains (words.headD "")

/-- What a registry of builtins makes of the words of a stage is ready to be collected. -/
theorem Shipped.awaits_commandOf [ArgumentReader] {registry : Registry} (shipped : registry.Shipped)
    {words : List String} (worded : words ≠ []) :
    (Pipeline.commandOf registry words).Awaits (registry.leaves words) := by
  cases words with
  | nil => exact absurd rfl worded
  | cons name arguments =>
      simp only [Pipeline.commandOf, leaves, contains, List.headD_cons]
      cases found : registry.create name with
      | none => exact ⟨rfl, rfl, List.cons_ne_nil _ _, rfl⟩
      | some command =>
          obtain ⟨kind, rfl⟩ := shipped.of_create found
          exact ⟨rfl, rfl, rfl⟩

end Registry

namespace CommandLine

/-- Where a process begins. -/
def start (world : W) : Context W := ⟨initialSession world, world, []⟩

/-- The program is called to run a single line, and with which builtins. -/
def RunsLine [ArgumentReader] (name : String) (words : List String) (registry : Registry)
    (line : String) : Prop :=
  ∃ reading, ArgumentReader.read (grammar name) words = .ok reading ∧
    (optionsOf reading).command = some line ∧ registryOf (optionsOf reading) = registry

end CommandLine

namespace Interpreter

variable {registry : Registry} {line : String} {context : Context W} {outcome : Pipeline.Outcome}

/-- The position of the last stage of a line. -/
def lastStage (line : String) : Nat := (stagesOf line).length - 1

/-- The last stage of a line is left to the programs. -/
def EndsInProgram (registry : Registry) (line : String) : Prop :=
  ∃ words, (stagesOf line).getLast? = some words ∧ registry.leaves words = true

theorem runLine_last [ArgumentReader] (shipped : registry.Shipped)
    (ran : (runLine registry line context).1 = .ok outcome) :
    ∃ words answer, (stagesOf line).getLast? = some words ∧
      Command.Collected (registry.leaves words) answer outcome.status ∧
      Pipeline.ofStage (lastStage line) outcome.errors =
        (Pipeline.outputFault? answer).toList.map (⟨lastStage line, ·⟩) := by
  rcases runLine_cases registry line context with ⟨-, fault, unread⟩ | run
  · rw [unread] at ran
    cases ran
  · rw [run] at ran
    rcases List.eq_nil_or_concat (stagesOf line) with empty | ⟨before, words, split⟩
    · rw [empty] at ran
      cases ran
    · have worded : words ≠ [] := by
        have member : words ∈ stagesOf line := by simp [split]
        cases reads : Line.stages line with
        | error fault => simp [stagesOf, reads, Except.toOption] at member
        | ok stages =>
            simp only [stagesOf, reads, Except.toOption, Option.getD_some] at member
            exact Line.stages_worded reads words member
      have position : lastStage line = (before.map (Pipeline.commandOf registry)).length := by
        simp [lastStage, split]
      rw [split, List.concat_eq_append, List.map_append] at ran
      obtain ⟨answer, collected, alone⟩ :=
        Pipeline.execute_last (shipped.awaits_commandOf worded) ran
      exact ⟨words, answer, by simp [split], collected, by rw [position]; exact alone⟩

/-- Standard error takes the reports of some failures and refuses the next one, for this
cause. -/
inductive Refuses : List Pipeline.StageError → W → IoError → Prop
  | now {failure : Pipeline.StageError} {rest : List Pipeline.StageError} {world : W}
      {cause : IoError}
      (refused : (Output.writeLine .standardError failure.error.message world).1.2 =
        .error cause) : Refuses (failure :: rest) world cause
  | later {failure : Pipeline.StageError} {rest : List Pipeline.StageError} {world : W}
      {cause : IoError}
      (taken : (Output.writeLine .standardError failure.error.message world).1.2 = .ok ())
      (refuses : Refuses rest (Output.writeLine .standardError failure.error.message world).2
        cause) : Refuses (failure :: rest) world cause

/-- To report failures panics exactly when one of the reports is refused. -/
theorem complainAll_eq_error_iff (failures : List Pipeline.StageError) (context : Context W)
    (cause : IoError) :
    (complainAll failures context).1 = .error ⟨cause⟩ ↔ Refuses failures context.world cause := by
  induction failures generalizing context with
  | nil =>
      constructor
      · intro clash
        cases clash
      · intro refuses
        cases refuses
  | cons failure rest ih =>
      simp only [complainAll, complain, bind_apply, pure_apply, Context.act_apply]
      rcases told : (Output.writeLine .standardError failure.error.message context.world).1.2 with
        refusal | done
      · constructor
        · intro panics
          obtain rfl : refusal = cause := Panic.mk.inj (Except.error.inj panics)
          exact .now told
        · rintro (refused | ⟨taken, -⟩)
          · rw [told] at refused
            obtain rfl := Except.error.inj refused
            rfl
          · rw [told] at taken
            cases taken
      · constructor
        · exact fun panics => .later told ((ih _).1 panics)
        · rintro (refused | ⟨-, refuses⟩)
          · rw [told] at refused
            cases refused
          · exact (ih _).2 refuses

/-- The world in which the failures of a line are reported: its output has been printed. -/
def afterOutput [ArgumentReader] (registry : Registry) (line : String) (context : Context W)
    (outcome : Pipeline.Outcome) : W :=
  (print outcome.stdout (runLine registry line context).2.world).2

section Told

variable [ArgumentReader] (ran : (runLine registry line context).1 = .ok outcome)
include ran

theorem evaluateAndPrint_reports : ∃ reporting : Context W,
    reporting.world = afterOutput registry line context outcome ∧
    (evaluateAndPrint registry line context).1 =
      (complainAll outcome.errors reporting).1.map fun () => outcome.status := by
  simp only [evaluateAndPrint, bind_apply, afterOutput]
  rcases came : runLine registry line context with ⟨answer, after⟩
  obtain rfl : answer = .ok outcome := by rw [came] at ran; exact ran
  exact ⟨_, rfl, rfl⟩

/-- A line that has run to its end leaves its status, if it leaves any. -/
theorem status_of_evaluateAndPrint {code : ExitCode}
    (answers : (evaluateAndPrint registry line context).1 = .ok code) : code = outcome.status := by
  obtain ⟨reporting, -, reports⟩ := evaluateAndPrint_reports ran
  rw [reports] at answers
  cases told : (complainAll outcome.errors reporting).1 with
  | error panic =>
      rw [told] at answers
      cases answers
  | ok done =>
      rw [told] at answers
      exact (Except.ok.inj answers).symm

/-- It panics exactly when one of its failures cannot be told. -/
theorem evaluateAndPrint_eq_error_iff (panic : Panic) :
    (evaluateAndPrint registry line context).1 = .error panic ↔
      Refuses outcome.errors (afterOutput registry line context outcome) panic.cause := by
  obtain ⟨reporting, world, reports⟩ := evaluateAndPrint_reports ran
  rw [reports, ← world, ← complainAll_eq_error_iff]
  cases (complainAll outcome.errors reporting).1 <;> simp [Except.map]

end Told

section Program

variable [ArgumentReader] [LineEditor W] {name : String} {words : List String} {world : W}

/-- The program that is called for a single line evaluates it, and ends as it says. -/
theorem run_of_runsLine (runs : CommandLine.RunsLine name words registry line) (world : W) :
    ∃ options : CommandLine.Options, options.command = some line ∧
      CommandLine.registryOf options = registry ∧
      (CommandLine.run name words world).1 = CommandLine.statusByte
        (CommandLine.runWith options (CommandLine.start world)).1 := by
  obtain ⟨reading, scanned, oneShot, builtins⟩ := runs
  refine ⟨CommandLine.optionsOf reading, oneShot, builtins, ?_⟩
  simp only [CommandLine.run, scanned]
  rfl

/-- A single line leaves its status with the system, unless an `exit` in it left a code. -/
theorem run_of_told {status : ExitCode}
    (runs : CommandLine.RunsLine name words registry line)
    (told : (evaluateAndPrint registry line (CommandLine.start world)).1 = .ok status) :
    (CommandLine.run name words world).1 = CommandLine.statusByte
      ((sessionAfter registry line (CommandLine.start world)).exitCode.getD status) := by
  obtain ⟨options, given, rfl, program⟩ := run_of_runsLine runs world
  rw [program, CommandLine.runWith, given, ← evaluateAndPrint_session]
  simp only [bind_apply, told]
  rfl

/-- If its failures cannot be told, it leaves that of a panic. -/
theorem run_of_panic {panic : Panic} (runs : CommandLine.RunsLine name words registry line)
    (panics : (evaluateAndPrint registry line (CommandLine.start world)).1 = .error panic) :
    (CommandLine.run name words world).1 = 101 := by
  obtain ⟨options, given, rfl, program⟩ := run_of_runsLine runs world
  rw [program, CommandLine.runWith, given]
  simp only [bind_apply, panics]
  rfl

end Program

/-- How a failure of the last stage shows. -/
structure FailsVisibly [ArgumentReader] [LineEditor W] (registry : Registry) (line : String)
    (context : Context W) (outcome : Pipeline.Outcome) (fault : ShellError) : Prop where
  /-- The last stage fails in nothing else. -/
  alone : Pipeline.ofStage (lastStage line) outcome.errors = [⟨lastStage line, fault⟩]
  status : outcome.status = fault.exitCode
  telling : fault.Telling outcome.status
  nonzero : outcome.status ≠ 0
  /-- The status is answered when the line is evaluated and its failures are reported. -/
  shown : ∀ code, (evaluateAndPrint registry line context).1 = .ok code → code = outcome.status
  /-- It is not answered exactly when one of the reports is refused. -/
  panics : ∀ panic, (evaluateAndPrint registry line context).1 = .error panic ↔
    Refuses outcome.errors (afterOutput registry line context outcome) panic.cause
  /-- The program that is called for this line alone ends with it, unless an `exit` in the
  line has left a code; only such a code may be 0.  After a panic it ends with 101. -/
  oneShot : ∀ (name : String) (words : List String) (world : W),
    CommandLine.RunsLine name words registry line → context = CommandLine.start world →
      (∀ code, (evaluateAndPrint registry line context).1 = .ok code →
        (CommandLine.run name words world).1 = CommandLine.statusByte
          ((sessionAfter registry line context).exitCode.getD outcome.status)) ∧
      (∀ panic, (evaluateAndPrint registry line context).1 = .error panic →
        (CommandLine.run name words world).1 = 101) ∧
      ((sessionAfter registry line context).exitCode = none →
        (CommandLine.run name words world).1 ≠ 0)

/-- **A failure of the last stage shows in the status of the line**, whatever the world
answers, unless it is the failure to collect from a program that has been started. -/
theorem runLine_fails_visibly [ArgumentReader] [LineEditor W] (shipped : registry.Shipped)
    (line : String) (context : Context W) (outcome : Pipeline.Outcome)
    (ran : (runLine registry line context).1 = .ok outcome)
    (fault : ShellError) (listed : ⟨lastStage line, fault⟩ ∈ outcome.errors)
    (other : EndsInProgram registry line → ∀ cause, fault ≠ .io cause) :
    FailsVisibly registry line context outcome fault := by
  obtain ⟨words, answer, last, collected, errors⟩ := runLine_last shipped ran
  have found : (⟨lastStage line, fault⟩ : Pipeline.StageError) ∈
      Pipeline.ofStage (lastStage line) outcome.errors :=
    List.mem_filter.2 ⟨listed, decide_eq_true rfl⟩
  have failed : Pipeline.outputFault? answer = some fault := by
    rw [errors] at found
    simpa using found
  have telling : fault.Telling outcome.status :=
    collected.telling failed fun program => other ⟨words, last, program⟩
  refine
    { alone := by rw [errors, failed]; rfl, status := telling.exitCode.symm, telling,
      nonzero := telling.ne_zero, shown := fun code => status_of_evaluateAndPrint ran,
      panics := evaluateAndPrint_eq_error_iff ran, oneShot := ?_ }
  rintro name words world runs rfl
  have ends : ∀ code, (evaluateAndPrint registry line (CommandLine.start world)).1 = .ok code →
      (CommandLine.run name words world).1 = CommandLine.statusByte
        ((sessionAfter registry line (CommandLine.start world)).exitCode.getD outcome.status) :=
    fun code answers => status_of_evaluateAndPrint ran answers ▸ run_of_told runs answers
  refine ⟨ends, fun panic => run_of_panic runs, fun unasked => ?_⟩
  rcases answers : (evaluateAndPrint registry line (CommandLine.start world)).1 with panic | code
  · rw [run_of_panic runs answers]
    decide
  · rw [ends code answers, unasked]
    exact telling.statusByte_ne_zero

end Interpreter

/-! ## A world without reaping -/

/-- A world in which a program that has been started cannot be waited for, as when the
process ignores the end of its children; what is remembered is whether there are
programs. -/
structure Unreaping where
  programs : Bool
  deriving DecidableEq, Repr

instance : Host Unreaping where
  canonicalize path _ := .ok path
  isFile _ world := world.programs
  currentDirectory _ := .ok .root
  changeDirectory _ := pure (.ok ())
  environment _ := []
  account _ := ⟨"user", "group", none⟩
  processes _ := []
  terminate _ := pure (.ok ())
  openPipe := pure (.ok 0)
  read _ _ := pure (.ok [])
  readToEnd _ := pure (.ok [])
  write _ bytes := pure (.ok bytes.length)
  interruptionsLeft _ _ := 0
  flush _ := pure (.ok ())
  closeInput _ := pure ()
  closeOutput _ := pure ()
  deliver _ _ := pure 0
  finishDelivery _ := pure (.ok ())
  spawn _ := pure (.ok ⟨1, none⟩)
  capture _ := pure (.error (.os 10))
  wait _ := pure (.error (.os 10))
  kill _ := pure (.ok ())

instance : LineEditor Unreaping := .atEnd Unreaping

namespace Interpreter

open scoped Arguments

/-- What comes of a line whose second and last stage names no program. -/
def nopeOutcome : Pipeline.Outcome := ⟨[], 127, [⟨1, .notFound "nope"⟩]⟩

theorem runLine_fails_visibly_nope :
    Registry.withBuiltins.Shipped ∧
      (runLine .withBuiltins "pwd | nope" (CommandLine.start (⟨false⟩ : Unreaping))).1 =
        .ok nopeOutcome ∧
      ⟨lastStage "pwd | nope", .notFound "nope"⟩ ∈ nopeOutcome.errors ∧
      (EndsInProgram .withBuiltins "pwd | nope" →
        ∀ cause, ShellError.notFound "nope" ≠ .io cause) ∧
      FailsVisibly .withBuiltins "pwd | nope" (CommandLine.start (⟨false⟩ : Unreaping))
        nopeOutcome (.notFound "nope") ∧
      (CommandLine.run "shell" ["-c", "pwd | nope"] (⟨false⟩ : Unreaping)).1 = 127 := by
  have ran : (runLine .withBuiltins "pwd | nope"
      (CommandLine.start (⟨false⟩ : Unreaping))).1 = .ok nopeOutcome := by
    decide +kernel
  have listed : ⟨lastStage "pwd | nope", .notFound "nope"⟩ ∈ nopeOutcome.errors := by
    decide +kernel
  have other : EndsInProgram .withBuiltins "pwd | nope" →
      ∀ cause, ShellError.notFound "nope" ≠ .io cause := fun _ _ => nofun
  have visible := runLine_fails_visibly Registry.shipped_withBuiltins "pwd | nope"
    (CommandLine.start (⟨false⟩ : Unreaping)) nopeOutcome ran _ listed other
  have runs : CommandLine.RunsLine "shell" ["-c", "pwd | nope"] .withBuiltins "pwd | nope" :=
    ⟨⟨[], [("command", "pwd | nope")], []⟩, by decide +kernel, rfl, rfl⟩
  have told : (evaluateAndPrint .withBuiltins "pwd | nope"
      (CommandLine.start (⟨false⟩ : Unreaping))).1 = .ok 127 := by
    decide +kernel
  refine ⟨Registry.shipped_withBuiltins, ran, listed, other, visible, ?_⟩
  rw [(visible.oneShot _ _ _ runs rfl).1 127 told]
  decide +kernel

/-- **Two failures that do not show.**  An `exit` in the line has the last word on the
status of the program, though the last stage was not found; and a program whose output
cannot be collected is forgotten, and counts as having succeeded. -/
theorem last_failure_unseen :
    ((runLine (Registry.withBuiltins.register .exit) "exit 0 | nope"
        (CommandLine.start (⟨false⟩ : Unreaping))).1 = .ok nopeOutcome ∧
      (CommandLine.run "shell" ["--allow-exit", "-c", "exit 0 | nope"]
        (⟨false⟩ : Unreaping)).1 = 0) ∧
    ((runLine .withBuiltins "false" (CommandLine.start (⟨true⟩ : Unreaping))).1 =
        .ok ⟨[], 0, [⟨0, .io (.os 10)⟩]⟩ ∧
      (ShellError.io (.os 10)).exitCode = 1 ∧
      (CommandLine.run "shell" ["-c", "false"] (⟨true⟩ : Unreaping)).1 = 0) := by
  decide +kernel

end Interpreter

end PipelineShell
