/-
# Proofs.Streams -- what the calls of a command do to its streams

A command holds pipes in two ways: as its input (`Command.Reads`), or as its output or
behind it (`Command.Writes`).  For every call there is a lemma that says which pipes the
command holds afterwards, and whether it can still be run.

Whether a run or a collection lets go of the pipes is decided before it: a command that
is `Ready` ends without them (`Command.run_of_ready`, `Command.output_of_ready`), and any
other keeps what it has (`Command.run_of_not_ready`, `Command.output_of_not_ready`).
-/
import PipelineShell.Command
import PipelineShell.Proofs.Stateful

namespace PipelineShell

set_option autoImplicit false

open Stateful

variable {W : Type} [Host W]

/-! ## Builtins -/

/-- A builtin that is run for the first time, with arguments, lets go of its input and of
the pipe behind its output. -/
theorem Builtin.run_streams (builtin : Builtin) (context : Context W)
    (unrun : builtin.status = none) (parsed : builtin.parsed.isSome = true) :
    (builtin.run context).1.2.streams.input = .inherited ∧
    (builtin.run context).1.2.pipe = none ∧
    (builtin.run context).1.2.streams.output =
      if builtin.pipe.isSome then .standardOutput else builtin.streams.output := by
  obtain ⟨kind, arguments, reading?, streams, pipe, delivery, recorded, status⟩ := builtin
  obtain rfl : status = none := unrun
  obtain ⟨reading, rfl⟩ := Option.isSome_iff_exists.1 parsed
  simp only [run, bind_apply]
  rcases perform streams reading context with ⟨⟨accepted, result⟩, context₁⟩
  cases pipe <;> cases result <;> exact ⟨rfl, rfl, rfl⟩

/-- A builtin that has run, or has no arguments, is left as it is by a run. -/
theorem Builtin.run_refused (builtin : Builtin) (context : Context W)
    (refused : builtin.status ≠ none ∨ builtin.parsed = none) :
    (builtin.run context).1.2 = builtin := by
  obtain ⟨kind, arguments, reading?, streams, pipe, delivery, recorded, status⟩ := builtin
  cases status with
  | some code => rfl
  | none =>
      obtain rfl : reading? = none := refused.resolve_left (· rfl)
      rfl

/-- The builtin with its output bound anew, and no pipe behind it. -/
def Builtin.withOutput (builtin : Builtin) (output : OutputHandle) : Builtin :=
  { builtin with streams := { builtin.streams with output }, pipe := none }

theorem Builtin.setOutput_eq (builtin : Builtin) (output : OutputHandle)
    (context : Context W) :
    (builtin.setOutput output context).1 = builtin.withOutput output := by
  obtain ⟨kind, arguments, reading?, streams, pipe, delivery, recorded, status⟩ := builtin
  cases pipe <;> rfl

/-- To collect the output of a builtin that has not run is to run it with its output
bound to a scratch buffer. -/
theorem Builtin.output_unrun (builtin : Builtin) (context : Context W)
    (unrun : builtin.status = none) :
    (builtin.output context).1.2 =
      ((builtin.withOutput .scratch).run (builtin.setOutput .scratch context).2).1.2 := by
  simp only [output, unrun, bind_apply, builtin.setOutput_eq .scratch context]
  generalize (Builtin.run _ _ : (Except ShellError Unit × Builtin) × Context W) = ran
  obtain ⟨⟨fault | _, after⟩, context₁⟩ := ran <;> rfl

/-! ## Programs -/

/-- Starting a program takes the streams away from the command, whether it succeeds or
not. -/
theorem External.start_streams (external : External) (output : LaunchOutput)
    (context : Context W) :
    (external.start output context).1.2.streams = .standard := by
  simp only [start, bind_apply, Context.ask, Context.look, id]
  cases External.located { external with streams := .standard } context.session
      context.world with
  | none => rfl
  | some path =>
      simp only [bind_apply]
      generalize (Context.act (Host.spawn _) _ : Except IoError Child × Context W) = launched
      obtain ⟨child | fault, context₁⟩ := launched <;> rfl

theorem External.run_streams (external : External) (context : Context W)
    (idle : external.progress = .idle) (worded : external.words ≠ []) :
    (external.run context).1.2.streams = .standard := by
  obtain ⟨words, streams, bound, progress⟩ := external
  obtain rfl : progress = .idle := idle
  cases words with
  | nil => exact absurd rfl worded
  | cons word rest =>
      simp only [run, bind_apply]
      rcases started : start _ _ context with ⟨⟨result, after⟩, context₁⟩
      have streams := congrArg (·.1.2.streams) started
      rw [start_streams] at streams
      cases result <;> exact streams.symm

theorem External.collect_streams (external : External) (context : Context W) :
    (external.collect context).1.2.streams = .standard := by
  have streams := external.start_streams .captured context
  simp only [collect, bind_apply]
  rcases started : external.start .captured context with ⟨⟨result, after⟩, context₁⟩
  rw [started] at streams
  cases result with
  | error fault => exact streams
  | ok child =>
      simp only [bind_apply]
      rcases Context.act (Host.capture child) context₁ with ⟨captured, context₂⟩
      cases captured with
      | error fault => exact streams
      | ok result =>
          obtain ⟨bytes, status⟩ := result
          dsimp only
          split <;> exact streams

theorem External.wait_streams (external : External) (context : Context W) :
    (external.wait context).1.2.streams = external.streams := by
  obtain ⟨words, streams, bound, progress⟩ := external
  cases progress with
  | running child =>
      simp only [wait, bind_apply]
      rcases Context.act (Host.wait child) context with ⟨ended, context₁⟩
      cases ended <;> rfl
  | _ => rfl

/-- The output of a program is collected if it can be started and goes nowhere else. -/
theorem External.output_idle (external : External) (context : Context W)
    (idle : external.progress = .idle) (worded : external.words ≠ [])
    (unbound : external.outputBound = false) :
    external.output context = external.collect context := by
  simp [output, idle, unbound, worded]

theorem External.output_refused (external : External) (context : Context W)
    (refused : external.progress ≠ .idle ∨ external.words = [] ∨ external.outputBound = true) :
    (external.output context).1.2.streams = external.streams := by
  obtain ⟨words, streams, bound, progress⟩ := external
  have waited := External.wait_streams ⟨words, streams, bound, progress⟩ context
  cases progress with
  | idle =>
      cases bound with
      | true => rfl
      | false =>
          obtain rfl : words = [] := by simpa using refused
          rfl
  | failed code => rfl
  | _ =>
      simp only [output, bind_apply]
      generalize External.wait _ context = answered at waited ⊢
      obtain ⟨⟨fault | status, after⟩, context₁⟩ := answered <;> exact waited

/-! ## Scripted commands -/

theorem Scripted.run_streams (scripted : Scripted) (context : Context W) :
    (scripted.run context).1.2.streams =
      { scripted.streams with input := .inherited, output := .standardOutput } := by
  obtain ⟨script, arguments, streams, inputBound, outputBound⟩ := scripted
  obtain ⟨label, emits, complains, runFailure, outputFailure, wait, pipeFailure, deaf, rest⟩ :=
    script
  cases runFailure <;> cases outputBound <;> rfl

theorem Scripted.output_streams (scripted : Scripted) (context : Context W) :
    (scripted.output context).1.2.streams = { scripted.streams with input := .inherited } := by
  obtain ⟨script, arguments, streams, inputBound, outputBound⟩ := scripted
  obtain ⟨label, emits, complains, runFailure, outputFailure, wait, pipeFailure, deaf, rest⟩ :=
    script
  cases outputFailure <;> rfl

namespace Command

/-! ## What a command holds -/

/-- The command holds the read end of a pipe. -/
def Reads (command : Command) (pipe : Nat) : Prop := command.streams.input = .pipe pipe

/-- The pipe that a builtin's output is to be delivered into. -/
def pipe? : Command → Option Nat
  | .builtin b => b.pipe
  | _ => none

/-- The command holds the write end of a pipe. -/
def Writes (command : Command) (pipe : Nat) : Prop :=
  command.streams.output = .pipe pipe ∨ command.pipe? = some pipe

instance (command : Command) (pipe : Nat) : Decidable (command.Reads pipe) :=
  inferInstanceAs (Decidable (_ = _))

instance (command : Command) (pipe : Nat) : Decidable (command.Writes pipe) :=
  inferInstanceAs (Decidable (_ ∨ _))

/-- The command has been given words, and was neither run nor collected. -/
def Ready : Command → Prop
  | .builtin b => b.status = none ∧ b.parsed.isSome = true
  | .external e => e.progress = .idle ∧ e.words ≠ []
  | .scripted _ => True

/-- The command is a program whose output was bound by someone. -/
def OutputBound : Command → Prop
  | .external e => e.outputBound = true
  | _ => False

/-- The output of the command goes into this pipe, and into no other. -/
def Piped : Command → Nat → Prop
  | .builtin b, pipe => b.streams.output = .scratch ∧ b.pipe = some pipe
  | .external e, pipe => e.streams.output = .pipe pipe
  | .scripted s, pipe => s.streams.output = .pipe pipe

theorem Piped.writes_iff {command : Command} {pipe : Nat} (piped : command.Piped pipe)
    (other : Nat) : command.Writes other ↔ other = pipe := by
  cases command with
  | builtin b => simp [Writes, streams, pipe?, piped.1, piped.2, eq_comm]
  | external e => simp [Writes, streams, pipe?, show e.streams.output = _ from piped, eq_comm]
  | scripted s => simp [Writes, streams, pipe?, show s.streams.output = _ from piped, eq_comm]

/-! ## One call at a time -/

theorem setInput_keeps (command : Command) (input : InputHandle) (context : Context W) :
    (command.setInput input context).1.streams.input = input ∧
    ((command.setInput input context).1.Ready ↔ command.Ready) ∧
    ((command.setInput input context).1.OutputBound ↔ command.OutputBound) := by
  cases command <;> exact ⟨rfl, Iff.rfl, Iff.rfl⟩

theorem setError_keeps (command : Command) (error : OutputHandle) (context : Context W) :
    (command.setError error context).1.streams.input = command.streams.input ∧
    (∀ pipe, (command.setError error context).1.Piped pipe ↔ command.Piped pipe) ∧
    ((command.setError error context).1.Ready ↔ command.Ready) ∧
    ((command.setError error context).1.OutputBound ↔ command.OutputBound) := by
  cases command <;> exact ⟨rfl, fun _ => Iff.rfl, Iff.rfl, Iff.rfl⟩

/-- The output goes into the pipe that was opened, whose read end is handed out. -/
theorem openPipe_opened {command after : Command} {reader : InputHandle} {context : Context W}
    (opened : (command.openPipe context).1 = (.ok reader, after)) :
    ∃ pipe, reader = .pipe pipe ∧ after.Piped pipe ∧
      after.streams.input = command.streams.input ∧ (after.Ready ↔ command.Ready) := by
  cases command with
  | builtin b =>
      simp only [openPipe, map_apply, Builtin.openPipe, bind_apply] at opened
      generalize (Context.act Host.openPipe context : Except IoError Nat × Context W) = answered
        at opened
      obtain ⟨fault | pipe, context₁⟩ := answered
      · cases opened
      · simp only [bind_apply, b.setOutput_eq .scratch context₁, pure_apply] at opened
        cases opened
        exact ⟨pipe, rfl, ⟨rfl, rfl⟩, rfl, Iff.rfl⟩
  | external e =>
      simp only [openPipe, map_apply, External.openPipe, bind_apply] at opened
      generalize (Context.act Host.openPipe context : Except IoError Nat × Context W) = answered
        at opened
      obtain ⟨fault | pipe, context₁⟩ := answered
      · cases opened
      · cases opened
        exact ⟨pipe, rfl, rfl, rfl, Iff.rfl⟩
  | scripted s =>
      obtain ⟨⟨label, emits, complains, runFailure, outputFailure, wait, pipeFailure, deaf, rest⟩,
        arguments, streams, inputBound, outputBound⟩ := s
      cases pipeFailure with
      | some fault => cases opened
      | none =>
          simp only [openPipe, map_apply, Scripted.openPipe, bind_apply] at opened
          generalize (Context.act Host.openPipe _ : Except IoError Nat × Context W) = answered
            at opened
          obtain ⟨fault | pipe, context₁⟩ := answered
          · cases opened
          · cases opened
            exact ⟨pipe, rfl, rfl, rfl, Iff.rfl⟩

theorem run_of_ready {command : Command} {pipe : Nat} (ready : command.Ready)
    (piped : command.Piped pipe) (context : Context W) :
    (command.run context).1.2.streams.input = .inherited ∧
    ∀ other, ¬ (command.run context).1.2.Writes other := by
  cases command with
  | builtin b =>
      obtain ⟨input, closed, output⟩ := b.run_streams context ready.1 ready.2
      refine ⟨input, fun other => ?_⟩
      rintro (bound | kept)
      · have standard := output.symm.trans bound
        rw [piped.2] at standard
        cases standard
      · cases closed.symm.trans kept
  | external e =>
      have gone := e.run_streams context ready.1 ready.2
      refine ⟨congrArg Streams.input gone, fun other => ?_⟩
      rintro (bound | kept)
      · cases (congrArg Streams.output gone).symm.trans bound
      · cases kept
  | scripted s =>
      have gone := s.run_streams context
      refine ⟨congrArg Streams.input gone, fun other => ?_⟩
      rintro (bound | kept)
      · cases (congrArg Streams.output gone).symm.trans bound
      · cases kept

/-- A command that cannot be run is left as it is. -/
theorem run_of_not_ready {command : Command} (unready : ¬ command.Ready)
    (context : Context W) : (command.run context).1.2 = command := by
  cases command with
  | builtin b =>
      have refused : b.status ≠ none ∨ b.parsed = none := by
        simpa [Ready, Classical.or_iff_not_imp_left] using unready
      exact congrArg Command.builtin (b.run_refused context refused)
  | external e =>
      obtain ⟨words, streams, bound, progress⟩ := e
      cases progress with
      | idle =>
          cases words with
          | nil => rfl
          | cons word rest => exact absurd ⟨rfl, List.cons_ne_nil word rest⟩ unready
      | _ => rfl
  | scripted s => exact absurd trivial unready

theorem output_of_ready {command : Command} (ready : command.Ready)
    (unbound : ¬ command.OutputBound) (context : Context W) :
    (command.output context).1.2.streams.input = .inherited := by
  cases command with
  | builtin b =>
      have ran := b.output_unrun context ready.1
      have gone := (b.withOutput .scratch).run_streams (b.setOutput .scratch context).2 ready.1 ready.2
      exact (congrArg (·.streams.input) ran).trans gone.1
  | external e =>
      have collected := e.output_idle context ready.1 ready.2 (by simpa [OutputBound] using unbound)
      have gone := e.collect_streams context
      rw [← collected] at gone
      exact congrArg Streams.input gone
  | scripted s => exact congrArg Streams.input (s.output_streams context)

/-- A command whose output cannot be collected keeps its input. -/
theorem output_of_not_ready {command : Command}
    (unready : ¬ (command.Ready ∧ ¬ command.OutputBound)) (context : Context W) :
    (command.output context).1.2.streams.input = command.streams.input := by
  cases command with
  | builtin b =>
      by_cases unrun : b.status = none
      · have unparsed : b.parsed = none := by simpa [Ready, OutputBound, unrun] using unready
        have ran := b.output_unrun context unrun
        rw [(b.withOutput .scratch).run_refused _ (Or.inr unparsed)] at ran
        exact congrArg (·.streams.input) ran
      · obtain ⟨code, ran⟩ := Option.ne_none_iff_exists'.1 unrun
        simp only [output, map_apply, Builtin.output, ran]
        rfl
  | external e =>
      refine congrArg Streams.input (e.output_refused context ?_)
      simpa [Ready, OutputBound, Classical.or_iff_not_imp_left] using unready
  | scripted s => exact absurd ⟨trivial, id⟩ unready

end Command

end PipelineShell
