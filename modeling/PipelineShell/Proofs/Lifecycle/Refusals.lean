/-
# Proofs.Lifecycle.Refusals -- calls that are refused

A command that has no words yet, or has been set to work before, refuses to be run and to
produce its output.  A refusal should be all that there is to such a call: the streams, the
words, the record, the status and the session stay as they are, and what is called later is
answered as if the refused call had not been made.

So it is for programs, and for builtins that are run.  A builtin that is asked for its output
binds a scratch buffer before it finds that it has no words, which amounts to a call of
`setOutput` (`Builtin.output_refused`).  What its output was bound to is then forgotten, and a
pipe that was opened for it is closed; all else stays (`Command.refused_call`).

Poles: `Command.refused_call_early` and `Command.refused_output_forgets`.
-/
import PipelineShell.Arguments.Scan
import PipelineShell.Command
import PipelineShell.Proofs.Cistern
import PipelineShell.Proofs.Lifecycle.Builtin
import PipelineShell.Proofs.Lifecycle.Deeds

namespace PipelineShell

set_option autoImplicit false

open Lifecycle Stateful

variable {W : Type} [Host W]

/-! ## Refusals -/

/-- The error of a call that comes too early, or too late. -/
inductive ShellError.Untimely : ShellError → Prop where
  | notParsed (name : String) : Untimely (.notParsed name)
  | alreadyRun (name : String) : Untimely (.alreadyRun name)

/-- The call was refused. -/
inductive Lifecycle.Answer.Refuses : Answer → Prop where
  | ran {fault : ShellError} (untimely : fault.Untimely) : Refuses (.ran (.error fault))
  | produced {fault : ShellError} (untimely : fault.Untimely) :
      Refuses (.produced (.error fault))

namespace Builtin

variable {builtin : Builtin} {call : Call} {context : Context W}

/-- What is refused was meant to set the builtin to work, and did not. -/
theorem not_works_of_refuses [ArgumentReader]
    (refuses : (builtin.answer call context).1.1.Refuses) : call.Starts ∧ ¬ builtin.Works call := by
  have starts : call.Starts := by
    cases call with
    | run => exact .inl rfl
    | output => exact .inr rfl
    | _ => cases refuses
  refine ⟨starts, fun works => ?_⟩
  obtain ⟨reading, parsed⟩ := Option.isSome_iff_exists.1 works.worded
  obtain ⟨code, bytes, worked⟩ := exists_worked starts works.unrun parsed context
  have concludes := worked.answer
  generalize (builtin.answer call context).1.1 = answer at refuses concludes
  cases concludes with
  | ran | produced => cases refuses
  | ranUnreported | producedUnreported => cases refuses with | _ untimely => cases untimely

/-- A refused run is a refusal, and nothing else. -/
theorem run_refuses [ArgumentReader] (refuses : (builtin.answer .run context).1.1.Refuses) :
    builtin.answer .run context = (((builtin.answer .run context).1.1, builtin), context) := by
  obtain ⟨starts, idle⟩ := not_works_of_refuses refuses
  obtain ⟨fault, refused⟩ := exists_refusal starts idle
  simp only [answer, map_apply, (run_of_refusal? refused context).1]
  rfl

/-- **To refuse its output, a builtin binds it to a scratch buffer.** -/
theorem output_refuses [ArgumentReader] (refuses : (builtin.answer .output context).1.1.Refuses) :
    builtin.answer .output context =
      (((builtin.answer .output context).1.1, builtin.withOutput .scratch),
        (builtin.setOutput .scratch context).2) := by
  obtain ⟨starts, idle⟩ := not_works_of_refuses refuses
  cases status : builtin.status with
  | some code =>
      simp only [answer, map_apply, output, status, pure_apply] at refuses
      cases refuses
  | none =>
      have unworded : ¬ (builtin.withOutput .scratch).Works .output := fun works =>
        idle ⟨works.starts, works.unrun, works.worded⟩
      obtain ⟨fault, refused⟩ := exists_refusal starts unworded
      have ran := (run_of_refusal? refused (builtin.setOutput .scratch context).2).1
      simp only [answer, map_apply, output_apply status, ran]
      rfl

/-- This changes nothing if there was no other binding to forget. -/
theorem withOutput_scratch_eq_iff :
    builtin.withOutput .scratch = builtin ↔
      builtin.streams.output = .scratch ∧ builtin.pipe = none := by
  obtain ⟨kind, arguments, parsed, ⟨input, output, error⟩, pipe, delivery, recorded, status⟩ :=
    builtin
  simp [withOutput, eq_comm]

end Builtin

/-- A program that refuses a call does nothing else. -/
theorem External.answer_refuses {external : External} {call : Call} {context : Context W}
    (refuses : (external.answer call context).1.1.Refuses) :
    external.answer call context =
      (((external.answer call context).1.1, external), context) := by
  have starts : call.Starts := by
    cases call with
    | run => exact .inl rfl
    | output => exact .inr rfl
    | _ => cases refuses
  obtain ⟨new, comes⟩ := external.answer_comes context call
  obtain ⟨words, streams, bound, progress⟩ := external
  generalize (External.answer call _ context).1.1 = answer at refuses comes ⊢
  generalize (External.answer call _ context).1.2.progress = reached at comes
  cases comes with
  | runAgain busy =>
      cases progress with
      | idle => exact absurd rfl busy
      | running | finished | failed => rfl
  | runWordless idle wordless =>
      obtain rfl : progress = .idle := idle
      obtain rfl : words = [] := wordless
      rfl
  | outputWordless idle free wordless =>
      obtain rfl : progress = .idle := idle
      obtain rfl : words = [] := wordless
      obtain rfl : bound = false := free
      rfl
  -- all other answers are of another kind, or another failure
  | aside answer other => exact absurd starts other.1
  | runFails idle worded failing =>
      cases refuses with | ran untimely => cases failing <;> cases untimely
  | outputFails idle free worded failing =>
      cases refuses with | produced untimely => cases failing <;> cases untimely
  | outputCollects path child bytes status =>
      simp only [collected] at refuses
      split at refuses
      · cases refuses
      · cases refuses with | produced untimely => cases untimely
  | outputFailed failed =>
      simp only [startFailure] at refuses
      split at refuses <;> cases refuses with | produced untimely => cases untimely
  | outputBound | outputLoses | outputReaps | outputLeaves | outputFinished =>
      cases refuses with | produced untimely => cases untimely
  | runStarts => cases refuses
  | waitIdle | waitReaps | waitLeaves | waitOver | aborts | abortsNothing => cases refuses

namespace Command

/-! ## Calls on commands -/

/-- What a command answers to a call. -/
def answer [ArgumentReader] (command : Command) : Call → StateM (Context W) (Answer × Command)
  | .parseArguments words => pure (.nothing, command.parseArguments words)
  | .setInput input => (.nothing, ·) <$> command.setInput input
  | .setOutput output => (.nothing, ·) <$> command.setOutput output
  | .setError error => (.nothing, ·) <$> command.setError error
  | .openPipe => Prod.map .pipe id <$> command.openPipe
  | .run => Prod.map .ran id <$> command.run
  | .output => Prod.map .produced id <$> command.output
  | .wait => Prod.map .ended id <$> command.wait
  | .abort => (.nothing, ·) <$> command.abort

/-- What it answers to one call after the other. -/
def serve [ArgumentReader] (command : Command) : List Call → StateM (Context W)
    (List Answer × Command)
  | [] => pure ([], command)
  | call :: later => do
      let (answer, command) ← command.answer call
      Prod.map (answer :: ·) id <$> command.serve later

theorem answer_builtin [ArgumentReader] (builtin : Builtin) (call : Call) (context : Context W) :
    (Command.builtin builtin).answer call context =
      Prod.map (Prod.map id .builtin) id (builtin.answer call context) := by
  cases call <;> rfl

theorem answer_external [ArgumentReader] (external : External) (call : Call) (context : Context W) :
    (Command.external external).answer call context =
      Prod.map (Prod.map id .external) id (external.answer call context) := by
  cases call <;> rfl

/-- The call is answered, and what is called later is as if it had not been made. -/
def Ignores [ArgumentReader] (command : Command) (call : Call) (context : Context W) : Prop :=
  ∀ later, command.serve (call :: later) context =
    (Prod.map ((command.answer call context).1.1 :: ·) id <$> command.serve later) context

/-- The call has an answer of its own, and apart from that it is another call. -/
def Mistakes [ArgumentReader] (command : Command) (call other : Call)
    (context : Context W) : Prop :=
  ∀ later, command.serve (call :: later) context =
    (Prod.map (fun answers => (command.answer call context).1.1 :: answers.tail) id <$>
      command.serve (other :: later)) context

theorem ignores_of_answer [ArgumentReader] {command : Command} {call : Call} {context : Context W}
    (same : command.answer call context =
      (((command.answer call context).1.1, command), context)) :
    command.Ignores call context := by
  intro later
  generalize (command.answer call context).1.1 = answer at same ⊢
  simp only [serve, bind_apply, same, map_apply]

theorem mistakes_of_answer [ArgumentReader] {command : Command} {call other : Call}
    {context : Context W}
    (command_eq : (command.answer call context).1.2 = (command.answer other context).1.2)
    (context_eq : (command.answer call context).2 = (command.answer other context).2) :
    command.Mistakes call other context := by
  intro later
  simp only [serve, bind_apply, map_apply, Prod.map, List.tail_cons, command_eq, context_eq, id]

/-- A builtin is asked for its output. -/
def Rebinds (command : Command) (call : Call) : Prop :=
  call = .output ∧ ∃ builtin, command = .builtin builtin

/-- There is something that the output of the command has been bound to, or a pipe that was
opened for it. -/
def Bound (command : Command) : Prop :=
  command.streams.output ≠ .scratch ∨ command.pipe? ≠ none

/-- What a refused call comes to. -/
structure Refused [ArgumentReader] (command : Command) (call : Call)
    (context : Context W) : Prop where
  session : (command.answer call context).2.session = context.session
  /-- Streams, words, record and status are as before, with one exception. -/
  same_iff : (command.answer call context).1.2 = command ↔
    ¬ (command.Rebinds call ∧ command.Bound)
  ignores : ¬ command.Rebinds call → command.Ignores call context
  mistakes : command.Rebinds call → command.Mistakes call (.setOutput .scratch) context

theorem refused_of_answer [ArgumentReader] {command : Command} {call : Call} {context : Context W}
    (same : command.answer call context =
      (((command.answer call context).1.1, command), context))
    (other : ¬ command.Rebinds call) : command.Refused call context where
  session := congrArg (·.2.session) same
  same_iff := iff_of_true (congrArg (·.1.2) same) fun exception => other exception.1
  ignores _ := ignores_of_answer same
  mistakes rebinds := absurd rebinds other

/-- **A refused call changes nothing,** unless a builtin is asked for its output. -/
theorem refused_call [ArgumentReader] {command : Command}
    (own : ∀ scripted, command ≠ .scripted scripted) {call : Call} {context : Context W}
    (refuses : (command.answer call context).1.1.Refuses) :
    command.Refused call context := by
  cases command with
  | scripted scripted => exact absurd rfl (own scripted)
  | external external =>
      rw [answer_external] at refuses
      refine refused_of_answer ?_ fun rebinds => ?_
      · rw [answer_external, External.answer_refuses refuses]
        rfl
      · obtain ⟨-, builtin, other⟩ := rebinds
        cases other
  | builtin builtin =>
      rw [answer_builtin] at refuses
      obtain ⟨rfl | rfl, -⟩ := Builtin.not_works_of_refuses refuses
      · refine refused_of_answer ?_ fun rebinds => ?_
        · rw [answer_builtin, Builtin.run_refuses refuses]
          rfl
        · cases rebinds.1
      · have rebinds : (Command.builtin builtin).Rebinds .output := ⟨rfl, builtin, rfl⟩
        have answered : (Command.builtin builtin).answer .output context =
            (((builtin.answer .output context).1.1, .builtin (builtin.withOutput .scratch)),
              (builtin.setOutput .scratch context).2) := by
          rw [answer_builtin, Builtin.output_refuses refuses]
          rfl
        refine ⟨?_, ?_, fun other => absurd rebinds other, fun _ => mistakes_of_answer ?_ ?_⟩
        · rw [answered]
          exact builtin.setOutput_spares Context.aloof_session .scratch context
        · rw [answered]
          have kept := builtin.withOutput_scratch_eq_iff
          simp [rebinds, Bound, streams, pipe?, kept]
        · rw [answered, answer_builtin]
          exact congrArg Command.builtin (builtin.setOutput_eq .scratch context).symm
        · rw [answered, answer_builtin]
          rfl

open scoped Arguments

/-- A builtin whose output is bound to a sink, and which has no words yet. -/
def unworded : Command :=
  .builtin { Builtin.fresh .echo with streams := ⟨.inherited, .sink 1, .standardError⟩ }

/-- What the sink has accepted after these calls. -/
def sunk (calls : List Call) : Bytes :=
  Cistern.outlets.accepted (.sink 1) (unworded.serve calls Cistern.context).2.world

theorem refused_call_early :
    (unworded.answer .run Cistern.context).1.1.Refuses ∧
      unworded.Refused .run Cistern.context ∧
      sunk [.run, .parseArguments ["hello"], .run] = Utf8.encode "hello\n" := by
  have refuses : (unworded.answer .run Cistern.context).1.1.Refuses := .ran (.notParsed "echo")
  have own : ∀ scripted, unworded ≠ .scripted scripted := by
    intro scripted same
    cases same
  exact ⟨refuses, refused_call own refuses, by decide +kernel⟩

/-- What was bound is forgotten by a request for the output that is refused. -/
theorem refused_output_forgets :
    (unworded.answer .output Cistern.context).1.1.Refuses ∧
      unworded.streams.output = .sink 1 ∧
      (unworded.answer .output Cistern.context).1.2.streams.output = .scratch ∧
      sunk [.parseArguments ["hello"], .run] = Utf8.encode "hello\n" ∧
      sunk [.output, .parseArguments ["hello"], .run] = [] := by
  refine ⟨.produced (.notParsed "echo"), rfl, rfl, by decide +kernel, by decide +kernel⟩

end Command

end PipelineShell
