/-
# Proofs.Discretion -- calls of which nothing is seen on standard output

A call is discreet if nothing can come of it on the standard output of the shell: what is
written goes into a buffer or a pipe, or to standard error, and the output of a program that
is started goes into a pipe (`Host.Discreet`).  The commands of a pipeline are bound to the
standard output of the shell when they are fresh, and builtins are so again when they have
run, but no call is made then that would use it.

`Interpreter.runLine_keeps` says so of a line: whatever discreet calls leave in force, the
line leaves in force, whichever commands it consists of and however it ends.  What there is
to know of a command is that its output goes into a pipe when it is run
(`Command.openPipe_opened`), and its errors to standard error.
-/
import PipelineShell.Interpreter
import PipelineShell.Proofs.Intent
import PipelineShell.Proofs.Pipeline.Upkeep

namespace PipelineShell

set_option autoImplicit false

open Stateful

variable {W : Type} [Host W]

/-- What is written there is not seen on standard output. -/
inductive OutputHandle.Aside : OutputHandle → Prop
  | scratch : Aside .scratch
  | pipe (id : Nat) : Aside (.pipe id)
  | standardError : Aside .standardError

/-- The output of a program that is started goes into a pipe. -/
inductive LaunchOutput.Piped : LaunchOutput → Prop
  | captured : Piped .captured
  | pipe (id : Nat) : Piped (.handle (.pipe id))

/-- The calls of which nothing can come on standard output. -/
inductive Host.Discreet : {α : Type} → StateM W α → Prop
  | changeDirectory (path : Path) : Discreet (Host.changeDirectory path)
  | terminate (pid : Nat) : Discreet (Host.terminate pid)
  | openPipe : Discreet Host.openPipe
  | readToEnd (input : InputHandle) : Discreet (Host.readToEnd input)
  | write {output : OutputHandle} (aside : output.Aside) (bytes : Bytes) :
      Discreet (Host.write output bytes)
  | flush {output : OutputHandle} (aside : output.Aside) : Discreet (Host.flush output)
  | closeInput (input : InputHandle) : Discreet (Host.closeInput input)
  | closeOutput (output : OutputHandle) : Discreet (Host.closeOutput output)
  | deliver (pipe : Nat) (bytes : Bytes) : Discreet (Host.deliver pipe bytes)
  | finishDelivery (delivery : Nat) : Discreet (Host.finishDelivery delivery)
  | spawn {launch : Launch} (output : launch.output.Piped) (error : launch.error = .standardError) :
      Discreet (Host.spawn launch)
  | capture (child : Child) : Discreet (Host.capture child)
  | wait (child : Child) : Discreet (Host.wait child)
  | kill (child : Child) : Discreet (Host.kill child)

/-- Discreet calls leave this in force. -/
def Host.Sheltered (holds : W → Prop) : Prop :=
  ∀ {α : Type} {operation : StateM W α}, Discreet operation → Keeps holds operation

/-- It holds of the world. -/
def Context.InWorld (holds : W → Prop) (context : Context W) : Prop := holds context.world

variable {holds : W → Prop} (sheltered : Host.Sheltered holds)
include sheltered

theorem Host.Sheltered.act {α : Type} {operation : StateM W α} (discreet : Discreet operation) :
    Keeps (Context.InWorld holds) (Context.act operation) :=
  fun context here => sheltered discreet context.world here

theorem Host.Sheltered.writeAll {output : OutputHandle} (aside : output.Aside) (bytes : Bytes) :
    Keeps (Context.InWorld holds) (Context.act (Output.writeAll output bytes)) :=
  fun context here =>
    Output.writeAll_keeps (fun bytes => sheltered (.write aside bytes)) bytes context.world here

/-! ## Streams -/

namespace Streams

variable (streams : Streams)

theorem bindInput_sheltered (input : InputHandle) :
    Keeps (Context.InWorld holds) (streams.bindInput input) :=
  (sheltered.act (.closeInput _)).bind fun _ => .pure _

theorem bindOutput_sheltered (output : OutputHandle) :
    Keeps (Context.InWorld holds) (streams.bindOutput output) :=
  (sheltered.act (.closeOutput _)).bind fun _ => .pure _

/-- The errors still go where they went. -/
theorem bindInput_error (input : InputHandle) :
    Ensures (Context.InWorld holds) (streams.bindInput input) fun bound context =>
      bound.error = streams.error ∧ Context.InWorld holds context :=
  fun context here => ⟨rfl, streams.bindInput_sheltered sheltered input context here⟩

theorem bindOutput_error (output : OutputHandle) :
    Ensures (Context.InWorld holds) (streams.bindOutput output) fun bound context =>
      bound.error = streams.error ∧ Context.InWorld holds context :=
  fun context here => ⟨rfl, streams.bindOutput_sheltered sheltered output context here⟩

theorem bindError_sheltered (error : OutputHandle) :
    Keeps (Context.InWorld holds) (streams.bindError error) :=
  (sheltered.act (.closeOutput _)).bind fun _ => .pure _

theorem release_sheltered : Keeps (Context.InWorld holds) (streams.release) :=
  (sheltered.act (.closeInput _)).bind fun _ =>
    (sheltered.act (.closeOutput _)).bind fun _ => sheltered.act (.closeOutput _)

end Streams

/-! ## Builtins -/

namespace Builtin

variable (builtin : Builtin)

theorem closePipe_sheltered : Keeps (Context.InWorld holds) builtin.closePipe := by
  unfold closePipe
  cases builtin.pipe with
  | none => exact .pure _
  | some pipe => exact (sheltered.act (.closeOutput _)).bind fun _ => .pure _

theorem setOutput_sheltered (output : OutputHandle) :
    Keeps (Context.InWorld holds) (builtin.setOutput output) :=
  (builtin.streams.bindOutput_sheltered sheltered output).bind fun _ =>
    closePipe_sheltered sheltered _

theorem openPipe_sheltered : Keeps (Context.InWorld holds) builtin.openPipe := by
  refine (sheltered.act .openPipe).bind fun answer => ?_
  cases answer with
  | error fault => exact .pure _
  | ok pipe => exact (builtin.setOutput_sheltered sheltered _).bind fun _ => .pure _

theorem startDelivery_sheltered : Keeps (Context.InWorld holds) builtin.startDelivery := by
  unfold startDelivery
  cases builtin.pipe with
  | none => exact .pure _
  | some pipe =>
      refine (builtin.streams.bindOutput_sheltered sheltered _).bind fun streams => ?_
      exact (sheltered.act (.deliver pipe _)).bind fun _ => .pure _

/-- What a builtin does is discreet, be it only to look at the processes. -/
theorem deed_sheltered (reading : Except EarlyExit Invocation) :
    Keeps (Context.InWorld holds) (deed reading) := by
  by_cases lists : reading = .ok .ps
  · rw [lists]
    exact fun _ here => here
  · exact deed_keeps reading lists
      { changeDirectory := fun path => sheltered (.changeDirectory path)
        terminate := fun pid => sheltered (.terminate pid) }

/-- And so is what it says, if nobody looks at its streams. -/
theorem perform_sheltered {streams : Streams} (output : streams.output.Aside)
    (error : streams.error.Aside) (reading : Except EarlyExit Invocation) :
    Keeps (Context.InWorld holds) (perform streams reading) := by
  rw [perform_deed]
  refine (deed_sheltered sheltered reading).bind fun intent context here => ?_
  exact (intent.carryOut_relates
    (fun pieces => keeps_iff_relates.1
      (Output.writePieces_keeps (fun bytes => sheltered (.write output bytes)) pieces))
    (fun pieces => keeps_iff_relates.1
      (Output.writePieces_keeps (fun bytes => sheltered (.write error bytes)) pieces))
    context context ⟨rfl, rfl, rfl, here⟩).2.world.2

/-- A builtin that has its output in a buffer runs without anything being seen of it. -/
theorem run_sheltered (output : builtin.streams.output.Aside)
    (error : builtin.streams.error.Aside) :
    Keeps (Context.InWorld holds) builtin.run := by
  unfold run
  split
  · exact .pure _
  · exact .pure _
  · refine (perform_sheltered sheltered output error _).bind fun (accepted, result) => ?_
    refine (sheltered.act (.flush output)).bind fun _ => ?_
    refine (builtin.streams.bindInput_sheltered sheltered _).bind fun streams => ?_
    refine (startDelivery_sheltered sheltered _).bind fun concluded => ?_
    cases result <;> exact .pure _

theorem output_sheltered (error : builtin.streams.error.Aside) :
    Keeps (Context.InWorld holds) builtin.output := by
  intro context here
  cases status : builtin.status with
  | some code => simpa only [output, status, pure_apply] using here
  | none =>
      rw [output_apply status]
      exact run_sheltered sheltered (builtin.withOutput .scratch) .scratch error _
        (builtin.setOutput_sheltered sheltered .scratch context here)

theorem wait_sheltered : Keeps (Context.InWorld holds) builtin.wait := by
  unfold wait
  cases builtin.delivery with
  | none => exact .pure _
  | some delivery => exact (sheltered.act (.finishDelivery delivery)).bind fun _ => .pure _

theorem release_sheltered : Keeps (Context.InWorld holds) builtin.release :=
  (builtin.streams.release_sheltered sheltered).bind fun _ =>
    (builtin.closePipe_sheltered sheltered).bind fun _ => .pure _

end Builtin

/-! ## Programs -/

namespace External

variable (external : External)

theorem openPipe_sheltered : Keeps (Context.InWorld holds) external.openPipe := by
  refine (sheltered.act .openPipe).bind fun answer => ?_
  cases answer with
  | error fault => exact .pure _
  | ok pipe =>
      refine Keeps.bind ?_ fun _ => .pure _
      exact (external.streams.bindOutput_sheltered sheltered _).bind fun _ => .pure _

theorem closeLaunchOutput_sheltered (output : LaunchOutput) :
    Keeps (Context.InWorld holds) (closeLaunchOutput output) := by
  cases output with
  | handle handle => exact sheltered.act (.closeOutput _)
  | captured => exact .pure _

/-- A program whose output goes into a pipe starts without anything being seen of it. -/
theorem start_sheltered {output : LaunchOutput} (piped : output.Piped)
    (error : external.streams.error = .standardError) :
    Keeps (Context.InWorld holds) (external.start output) := by
  unfold start
  refine Keeps.bind ?_ fun session => Keeps.bind ?_ fun located => ?_
  · exact fun _ here => here
  · exact fun _ here => here
  cases located with
  | none =>
      exact (closeLaunchOutput_sheltered sheltered output).bind fun _ =>
        (external.streams.release_sheltered sheltered).bind fun _ => .pure _
  | some path =>
      refine Keeps.bind ?_ fun process => Keeps.bind ?_ fun answer => ?_
      · exact fun _ here => here
      · exact sheltered.act (.spawn piped error)
      · cases answer <;> exact .pure _

theorem run_sheltered {pipe : Nat} (output : external.streams.output = .pipe pipe)
    (error : external.streams.error = .standardError) :
    Keeps (Context.InWorld holds) external.run := by
  have piped : (LaunchOutput.handle external.streams.output).Piped := output ▸ .pipe pipe
  unfold run
  split
  · exact .pure _
  · -- what is started still has the errors, and its output is handed over apart
    refine (start_sheltered sheltered { external with streams := { external.streams with
      output := .standardOutput } } piped error).bind fun (answer, started) => ?_
    cases answer <;> exact .pure _
  · exact .pure _

theorem wait_sheltered : Keeps (Context.InWorld holds) external.wait := by
  unfold wait
  cases external.progress with
  | running child =>
      refine (sheltered.act (.wait child)).bind fun answer => ?_
      cases answer <;> exact .pure _
  | _ => exact .pure _

theorem collect_sheltered (error : external.streams.error = .standardError) :
    Keeps (Context.InWorld holds) external.collect := by
  refine (start_sheltered sheltered external .captured error).bind fun (answer, started) => ?_
  cases answer with
  | error fault => exact .pure _
  | ok child =>
      refine (sheltered.act (.capture child)).bind fun captured => ?_
      cases captured with
      | error fault => exact .pure _
      | ok ended =>
          dsimp only
          split <;> exact .pure _

theorem output_sheltered (error : external.streams.error = .standardError) :
    Keeps (Context.InWorld holds) external.output := by
  unfold output
  split
  · split
    · exact .pure _
    · split
      · exact .pure _
      · exact external.collect_sheltered sheltered error
  · exact .pure _
  · refine (external.wait_sheltered sheltered).bind fun (answer, waited) => ?_
    cases answer <;> exact .pure _

theorem abort_sheltered : Keeps (Context.InWorld holds) external.abort := by
  unfold abort
  cases external.progress with
  | running child => exact (sheltered.act (.kill child)).bind fun _ => .pure _
  | _ => exact .pure _

theorem release_sheltered : Keeps (Context.InWorld holds) external.release :=
  external.streams.release_sheltered sheltered

end External

/-! ## Scripted commands -/

namespace Scripted

variable (scripted : Scripted)

omit sheltered in
omit [Host W] in
theorem note_sheltered (call : String) : Keeps (Context.InWorld holds) (scripted.note call) :=
  fun _ here => here

theorem setInput_sheltered (input : InputHandle) :
    Keeps (Context.InWorld holds) (scripted.setInput input) :=
  (scripted.note_sheltered _).bind fun _ =>
    (scripted.streams.bindInput_sheltered sheltered input).bind fun _ => .pure _

theorem setOutput_sheltered (output : OutputHandle) :
    Keeps (Context.InWorld holds) (scripted.setOutput output) :=
  (scripted.note_sheltered _).bind fun _ =>
    (scripted.streams.bindOutput_sheltered sheltered output).bind fun _ => .pure _

theorem setError_sheltered (error : OutputHandle) :
    Keeps (Context.InWorld holds) (scripted.setError error) :=
  (scripted.note_sheltered _).bind fun _ =>
    (scripted.streams.bindError_sheltered sheltered error).bind fun _ => .pure _

theorem openPipe_sheltered : Keeps (Context.InWorld holds) scripted.openPipe := by
  refine (scripted.note_sheltered _).bind fun _ => ?_
  cases scripted.script.pipeFailure with
  | some fault => exact .pure _
  | none =>
      refine (sheltered.act .openPipe).bind fun answer => ?_
      cases answer with
      | error fault => exact .pure _
      | ok pipe => exact (scripted.setOutput_sheltered sheltered _).bind fun _ => .pure _

theorem text_sheltered : Keeps (Context.InWorld holds) scripted.text := by
  refine Keeps.bind ?_ fun _ => .pure _
  unfold received
  split
  · refine (sheltered.act (.readToEnd _)).bind fun answer => ?_
    cases answer <;> exact .pure _
  · exact .pure _

/-- What is left of a run when the text is printed: streams are let go, and complaints made. -/
def conclude : StateM (Context W) (Except ShellError Unit × Scripted) := do
  let streams ← scripted.streams.bindOutput .standardOutput
  let streams ← streams.bindInput .inherited
  let _ ← Context.act (Output.writeAll streams.error scripted.script.complains)
  let scripted := { scripted with streams, inputBound := false, outputBound := false }
  match scripted.script.runFailure with
  | some fault => pure (.error fault, scripted)
  | none => pure (.ok (), scripted)

theorem conclude_sheltered (error : scripted.streams.error.Aside) :
    Keeps (Context.InWorld holds) scripted.conclude := by
  refine Keeps.bind_knowing (scripted.streams.bindOutput_error sheltered _) fun unbound same => ?_
  refine Keeps.bind_knowing (unbound.bindInput_error sheltered _) fun streams still => ?_
  have aside : streams.error.Aside := by rwa [still, same]
  refine (sheltered.writeAll aside _).bind fun _ => ?_
  dsimp only
  cases scripted.script.runFailure <;> exact .pure _

theorem run_sheltered (output : scripted.streams.output.Aside)
    (error : scripted.streams.error.Aside) :
    Keeps (Context.InWorld holds) scripted.run := by
  refine (scripted.note_sheltered _).bind fun _ => ?_
  refine (scripted.text_sheltered sheltered).bind fun text => ?_
  dsimp only
  split
  · exact (sheltered.writeAll output text).bind fun _ => scripted.conclude_sheltered sheltered error
  · exact scripted.conclude_sheltered sheltered error

theorem output_sheltered (error : scripted.streams.error.Aside) :
    Keeps (Context.InWorld holds) scripted.output := by
  refine (scripted.note_sheltered _).bind fun _ => ?_
  refine (scripted.text_sheltered sheltered).bind fun text => ?_
  refine Keeps.bind_knowing (scripted.streams.bindInput_error sheltered _) fun streams same => ?_
  have aside : streams.error.Aside := by rwa [same]
  refine (sheltered.writeAll aside _).bind fun _ => ?_
  dsimp only
  cases scripted.script.outputFailure <;> exact .pure _

omit [Host W] sheltered in
theorem wait_sheltered : Keeps (Context.InWorld holds) scripted.wait :=
  (scripted.note_sheltered _).bind fun _ => .pure _

omit [Host W] sheltered in
theorem abort_sheltered : Keeps (Context.InWorld holds) scripted.abort := by
  unfold abort
  split
  · exact (scripted.note_sheltered _).bind fun _ => .pure _
  · exact .pure _

theorem release_sheltered : Keeps (Context.InWorld holds) scripted.release :=
  scripted.streams.release_sheltered sheltered

end Scripted

/-! ## Commands -/

namespace Command

variable (command : Command)

theorem setInput_sheltered (input : InputHandle) :
    Keeps (Context.InWorld holds) (command.setInput input) := by
  cases command with
  | builtin b => exact (b.streams.bindInput_sheltered sheltered input).bind fun _ => .pure _
  | external e => exact (e.streams.bindInput_sheltered sheltered input).bind fun _ => .pure _
  | scripted s => exact s.setInput_sheltered sheltered input

theorem setError_sheltered (error : OutputHandle) :
    Keeps (Context.InWorld holds) (command.setError error) := by
  cases command with
  | builtin b => exact (b.streams.bindError_sheltered sheltered error).bind fun _ => .pure _
  | external e => exact (e.streams.bindError_sheltered sheltered error).bind fun _ => .pure _
  | scripted s => exact s.setError_sheltered sheltered error

theorem openPipe_sheltered : Keeps (Context.InWorld holds) command.openPipe := by
  cases command with
  | builtin b => exact (b.openPipe_sheltered sheltered).bind fun _ => .pure _
  | external e => exact (e.openPipe_sheltered sheltered).bind fun _ => .pure _
  | scripted s => exact (s.openPipe_sheltered sheltered).bind fun _ => .pure _

/-- **A command whose output goes into a pipe runs without anything being seen of it.** -/
theorem run_sheltered {pipe : Nat} (piped : command.Piped pipe)
    (error : command.streams.error = .standardError) :
    Keeps (Context.InWorld holds) command.run := by
  have reports : command.streams.error.Aside := error ▸ .standardError
  cases command with
  | builtin b =>
      have buffered : b.streams.output.Aside := piped.1 ▸ .scratch
      exact (b.run_sheltered sheltered buffered reports).bind fun _ => .pure _
  | external e => exact (e.run_sheltered sheltered piped error).bind fun _ => .pure _
  | scripted s =>
      have into : s.streams.output = .pipe pipe := piped
      exact (s.run_sheltered sheltered (into ▸ .pipe pipe) reports).bind fun _ => .pure _

/-- **And so is its output collected.** -/
theorem output_sheltered (error : command.streams.error = .standardError) :
    Keeps (Context.InWorld holds) command.output := by
  have reports : command.streams.error.Aside := error ▸ .standardError
  cases command with
  | builtin b => exact (b.output_sheltered sheltered reports).bind fun _ => .pure _
  | external e => exact (e.output_sheltered sheltered error).bind fun _ => .pure _
  | scripted s => exact (s.output_sheltered sheltered reports).bind fun _ => .pure _

theorem wait_sheltered : Keeps (Context.InWorld holds) command.wait := by
  cases command with
  | builtin b => exact (b.wait_sheltered sheltered).bind fun _ => .pure _
  | external e => exact (e.wait_sheltered sheltered).bind fun _ => .pure _
  | scripted s => exact s.wait_sheltered.bind fun _ => .pure _

theorem abort_sheltered : Keeps (Context.InWorld holds) command.abort := by
  cases command with
  | builtin b => exact .pure _
  | external e => exact (e.abort_sheltered sheltered).bind fun _ => .pure _
  | scripted s => exact s.abort_sheltered.bind fun _ => .pure _

theorem release_sheltered : Keeps (Context.InWorld holds) command.release := by
  cases command with
  | builtin b => exact b.release_sheltered sheltered
  | external e => exact e.release_sheltered sheltered
  | scripted s => exact s.release_sheltered sheltered

omit sheltered in
theorem setError_error (error : OutputHandle) (context : Context W) :
    (command.setError error context).1.streams.error = error := by
  cases command <;> rfl

/-- A pipe is opened for the output of a stage before it is run, and its errors are shown. -/
theorem maintains : contract.Maintains (pure .standardError) (fun _ => True)
    (fun command => ∃ pipe, command.Piped pipe) (fun _ => True) (Context.InWorld holds) where
  setInput command input _ context here :=
    ⟨trivial, command.setInput_sheltered sheltered input context here⟩
  openPipe command _ context here := by
    refine ⟨fun reader opened => ?_, fun _ _ => trivial,
      command.openPipe_sheltered sheltered context here⟩
    obtain ⟨pipe, -, piped, -⟩ := openPipe_opened (Prod.ext opened rfl)
    exact ⟨pipe, piped⟩
  run command := by
    rintro ⟨pipe, piped⟩ context here
    have bound := command.setError_error .standardError context
    have still := ((command.setError_keeps .standardError context).2.1 pipe).2 piped
    exact ⟨trivial, run_sheltered sheltered _ still bound _
      (command.setError_sheltered sheltered .standardError context here)⟩
  output command _ context here :=
    ⟨trivial, output_sheltered sheltered _ (command.setError_error .standardError context) _
      (command.setError_sheltered sheltered .standardError context here)⟩
  wait command _ context here := ⟨trivial, command.wait_sheltered sheltered context here⟩
  abort command _ context here := ⟨trivial, command.abort_sheltered sheltered context here⟩
  release command _ := command.release_sheltered sheltered

end Command

/-! ## Lines -/

/-- **Nothing is seen of a line on standard output.**  Whatever discreet calls leave in force,
the line leaves in force. -/
theorem Interpreter.runLine_keeps [ArgumentReader] (registry : Registry) (line : String) :
    Keeps (Context.InWorld holds) (runLine registry line) := by
  unfold runLine
  cases Pipeline.construct registry line with
  | error fault => exact .pure _
  | ok stages => exact (Command.maintains sheltered).execute stages fun _ _ => trivial

end PipelineShell
