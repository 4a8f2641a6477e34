/-
# Scripted -- a command whose every answer is laid down beforehand

A scripted command stands in for a real one when the wiring of a pipeline is to
be watched.  Its `Script` says what it prints and how each call ends, and every
call is noted in the journal of the context under its label.  Unlike other
commands it may be run any number of times.
-/
import PipelineShell.Output
import PipelineShell.Streams

namespace PipelineShell

set_option autoImplicit false

structure Script where
  label : String
  /-- What it prints after everything it read. -/
  emits : Bytes
  /-- What it writes to its error stream. -/
  complains : Bytes
  /-- How `run` ends; `none` for success. -/
  runFailure : Option ShellError
  outputFailure : Option ShellError
  wait : Except ShellError ExitCode
  /-- Why no pipe can be made for its output. -/
  pipeFailure : Option IoError
  /-- It does not read its input. -/
  deaf : Bool
  /-- It takes no notice of being aborted. -/
  unstoppable : Bool

/-- A scripted command and its streams.  A stream that was never bound is not
used, the error stream apart. -/
structure Scripted where
  script : Script
  arguments : List String
  streams : Streams
  inputBound : Bool
  outputBound : Bool

namespace Scripted

variable {W : Type} [Host W]

def fresh (script : Script) : Scripted :=
  { script, arguments := [], streams := .standard, inputBound := false, outputBound := false }

def note (scripted : Scripted) (call : String) : StateM (Context W) Unit :=
  Context.note (scripted.script.label ++ ":" ++ call)

def setInput (scripted : Scripted) (input : InputHandle) : StateM (Context W) Scripted := do
  scripted.note "set_stdin"
  pure { scripted with streams := ← scripted.streams.bindInput input, inputBound := true }

def setOutput (scripted : Scripted) (output : OutputHandle) : StateM (Context W) Scripted := do
  scripted.note "set_stdout"
  pure { scripted with streams := ← scripted.streams.bindOutput output, outputBound := true }

def setError (scripted : Scripted) (error : OutputHandle) : StateM (Context W) Scripted := do
  scripted.note "set_stderr"
  pure { scripted with streams := ← scripted.streams.bindError error }

/-- Opens a pipe for the output, unless the script forbids it. -/
def openPipe (scripted : Scripted) :
    StateM (Context W) (Except IoError InputHandle × Scripted) := do
  scripted.note "stdout_pipe"
  match scripted.script.pipeFailure with
  | some fault => pure (.error fault, scripted)
  | none =>
    match ← Context.act Host.openPipe with
    | .error fault => pure (.error fault, scripted)
    | .ok pipe =>
      let scripted ← scripted.setOutput (.pipe pipe)
      pure (.ok (.pipe pipe), scripted)

/-- What arrives on the input, if one was bound and is listened to.  The standard
input of the shell is left to others. -/
def received (scripted : Scripted) : StateM (Context W) Bytes := do
  if scripted.inputBound && !scripted.script.deaf && scripted.streams.input != .inherited then
    match ← Context.act (Host.readToEnd scripted.streams.input) with
    | .ok bytes => pure bytes
    | .error _ => pure []
  else pure []

/-- Everything that was read, and then the script's own text. -/
def text (scripted : Scripted) : StateM (Context W) Bytes := do
  pure ((← scripted.received) ++ scripted.script.emits)

/-- Reads the input, prints, and lets go of input and output. -/
def run (scripted : Scripted) : StateM (Context W) (Except ShellError Unit × Scripted) := do
  scripted.note "run"
  let text ← scripted.text
  if scripted.outputBound then
    let _ ← Context.act (Output.writeAll scripted.streams.output text)
  let streams ← scripted.streams.bindOutput .standardOutput
  let streams ← streams.bindInput .inherited
  let _ ← Context.act (Output.writeAll streams.error scripted.script.complains)
  let scripted := { scripted with streams, inputBound := false, outputBound := false }
  match scripted.script.runFailure with
  | some fault => pure (.error fault, scripted)
  | none => pure (.ok (), scripted)

/-- The text that a run would print. -/
def output (scripted : Scripted) : StateM (Context W) (Except ShellError Bytes × Scripted) := do
  scripted.note "output"
  let text ← scripted.text
  let streams ← scripted.streams.bindInput .inherited
  let _ ← Context.act (Output.writeAll streams.error scripted.script.complains)
  let scripted := { scripted with streams, inputBound := false }
  match scripted.script.outputFailure with
  | some fault => pure (.error fault, scripted)
  | none => pure (.ok text, scripted)

def wait (scripted : Scripted) : StateM (Context W) (Except ShellError ExitCode × Scripted) := do
  scripted.note "wait"
  pure (scripted.script.wait, scripted)

def abort (scripted : Scripted) : StateM (Context W) Scripted := do
  if !scripted.script.unstoppable then scripted.note "abort"
  pure scripted

def release (scripted : Scripted) : StateM (Context W) Unit := scripted.streams.release

end Scripted

end PipelineShell
