/-
# Interpreter -- running lines

`Interpreter.runLine` runs one line and answers its outcome.
`Interpreter.evaluateAndPrint` also shows the outcome: the output of the last
stage on standard output, one line per failure on standard error.
`Interpreter.repl` does so for line after line of the line editor, until a line
leaves an exit code in the session, the input ends, or no line can be read.

Output that does not get through is lost, and the shell goes on.  A failure that
cannot be told on standard error is another matter: it is a `Panic`, which ends
whatever the shell is doing.
-/
import PipelineShell.LineEditor
import PipelineShell.Pipeline.Construction
import PipelineShell.Pipeline.Execution

namespace PipelineShell.Interpreter

set_option autoImplicit false

variable {W : Type} [Host W] [ArgumentReader]

/-! ## One line -/

def runLine (registry : Registry) (line : String) :
    StateM (Context W) (Except ShellError Pipeline.Outcome) :=
  match Pipeline.construct registry line with
  | .error fault => pure (.error fault)
  | .ok stages => Pipeline.run .standardError stages

/-- The end of the shell when standard error refuses what it is to be told. -/
structure Panic where
  cause : IoError
  deriving DecidableEq, Repr

/-- Prints a line on standard error. -/
def complain (text : String) : StateM (Context W) (Except Panic Unit) := do
  let (_, result) ← Context.act (Output.writeLine .standardError text)
  pure (result.mapError Panic.mk)

def print (bytes : Bytes) : StateM W (Except IoError Unit) := do
  match ← Output.writeAll .standardOutput bytes with
  | (_, .ok ()) => Host.flush .standardOutput
  | (_, .error fault) => pure (.error fault)

def complainAll : List Pipeline.StageError → StateM (Context W) (Except Panic Unit)
  | [] => pure (.ok ())
  | failure :: rest => do
      match ← complain failure.error.message with
      | .ok () => complainAll rest
      | .error panic => pure (.error panic)

/-- Runs one line and shows what came of it; answers the status of the line. -/
def evaluateAndPrint (registry : Registry) (line : String) :
    StateM (Context W) (Except Panic ExitCode) := do
  match ← runLine registry line with
  | .ok outcome =>
    let _ ← Context.act (print outcome.stdout)
    let told ← complainAll outcome.errors
    pure (told.map fun () => outcome.status)
  | .error .emptyLine => pure (.ok 0)
  | .error fault =>
    let told ← complain fault.message
    pure (told.map fun () => fault.exitCode)

/-! ## Line after line -/

variable [LineEditor W]

/-- Keeps a line for the user to call back, unless it is blank. -/
def remember (line : String) : StateM (Context W) (Except IoError Unit) :=
  if line.toList.all Text.isBlank then pure (.ok ())
  else Context.act (LineEditor.remember line)

/-- Asks for a line at most so many times; answers the exit code that one of the
lines left behind, or nothing at the end of the input, or why no line can be
read. -/
def evaluateLines (registry : Registry) :
    Nat → StateM (Context W) (Except Panic (Except IoError (Option ExitCode)))
  | 0 => pure (.ok (.ok none))
  | reads + 1 => do
      let prompt ← Context.ask (·.prompt)
      match ← Context.act (LineEditor.readLine prompt) with
      | .error .interrupted => evaluateLines registry reads
      | .error .ended => pure (.ok (.ok none))
      | .error (.failed cause) => pure (.ok (.error cause))
      | .ok line =>
        match ← remember line with
        | .error cause => pure (.ok (.error cause))
        | .ok () =>
          match ← evaluateAndPrint registry line with
          | .error panic => pure (.error panic)
          | .ok _ =>
            match ← Context.ask (·.exitCode) with
            | some code => pure (.ok (.ok (some code)))
            | none => evaluateLines registry reads

/-- Evaluates the lines that the line editor gives. -/
def repl (registry : Registry) :
    StateM (Context W) (Except Panic (Except IoError (Option ExitCode))) := do
  match ← Context.act LineEditor.start with
  | .error cause => pure (.ok (.error cause))
  | .ok () => evaluateLines registry ((← Context.look LineEditor.readsLeft) + 1)

end PipelineShell.Interpreter
