/-
# Builtin.Basic -- a builtin as a command

A builtin command is parsed, run once, and waited for.  Running it does all its
work at once; what it wrote to its output is recorded, so the record can be asked
for again and again (`Builtin.output`).

When its output goes into a pipe (`Builtin.openPipe`), the builtin writes into a
scratch buffer and a background writer fills the pipe from the record, so a large
output never blocks the shell.  `Builtin.wait` joins that writer.

A call that is refused -- the command ran before, or has no arguments yet --
leaves streams, record and status as they are, except that `Builtin.output` has
by then bound its scratch buffer.
-/
import PipelineShell.Builtin.Execution
import PipelineShell.Streams
import PipelineShell.Text.Blank

namespace PipelineShell

set_option autoImplicit false

/-- A builtin with its arguments, its streams and what has become of it. -/
structure Builtin where
  kind : Builtin.Kind
  arguments : List String
  /-- The reading of the arguments, until the command has run. -/
  parsed : Option (Except EarlyExit Builtin.Invocation)
  streams : Streams
  /-- The pipe that the output is to be delivered into after the run. -/
  pipe : Option Nat
  /-- The background writer that delivers it. -/
  delivery : Option Nat
  /-- Every byte that the output stream has accepted. -/
  recorded : Bytes
  status : Option ExitCode

namespace Builtin

variable {W : Type} [Host W]

def fresh (kind : Kind) : Builtin :=
  { kind, arguments := [], parsed := none, streams := .standard, pipe := none,
    delivery := none, recorded := [], status := none }

def name (builtin : Builtin) : String := builtin.kind.name

/-- Gives the command its arguments.  Malformed ones are remembered, and reported
by the run. -/
def parseArguments [ArgumentReader] (builtin : Builtin) (words : List String) : Builtin :=
  { builtin with
    arguments := words
    parsed := some (Invocation.parse builtin.kind [builtin.kind.name] words) }

/-! ## Streams -/

/-- Lets go of the pipe that the output was to be delivered into. -/
def closePipe (builtin : Builtin) : StateM (Context W) Builtin := do
  match builtin.pipe with
  | none => pure builtin
  | some pipe =>
    Context.act (Host.closeOutput (.pipe pipe))
    pure { builtin with pipe := none }

def setInput (builtin : Builtin) (input : InputHandle) : StateM (Context W) Builtin := do
  pure { builtin with streams := ← builtin.streams.bindInput input }

/-- Binds the output; a pipe opened before is given up. -/
def setOutput (builtin : Builtin) (output : OutputHandle) : StateM (Context W) Builtin := do
  let streams ← builtin.streams.bindOutput output
  closePipe { builtin with streams }

def setError (builtin : Builtin) (error : OutputHandle) : StateM (Context W) Builtin := do
  pure { builtin with streams := ← builtin.streams.bindError error }

/-- Opens a pipe for the output and hands out its read end. -/
def openPipe (builtin : Builtin) : StateM (Context W) (Except IoError InputHandle × Builtin) := do
  match ← Context.act Host.openPipe with
  | .error fault => pure (.error fault, builtin)
  | .ok pipe =>
    let builtin ← builtin.setOutput .scratch
    pure (.ok (.pipe pipe), { builtin with pipe := some pipe })

/-! ## Running -/

/-- A text without the white space at its end. -/
def trimmed (text : String) : String :=
  String.ofList (text.toList.reverse.dropWhile Text.isBlank).reverse

/-- Prints one line of a report; a failure to do so is an error of the command. -/
def report (output : OutputHandle) (text : String) (code : ExitCode) :
    StateM (Context W) (Bytes × Except ShellError ExitCode) := do
  let (accepted, result) ← Context.act (Output.writeLine output text)
  match result with
  | .ok () => pure (accepted, .ok code)
  | .error fault => pure (accepted, .error (.io fault))

/-- Carries out what the arguments were read as.  Answers the bytes that the
output stream accepted, and the status.  A complaint goes to the error stream and
makes the status 1. -/
def perform (streams : Streams) :
    Except EarlyExit Invocation → StateM (Context W) (Bytes × Except ShellError ExitCode)
  | .ok invocation => do
      match ← invocation.execute streams.output with
      | (accepted, .ok code) => pure (accepted, .ok code)
      | (accepted, .error complaint) =>
          let (_, result) ← report streams.error complaint.message 1
          pure (accepted, result)
  | .error early => do
      if early.success then report streams.output (trimmed early.output) 0
      else
        let (_, result) ← report streams.error (trimmed early.output) 1
        pure ([], result)

/-- Starts the background writer, if the output was to go into a pipe. -/
def startDelivery (builtin : Builtin) : StateM (Context W) Builtin := do
  match builtin.pipe with
  | none => pure builtin
  | some pipe =>
    let streams ← builtin.streams.bindOutput .standardOutput
    let delivery ← Context.act (Host.deliver pipe builtin.recorded)
    pure { builtin with streams, pipe := none, delivery := some delivery }

/-- Runs the command once.  Afterwards it holds neither its input nor a pipe. -/
def run (builtin : Builtin) : StateM (Context W) (Except ShellError Unit × Builtin) := do
  match builtin.status, builtin.parsed with
  | some _, _ => pure (.error (.alreadyRun builtin.name), builtin)
  | none, none => pure (.error (.notParsed builtin.name), builtin)
  | none, some parsed =>
    let (accepted, result) ← perform builtin.streams parsed
    let _ ← Context.act (Host.flush builtin.streams.output)
    let streams ← builtin.streams.bindInput .inherited
    let builtin ← startDelivery
      { builtin with streams, parsed := none, recorded := builtin.recorded ++ accepted }
    match result with
    | .ok code => pure (.ok (), { builtin with status := some code })
    | .error fault => pure (.error fault, { builtin with status := some 1 })

/-- What the command wrote to its output, running it first if need be. -/
def output (builtin : Builtin) : StateM (Context W) (Except ShellError Bytes × Builtin) := do
  match builtin.status with
  | some _ => pure (.ok builtin.recorded, builtin)
  | none =>
    let builtin ← builtin.setOutput .scratch
    match ← builtin.run with
    | (.ok (), builtin) => pure (.ok builtin.recorded, builtin)
    | (.error fault, builtin) => pure (.error fault, builtin)

/-- Waits until the output is delivered; answers the status. -/
def wait (builtin : Builtin) : StateM (Context W) (Except ShellError ExitCode × Builtin) := do
  match builtin.delivery with
  | none => pure (.ok (builtin.status.getD 0), builtin)
  | some delivery =>
    let _ ← Context.act (Host.finishDelivery delivery)
    pure (.ok (builtin.status.getD 0), { builtin with delivery := none })

/-- Lets go of everything the command holds. -/
def release (builtin : Builtin) : StateM (Context W) Unit := do
  builtin.streams.release
  let _ ← builtin.closePipe

end Builtin

end PipelineShell
