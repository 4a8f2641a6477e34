/-
# External.Basic -- a program as a command

An external command starts a program and later collects it.  `External.run` only
starts it; `External.output` starts it with its output captured, and waits.
`Progress` says how far the command has come; a start that failed is remembered,
with the status that stands for the failure, and is never tried again.

The program sees what the session holds when it is started: its directory, and
the variables overlaid on the environment of the shell's process.
-/
import PipelineShell.External.Resolution
import PipelineShell.Streams

namespace PipelineShell

set_option autoImplicit false

/-- How far an external command has come. -/
inductive External.Progress where
  /-- Not started. -/
  | idle
  | running (child : Child)
  /-- The program ended, and was collected, with this status. -/
  | finished (code : ExitCode)
  /-- The program could not be found or started. -/
  | failed (code : ExitCode)
  deriving DecidableEq, Repr

/-- A program with its arguments and streams. -/
structure External where
  /-- The word for the program, and its arguments. -/
  words : List String
  streams : Streams
  /-- Output was bound by someone at some time. -/
  outputBound : Bool
  progress : External.Progress

namespace External

variable {W : Type} [Host W]

def fresh : External :=
  { words := [], streams := .standard, outputBound := false, progress := .idle }

def program (external : External) : String := external.words.head?.getD ""

def arguments (external : External) : List String := external.words.tail

def parseArguments (external : External) (words : List String) : External :=
  { external with words }

/-! ## Streams -/

def setInput (external : External) (input : InputHandle) : StateM (Context W) External := do
  pure { external with streams := ← external.streams.bindInput input }

def setOutput (external : External) (output : OutputHandle) : StateM (Context W) External := do
  let streams ← external.streams.bindOutput output
  pure { external with streams, outputBound := true }

def setError (external : External) (error : OutputHandle) : StateM (Context W) External := do
  pure { external with streams := ← external.streams.bindError error }

/-- Opens a pipe, binds its write end as output and hands out its read end. -/
def openPipe (external : External) :
    StateM (Context W) (Except IoError InputHandle × External) := do
  match ← Context.act Host.openPipe with
  | .error fault => pure (.error fault, external)
  | .ok pipe =>
    let external ← external.setOutput (.pipe pipe)
    pure (.ok (.pipe pipe), external)

/-! ## Starting -/

/-- The file that the word for the program stands for. -/
def located (external : External) (session : Session) (world : W) : Option Path :=
  let search := (session.value? (Host.environment world) "PATH").getD ""
  resolve (Host.isFile · world) (Utf8.encode search) session.directory
    (Path.ofString external.program)

/-- What is started for the command when its program is at `path`. -/
def launch (external : External) (session : Session) (process : Environment) (path : Path)
    (streams : Streams) (output : LaunchOutput) : Launch :=
  { program := path
    arguments := external.arguments
    environment := session.childEnvironment process
    choosesPath := (session.bindings.get? "PATH").isSome
    directory := session.directory
    input := streams.input
    output
    error := streams.error }

/-- Lets go of the stream that was meant for the output of a program. -/
def closeLaunchOutput : LaunchOutput → StateM (Context W) Unit
  | .handle output => Context.act (Host.closeOutput output)
  | .captured => pure ()

/-- Starts the program with the given output.  The command gives up its streams
in any case: they go to the program, or are closed. -/
def start (external : External) (output : LaunchOutput) :
    StateM (Context W) (Except ShellError Child × External) := do
  let streams := external.streams
  let external := { external with streams := Streams.standard }
  let session ← Context.ask id
  match ← Context.look (external.located session) with
  | none =>
    let fault := ShellError.notFound external.program
    closeLaunchOutput output
    streams.release
    pure (.error fault, { external with progress := .failed fault.exitCode })
  | some path =>
    let process ← Context.look Host.environment
    match ← Context.act (Host.spawn (external.launch session process path streams output)) with
    | .ok child => pure (.ok child, external)
    | .error cause =>
      let fault := ShellError.spawn external.program cause
      pure (.error fault, { external with progress := .failed fault.exitCode })

def run (external : External) : StateM (Context W) (Except ShellError Unit × External) := do
  match external.progress, external.words with
  | .idle, [] => pure (.error (.notParsed ""), external)
  | .idle, _ :: _ =>
    let output := external.streams.output
    let external :=
      { external with streams := { external.streams with output := .standardOutput } }
    match ← external.start (.handle output) with
    | (.ok child, external) => pure (.ok (), { external with progress := .running child })
    | (.error fault, external) => pure (.error fault, external)
  | _, _ => pure (.error (.alreadyRun external.program), external)

/-! ## Collecting -/

/-- Waits for the program to end; answers the status that stands for its end. -/
def wait (external : External) : StateM (Context W) (Except ShellError ExitCode × External) := do
  match external.progress with
  | .idle => pure (.ok 0, external)
  | .running child =>
    match ← Context.act (Host.wait child) with
    | .ok status => pure (.ok status.code, { external with progress := .finished status.code })
    | .error fault => pure (.error (.io fault), external)
  | .finished code => pure (.ok code, external)
  | .failed code => pure (.ok code, external)

/-- The error of asking for the output of a command whose start failed. -/
def startFailure (external : External) (code : ExitCode) : ShellError :=
  if code = 127 then .notFound external.program else .spawn external.program .notStarted

def collect (external : External) : StateM (Context W) (Except ShellError Bytes × External) := do
  match ← external.start .captured with
  | (.error fault, external) => pure (.error fault, external)
  | (.ok child, external) =>
    match ← Context.act (Host.capture child) with
    | .error fault => pure (.error (.io fault), external)
    | .ok (bytes, status) =>
      let external := { external with progress := .finished status.code }
      if status = .exited 0 then pure (.ok bytes, external)
      else pure (.error (.exited external.program status.code bytes), external)

/-- What the program writes to its output, if that has not been bound elsewhere.
A program that was started before is still waited for. -/
def output (external : External) : StateM (Context W) (Except ShellError Bytes × External) := do
  match external.progress with
  | .idle =>
    if external.outputBound then pure (.error (.stdoutBound external.program), external)
    else if external.words.isEmpty then pure (.error (.notParsed ""), external)
    else external.collect
  | .failed code => pure (.error (external.startFailure code), external)
  | _ =>
    match ← external.wait with
    | (.ok _, external) => pure (.error (.stdoutBound external.program), external)
    | (.error fault, external) => pure (.error fault, external)

def abort (external : External) : StateM (Context W) External := do
  match external.progress with
  | .running child =>
    let _ ← Context.act (Host.kill child)
    pure external
  | _ => pure external

/-- Lets go of the streams that the command still holds. -/
def release (external : External) : StateM (Context W) Unit := external.streams.release

end External

end PipelineShell
