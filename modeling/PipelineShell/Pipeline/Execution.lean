/-
# Pipeline.Execution -- running stages side by side

`execute` wires stages through pipes and runs them from left to right.  It is
written against a `Contract`, the calls that a stage answers, and knows nothing
else about stages; `Command.contract` is the contract of commands.

The call protocol of `n` stages is fixed by `n` alone as long as every pipe can be
opened: stages `0` to `n - 2` are each given the input from their left, asked for
a pipe, given an error stream and run; the last stage is given input and error
stream, asked for its output and waited for; then the others are waited for in
order.  A stage that fails changes nothing in this.  If a pipe cannot be opened,
the stages that run already are aborted and waited for, one after the other, and
nothing else happens.
-/
import PipelineShell.Command
import PipelineShell.Pipeline.Outcome

namespace PipelineShell.Pipeline

set_option autoImplicit false

/-- The calls that a stage of type `S` answers, acting on a context of type `C`.
`R` are the read ends of pipes and `E` the error streams. -/
structure Contract (S R E C : Type) where
  name : S → String
  setInput : S → R → StateM C S
  openPipe : S → StateM C (Except IoError R × S)
  setError : S → E → StateM C S
  run : S → StateM C (Except ShellError Unit × S)
  output : S → StateM C (Except ShellError Bytes × S)
  wait : S → StateM C (Except ShellError ExitCode × S)
  abort : S → StateM C S
  release : S → StateM C Unit

variable {S R E C : Type}

/-- What has been started so far: the stages in order, the failures of their
runs, and the read end that awaits the next stage. -/
structure Progress (S R : Type) where
  started : List S
  errors : List StageError
  pending : Option R

/-- Gives a stage the read end that awaits it, if there is one. -/
def connect (contract : Contract S R E C) (stage : S) : Option R → StateM C S
  | some input => contract.setInput stage input
  | none => pure stage

def failure {α : Type} (stage : Nat) : Except ShellError α → List StageError
  | .ok _ => []
  | .error error => [⟨stage, error⟩]

def abortAll (contract : Contract S R E C) : List S → StateM C (List S)
  | [] => pure []
  | stage :: rest => do
      let stage ← contract.abort stage
      let (_, stage) ← contract.wait stage
      let rest ← abortAll contract rest
      pure (stage :: rest)

def releaseAll (contract : Contract S R E C) : List S → StateM C Unit
  | [] => pure ()
  | stage :: rest => do
      contract.release stage
      releaseAll contract rest

/-- Starts a stage that is not the last.  On failure this stage is gone, and the
started ones, which have been aborted, are handed back beside the error. -/
def startStage (contract : Contract S R E C) (freshError : StateM C E) (stage : S)
    (progress : Progress S R) :
    StateM C (Except (ShellError × List S) (Progress S R)) := do
  let index := progress.started.length
  let stage ← connect contract stage progress.pending
  match ← contract.openPipe stage with
  | (.error cause, stage) =>
    contract.release stage
    let stopped ← abortAll contract progress.started
    pure (.error (.pipe (contract.name stage) cause, stopped))
  | (.ok reader, stage) =>
    let stage ← contract.setError stage (← freshError)
    let (result, stage) ← contract.run stage
    pure (.ok ⟨progress.started ++ [stage], progress.errors ++ failure index result, some reader⟩)

/-- Starts the stages before the last, from left to right.  On failure those that
were never reached are let go first, and then the aborted ones. -/
def startAll (contract : Contract S R E C) (freshError : StateM C E) :
    List S → Progress S R → StateM C (Except ShellError (Progress S R))
  | [], progress => pure (.ok progress)
  | stage :: rest, progress => do
      match ← startStage contract freshError stage progress with
      | .error (fault, stopped) =>
        releaseAll contract rest
        releaseAll contract stopped
        pure (.error fault)
      | .ok progress => startAll contract freshError rest progress

/-- The bytes of an answer to `output`, and the failure that it counts as.  To
end with a status other than 0 is no failure. -/
def outputResult (stage : Nat) : Except ShellError Bytes → Bytes × List StageError
  | .ok bytes => (bytes, [])
  | .error (.exited _ _ bytes) => (bytes, [])
  | .error error => ([], [⟨stage, error⟩])

/-- The status that an answer to `wait` stands for. -/
def statusOf : Except ShellError ExitCode → ExitCode
  | .ok code => code
  | .error error => error.exitCode

/-- Waits for stages in order; answers their failures, counted from `index`. -/
def waitAll (contract : Contract S R E C) : Nat → List S → StateM C (List StageError × List S)
  | _, [] => pure ([], [])
  | index, stage :: rest => do
      let (result, stage) ← contract.wait stage
      let (errors, rest) ← waitAll contract (index + 1) rest
      pure (failure index result ++ errors, stage :: rest)

/-- Collects the last stage, and then the others. -/
def finish (contract : Contract S R E C) (freshError : StateM C E) (last : S)
    (progress : Progress S R) : StateM C Outcome := do
  let index := progress.started.length
  let last ← connect contract last progress.pending
  let last ← contract.setError last (← freshError)
  let (produced, last) ← contract.output last
  let (ended, last) ← contract.wait last
  let (stdout, outputErrors) := outputResult index produced
  let (waitErrors, started) ← waitAll contract 0 progress.started
  releaseAll contract started
  contract.release last
  pure
    { stdout
      status := statusOf ended
      errors := Outcome.inOrder
        (progress.errors ++ outputErrors ++ failure index ended ++ waitErrors) }

/-- Runs stages as a pipeline, every error stream bound to an answer of
`freshError` of its own. -/
def execute (contract : Contract S R E C) (freshError : StateM C E) (stages : List S) :
    StateM C (Except ShellError Outcome) :=
  match stages.getLast? with
  | none => pure (.error .emptyLine)
  | some last => do
      match ← startAll contract freshError stages.dropLast ⟨[], [], none⟩ with
      | .error fault => contract.release last *> pure (.error fault)
      | .ok progress => .ok <$> finish contract freshError last progress

end PipelineShell.Pipeline

namespace PipelineShell

def Command.contract {W : Type} [Host W] :
    Pipeline.Contract Command InputHandle OutputHandle (Context W) where
  name := Command.name
  setInput := Command.setInput
  openPipe := Command.openPipe
  setError := Command.setError
  run := Command.run
  output := Command.output
  wait := Command.wait
  abort := Command.abort
  release := Command.release

/-- Runs commands as a pipeline, every error stream bound to `error`. -/
def Pipeline.run {W : Type} [Host W] (error : OutputHandle) (stages : List Command) :
    StateM (Context W) (Except ShellError Pipeline.Outcome) :=
  Pipeline.execute Command.contract (pure error) stages

end PipelineShell
