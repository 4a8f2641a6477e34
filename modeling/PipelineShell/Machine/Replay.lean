/-
# Machine.Replay -- a run of the shell as far as its answers reach

The shell is one computation on the states of a world; a program of the machine
asks for one thing at a time and waits.  `Replay` makes the one out of the other.
A state of it holds the answers to what the shell has asked for so far, and the
shell is run on them from its start: each request is given the next answer, and
the first one for which there is none is left in `Replay.asked`.  What the shell
does after that does not count.  When the answer is there, the shell is run again
with one answer more.

What the shell can see without asking is what could be seen when the last answer
came.
-/
import PipelineShell.Machine.Host

namespace PipelineShell.Machine

set_option autoImplicit false

/-- What the shell asks of the world: one request for each operation that acts. -/
inductive Request where
  | changeDirectory (path : Path)
  | terminate (pid : Nat)
  | openPipe
  | read (input : InputHandle) (most : Nat)
  | readToEnd (input : InputHandle)
  | readLine
  | write (output : OutputHandle) (bytes : Bytes)
  | flush (output : OutputHandle)
  | closeInput (input : InputHandle)
  | closeOutput (output : OutputHandle)
  | deliver (pipe : Nat) (bytes : Bytes)
  | finishDelivery (courier : Nat)
  | spawn (launch : Launch)
  | capture (child : Child)
  | wait (child : Child)
  | kill (child : Child)
  deriving DecidableEq

namespace Request

@[reducible]
def Answer : Request → Type
  | .changeDirectory _ => Except IoError Unit
  | .terminate _ => Except Int Unit
  | .openPipe => Except IoError Nat
  | .read _ _ => Except IoError Bytes
  | .readToEnd _ => Except IoError Bytes
  | .readLine => Except IoError (Option Bytes)
  | .write _ _ => Except IoError Nat
  | .flush _ => Except IoError Unit
  | .closeInput _ => Unit
  | .closeOutput _ => Unit
  | .deliver _ _ => Nat
  | .finishDelivery _ => Except IoError Unit
  | .spawn _ => Except IoError Child
  | .capture _ => Except IoError (Bytes × ExitStatus)
  | .wait _ => Except IoError ExitStatus
  | .kill _ => Except IoError Unit

def noAnswer : (request : Request) → request.Answer
  | .changeDirectory _ => .error neverComes
  | .terminate _ => .error Errno.deadlock
  | .openPipe => .error neverComes
  | .read _ _ => .error neverComes
  | .readToEnd _ => .error neverComes
  | .readLine => .error neverComes
  | .write _ _ => .error neverComes
  | .flush _ => .error neverComes
  | .closeInput _ => ()
  | .closeOutput _ => ()
  | .deliver _ _ => 0
  | .finishDelivery _ => .error neverComes
  | .spawn _ => .error neverComes
  | .capture _ => .error neverComes
  | .wait _ => .error neverComes
  | .kill _ => .error neverComes

end Request

/-- A request with its answer, and what could be seen when that came. -/
structure Answered where
  request : Request
  answer : request.Answer
  view : View

/-- A run of the shell. -/
structure Replay where
  environment : Environment
  view : View
  /-- Answers that have not been used yet, in order. -/
  answers : List Answered
  /-- What was asked for when there were no more answers. -/
  asked : Option Request

namespace Replay

def ask (request : Request) : StateM Replay request.Answer := fun replay =>
  let halted : request.Answer × Replay :=
    (request.noAnswer, { replay with asked := replay.asked <|> some request })
  match replay.asked, replay.answers with
  | none, answered :: answers =>
      if same : answered.request = request then
        (same ▸ answered.answer, { replay with view := answered.view, answers })
      else halted
  | _, _ => halted

instance : Host Replay where
  canonicalize path replay := replay.view.canonicalize path
  isFile path replay := replay.view.isFile path
  currentDirectory replay := replay.view.currentDirectory
  changeDirectory path := ask (.changeDirectory path)
  environment := (·.environment)
  account := (·.view.account)
  processes := (·.view.processes)
  terminate pid := ask (.terminate pid)
  openPipe := ask .openPipe
  read input most := ask (.read input most)
  readToEnd input := ask (.readToEnd input)
  write output bytes := ask (.write output bytes)
  interruptionsLeft _ _ := 0
  flush output := ask (.flush output)
  closeInput input := ask (.closeInput input)
  closeOutput output := ask (.closeOutput output)
  deliver pipe bytes := ask (.deliver pipe bytes)
  finishDelivery courier := ask (.finishDelivery courier)
  spawn launch := ask (.spawn launch)
  capture child := ask (.capture child)
  wait child := ask (.wait child)
  kill child := ask (.kill child)

end Replay

end PipelineShell.Machine
