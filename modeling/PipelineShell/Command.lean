/-
# Command -- one stage of a pipeline

A command is a builtin, a program, or a scripted command.  All three answer the
same calls: arguments first, then streams, then either `run` or `output`, and
`wait` at the end.
-/
import PipelineShell.Builtin.Basic
import PipelineShell.External.Basic
import PipelineShell.Scripted

namespace PipelineShell

set_option autoImplicit false

/-- A stage of a pipeline. -/
inductive Command where
  | builtin (builtin : Builtin)
  | external (external : External)
  | scripted (scripted : Scripted)

namespace Command

variable {W : Type} [Host W]

def ofKind (kind : Builtin.Kind) : Command := .builtin (.fresh kind)

def ofProgram : Command := .external .fresh

def name : Command → String
  | .builtin b => b.name
  | .external e => e.program
  | .scripted s => s.script.label

def arguments : Command → List String
  | .builtin b => b.arguments
  | .external e => e.arguments
  | .scripted s => s.arguments

/-- Gives a command its words.  For a program the first of them is its name. -/
def parseArguments [ArgumentReader] : Command → List String → Command
  | .builtin b, words => .builtin (b.parseArguments words)
  | .external e, words => .external (e.parseArguments words)
  | .scripted s, words => .scripted { s with arguments := words }

def streams : Command → Streams
  | .builtin b => b.streams
  | .external e => e.streams
  | .scripted s => s.streams

def setInput (command : Command) (input : InputHandle) : StateM (Context W) Command :=
  match command with
  | .builtin b => .builtin <$> b.setInput input
  | .external e => .external <$> e.setInput input
  | .scripted s => .scripted <$> s.setInput input

def setOutput (command : Command) (output : OutputHandle) : StateM (Context W) Command :=
  match command with
  | .builtin b => .builtin <$> b.setOutput output
  | .external e => .external <$> e.setOutput output
  | .scripted s => .scripted <$> s.setOutput output

def setError (command : Command) (error : OutputHandle) : StateM (Context W) Command :=
  match command with
  | .builtin b => .builtin <$> b.setError error
  | .external e => .external <$> e.setError error
  | .scripted s => .scripted <$> s.setError error

/-- Opens a pipe for the output and hands out its read end. -/
def openPipe (command : Command) : StateM (Context W) (Except IoError InputHandle × Command) :=
  match command with
  | .builtin b => Prod.map id .builtin <$> b.openPipe
  | .external e => Prod.map id .external <$> e.openPipe
  | .scripted s => Prod.map id .scripted <$> s.openPipe

/-- Runs the command; a program is only started. -/
def run (command : Command) : StateM (Context W) (Except ShellError Unit × Command) :=
  match command with
  | .builtin b => Prod.map id .builtin <$> b.run
  | .external e => Prod.map id .external <$> e.run
  | .scripted s => Prod.map id .scripted <$> s.run

def output (command : Command) : StateM (Context W) (Except ShellError Bytes × Command) :=
  match command with
  | .builtin b => Prod.map id .builtin <$> b.output
  | .external e => Prod.map id .external <$> e.output
  | .scripted s => Prod.map id .scripted <$> s.output

/-- Waits for the command to finish; answers its status. -/
def wait (command : Command) : StateM (Context W) (Except ShellError ExitCode × Command) :=
  match command with
  | .builtin b => Prod.map id .builtin <$> b.wait
  | .external e => Prod.map id .external <$> e.wait
  | .scripted s => Prod.map id .scripted <$> s.wait

/-- Stops the command.  A builtin has nothing to stop. -/
def abort (command : Command) : StateM (Context W) Command :=
  match command with
  | .builtin b => pure (.builtin b)
  | .external e => .external <$> e.abort
  | .scripted s => .scripted <$> s.abort

/-- Lets go of every handle the command holds. -/
def release (command : Command) : StateM (Context W) Unit :=
  match command with
  | .builtin b => b.release
  | .external e => e.release
  | .scripted s => s.release

end Command

end PipelineShell
