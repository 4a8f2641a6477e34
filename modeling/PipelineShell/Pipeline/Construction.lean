/-
# Pipeline.Construction -- the commands that a line stands for

Each stage of a line becomes one command.  A first word that the registry holds
gives a fresh command of the registry, with the other words as its arguments; any
other stage becomes a program.  Nothing runs, and a program that does not exist
is not noticed here.
-/
import PipelineShell.Line
import PipelineShell.Registry

namespace PipelineShell.Pipeline

set_option autoImplicit false

variable [ArgumentReader]

def commandOf (registry : Registry) (words : List String) : Command :=
  match words with
  | [] => .ofProgram
  | name :: arguments =>
    match registry.create name with
    | some command => command.parseArguments arguments
    | none => Command.ofProgram.parseArguments (name :: arguments)

/-- The commands of a line, from left to right. -/
def construct (registry : Registry) (line : String) : Except ShellError (List Command) :=
  (Line.stages line).map (·.map (commandOf registry))

end PipelineShell.Pipeline
