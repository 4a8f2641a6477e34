/-
# Machine.Utility -- the programs that the machine has

Each program is an action given the words it was started with and its environment.
All of them speak the C locale: bytes are ordered and counted as bytes, and
complaints are in English.
-/
import PipelineShell.Machine.Nested
import PipelineShell.Machine.Script.Start
import PipelineShell.Machine.Utility.Cat
import PipelineShell.Machine.Utility.Exchange
import PipelineShell.Machine.Utility.Formatted
import PipelineShell.Machine.Utility.Head
import PipelineShell.Machine.Utility.Small
import PipelineShell.Machine.Utility.Sort
import PipelineShell.Machine.Utility.Surroundings
import PipelineShell.Machine.Utility.WordCount

namespace PipelineShell.Machine.Utility

set_option autoImplicit false

/-- The programs by name, apart from the script shell. -/
def table : List (String × (Invocation → Action Nat)) :=
  [("cat", Cat.run), ("tr", Exchange.run), ("printf", Formatted.run), ("head", Head.run),
    ("printenv", Environment.run), ("pwd", WorkingDirectory.run), ("sleep", Rest.run),
    ("yes", Again.run), ("env", Surroundings.run), ("echo", Echo.run), ("sort", Sort.run),
    ("wc", WordCount.run), ("true", fun _ => pure 0), ("false", fun _ => pure 1)]

def shellName : String := "dash"

def ownName : String := "shell"

def names : List String := shellName :: table.map (·.1)

def program (name : String) (words environment : List Bytes) : Program :=
  if name == shellName then Script.program words environment
  else if name == ownName then (Nested.run words environment).program
  else
    match table.lookup name with
    | some run => (run ⟨words.headD [], words.tail, environment⟩).program
    | none => .ending 127

end PipelineShell.Machine.Utility
