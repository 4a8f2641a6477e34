/-
# Registry -- names that stand for commands of the shell's own

A registry maps names to fresh commands.  Lookup is exact, a later registration
replaces an earlier one of the same name, and a name the registry does not hold
is left to the programs.
-/
import PipelineShell.Command

namespace PipelineShell

set_option autoImplicit false

/-- Fresh commands under their names. -/
structure Registry where
  entries : List (String × Command)

namespace Registry

def empty : Registry := ⟨[]⟩

/-- Registers a fresh command under a name, in place of any other. -/
def registerAs (registry : Registry) (name : String) (command : Command) : Registry :=
  ⟨registry.entries.filter (·.1 != name) ++ [(name, command)]⟩

def register (registry : Registry) (kind : Builtin.Kind) : Registry :=
  registry.registerAs kind.name (.ofKind kind)

def create (registry : Registry) (name : String) : Option Command :=
  registry.entries.lookup name

def contains (registry : Registry) (name : String) : Bool := (registry.create name).isSome

/-- The builtins that a shell has unless it is told otherwise.  `exit` is left
out. -/
def withBuiltins : Registry :=
  [.pwd, .echo, .cd, .ps, .kill].foldl register empty

end Registry

end PipelineShell
