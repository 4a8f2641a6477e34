/-
# Machine.Script.Builtin -- the builtin commands by name

Every command of `Search.builtins` is here, apart from what `command` runs, which is
a matter of how commands are found.
-/
import PipelineShell.Machine.Script.Builtin.Control
import PipelineShell.Machine.Script.Builtin.Directory
import PipelineShell.Machine.Script.Builtin.Jobs
import PipelineShell.Machine.Script.Builtin.Limits
import PipelineShell.Machine.Script.Builtin.Names
import PipelineShell.Machine.Script.Builtin.Output
import PipelineShell.Machine.Script.Builtin.Test
import PipelineShell.Machine.Script.Builtin.Variables

namespace PipelineShell.Machine.Script.Builtin

set_option autoImplicit false

/-- A command that does nothing but come to a status. -/
def constant (status : Nat) : Simple := fun _ _ => pure status

/-- The commands that only need their words. -/
def table : List (String × Simple) :=
  [(":", constant 0), ("[", test), ("alias", makeAliases), ("bg", resume),
    ("break", leaveLoops .break), ("cd", changeDirectory), ("chdir", changeDirectory),
    ("command", describeCommand), ("continue", leaveLoops .continue), ("echo", echo),
    ("exec", become), ("exit", leaveShell), ("export", mark false), ("false", constant 1),
    ("fg", resume), ("getopts", getOption), ("hash", rehash), ("jobs", showJobs), ("kill", kill),
    ("local", localize), ("printf", printFormat), ("pwd", printDirectory), ("read", read),
    ("readonly", mark true), ("return", leaveFunction), ("set", set), ("shift", shift),
    ("test", test), ("times", showTimes), ("trap", trap), ("true", constant 0),
    ("type", describeAll), ("ulimit", showLimits), ("umask", Builtin.mask),
    ("unalias", dropAliases), ("unset", unset), ("wait", wait)]

def perform (evaluator : Evaluator) (manner : Manner) (name : Bytes) (words : List Bytes) :
    Sh Nat :=
  if name == ascii "eval" then evaluate evaluator manner name words
  else if name == ascii "." then include_ evaluator name words
  else
    match table.find? fun entry => ascii entry.1 == name with
    | some (_, command) => command name words
    | none => pure 127

end PipelineShell.Machine.Script.Builtin
