/-
# Builtin.Invocation -- the builtins and what their arguments mean

Six builtins are known.  `Invocation.parse` turns the words after a builtin's
name into an `Invocation`, or into an `EarlyExit` that is shown instead of a run.
`pwd`, `ps` and `exit` have their options and operands read by a grammar; `cd`,
`echo` and `kill` take their words as they are.
-/
import PipelineShell.Arguments
import PipelineShell.Error
import PipelineShell.Text.Numeral

namespace PipelineShell.Builtin

set_option autoImplicit false

/-- The builtins. -/
inductive Kind where
  | pwd
  | echo
  | cd
  | ps
  | kill
  | exit
  deriving DecidableEq, Repr

namespace Kind

def name : Kind → String
  | .pwd => "pwd"
  | .echo => "echo"
  | .cd => "cd"
  | .ps => "ps"
  | .kill => "kill"
  | .exit => "exit"

def all : List Kind := [.pwd, .echo, .cd, .ps, .kill, .exit]

def ofName? (name : String) : Option Kind := all.find? (·.name == name)

/-- The usage text of a builtin that has one, under the name it was called by. -/
def usage (kind : Kind) (name : String) : String :=
  match kind with
  | .pwd =>
      "Usage: " ++ name ++ "\n\nPrint the current working directory to standard output.\n" ++
      "\nOptions:\n  --help, help      display usage information\n"
  | .ps =>
      "Usage: " ++ name ++ "\n\nlist running processes as `pid<TAB>name`, ordered by pid.\n" ++
      "\nOptions:\n  --help, help      display usage information\n"
  | .exit =>
      "Usage: " ++ name ++ " [--] [<code>]\n\nExit the shell.\n\nPositional Arguments:\n" ++
      "  code              exit status; 1 when omitted or not a number.\n" ++
      "\nOptions:\n  --help, help      display usage information\n"
  | _ => ""

end Kind

/-- A builtin with its arguments. -/
inductive Invocation where
  | pwd
  | echo (noNewline : Bool) (words : List String)
  | cd (target : Option String)
  | ps
  | kill (words : List String)
  | exit (code : Option String)
  deriving DecidableEq, Repr

namespace Invocation

/-- What a builtin without options of its own accepts. -/
def grammar (kind : Kind) (name : String) (operands : Nat) : Arguments.Grammar :=
  ⟨[], operands, kind.usage name⟩

/-- Only an exact `-n` in front is a flag; every other word is printed. -/
def ofEchoWords : List String → Invocation
  | [] => .echo false []
  | word :: rest => if word == "-n" then .echo true rest else .echo false (word :: rest)

/-- What the words after the name of a builtin ask for.  `names` are the words it
was called by. -/
def parse [ArgumentReader] (kind : Kind) (names : List String) (words : List String) :
    Except EarlyExit Invocation :=
  let name := " ".intercalate names
  match kind with
  | .pwd => (ArgumentReader.read (grammar kind name 0) words).map fun _ => .pwd
  | .ps => (ArgumentReader.read (grammar kind name 0) words).map fun _ => .ps
  | .exit =>
      (ArgumentReader.read (grammar kind name 1) words).map fun reading =>
        .exit reading.operands.head?
  | .cd =>
      match words with
      | [] => .ok (.cd none)
      | [target] => .ok (.cd (some target))
      | _ :: extra :: _ => .error ⟨name ++ ": too many arguments: " ++ extra, false⟩
  | .echo => .ok (ofEchoWords words)
  | .kill => .ok (.kill words)

/-- The code that `exit` asks for: 1 unless its operand is a number. -/
def exitCode (code : Option String) : ExitCode :=
  (code.bind Numeral.signed32).getD 1

/-- The process that `kill` is aimed at: there is one only if the single word is
a positive number. -/
def target? : List String → Option Nat
  | [word] => (Numeral.signed32 word).bind fun pid => if 0 < pid then some pid.toNat else none
  | _ => none

end Invocation

end PipelineShell.Builtin
