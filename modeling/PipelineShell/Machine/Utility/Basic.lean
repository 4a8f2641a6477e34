/-
# Machine.Utility.Basic -- how programs begin, complain and end

A program of the machine is given the words it was started with and its
environment.  It names itself in complaints by the word it was started under,
writes what it has to say at once, and ends with a status.
-/
import PipelineShell.Machine.SystemCall
import PipelineShell.Machine.Utility.Options
import PipelineShell.Machine.Utility.Quoting

namespace PipelineShell.Machine.Utility

set_option autoImplicit false

open PipelineShell.Machine.Action (ask exit writeAll)

/-- What a program is started with. -/
structure Invocation where
  /-- The word it was started under. -/
  name : Bytes
  arguments : List Bytes
  /-- Settings of the form `name=value`. -/
  environment : List Bytes

namespace Invocation

def setting? (invocation : Invocation) (name : Bytes) : Option Bytes :=
  (invocation.environment.find? ((name ++ ascii "=").isPrefixOf ·)).map
    (·.drop (name.length + 1))

/-- A line on the error stream, under the name of the program. -/
def complain (invocation : Invocation) (text : Bytes) : Action Unit := do
  let _ ← writeAll 2 (invocation.name ++ ascii ": " ++ text ++ ascii "\n")

def die {α : Type} (invocation : Invocation) (text : Bytes) (code : Nat) : Action α := do
  invocation.complain text
  exit code

/-- Ends the program because it was called in a wrong way. -/
def refuse {α : Type} (invocation : Invocation) (code : Nat) : Action α := do
  let _ ← writeAll 2 (ascii "Try '" ++ invocation.name ++
    ascii " --help' for more information.\n")
  exit code

/-- A complaint about how the program was called. -/
def misuse {α : Type} (invocation : Invocation) (text : Bytes) (code : Nat) : Action α := do
  invocation.complain text
  invocation.refuse code

/-- Writes to the output; a failure ends the program. -/
def emit (invocation : Invocation) (text : Bytes) (code : Nat) : Action Unit := do
  match ← writeAll 1 text with
  | .ok () => pure ()
  | .error number =>
      invocation.die (ascii "write error: " ++ ascii (Errno.description number)) code

/-- The options and operands of the program; a fault ends it. -/
def items (invocation : Invocation) (spec : Options.Spec) (code : Nat) :
    Action (List Options.Item) :=
  let items := Options.read spec invocation.arguments
  match Options.fault? items with
  | some message => invocation.misuse message code
  | none => pure items

end Invocation

/-- The error that follows the name of a file. -/
def because (what : Bytes) (number : Int) : Bytes :=
  what ++ ascii ": " ++ ascii (Errno.description number)

def dash : Bytes := ascii "-"

def commonLong : List Options.Long := [⟨"help", .never, '\x01'⟩, ⟨"version", .never, '\x02'⟩]

/-- Ends without a word for the options that every program has. -/
def endForCommon (items : List Options.Item) : Action Unit :=
  if (Options.codes items).any (fun c => c == '\x01' || c == '\x02') then exit 0 else pure ()

end PipelineShell.Machine.Utility
