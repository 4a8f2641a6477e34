/-
# Machine.Process -- processes

A process is a program under way, with the files it has open, the directory it
works in, and what it does about signals.  Numbers of open files are a matter of
the process; what they stand for is shared with other processes, which is why a
`Slot` only points to it.
-/
import PipelineShell.Machine.SystemCall

namespace PipelineShell.Machine

set_option autoImplicit false

/-- A number under which a process has something open. -/
structure Slot where
  number : Nat
  /-- Where it stands in the table of all that is open. -/
  opened : Nat
  closesOnRun : Bool
  deriving DecidableEq, Repr

structure Process where
  pid : Nat
  parent : Nat
  /-- The word it was started under. -/
  name : Bytes
  slots : List Slot
  directory : Place
  creationMask : Permissions
  /-- The signals that it ignores. -/
  ignored : List Nat
  /-- The signals that it wants to be told of. -/
  watched : List Nat
  /-- Signals that it has yet to be told of. -/
  noted : List Nat
  program : Program
  isStopped : Bool
  ended : Option ExitStatus
  /-- Someone has waited for it. -/
  isCollected : Bool

namespace Process

/-- Where what the process has open under a number stands. -/
def opened? (process : Process) (number : Nat) : Option Nat :=
  (process.slots.find? (·.number == number)).map (·.opened)

/-- The first number from `least` on that is free. -/
def freeFrom (process : Process) (least : Nat) : Nat :=
  let taken := process.slots.map (·.number)
  ((List.range (taken.length + 1)).map (least + ·)).find? (fun n => !taken.contains n)
    |>.getD (least + taken.length)

def drop (process : Process) (number : Nat) : Process :=
  { process with slots := process.slots.filter (·.number != number) }

/-- Opens a number, closing what was open under it. -/
def put (process : Process) (slot : Slot) : Process :=
  { process with slots := process.slots.filter (·.number != slot.number) ++ [slot] }

def isAlive (process : Process) : Bool := process.ended.isNone

def holds (process : Process) (opened : Nat) : Bool :=
  process.isAlive && process.slots.any (·.opened == opened)

def disposition (process : Process) (number : Nat) : Disposition :=
  if process.ignored.contains number then .ignored
  else if process.watched.contains number then .noted
  else .usual

def arrange (process : Process) (number : Nat) (disposition : Disposition) : Process :=
  let ignored := process.ignored.filter (· != number)
  let watched := process.watched.filter (· != number)
  match disposition with
  | .usual => { process with ignored, watched }
  | .ignored => { process with ignored := number :: ignored, watched }
  | .noted => { process with ignored, watched := number :: watched }

def finish (process : Process) (status : ExitStatus) : Process :=
  { process with ended := some status, slots := [], noted := [], program := .ending 0 }

end Process

end PipelineShell.Machine
