/-
# Machine.SystemCall -- what programs ask of the machine

A program is a tree of system calls: it asks for something, and goes on by what
it is answered, until it ends.  Each call has its own type of answer
(`Call.Answer`), so a program cannot mistake one answer for another.  A program
may wait between any two calls, and a process that splits in two needs nothing
but a second tree.

Programs are written as `Action`s, which are put together by `do`: an action of
type `Action α` is a piece of program that comes to a value of type `α`, given
the rest of the program that goes on with it.  What may go on for ever is written
with `Action.repeatedly`, which asks the machine for leave in every round.
-/
import PipelineShell.Host
import PipelineShell.Machine.Signal
import PipelineShell.Machine.Tree

namespace PipelineShell.Machine

set_option autoImplicit false

/-! ## Calls -/

/-- How a file is to be opened. -/
structure Access where
  reads : Bool
  writes : Bool
  /-- Every write goes to the end. -/
  appends : Bool
  /-- A file that is missing is made. -/
  creates : Bool
  /-- What a file held before is dropped. -/
  truncates : Bool
  /-- The file must be missing. -/
  isNew : Bool
  deriving DecidableEq, Repr

def Access.reading : Access := ⟨true, false, false, false, false, false⟩

def Access.writing : Access := ⟨false, true, false, false, false, false⟩

inductive FileKind where
  | regular
  | directory
  | device
  | pipe
  | link
  deriving DecidableEq, Repr

structure FileStatus where
  kind : FileKind
  permissions : Permissions
  size : Nat
  /-- When it was last changed. -/
  changed : Nat
  /-- Two files are the same if they have the same identity. -/
  identity : List Bytes
  deriving DecidableEq, Repr

/-- From where an offset is counted. -/
inductive Origin where
  | start
  | current
  | ending
  deriving DecidableEq, Repr

/-- What a process does about a signal. -/
inductive Disposition where
  /-- What the signal does by itself. -/
  | usual
  | ignored
  /-- The signal is noted, and the process told. -/
  | noted
  deriving DecidableEq, Repr

/-- What a process can see of the machine without waiting: the files, and where
among them it is, the processes, and whose machine it is. -/
structure View where
  tree : Tree
  directory : Place
  processes : List ProcessEntry
  account : Account

/-- Something that a process asks of the machine.  Numbers of descriptors and of
processes are plain numbers, paths are as the process wrote them. -/
inductive Call where
  /-- Nothing but a moment for others. -/
  | pause
  | read (descriptor most : Nat)
  | write (descriptor : Nat) (text : Bytes)
  | openFile (path : Bytes) (access : Access) (permissions : Permissions)
  | close (descriptor : Nat)
  /-- A copy of a descriptor under the first free number from `least` on, which is
  closed when the process runs another program. -/
  | copyAbove (descriptor least : Nat)
  /-- Makes `copy` a copy of `descriptor`. -/
  | copyOnto (descriptor copy : Nat)
  /-- The descriptor is closed when the process runs another program. -/
  | closeOnRun (descriptor : Nat)
  | openPipe
  | seek (descriptor : Nat) (origin : Origin) (offset : Int)
  | status (path : Bytes) (throughLast : Bool)
  | statusOf (descriptor : Nat)
  /-- Whether writes to a descriptor go to the end. -/
  | isAppending (descriptor : Nat)
  /-- Whether the process has a permission on a file. -/
  | may (path : Bytes) (permission : Permissions)
  /-- The names in a directory. -/
  | namesIn (path : Bytes)
  | directory
  | changeDirectory (path : Bytes)
  /-- Runs another program instead; there is an answer only if that fails. -/
  | run (path : Bytes) (words environment : List Bytes)
  /-- Waits for a child, or for any; `none` if none has ended and the process does
  not want to wait. -/
  | await (child : Option Nat) (patient : Bool)
  | signal (process number : Nat)
  | arrange (number : Nat) (disposition : Disposition)
  /-- What is arranged for a signal. -/
  | arranged (number : Nat)
  /-- The signals noted since the last time. -/
  | notedSignals
  /-- Waits until a signal is noted. -/
  | awaitSignal
  | self
  | parent
  /-- The permissions that new files lack. -/
  | creationMask
  | setCreationMask (mask : Permissions)
  /-- Milliseconds since the start of the machine. -/
  | time
  /-- Rests until a point in time; the answer is whether it was reached. -/
  | restUntil (time : Nat)
  | view
  /-- Hands a descriptor of a pipe to a background writer of the process, which
  writes a text to the pipe and then closes it. -/
  | deliver (descriptor : Nat) (text : Bytes)
  /-- Waits for a background writer. -/
  | delivered (courier : Nat)
  deriving DecidableEq, Repr

@[reducible]
def Call.Answer : Call → Type
  | .pause => Unit
  | .read _ _ => Except Int Bytes
  | .write _ _ => Except Int Nat
  | .openFile _ _ _ => Except Int Nat
  | .close _ => Except Int Unit
  | .copyAbove _ _ => Except Int Nat
  | .copyOnto _ _ => Except Int Unit
  | .closeOnRun _ => Unit
  | .openPipe => Nat × Nat
  | .seek _ _ _ => Except Int Nat
  | .status _ _ => Except Int FileStatus
  | .statusOf _ => Except Int FileStatus
  | .isAppending _ => Bool
  | .may _ _ => Except Int Unit
  | .namesIn _ => Except Int (List Bytes)
  | .directory => Except Int Bytes
  | .changeDirectory _ => Except Int Unit
  | .run _ _ _ => Int
  | .await _ _ => Except Int (Option (Nat × ExitStatus))
  | .signal _ _ => Except Int Unit
  | .arrange _ _ => Unit
  | .arranged _ => Disposition
  | .notedSignals => List Nat
  | .awaitSignal => Unit
  | .self => Nat
  | .parent => Nat
  | .creationMask => Permissions
  | .setCreationMask _ => Unit
  | .time => Nat
  | .restUntil _ => Bool
  | .view => View
  | .deliver _ _ => Except Int Nat
  | .delivered _ => Except IoError Unit

/-- The answer to a call that a noted signal interrupts, for the calls that a
signal can interrupt. -/
def Call.interrupted? : (call : Call) → Option call.Answer
  | .read _ _ => some (.error Errno.interrupted)
  | .write _ _ => some (.error Errno.interrupted)
  | .await _ _ => some (.error Errno.interrupted)
  | .awaitSignal => some ()
  | .restUntil _ => some false
  | _ => none

/-- What a process has still to do. -/
inductive Program where
  | ending (code : Nat)
  | call (call : Call) (next : call.Answer → Program)
  /-- Starts a child that does something else; the rest is told its number. -/
  | split (child : Program) (next : Nat → Program)

/-! ## Actions -/

/-- A piece of program that comes to a value. -/
def Action (α : Type) : Type := (α → Program) → Program

namespace Action

instance : Monad Action where
  pure a := fun next => next a
  bind action go := fun next => action fun a => go a next

def ask (call : Call) : Action call.Answer := fun next => .call call next

def exit {α : Type} (code : Nat) : Action α := fun _ => .ending code

def split (child : Program) : Action Nat := fun next => .split child next

def program (action : Action Nat) : Program := action .ending

/-- How many rounds an action goes on at most. -/
def endurance : Nat := 1000000000000

/-- Goes through at most so many rounds. -/
def rounds {σ α : Type} (round : σ → Action (σ ⊕ α)) (given : α) : Nat → σ → Action α
  | 0, _ => pure given
  | left + 1, state => do
      ask .pause
      match ← round state with
      | .inl state => rounds round given left state
      | .inr a => pure a

/-- Goes through rounds until one comes to a value. -/
def repeatedly {σ α : Type} (given : α) (start : σ) (round : σ → Action (σ ⊕ α)) : Action α :=
  rounds round given endurance start

/-! ## Reading and writing -/

/-- Writes all of a text, in as many calls as it takes. -/
def writeAll (descriptor : Nat) (text : Bytes) : Action (Except Int Unit) :=
  repeatedly (.ok ()) text fun text => do
    if text.isEmpty then pure (.inr (.ok ()))
    else
      match ← ask (.write descriptor text) with
      | .error number =>
          if number == Errno.interrupted then pure (.inl text) else pure (.inr (.error number))
      | .ok n => pure (.inl (text.drop n))

def readOnce (descriptor most : Nat) : Action (Except Int Bytes) :=
  repeatedly (.ok []) () fun _ => do
    match ← ask (.read descriptor most) with
    | .error number =>
        if number == Errno.interrupted then pure (.inl ()) else pure (.inr (.error number))
    | .ok bytes => pure (.inr (.ok bytes))

/-- How much is read at once where all is read. -/
def wholeSize : Nat := 65536

def readAll (descriptor : Nat) : Action (Except Int Bytes) :=
  repeatedly (.ok []) ([] : List Bytes) fun received => do
    match ← readOnce descriptor wholeSize with
    | .error number => pure (.inr (.error number))
    | .ok [] => pure (.inr (.ok received.reverse.flatten))
    | .ok bytes => pure (.inl (bytes :: received))

end Action

end PipelineShell.Machine
