/-
# Host -- the operating system as the shell sees it

Everything the shell does to the world outside its own state goes through the
operations of the class `Host`.  The shell is written for any `Host`, so what is
proved about it holds whatever files there are, whichever calls fail, and however
programs behave.  `PipelineShell.Machine` is one `Host`, and it can be run.

A `Host W` is a family of functions on states `W` of the world.  Operations that
only look take a state and answer; operations that act are state transformers.
Streams are named by handles.  The shell closes a handle when it lets go of it,
and a handle that is given to a new program is closed on the shell's side by the
act of giving it.
-/
import PipelineShell.Session

namespace PipelineShell

set_option autoImplicit false

/-- A stream that bytes can be read from. -/
inductive InputHandle where
  /-- The standard input of the shell itself. -/
  | inherited
  /-- An open file. -/
  | file (id : Nat)
  /-- The read end of a pipe. -/
  | pipe (id : Nat)
  deriving DecidableEq, Repr

/-- A stream that bytes can be written to. -/
inductive OutputHandle where
  /-- The standard output of the shell itself. -/
  | standardOutput
  /-- The standard error of the shell itself. -/
  | standardError
  /-- A buffer that accepts everything and that nobody reads. -/
  | scratch
  /-- A writer supplied by the user of the shell. -/
  | sink (id : Nat)
  /-- The write end of a pipe. -/
  | pipe (id : Nat)
  deriving DecidableEq, Repr

/-- How a program ended. -/
inductive ExitStatus where
  | exited (code : Nat)
  | signaled (number : Nat)
  deriving DecidableEq, Repr

/-- The exit code that stands for an ending: a signal counts from 128. -/
def ExitStatus.code : ExitStatus → ExitCode
  | .exited code => code
  | .signaled number => 128 + number

/-- Where the standard output of a new program goes. -/
inductive LaunchOutput where
  /-- To an existing stream. -/
  | handle (output : OutputHandle)
  /-- To a fresh pipe, from which the shell collects it. -/
  | captured
  deriving DecidableEq, Repr

/-- A program to start. -/
structure Launch where
  program : Path
  arguments : List String
  /-- The whole environment of the program. -/
  environment : Environment
  /-- The environment was put together for this program, with `PATH` in it. -/
  choosesPath : Bool
  directory : Path
  input : InputHandle
  output : LaunchOutput
  error : OutputHandle
  deriving DecidableEq, Repr

/-- A started program. -/
structure Child where
  pid : Nat
  /-- The pipe on which its output is collected. -/
  captured : Option Nat
  deriving DecidableEq, Repr

structure ProcessEntry where
  pid : Nat
  name : String
  isThread : Bool
  deriving DecidableEq, Repr

/-- The user and group that the shell runs as, with the home directory of the
user's account. -/
structure Account where
  user : String
  group : String
  home : Option Path
  deriving DecidableEq, Repr

/-- An operating system with states `W`. -/
class Host (W : Type) where
  /-- The absolute path of an existing file, free of links and dots. -/
  canonicalize : Path → W → Except IoError Path
  /-- Whether a path leads, through links, to a regular file. -/
  isFile : Path → W → Bool
  /-- The working directory of the shell's process. -/
  currentDirectory : W → Except IoError Path
  /-- Moves the shell's process to another directory. -/
  changeDirectory : Path → StateM W (Except IoError Unit)
  /-- The environment of the shell's process. -/
  environment : W → Environment
  /-- Who the shell runs as. -/
  account : W → Account
  /-- The process table, in no particular order. -/
  processes : W → List ProcessEntry
  /-- Sends SIGKILL to one process; the error is a number of `Errno`. -/
  terminate : Nat → StateM W (Except Int Unit)
  /-- A fresh pipe, both ends of which the shell holds. -/
  openPipe : StateM W (Except IoError Nat)
  /-- Reads at most so many bytes; none at the end. -/
  read : InputHandle → Nat → StateM W (Except IoError Bytes)
  /-- Reads until the end. -/
  readToEnd : InputHandle → StateM W (Except IoError Bytes)
  /-- Offers bytes once; answers how many of them were accepted. -/
  write : OutputHandle → Bytes → StateM W (Except IoError Nat)
  /-- No more writes than this will be interrupted. -/
  interruptionsLeft : OutputHandle → W → Nat
  /-- Passes on what the stream still holds back. -/
  flush : OutputHandle → StateM W (Except IoError Unit)
  /-- The shell lets go of a handle. -/
  closeInput : InputHandle → StateM W Unit
  /-- The shell lets go of a handle. -/
  closeOutput : OutputHandle → StateM W Unit
  /-- Hands the write end of a pipe to a background writer, which writes the bytes
  and then closes it. -/
  deliver : Nat → Bytes → StateM W Nat
  /-- Waits for a background writer. -/
  finishDelivery : Nat → StateM W (Except IoError Unit)
  /-- Starts a program. -/
  spawn : Launch → StateM W (Except IoError Child)
  /-- Collects the output of a program and waits for it to end. -/
  capture : Child → StateM W (Except IoError (Bytes × ExitStatus))
  /-- Waits for a program to end. -/
  wait : Child → StateM W (Except IoError ExitStatus)
  /-- Sends SIGKILL to a program that the shell started. -/
  kill : Child → StateM W (Except IoError Unit)

/-! ## Commands at work -/

/-- What commands work on: the session, the world, and the journal that scripted
commands keep. -/
structure Context (W : Type) where
  session : Session
  world : W
  journal : List String

namespace Context

variable {W : Type}

/-- Acts on the world and leaves session and journal alone. -/
def act {α : Type} (operation : StateM W α) : StateM (Context W) α := fun context =>
  let (answer, world) := operation context.world
  (answer, { context with world })

def look {α : Type} (view : W → α) : StateM (Context W) α := fun context =>
  (view context.world, context)

def ask {α : Type} (view : Session → α) : StateM (Context W) α := fun context =>
  (view context.session, context)

def modifySession (change : Session → Session) : StateM (Context W) Unit := fun context =>
  ((), { context with session := change context.session })

def note (entry : String) : StateM (Context W) Unit := fun context =>
  ((), { context with journal := context.journal ++ [entry] })

end Context

end PipelineShell
