/-
# Machine.Basic -- a machine: files, pipes, processes and a console

A `Machine` is a whole small computer on which the shell is one process.  This
module holds its state and what a single read or write does to it.

What is open is kept in one table (`Machine.opened`), because those who share an
open file share its offset as well.  Who holds the ends of a pipe is not stored
but read off: the shell's own ends are marked on the pipe, a background writer
(`Courier`) holds the pipe it fills, and a running process holds what its slots
point to.  A pipe without writers is at its end, and writing to a pipe without
readers fails.

The shell's standard output keeps back what follows the last line end until it is
flushed or grows too long; children write to the same console directly.
-/
import PipelineShell.Error
import PipelineShell.Machine.LineBuffer
import PipelineShell.Machine.Process

namespace PipelineShell

set_option autoImplicit false

namespace Machine

/-- What something open leads to. -/
inductive Medium where
  | null
  | full
  | zero
  | file (place : Place)
  | directory (place : Place)
  /-- A file that has no name. -/
  | nameless (id : Nat)
  | pipe (id : Nat)
  /-- The streams of the machine's user. -/
  | consoleOutput
  | consoleError
  deriving DecidableEq, Repr

/-- Something open, with the offset at which it is read and written. -/
structure Opened where
  medium : Medium
  offset : Nat
  reads : Bool
  writes : Bool
  appends : Bool
  deriving DecidableEq, Repr

/-- A pipe: what is under way, and which ends the shell holds. -/
structure Pipe where
  content : Bytes
  shellReads : Bool
  shellWrites : Bool

/-- A background writer: the process that it works for, what it has still to write,
and how it ended. -/
structure Courier where
  owner : Nat
  pipe : Nat
  rest : Bytes
  result : Option (Except IoError Unit)

/-- A writer over a named buffer, possibly a faulty one: the interruptions still
to come, the most it takes at once, the most it takes in all, and how it refuses
the rest. -/
structure Sink where
  buffer : String
  interruptions : Nat
  chunk : Option Nat
  limit : Option Nat
  refusesSilently : Bool
  fault : IoError

/-- What the machine's user sees, and what the shell has read ahead. -/
structure Console where
  /-- Where the shell's standard input stands in the table of all that is open. -/
  input : Nat
  /-- What the shell has read and not yet used. -/
  readAhead : Bytes
  /-- What the shell has printed and kept back. -/
  keptBack : Bytes
  /-- Standard output takes nothing. -/
  full : Bool
  /-- What was written, the latest first. -/
  output : List Bytes
  error : List Bytes

end Machine

/-- A computer. -/
structure Machine where
  tree : Machine.Tree
  /-- What the programs of the machine do, by name, given their words and their
  environment. -/
  library : String → List Bytes → List Bytes → Machine.Program
  /-- The working directory of the shell's process. -/
  directory : Machine.Place
  environment : Environment
  account : Account
  opened : Array Machine.Opened
  pipes : Array Machine.Pipe
  /-- What the files without names hold. -/
  nameless : Array Bytes
  couriers : List Machine.Courier
  sinks : List Machine.Sink
  buffers : List (String × Bytes)
  console : Machine.Console
  processes : List Machine.Process
  /-- The process of the shell. -/
  shell : Nat
  /-- The last number that a process was given. -/
  lastPid : Nat
  /-- Milliseconds since the start. -/
  clock : Nat
  /-- Steps taken in this millisecond. -/
  steps : Nat
  /-- The task whose turn it is. -/
  turn : Nat

namespace Machine

/-! ## What is open -/

def openMedium (machine : Machine) (opened : Opened) : Nat × Machine :=
  (machine.opened.size, { machine with opened := machine.opened.push opened })

def moveTo (machine : Machine) (id offset : Nat) : Machine :=
  { machine with opened := machine.opened.modify id fun opened => { opened with offset } }

/-- A new file without a name, open at its start for reading. -/
def addFile (machine : Machine) (content : Bytes) : Nat × Machine :=
  { machine with nameless := machine.nameless.push content }.openMedium
    ⟨.nameless machine.nameless.size, 0, true, false, false⟩

/-- Whether something open fits a test and belongs to a running process. -/
def isHeld (machine : Machine) (test : Opened → Bool) : Bool :=
  machine.processes.any fun process =>
    process.isAlive && process.slots.any fun slot => (machine.opened[slot.opened]?).any test

/-! ## Pipes -/

def pipeCapacity : Nat := 65536

/-- Up to this many bytes are written to a pipe all at once. -/
def pipeAtom : Nat := 4096

def hasReader (machine : Machine) (id : Nat) : Bool :=
  (machine.pipes[id]?).any (·.shellReads) ||
    machine.isHeld fun opened => opened.medium == .pipe id && opened.reads

def hasWriter (machine : Machine) (id : Nat) : Bool :=
  (machine.pipes[id]?).any (·.shellWrites) ||
    machine.couriers.any (fun courier => courier.pipe == id && courier.result.isNone) ||
    machine.isHeld fun opened => opened.medium == .pipe id && opened.writes

def modifyPipe (machine : Machine) (id : Nat) (change : Pipe → Pipe) : Machine :=
  { machine with pipes := machine.pipes.modify id change }

/-- A new pipe with both ends in the shell's hands. -/
def addPipe (machine : Machine) : Nat × Machine :=
  (machine.pipes.size, { machine with pipes := machine.pipes.push ⟨[], true, true⟩ })

/-- Takes bytes out of a pipe; `none` if the reader has to wait. -/
def readPipe (machine : Machine) (id most : Nat) : Option (Except Int Bytes × Machine) :=
  match machine.pipes[id]? with
  | none => some (.error Errno.badDescriptor, machine)
  | some pipe =>
    if !pipe.content.isEmpty then
      some (.ok (pipe.content.take most),
        machine.modifyPipe id fun pipe => { pipe with content := pipe.content.drop most })
    else if machine.hasWriter id then none
    else some (.ok [], machine)

/-- Puts bytes into a pipe; `none` if the writer has to wait. -/
def writePipe (machine : Machine) (id : Nat) (bytes : Bytes) :
    Option (Except Int Nat × Machine) :=
  match machine.pipes[id]? with
  | none => some (.error Errno.badDescriptor, machine)
  | some pipe =>
    if !machine.hasReader id then some (.error Errno.brokenPipe, machine)
    else
      let free := pipeCapacity - pipe.content.length
      if free == 0 || (bytes.length ≤ pipeAtom && free < bytes.length) then none
      else
        some (.ok (min free bytes.length),
          machine.modifyPipe id fun pipe => { pipe with content := pipe.content ++ bytes.take free })

/-! ## The console -/

def consoleWrite (machine : Machine) (bytes : Bytes) : Except Int Nat × Machine :=
  if machine.console.full then (.error Errno.noSpace, machine)
  else
    (.ok bytes.length,
      { machine with
        console := { machine.console with output := bytes :: machine.console.output } })

def consoleComplain (machine : Machine) (bytes : Bytes) : Machine :=
  { machine with console := { machine.console with error := bytes :: machine.console.error } }

/-! ## Files -/

def contentOf (machine : Machine) : Medium → Bytes
  | .file place =>
      match machine.tree.find? place with
      | some (.file content _ _) => content
      | _ => []
  | .nameless id => (machine.nameless[id]?).getD []
  | _ => []

def setContent (machine : Machine) (medium : Medium) (content : Bytes) : Machine :=
  match medium with
  | .file place =>
      match machine.tree.find? place with
      | some (.file _ permissions _) =>
          { machine with
            tree := machine.tree.put place (.file content permissions machine.clock) }
      | _ => machine
  | .nameless id => { machine with nameless := machine.nameless.setIfInBounds id content }
  | _ => machine

def readFile (machine : Machine) (id : Nat) (opened : Opened) (most : Nat) : Bytes × Machine :=
  let bytes := ((machine.contentOf opened.medium).drop opened.offset).take most
  (bytes, machine.moveTo id (opened.offset + bytes.length))

/-- A text with some bytes put in at an offset, instead of what was there. -/
def overwrite (content : Bytes) (offset : Nat) (bytes : Bytes) : Bytes :=
  content.take offset ++ List.replicate (offset - content.length) 0 ++ bytes ++
    content.drop (offset + bytes.length)

def writeFile (machine : Machine) (id : Nat) (opened : Opened) (bytes : Bytes) : Machine :=
  let content := machine.contentOf opened.medium
  let offset := if opened.appends then content.length else opened.offset
  (machine.setContent opened.medium (overwrite content offset bytes)).moveTo id
    (offset + bytes.length)

/-! ## Single reads and writes -/

/-- Reads at most `most` bytes from something open; `none` if the reader has to
wait. -/
def readFrom (machine : Machine) (id most : Nat) : Option (Except Int Bytes × Machine) :=
  match machine.opened[id]? with
  | none => some (.error Errno.badDescriptor, machine)
  | some opened =>
    if !opened.reads then some (.error Errno.badDescriptor, machine)
    else
      match opened.medium with
      | .pipe id => machine.readPipe id most
      | .directory _ => some (.error Errno.isDirectory, machine)
      | .zero => some (.ok (List.replicate most 0), machine)
      | .full => some (.ok (List.replicate most 0), machine)
      | .file _ =>
          let (bytes, machine) := machine.readFile id opened most
          some (.ok bytes, machine)
      | .nameless _ =>
          let (bytes, machine) := machine.readFile id opened most
          some (.ok bytes, machine)
      | _ => some (.ok [], machine)

/-- Offers bytes once; answers how many are accepted, or `none` if the writer has
to wait. -/
def writeTo (machine : Machine) (id : Nat) (bytes : Bytes) :
    Option (Except Int Nat × Machine) :=
  match machine.opened[id]? with
  | none => some (.error Errno.badDescriptor, machine)
  | some opened =>
    if !opened.writes then some (.error Errno.badDescriptor, machine)
    else
      match opened.medium with
      | .pipe id => machine.writePipe id bytes
      | .full => some (.error Errno.noSpace, machine)
      | .consoleOutput => some (machine.consoleWrite bytes)
      | .consoleError => some (.ok bytes.length, machine.consoleComplain bytes)
      | .file _ => some (.ok bytes.length, machine.writeFile id opened bytes)
      | .nameless _ => some (.ok bytes.length, machine.writeFile id opened bytes)
      | _ => some (.ok bytes.length, machine)

/-! ## What the shell prints -/

/-- Works on what the shell's standard output keeps back, passing bytes on to the
console. -/
def onKeptBack {α : Type} (machine : Machine)
    (work : (Bytes → StateM Machine (Except Int Nat)) → Bytes → StateM Machine (α × Bytes)) :
    α × Machine :=
  let ((answer, keptBack), machine) :=
    work (fun bytes machine => machine.consoleWrite bytes) machine.console.keptBack machine
  (answer, { machine with console := { machine.console with keptBack } })

def flushConsole (machine : Machine) : Except Int Unit × Machine :=
  machine.onKeptBack LineBuffer.flush

/-- The shell offers bytes to its standard output. -/
def printLines (machine : Machine) (bytes : Bytes) : Except Int Nat × Machine :=
  machine.onKeptBack fun pass kept => LineBuffer.offer pass kept bytes

/-! ## Sinks -/

def appendBuffer (buffers : List (String × Bytes)) (name : String) (bytes : Bytes) :
    List (String × Bytes) :=
  match buffers.lookup name with
  | some _ => buffers.map fun entry => if entry.1 == name then (name, entry.2 ++ bytes) else entry
  | none => buffers ++ [(name, bytes)]

def bufferContents (machine : Machine) (name : String) : Bytes :=
  (machine.buffers.lookup name).getD []

/-- How much a sink takes of an offer. -/
def Sink.accepts (sink : Sink) (offered : Nat) : Nat :=
  min (min offered (sink.chunk.getD offered)) (sink.limit.getD offered)

def writeSink (machine : Machine) (id : Nat) (bytes : Bytes) : Except IoError Nat × Machine :=
  match machine.sinks[id]? with
  | none => (.error (.os Errno.badDescriptor), machine)
  | some sink =>
    if 0 < sink.interruptions then
      (.error (.plain .interrupted),
        { machine with
          sinks := machine.sinks.set id { sink with interruptions := sink.interruptions - 1 } })
    else
      let n := sink.accepts bytes.length
      if n == 0 && !bytes.isEmpty then
        (if sink.refusesSilently then .ok 0 else .error sink.fault, machine)
      else
        (.ok n,
          { machine with
            sinks := machine.sinks.set id { sink with limit := sink.limit.map (· - n) }
            buffers := appendBuffer machine.buffers sink.buffer (bytes.take n) })

def addSink (machine : Machine) (sink : Sink) : Nat × Machine :=
  (machine.sinks.length, { machine with sinks := machine.sinks ++ [sink] })

/-! ## Processes -/

def process? (machine : Machine) (pid : Nat) : Option Process :=
  machine.processes.find? (·.pid == pid)

def modifyProcess (machine : Machine) (pid : Nat) (change : Process → Process) : Machine :=
  { machine with processes := machine.processes.map fun process =>
      if process.pid == pid then change process else process }

/-- Puts a process in the place of the one with its number. -/
def update (machine : Machine) (process : Process) : Machine :=
  machine.modifyProcess process.pid fun _ => process

def addProcess (machine : Machine) (process : Process) : Nat × Machine :=
  let pid := machine.lastPid + 1
  (pid,
    { machine with
      processes := machine.processes ++ [{ process with pid }]
      lastPid := pid })

def isPresent (machine : Machine) (pid : Nat) : Bool :=
  pid == machine.shell || (machine.process? pid).any (!·.isCollected)

/-- The number of the process that takes over orphans. -/
def foster : Nat := 1

/-- Tells a process of a signal, if it wants to be told. -/
def note (machine : Machine) (pid number : Nat) : Machine :=
  machine.modifyProcess pid fun process =>
    if process.isAlive && process.disposition number == .noted && !process.noted.contains number
    then { process with noted := process.noted ++ [number] }
    else process

/-- A background writer ends with the process that it works for. -/
def Courier.endWith (pid : Nat) (courier : Courier) : Courier :=
  if courier.owner == pid && courier.result.isNone then { courier with result := some (.ok ()) }
  else courier

/-- Whether a process does not want to know of the ends of its children: then they
are forgotten at once, and nobody can wait for them. -/
def forgetsChildren (machine : Machine) (pid : Nat) : Bool :=
  (machine.process? pid).any (·.disposition Signal.childEnded == .ignored)

/-- Ends a process.  Its children are fostered, those of them that have ended are
forgotten, and its parent is told. -/
def finish (machine : Machine) (pid : Nat) (status : ExitStatus) : Machine :=
  match machine.process? pid with
  | none => machine
  | some process =>
    let machine := machine.update (process.finish status)
    let processes := machine.processes.filterMap fun (other : Process) =>
      if other.parent == pid then
        if other.isAlive then some { other with parent := foster } else none
      else if other.pid == pid && machine.forgetsChildren process.parent then none
      else some other
    let couriers := machine.couriers.map (Courier.endWith pid)
    { machine with processes, couriers }.note process.parent Signal.childEnded

/-- Sends a signal to a process that is there.  The shell itself is spared. -/
def signal (machine : Machine) (pid number : Nat) : Machine :=
  match (machine.process? pid).filter (·.isAlive) with
  | none => machine
  | some process =>
    if number == 0 then machine
    else
      let machine :=
        if number == Signal.resume then machine.update { process with isStopped := false }
        else machine
      match (if Signal.isSovereign number then .usual else process.disposition number) with
      | .ignored => machine
      | .noted => machine.note pid number
      | .usual =>
          match Signal.reaction number with
          | .ending => machine.finish pid (.signaled number)
          | .stopping => machine.update { process with isStopped := true }
          | _ => machine

def processTable (machine : Machine) : List ProcessEntry :=
  ⟨machine.shell, "shell", false⟩ ::
    (machine.processes.filter (!·.isCollected)).map fun process =>
      ⟨process.pid, Utf8.decodeLossy process.name, false⟩

/-- What can be seen of the machine from a place. -/
def viewFrom (machine : Machine) (directory : Place) : View :=
  ⟨machine.tree, directory, machine.processTable, machine.account⟩

def addCourier (machine : Machine) (courier : Courier) : Nat × Machine :=
  (machine.couriers.length, { machine with couriers := machine.couriers ++ [courier] })

/-- Someone has waited for a process.  The shell may ask for it again, others may
not. -/
def collect (machine : Machine) (pid : Nat) : Machine :=
  { machine with processes := machine.processes.filterMap fun (process : Process) =>
      if process.pid != pid then some process
      else if process.parent == machine.shell then some { process with isCollected := true }
      else none }

end Machine

end PipelineShell
