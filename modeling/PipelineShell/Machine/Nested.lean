/-
# Machine.Nested -- the shell as a program of the machine

A program of the machine may start the shell itself.  Such a shell is a process
like any other: `Nested.answer` says which system calls it makes for each of its
requests, and `Nested.run` lets it go from request to request (`Machine.Replay`).
Its process holds what it has read ahead on its standard input and what its
standard output keeps back.
-/
import PipelineShell.Arguments.Scan
import PipelineShell.CommandLine
import PipelineShell.Machine.PlainInput

namespace PipelineShell.Machine.Nested

set_option autoImplicit false

open PipelineShell.Machine.Action (ask)

/-- What the process of a shell remembers. -/
structure Memory where
  /-- What has been answered so far, in order. -/
  answers : List Answered
  readAhead : Bytes
  keptBack : Bytes
  /-- The descriptors of every pipe that was opened, that of the read end first. -/
  pipes : List (Nat × Nat)

abbrev Work := StateT Memory Action

def told {α : Type} : Except Int α → Except IoError α := Except.mapError IoError.os

/-! ## Descriptors -/

def reader? (memory : Memory) : InputHandle → Option Nat
  | .inherited => some 0
  | .file _ => none
  | .pipe id => (memory.pipes[id]?).map (·.1)

/-- The descriptor of an output, unless it leads into the memory of the shell. -/
def writer? (memory : Memory) : OutputHandle → Option Nat
  | .standardOutput => some 1
  | .standardError => some 2
  | .scratch => none
  | .sink _ => none
  | .pipe id => (memory.pipes[id]?).map (·.2)

def openPipe : Action (Nat × Nat) := do
  let ends : Nat × Nat ← ask .openPipe
  ask (.closeOnRun ends.1)
  ask (.closeOnRun ends.2)
  pure ends

def close (descriptor : Nat) : Action Unit := do
  let _ ← ask (.close descriptor)

def closeInput (input : InputHandle) : Work Unit := do
  if let .pipe id := input then
    if let some ends := (← get).pipes[id]? then close ends.1

def closeOutput (output : OutputHandle) : Work Unit := do
  if let .pipe id := output then
    if let some ends := (← get).pipes[id]? then close ends.2

/-! ## Reading -/

/-- Reads standard input once; where it is closed, there is nothing to read. -/
def readInput (most : Nat) : Action (Except Int Bytes) := do
  match ← Action.readOnce 0 most with
  | .error number => pure (if number == Errno.badDescriptor then .ok [] else .error number)
  | .ok bytes => pure (.ok bytes)

/-- Reads ahead on standard input. -/
def fill : Work (Except Int Bool) := do
  match ← readInput readAheadSize with
  | .error number => pure (.error number)
  | .ok bytes =>
      modify fun memory => { memory with readAhead := memory.readAhead ++ bytes }
      pure (.ok !bytes.isEmpty)

/-- Takes so many bytes of what was read ahead. -/
def takeAhead (most : Nat) : Work Bytes := do
  let bytes := (← get).readAhead.take most
  modify fun memory => { memory with readAhead := memory.readAhead.drop most }
  pure bytes

def readConsole (most : Nat) : Work (Except Int Bytes) := do
  if (← get).readAhead.isEmpty then
    if readAheadSize ≤ most then readInput most
    else
      match ← fill with
      | .error number => pure (.error number)
      | .ok _ => .ok <$> takeAhead most
  else .ok <$> takeAhead most

def read (input : InputHandle) (most : Nat) : Work (Except IoError Bytes) := do
  match input, reader? (← get) input with
  | .inherited, _ => told <$> readConsole most
  | _, some descriptor => told <$> Action.readOnce descriptor most
  | _, none => pure (.error (.os Errno.badDescriptor))

def readToEnd (input : InputHandle) : Work (Except IoError Bytes) := do
  let ahead ← match input with
    | .inherited => takeAhead (← get).readAhead.length
    | _ => pure []
  match reader? (← get) input with
  | none => pure (.error (.os Errno.badDescriptor))
  | some descriptor => pure ((told (← Action.readAll descriptor)).map (ahead ++ ·))

/-- Reads ahead until there is a whole line, or nothing more to read. -/
def fillLine : Work (Except Int Unit) := fun memory =>
  Action.repeatedly (.ok (), memory) memory fun memory => do
    if memory.readAhead.contains 0x0A then pure (.inr (.ok (), memory))
    else
      match ← fill.run memory with
      | (.error number, memory) => pure (.inr (.error number, memory))
      | (.ok true, memory) => pure (.inl memory)
      | (.ok false, memory) => pure (.inr (.ok (), memory))

def readLine : Work (Except IoError (Option Bytes)) := do
  match ← fillLine with
  | .error number => pure (.error (.os number))
  | .ok () =>
      let ahead := (← get).readAhead
      let line ← takeAhead ((ahead.takeWhile (· != 0x0A)).length + 1)
      pure (.ok (if line.isEmpty then none else some line))

/-! ## Writing -/

/-- Writes to standard output; where it is closed, everything is lost. -/
def pass (bytes : Bytes) : Action (Except Int Nat) := do
  match ← Action.writeAll 1 bytes with
  | .error number =>
      pure (if number == Errno.badDescriptor then .ok bytes.length else .error number)
  | .ok () => pure (.ok bytes.length)

/-- Works on what standard output keeps back. -/
def onKeptBack {α : Type} (work : Bytes → Action (α × Bytes)) : Work α := do
  let (answer, keptBack) ← work (← get).keptBack
  modify fun memory => { memory with keptBack }
  pure answer

/-- Writes to standard error; where it is closed, everything is lost. -/
def passComplaint (bytes : Bytes) : Action (Except Int Nat) := do
  match ← ask (.write 2 bytes) with
  | .error number =>
      pure (if number == Errno.badDescriptor then .ok bytes.length else .error number)
  | .ok n => pure (.ok n)

def write (output : OutputHandle) (bytes : Bytes) : Work (Except IoError Nat) := do
  match output, writer? (← get) output with
  | .standardOutput, _ => told <$> onKeptBack (LineBuffer.offer pass · bytes)
  | .standardError, _ => told <$> passComplaint bytes
  | .scratch, _ => pure (.ok bytes.length)
  | _, none => pure (.error (.os Errno.badDescriptor))
  | _, some descriptor =>
      let answer : Except Int Nat ← ask (.write descriptor bytes)
      pure (told answer)

def flush (output : OutputHandle) : Work (Except IoError Unit) := do
  match output with
  | .standardOutput => told <$> onKeptBack (LineBuffer.flush pass)
  | _ => pure (.ok ())

/-- Leaves a text to a background writer. -/
def deliver (pipe : Nat) (bytes : Bytes) : Work Nat := do
  match (← get).pipes[pipe]? with
  | none => pure 0
  | some ends =>
      let courier : Except Int Nat ← ask (.deliver ends.2 bytes)
      pure (courier.toOption.getD 0)

/-! ## Programs -/

/-- Where the copies of descriptors begin that a new program is given. -/
def firstSpare : Nat := 10

/-- A copy of a descriptor, or the null device, that the program will not have
open. -/
def spare (source : Option Nat) : Action (Option Nat) := do
  let copy : Except Int Nat ← match source with
    | some descriptor => ask (.copyAbove descriptor firstSpare)
    | none => ask (.openFile (ascii "/dev/null") ⟨true, true, false, false, false, false⟩ 0)
  if let .ok descriptor := copy then ask (.closeOnRun descriptor)
  pure copy.toOption

/-- Makes descriptors the standard ones, in order. -/
def standIn : Nat → List (Option Nat) → Action Unit
  | _, [] => pure ()
  | target, source :: rest => do
      if let some descriptor := source then
        let _ ← ask (.copyOnto descriptor target)
      standIn (target + 1) rest

/-- What the process of a launch does before it runs the program.  Comes back only
with an error. -/
def enter (launch : Launch) (sources : List (Option Nat)) : Action Int := do
  standIn 0 (← sources.mapM spare)
  ask (.arrange Signal.brokenPipe .usual)
  match ← ask (.changeDirectory launch.directory.bytes) with
  | .error number => pure number
  | .ok () =>
      let (words, settings) := (wordsOf launch, settingsOf launch.environment)
      if launch.program.bytes.contains Path.slash || !launch.choosesPath then
        ask (.run launch.program.bytes words settings)
      else
        Action.runByName (Utf8.encode ((launch.environment.get? "PATH").getD "")) words settings

/-- Starts a process that runs the program of a launch.  The process reports on a
pipe of its own if that fails. -/
def startProcess (launch : Launch) (sources : List (Option Nat)) : Action (Except Int Nat) := do
  let report ← openPipe
  let pid ← Action.split (Action.program do
    let number ← enter launch sources
    let _ ← Action.writeAll report.2 (Ascii.signed number)
    pure 1)
  close report.2
  let fault ← Action.readAll report.1
  close report.1
  match fault.toOption.bind Ascii.natural? with
  | none => pure (.ok pid)
  | some number =>
      let _ ← ask (.await (some pid) true)
      pure (.error number)

def handOver (launch : Launch) : Work Unit := do
  closeInput launch.input
  closeOutput launch.error
  if let .handle output := launch.output then closeOutput output

def spawn (launch : Launch) : Work (Except IoError Child) := do
  if launchHasNul launch then
    handOver launch
    pure (.error .nulInWord)
  else
    let memory ← get
    let (input, error) := (reader? memory launch.input, writer? memory launch.error)
    match launch.output with
    | .handle output =>
        let started ← startProcess launch [input, writer? memory output, error]
        handOver launch
        pure (told (started.map (⟨·, none⟩)))
    | .captured =>
        let ends ← openPipe
        let started ← startProcess launch [input, some ends.2, error]
        close ends.2
        handOver launch
        if let .error _ := started then close ends.1
        pure (told (started.map (⟨·, some ends.1⟩)))

def wait (child : Child) : Action (Except IoError ExitStatus) := do
  match ← ask (.await (some child.pid) true) with
  | .ok (some (_, status)) => pure (.ok status)
  | .ok none => pure (.error neverComes)
  | .error number => pure (.error (.os number))

/-- Collects the output of a program, and waits for its end. -/
def capture (child : Child) : Action (Except IoError (Bytes × ExitStatus)) := do
  let bytes : Except Int Bytes ← match child.captured with
    | none => pure (.ok [])
    | some descriptor => do
        let bytes ← Action.readAll descriptor
        close descriptor
        pure bytes
  match bytes with
  | .error number => pure (.error (.os number))
  | .ok bytes => pure ((← wait child).map (bytes, ·))

/-! ## The shell -/

/-- Makes the system calls that a request needs. -/
def answer : (request : Request) → Work request.Answer
  | .changeDirectory path => do
      if hasNul path then pure (.error .nulInPath)
      else
        let answer : Except Int Unit ← ask (.changeDirectory path.bytes)
        pure (told answer)
  | .terminate pid => do
      let answer : Except Int Unit ← ask (.signal pid Signal.kill)
      pure answer
  | .openPipe => do
      let ends ← openPipe
      let id := (← get).pipes.length
      modify fun memory => { memory with pipes := memory.pipes ++ [ends] }
      pure (.ok id)
  | .read input most => read input most
  | .readToEnd input => readToEnd input
  | .readLine => readLine
  | .write output bytes => write output bytes
  | .flush output => flush output
  | .closeInput input => closeInput input
  | .closeOutput output => closeOutput output
  | .deliver pipe bytes => deliver pipe bytes
  | .finishDelivery courier => do
      let answer : Except IoError Unit ← ask (.delivered courier)
      pure answer
  | .spawn launch => spawn launch
  | .capture child => capture child
  | .wait child => wait child
  | .kill child => do
      let answer : Except Int Unit ← ask (.signal child.pid Signal.kill)
      pure (told answer)

def environmentOf (settings : List Bytes) : Environment :=
  settings.filterMap fun setting =>
    let name := setting.takeWhile (· != byteOf '=')
    if name.length < setting.length then
      some (Utf8.decodeLossy name, Utf8.decodeLossy (setting.drop (name.length + 1)))
    else none

/-- The name that the shell goes by: the last name of the path it was started
under. -/
def nameOf (word : Bytes) : String := Utf8.decodeLossy ((Path.mk word).names.getLast?.getD word)

def openStandard : List Nat → Action Unit
  | [] => pure ()
  | descriptor :: rest => do
      if let .error _ ← ask (.statusOf descriptor) then
        let _ ← ask (.openFile (ascii "/dev/null") ⟨true, true, false, false, false, false⟩ 0)
      openStandard rest

open scoped Arguments in
/-- Goes from request to request, and ends with the status of the shell. -/
def run (words environment : List Bytes) : Action Nat := do
  openStandard [0, 1, 2]
  ask (.arrange Signal.brokenPipe .ignored)
  let view : View ← ask .view
  Action.repeatedly 1 ⟨[], [], [], []⟩ fun (memory : Memory) => do
    let shell := CommandLine.runBytes (nameOf (words.headD [])) words.tail
    let (status, replay) :=
      shell (⟨environmentOf environment, view, memory.answers, none⟩ : Replay)
    match replay.asked with
    | none =>
        let _ ← LineBuffer.flush pass memory.keptBack
        pure (.inr status)
    | some request =>
        let (answer, memory) ← (answer request).run memory
        let view : View ← ask .view
        pure (.inl { memory with answers := memory.answers ++ [⟨request, answer, view⟩] })

end PipelineShell.Machine.Nested
