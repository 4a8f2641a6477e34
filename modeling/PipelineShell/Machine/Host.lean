/-
# Machine.Host -- the machine as an operating system for the shell

`Machine` is an instance of `Host`.  Whatever may have to wait -- reading a pipe,
writing to a full one, the end of a program -- lets the machine's processes run
until it can go on.  Waiting for what can never come fails instead of waiting for
ever.
-/
import PipelineShell.Machine.Scheduling

namespace PipelineShell.Machine

set_option autoImplicit false

/-! ## Files -/

def hasNul (path : Path) : Bool := path.bytes.contains 0

namespace View

def canonicalize (view : View) (path : Path) : Except IoError Path :=
  if hasNul path then .error .nulInPath
  else
    match view.tree.canonical view.directory path with
    | .ok path => .ok path
    | .error number => .error (.os number)

def isFile (view : View) (path : Path) : Bool :=
  !hasNul path && view.tree.isFile view.directory path

def currentDirectory (view : View) : Except IoError Path :=
  if view.tree.isDirectory view.directory then .ok view.directory.path
  else .error (.os Errno.noEntry)

end View

/-- What the shell can see of the machine. -/
def view (machine : Machine) : View := machine.viewFrom machine.directory

def currentDirectory (machine : Machine) : Except IoError Path := machine.view.currentDirectory

def changeDirectory (path : Path) (machine : Machine) : Except IoError Unit × Machine :=
  if hasNul path then (.error .nulInPath, machine)
  else
    match machine.tree.directoryAt machine.directory path with
    | .ok place => (.ok (), { machine with directory := place })
    | .error number => (.error (.os number), machine)

/-! ## Processes -/

def terminate (pid : Nat) (machine : Machine) : Except Int Unit × Machine :=
  if machine.isPresent pid then (.ok (), machine.signal pid Signal.kill)
  else (.error Errno.noProcess, machine)

/-! ## Reading -/

/-- Waits for an answer, letting others run until there is one. -/
def awaitAnswer {α : Type} (attempt : Machine → Option (Except Int α × Machine))
    (machine : Machine) : Except IoError α × Machine :=
  match machine.runUntil attempt patience with
  | (some (.ok answer, machine), _) => (.ok answer, machine)
  | (some (.error number, machine), _) => (.error (.os number), machine)
  | (none, machine) => (.error neverComes, machine)

def readAheadSize : Nat := 8192

def readInput (most : Nat) (machine : Machine) : Bytes × Machine :=
  match machine.readFrom machine.console.input most with
  | some (.ok bytes, machine) => (bytes, machine)
  | _ => ([], machine)

/-- Reads ahead on standard input; answers whether there was anything. -/
def fill (machine : Machine) : Bool × Machine :=
  let (bytes, machine) := machine.readInput readAheadSize
  let console := machine.console
  (!bytes.isEmpty,
    { machine with console := { console with readAhead := console.readAhead ++ bytes } })

/-- Reads at most so many bytes of standard input, and reads ahead for more. -/
def readConsole (most : Nat) (machine : Machine) : Bytes × Machine :=
  let machine :=
    if machine.console.readAhead.isEmpty && most < readAheadSize then machine.fill.2 else machine
  let console := machine.console
  if console.readAhead.isEmpty then machine.readInput most
  else
    (console.readAhead.take most,
      { machine with console := { console with readAhead := console.readAhead.drop most } })

def read (input : InputHandle) (most : Nat) (machine : Machine) : Except IoError Bytes × Machine :=
  match input with
  | .inherited =>
      let (bytes, machine) := machine.readConsole most
      (.ok bytes, machine)
  | .file id => machine.awaitAnswer (·.readFrom id most)
  | .pipe id => machine.awaitAnswer (·.readPipe id most)

def readSize : Nat := 65536

def readRest (input : InputHandle) : Nat → List Bytes → Machine → Except IoError Bytes × Machine
  | 0, _, machine => (.error neverComes, machine)
  | reads + 1, received, machine =>
      match machine.read input readSize with
      | (.error fault, machine) => (.error fault, machine)
      | (.ok bytes, machine) =>
        if bytes.isEmpty then (.ok received.reverse.flatten, machine)
        else machine.readRest input reads (bytes :: received)

def readToEnd (input : InputHandle) (machine : Machine) : Except IoError Bytes × Machine :=
  machine.readRest input patience []

def inputLeft (machine : Machine) : Nat :=
  machine.console.readAhead.length +
    match machine.opened[machine.console.input]? with
    | some opened => (machine.contentOf opened.medium).length - opened.offset
    | none => 0

/-- Reads ahead until there is a whole line, or nothing more to read. -/
def fillLine : Nat → Machine → Machine
  | 0, machine => machine
  | fills + 1, machine =>
      if machine.console.readAhead.contains 0x0A then machine
      else
        match machine.fill with
        | (true, machine) => fillLine fills machine
        | (false, machine) => machine

def readLine (machine : Machine) : Except IoError (Option Bytes) × Machine :=
  let machine := machine.fillLine (machine.inputLeft / readAheadSize + 1)
  let console := machine.console
  if console.readAhead.isEmpty then (.ok none, machine)
  else
    let (line, rest) := console.readAhead.span (· != 0x0A)
    (.ok (some (line ++ rest.take 1)),
      { machine with console := { console with readAhead := rest.drop 1 } })

/-! ## Writing -/

def write (output : OutputHandle) (bytes : Bytes) (machine : Machine) :
    Except IoError Nat × Machine :=
  match output with
  | .standardOutput =>
      match machine.printLines bytes with
      | (.ok n, machine) => (.ok n, machine)
      | (.error number, machine) => (.error (.os number), machine)
  | .standardError => (.ok bytes.length, machine.consoleComplain bytes)
  | .scratch => (.ok bytes.length, machine)
  | .sink id => machine.writeSink id bytes
  | .pipe id => machine.awaitAnswer (·.writePipe id bytes)

def interruptionsLeft (output : OutputHandle) (machine : Machine) : Nat :=
  match output with
  | .sink id => ((machine.sinks[id]?).map (·.interruptions)).getD 0
  | _ => 0

def flush (output : OutputHandle) (machine : Machine) : Except IoError Unit × Machine :=
  match output with
  | .standardOutput =>
      match machine.flushConsole with
      | (.ok (), machine) => (.ok (), machine)
      | (.error number, machine) => (.error (.os number), machine)
  | .sink id =>
      match machine.sinks[id]? with
      | some sink => (if sink.limit == some 0 then .error sink.fault else .ok (), machine)
      | none => (.ok (), machine)
  | _ => (.ok (), machine)

/-! ## Handles -/

def closeInput (input : InputHandle) (machine : Machine) : Unit × Machine :=
  ((), match input with
    | .pipe id => machine.modifyPipe id fun pipe => { pipe with shellReads := false }
    | _ => machine)

def closeOutput (output : OutputHandle) (machine : Machine) : Unit × Machine :=
  ((), match output with
    | .pipe id => machine.modifyPipe id fun pipe => { pipe with shellWrites := false }
    | _ => machine)

def deliver (pipe : Nat) (bytes : Bytes) (machine : Machine) : Nat × Machine :=
  let (_, machine) := machine.closeOutput (.pipe pipe)
  machine.addCourier ⟨machine.shell, pipe, bytes, none⟩

def finishDelivery (courier : Nat) (machine : Machine) : Except IoError Unit × Machine :=
  match machine.runUntil (fun machine => (machine.couriers[courier]?).bind (·.result)) patience with
  | (some result, machine) => (result, machine)
  | (none, machine) => (.error neverComes, machine)

/-! ## Programs -/

/-- What a program finds open instead of an output of the shell.  What lives in the
shell's memory cannot be given away. -/
def drainOf : OutputHandle → Medium
  | .standardOutput => .consoleOutput
  | .standardError => .consoleError
  | .scratch => .null
  | .sink _ => .null
  | .pipe id => .pipe id

def openInput (input : InputHandle) (machine : Machine) : Nat × Machine :=
  match input with
  | .inherited => (machine.console.input, machine)
  | .file id => (id, machine)
  | .pipe id => machine.openMedium ⟨.pipe id, 0, true, false, false⟩

def openOutput (medium : Medium) (machine : Machine) : Nat × Machine :=
  machine.openMedium ⟨medium, 0, false, true, false⟩

/-- The words of a launch, the program's path first. -/
def wordsOf (launch : Launch) : List Bytes :=
  launch.program.bytes :: launch.arguments.map Utf8.encode

/-- The environment of a launch as programs find it: one text for each variable, in
the order of names. -/
def settingsOf (environment : Environment) : List Bytes :=
  (environment.mergeSort fun a b => a.1 ≤ b.1).map fun entry =>
    Utf8.encode (entry.1 ++ "=" ++ entry.2)

/-- Whether a NUL byte stands where none may. -/
def launchHasNul (launch : Launch) : Bool :=
  (wordsOf launch).any (·.contains 0) || hasNul launch.directory ||
    launch.environment.any fun entry =>
      entry.1.toList.contains '\x00' || entry.2.toList.contains '\x00'

def prepare (launch : Launch) (machine : Machine) : Except Int (Place × Image) := do
  let words := wordsOf launch
  let directory ← machine.tree.directoryAt machine.directory launch.directory
  if tooMuch words (settingsOf launch.environment) then .error Errno.tooBig
  else if launch.program.bytes.contains Path.slash || !launch.choosesPath then
    let image ← load (machine.tree.find directory) interpreterDepth launch.program words
    .ok (directory, image)
  else
    let search := Utf8.encode ((launch.environment.get? "PATH").getD "")
    let image ← loadByName (machine.tree.find directory) search words
    .ok (directory, image)

/-- The permissions that files made by programs lack. -/
def usualMask : Permissions := 0o022

def startProcess (launch : Launch) (machine : Machine) (directory : Place) (image : Image)
    (output : Medium) : Nat × Machine :=
  let (first, machine) := machine.openInput launch.input
  let (second, machine) := machine.openOutput output
  let (third, machine) := machine.openOutput (drainOf launch.error)
  machine.addProcess
    { pid := 0
      parent := machine.shell
      name := image.words.headD []
      slots := [⟨0, first, false⟩, ⟨1, second, false⟩, ⟨2, third, false⟩]
      directory
      creationMask := usualMask
      ignored := []
      watched := []
      noted := []
      program := machine.library image.program image.words (settingsOf launch.environment)
      isStopped := false
      ended := none
      isCollected := false }

/-- Gives up the shell's side of the handles of a launch. -/
def handOver (launch : Launch) (machine : Machine) : Machine :=
  let machine := (machine.closeInput launch.input).2
  let machine := (machine.closeOutput launch.error).2
  match launch.output with
  | .handle output => (machine.closeOutput output).2
  | .captured => machine

def spawn (launch : Launch) (machine : Machine) : Except IoError Child × Machine :=
  if launchHasNul launch then (.error .nulInWord, machine.handOver launch)
  else
    match machine.prepare launch with
    | .error number => (.error (.os number), machine.handOver launch)
    | .ok (directory, image) =>
      match launch.output with
      | .handle output =>
          let (pid, machine) := machine.startProcess launch directory image (drainOf output)
          (.ok ⟨pid, none⟩, machine.handOver launch)
      | .captured =>
          let (id, machine) := machine.addPipe
          let (pid, machine) := machine.startProcess launch directory image (.pipe id)
          (.ok ⟨pid, some id⟩, ((machine.handOver launch).closeOutput (.pipe id)).2)

def awaitEnd (pid : Nat) (machine : Machine) : Except IoError ExitStatus × Machine :=
  match machine.runUntil (fun machine => (machine.process? pid).bind (·.ended)) patience with
  | (some status, machine) =>
      (.ok status, machine.collect pid)
  | (none, machine) => (.error neverComes, machine)

/-- Collects the output of a program, and waits for its end. -/
def capture (child : Child) (machine : Machine) : Except IoError (Bytes × ExitStatus) × Machine :=
  let (bytes, machine) : Except IoError Bytes × Machine :=
    match child.captured with
    | some id =>
        let (bytes, machine) := machine.readToEnd (.pipe id)
        (bytes, (machine.closeInput (.pipe id)).2)
    | none => (.ok [], machine)
  match bytes with
  | .error fault => (.error fault, machine)
  | .ok bytes =>
    match machine.awaitEnd child.pid with
    | (.ok status, machine) => (.ok (bytes, status), machine)
    | (.error fault, machine) => (.error fault, machine)

def kill (child : Child) (machine : Machine) : Except IoError Unit × Machine :=
  (.ok (), machine.signal child.pid Signal.kill)

instance : Host Machine where
  canonicalize path machine := machine.view.canonicalize path
  isFile path machine := machine.view.isFile path
  currentDirectory := currentDirectory
  changeDirectory := changeDirectory
  environment := (·.environment)
  account := (·.account)
  processes := processTable
  terminate := terminate
  openPipe machine :=
    let (id, machine) := machine.addPipe
    (.ok id, machine)
  read := read
  readToEnd := readToEnd
  write := write
  interruptionsLeft := interruptionsLeft
  flush := flush
  closeInput := closeInput
  closeOutput := closeOutput
  deliver := deliver
  finishDelivery := finishDelivery
  spawn := spawn
  capture := capture
  wait child := awaitEnd child.pid
  kill := kill

end PipelineShell.Machine
