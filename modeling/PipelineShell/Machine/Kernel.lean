/-
# Machine.Kernel -- answering system calls

`perform` answers one call of a process, or says that the process has to wait.
Calls that change which program runs, or how many processes there are, are left
to `Machine.Scheduling`.
-/
import PipelineShell.Machine.Loading

namespace PipelineShell.Machine

set_option autoImplicit false

/-! ## Descriptors -/

def openedBy (machine : Machine) (process : Process) (descriptor : Nat) :
    Option (Nat × Opened) := do
  let id ← process.opened? descriptor
  let opened ← machine.opened[id]?
  some (id, opened)

/-- Opens something for a process under its first free number. -/
def openFor (machine : Machine) (process : Process) (opened : Opened) : Nat × Machine :=
  let (id, machine) := machine.openMedium opened
  let number := process.freeFrom 0
  (number, machine.update (process.put ⟨number, id, false⟩))

/-! ## Opening files -/

def Access.opened (access : Access) (medium : Medium) : Opened :=
  ⟨medium, 0, access.reads, access.writes, access.appends⟩

/-- Opens again what a process has open under a number. -/
def reopen (machine : Machine) (process : Process) (number : Nat) (access : Access) :
    Except Int (Opened × Machine) :=
  match machine.openedBy process number with
  | none => .error Errno.noEntry
  | some (_, opened) =>
      let machine :=
        if access.truncates then machine.setContent opened.medium [] else machine
      .ok (access.opened opened.medium, machine)

def openNode (machine : Machine) (process : Process) (place : Place) (node : Node)
    (access : Access) : Except Int (Opened × Machine) :=
  let as (medium : Medium) : Except Int (Opened × Machine) := .ok (access.opened medium, machine)
  match node with
  | .directory =>
      if access.writes || access.creates then .error Errno.isDirectory else as (.directory place)
  | .file _ permissions _ =>
      if (access.reads && !Permissions.allows permissions mayRead) ||
          (access.writes && !Permissions.allows permissions mayWrite) then .error Errno.noAccess
      else
        let machine := if access.truncates then machine.setContent (.file place) [] else machine
        .ok (access.opened (.file place), machine)
  | .program _ => if access.writes then .error Errno.busyText else as (.file place)
  | .null => as .null
  | .full => as .full
  | .zero => as .zero
  | .descriptor number => machine.reopen process number access
  | .link _ => .error Errno.tooManyLinks

def openPath (machine : Machine) (process : Process) (path : Bytes) (access : Access)
    (permissions : Permissions) : Except Int (Opened × Machine) :=
  match machine.tree.nodeAt process.directory ⟨path⟩ with
  | .ok (place, node) =>
      if access.creates && access.isNew then .error Errno.fileExists
      else machine.openNode process place node access
  | .error number =>
      if number != Errno.noEntry || !access.creates then .error number
      else if path.getLast? == some Path.slash then .error Errno.isDirectory
      else
        match machine.tree.targetAt process.directory ⟨path⟩ with
        | .error number => .error number
        | .ok place =>
          match machine.tree.find? place with
          | some _ => .error (if access.isNew then Errno.fileExists else Errno.noEntry)
          | none =>
            let mask := process.creationMask
            let kept := (List.range 9).foldl (fun bits i =>
              if Permissions.allows permissions (Nat.pow 2 i) && !Permissions.allows mask (Nat.pow 2 i)
              then bits + Nat.pow 2 i else bits) 0
            .ok (access.opened (.file place),
              { machine with tree := machine.tree.put place (.file [] kept machine.clock) })

/-! ## What files are like -/

def programSize : Nat := 65536

def statusOfOpened (machine : Machine) (opened : Opened) : FileStatus :=
  match opened.medium with
  | .file place =>
      match machine.tree.find? place with
      | some (.file content permissions changed) =>
          ⟨.regular, permissions, content.length, changed, place⟩
      | _ => ⟨.regular, 0o755, programSize, 0, place⟩
  | .directory place => ⟨.directory, 0o755, 4096, 0, place⟩
  | .nameless id =>
      ⟨.regular, 0o600, ((machine.nameless[id]?).getD []).length, 0,
        [ascii "nameless", Ascii.decimal id]⟩
  | .pipe id => ⟨.pipe, 0o600, 0, 0, [ascii "pipe", Ascii.decimal id]⟩
  | .consoleOutput => ⟨.pipe, 0o600, 0, 0, [ascii "console", ascii "1"]⟩
  | .consoleError => ⟨.pipe, 0o600, 0, 0, [ascii "console", ascii "2"]⟩
  | .null => ⟨.device, 0o666, 0, 0, [ascii "dev", ascii "null"]⟩
  | .full => ⟨.device, 0o666, 0, 0, [ascii "dev", ascii "full"]⟩
  | .zero => ⟨.device, 0o666, 0, 0, [ascii "dev", ascii "zero"]⟩

/-- What stands at a place is like, for a process. -/
def statusOfNode (machine : Machine) (process : Process) (place : Place) (node : Node) :
    Except Int FileStatus :=
  let at_ (medium : Medium) : Except Int FileStatus :=
    .ok (machine.statusOfOpened ⟨medium, 0, true, true, false⟩)
  match node with
  | .directory => at_ (.directory place)
  | .file _ _ _ => at_ (.file place)
  | .program _ => at_ (.file place)
  | .null => at_ .null
  | .full => at_ .full
  | .zero => at_ .zero
  | .link target => .ok ⟨.link, 0o777, target.bytes.length, 0, place⟩
  | .descriptor number =>
      match machine.openedBy process number with
      | some (_, opened) => .ok (machine.statusOfOpened opened)
      | none => .error Errno.noEntry

def statusAt (machine : Machine) (process : Process) (path : Bytes) (throughLast : Bool) :
    Except Int FileStatus := do
  let (place, node) ←
    if throughLast then machine.tree.nodeAt process.directory ⟨path⟩
    else machine.tree.linkAt process.directory ⟨path⟩
  machine.statusOfNode process place node

/-- Whether the user has a permission on what a path leads to. -/
def mayAt (machine : Machine) (process : Process) (path : Bytes) (permission : Permissions) :
    Except Int Unit := do
  let status ← machine.statusAt process path true
  if permission == 0 || Permissions.allows status.permissions permission then .ok ()
  else .error Errno.noAccess

/-! ## Offsets -/

/-- Moves the offset of something open. -/
def seekIn (machine : Machine) (id : Nat) (opened : Opened) (origin : Origin) (offset : Int) :
    Except Int Nat × Machine :=
  let size : Option Nat :=
    match opened.medium with
    | .file _ => some (machine.contentOf opened.medium).length
    | .nameless _ => some (machine.contentOf opened.medium).length
    | .null => some 0
    | .zero => some 0
    | .full => some 0
    | _ => none
  match size with
  | none => (.error Errno.cannotSeek, machine)
  | some size =>
    let isDevice := opened.medium == .null || opened.medium == .zero || opened.medium == .full
    let target : Int := match origin with
      | .start => offset
      | .current => opened.offset + offset
      | .ending => size + offset
    if isDevice then (.ok 0, machine)
    else if target < 0 then (.error Errno.invalid, machine)
    else (.ok target.toNat, machine.moveTo id target.toNat)

/-! ## Children -/

def awaitChild (machine : Machine) (process : Process) (child : Option Nat) (patient : Bool) :
    Option (Except Int (Option (Nat × ExitStatus)) × Machine) :=
  let children := machine.processes.filter fun (other : Process) =>
    other.parent == process.pid && !other.isCollected && child.all (· == other.pid)
  if children.isEmpty then some (.error Errno.noChild, machine)
  else
    match children.find? (!·.isAlive) with
    | some child =>
        some (.ok (child.ended.map (child.pid, ·)), machine.collect child.pid)
    | none => if patient then none else some (.ok none, machine)

/-! ## All calls -/

/-- The answer to a call, and the machine after it.  `none` if the process has to
wait. -/
def perform (machine : Machine) (process : Process) :
    (call : Call) → Option (call.Answer × Machine)
  | .pause => some ((), machine)
  | .read descriptor most =>
      match process.opened? descriptor with
      | none => some (.error Errno.badDescriptor, machine)
      | some id => machine.readFrom id most
  | .write descriptor text =>
      match process.opened? descriptor with
      | none => some (.error Errno.badDescriptor, machine)
      | some id =>
        (machine.writeTo id text).map fun
          | (.error number, machine) =>
              (.error number,
                if number == Errno.brokenPipe then machine.signal process.pid Signal.brokenPipe
                else machine)
          | answer => answer
  | .openFile path access permissions =>
      match machine.openPath process path access permissions with
      | .error number => some (.error number, machine)
      | .ok (opened, machine) =>
          let (number, machine) := machine.openFor process opened
          some (.ok number, machine)
  | .close descriptor =>
      match process.opened? descriptor with
      | none => some (.error Errno.badDescriptor, machine)
      | some _ => some (.ok (), machine.update (process.drop descriptor))
  | .copyAbove descriptor least =>
      match process.opened? descriptor with
      | none => some (.error Errno.badDescriptor, machine)
      | some id =>
          let number := process.freeFrom least
          some (.ok number, machine.update (process.put ⟨number, id, true⟩))
  | .copyOnto descriptor copy =>
      match process.opened? descriptor with
      | none => some (.error Errno.badDescriptor, machine)
      | some id =>
          if descriptor == copy then some (.ok (), machine)
          else some (.ok (), machine.update (process.put ⟨copy, id, false⟩))
  | .closeOnRun descriptor =>
      some ((), machine.update { process with slots := process.slots.map fun (slot : Slot) =>
        if slot.number == descriptor then { slot with closesOnRun := true } else slot })
  | .openPipe =>
      let id := machine.pipes.size
      let machine := { machine with pipes := machine.pipes.push ⟨[], false, false⟩ }
      let (reader, machine) := machine.openMedium ⟨.pipe id, 0, true, false, false⟩
      let (writer, machine) := machine.openMedium ⟨.pipe id, 0, false, true, false⟩
      let first := process.freeFrom 0
      let process := process.put ⟨first, reader, false⟩
      let second := process.freeFrom 0
      some ((first, second), machine.update (process.put ⟨second, writer, false⟩))
  | .seek descriptor origin offset =>
      match machine.openedBy process descriptor with
      | none => some (.error Errno.badDescriptor, machine)
      | some (id, opened) => some (machine.seekIn id opened origin offset)
  | .status path throughLast => some (machine.statusAt process path throughLast, machine)
  | .statusOf descriptor =>
      some (match machine.openedBy process descriptor with
        | none => .error Errno.badDescriptor
        | some (_, opened) => .ok (machine.statusOfOpened opened), machine)
  | .isAppending descriptor =>
      some ((machine.openedBy process descriptor).any (·.2.appends), machine)
  | .may path permission => some (machine.mayAt process path permission, machine)
  | .namesIn path =>
      some ((machine.tree.directoryAt process.directory ⟨path⟩).map machine.tree.namesIn, machine)
  | .directory =>
      some (if machine.tree.isDirectory process.directory then .ok process.directory.path.bytes
        else .error Errno.noEntry, machine)
  | .changeDirectory path =>
      match machine.tree.directoryAt process.directory ⟨path⟩ with
      | .error number => some (.error number, machine)
      | .ok place => some (.ok (), machine.update { process with directory := place })
  | .run _ _ _ => none
  | .await child patient => machine.awaitChild process child patient
  | .signal pid number =>
      some (if machine.isPresent pid then (.ok (), machine.signal pid number)
        else (.error Errno.noProcess, machine))
  | .arrange number disposition =>
      some ((), machine.update (process.arrange number disposition))
  | .arranged number => some (process.disposition number, machine)
  | .notedSignals => some (process.noted, machine.update { process with noted := [] })
  | .awaitSignal => none
  | .self => some (process.pid, machine)
  | .parent => some (process.parent, machine)
  | .creationMask => some (process.creationMask, machine)
  | .setCreationMask mask =>
      some ((), machine.update { process with creationMask := mask })
  | .time => some (machine.clock, machine)
  | .restUntil time => if time ≤ machine.clock then some (true, machine) else none
  | .view => some (machine.viewFrom process.directory, machine)
  | .deliver descriptor text =>
      match machine.openedBy process descriptor with
      | some (_, ⟨.pipe id, _, _, _, _⟩) =>
          let (courier, machine) := machine.addCourier ⟨process.pid, id, text, none⟩
          some (.ok courier, machine.update (process.drop descriptor))
      | _ => some (.error Errno.badDescriptor, machine)
  | .delivered courier =>
      match machine.couriers[courier]? with
      | some courier => courier.result.map (·, machine)
      | none => some (.error (.os Errno.badDescriptor), machine)

end PipelineShell.Machine
