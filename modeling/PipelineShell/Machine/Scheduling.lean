/-
# Machine.Scheduling -- letting processes run

The processes of a machine run while the shell waits for something.  They and the
background writers take turns, one system call at a time; a task that would have
to wait is passed over, unless a signal has been noted that calls it back.  Time
passes slowly while there is something to do; when every task waits, the clock
moves on to the moment at which the next sleeper wakes.
-/
import PipelineShell.Machine.Kernel

namespace PipelineShell.Machine

set_option autoImplicit false

/-! ## One task -/

/-- A process goes on with the rest of its program. -/
def goOn (machine : Machine) (pid : Nat) (program : Program) : Machine :=
  machine.modifyProcess pid fun process => { process with program }

/-- What a process becomes when it runs another program. -/
def become (machine : Machine) (process : Process) (image : Image) (environment : List Bytes) :
    Machine :=
  machine.update { process with
    name := image.words.headD []
    slots := process.slots.filter (!·.closesOnRun)
    watched := []
    noted := []
    program := machine.library image.program image.words environment }

/-- What a path leads to for a process that is to run it; a descriptor leads to the
file that is open under it. -/
def findFor (machine : Machine) (process : Process) (path : Path) : Except Int Node := do
  match ← machine.tree.find process.directory path with
  | .descriptor number =>
      match machine.openedBy process number with
      | none => .error Errno.noEntry
      | some (_, opened) =>
        match opened.medium with
        | .file place => (machine.tree.find? place).elim (.error Errno.noEntry) .ok
        | _ => .error Errno.noAccess
  | node => .ok node

def runInstead (machine : Machine) (process : Process) (path : Bytes)
    (words environment : List Bytes) : Except Int Machine :=
  if tooMuch words environment then .error Errno.tooBig
  else
    (load (machine.findFor process) interpreterDepth ⟨path⟩ words).map fun image =>
      machine.become process image environment

def splitOff (machine : Machine) (process : Process) (child : Program) (next : Nat → Program) :
    Machine :=
  let (pid, machine) := machine.addProcess
    { process with parent := process.pid, program := child, noted := [] }
  machine.goOn process.pid (next pid)

def stepProcess (machine : Machine) (process : Process) : Option Machine :=
  if !process.isAlive || process.isStopped then none
  else
    match process.program with
    | .ending code => some (machine.finish process.pid (.exited (code % 256)))
    | .split child next => some (machine.splitOff process child next)
    | .call (.run path words environment) next =>
        some (match machine.runInstead process path words environment with
          | .ok machine => machine
          | .error number => machine.goOn process.pid (next number))
    | .call call next =>
        match machine.perform process call with
        | some (answer, machine) => some (machine.goOn process.pid (next answer))
        | none =>
            if process.noted.isEmpty then none
            else call.interrupted?.map fun answer => machine.goOn process.pid (next answer)

def stepCourier (machine : Machine) (id : Nat) (courier : Courier) : Option Machine :=
  let put (machine : Machine) (courier : Courier) : Machine :=
    { machine with couriers := machine.couriers.set id courier }
  if courier.result.isSome then none
  else if courier.rest.isEmpty then some (put machine { courier with result := some (.ok ()) })
  else
    match machine.writePipe courier.pipe courier.rest with
    | none => none
    | some (.error number, machine) =>
        some (put machine { courier with result := some (.error (.os number)) })
    | some (.ok n, machine) => some (put machine { courier with rest := courier.rest.drop n })

/-- One step of the task of a number; background writers come first. -/
def stepTask (machine : Machine) (task : Nat) : Option Machine :=
  match machine.couriers[task]? with
  | some courier => machine.stepCourier task courier
  | none => (machine.processes[task - machine.couriers.length]?).bind machine.stepProcess

/-! ## All tasks -/

def stepsPerMillisecond : Nat := 1000

def tick (machine : Machine) : Machine :=
  if machine.steps < stepsPerMillisecond then { machine with steps := machine.steps + 1 }
  else { machine with steps := 0, clock := machine.clock + 1 }

def nextWaking (machine : Machine) : Option Nat :=
  (machine.processes.filterMap fun (process : Process) =>
    if !process.isAlive || process.isStopped then none
    else
      match process.program with
      | .call (.restUntil time) _ => some time
      | _ => none).min?

/-- Lets the next task that can go on take one step; `none` if nothing will ever
happen again. -/
def step (machine : Machine) : Option Machine :=
  let tasks := machine.couriers.length + machine.processes.length
  let stepped := (List.range tasks).findSome? fun n =>
    let task := (machine.turn + n) % tasks
    (machine.stepTask task).map fun machine => { machine with turn := task + 1 }
  match stepped with
  | some machine => some machine.tick
  | none => machine.nextWaking.map fun time => { machine with clock := max machine.clock time }

/-- Lets tasks run until `done` has an answer.  `none` if it never comes, or not
within so many steps. -/
def runUntil {α : Type} (done : Machine → Option α) : Nat → Machine → Option α × Machine
  | 0, machine => (done machine, machine)
  | steps + 1, machine =>
      match done machine with
      | some answer => (some answer, machine)
      | none =>
        match machine.step with
        | some machine => runUntil done steps machine
        | none => (none, machine)

/-- How many steps the shell waits for anything. -/
def patience : Nat := 4000000

/-- What waiting for something that never comes ends in. -/
def neverComes : IoError := .os Errno.deadlock

end PipelineShell.Machine
