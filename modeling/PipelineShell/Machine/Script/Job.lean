/-
# Machine.Script.Job -- shells that are split off, and waiting for them

A shell runs commands in processes of its own by splitting in two.  The part that
is split off forgets the traps, jobs and redirections that belong to the other; it
goes on until it is broken off, and then ends (`Job.conclude`).

The shell keeps book of the processes it has started; a `Job` is those of one
pipeline.
-/
import PipelineShell.Machine.Script.Shell

namespace PipelineShell.Machine.Script.Job

set_option autoImplicit false

open Sh (ask change look raise)

/-! ## Ending -/

/-- Takes account of the end of what was being done. -/
def settle (why : Option Raise) : Sh Unit := change fun shell =>
  let status := match shell.kept with
    | some status =>
        if why == some .exit || shell.skip == .functionAsIs then status else shell.status
    | none => shell.status
  { shell with status, kept := none, skip := .nothing, loopDepth := 0, isTracing := false }

/-- Ends a shell that was broken off: the trap for the end is taken, and what was
printed is written.  Answers the status. -/
def finish (evaluator : Evaluator) (why : Raise) : Sh Nat := do
  settle (some why)
  change fun shell => { shell with kept := some shell.status }
  match (← look (·.traps)).lookup 0 with
  | some text =>
      change fun shell => { shell with
        traps := shell.traps.filter (·.1 != 0), skip := .nothing }
      if text.isEmpty then settle none
      else
        match ← Sh.attempt (evaluator.text text .usual) with
        | .ok _ => do
            change fun shell => { shell with skip := .functionAsIs }
            settle none
        | .error why => settle (some why)
  | none => settle none
  Sh.flush
  look (·.status)

def conclude (evaluator : Evaluator) (action : Sh Nat) (shell : Shell) : Program :=
  Action.program do
    let (answer, shell) ← action shell
    let why := match answer with
      | .ok _ => Raise.done
      | .error why => why
    let (answer, shell) ← finish evaluator why shell
    match answer with
    | .ok code => pure code
    | .error _ => pure shell.status

/-! ## Signals -/

/-- What is arranged for a signal by a trap.  The ends of children are never
ignored: the shell waits for them. -/
def dispositionOf (number : Nat) (trap : Option Bytes) : Disposition :=
  match trap with
  | none => .usual
  | some [] => if number == Signal.childEnded then .usual else .ignored
  | some _ => .noted

/-- Makes arrangements for a signal, as its trap asks; a signal that was ignored
from the start stays so, unless it is about children. -/
def arrange (number : Nat) : Sh Unit := do
  let shell ← look id
  if shell.neverTrapped.contains number then pure ()
  else
    let isIgnored : Bool ←
      if number == Signal.childEnded || shell.arranged.contains number then pure false
      else do pure ((← ask (.arranged number)) == .ignored)
    if isIgnored then
      change fun shell => { shell with neverTrapped := number :: shell.neverTrapped }
    else
      change fun shell => { shell with arranged := number :: shell.arranged }
      ask (.arrange number (dispositionOf number (shell.traps.lookup number)))

def ignoreForGood (number : Nat) : Sh Unit := do
  ask (.arrange number .ignored)
  change fun shell => { shell with neverTrapped := number :: shell.neverTrapped }

def arrangeAll : List Nat → Sh Unit
  | [] => pure ()
  | number :: rest => do
      arrange number
      arrangeAll rest

def collectSignals : Sh Unit := do
  let noted : List Nat ← ask .notedSignals
  change fun shell =>
    let trapped := noted.filter fun number => (shell.traps.lookup number).isSome
    { shell with
      pending := shell.pending ++ trapped.filter (!shell.pending.contains ·)
      lastSignal := trapped.getLast?.getD shell.lastSignal }

/-! ## Splitting -/

inductive Split where
  | foreground
  | background
  /-- To have its output read. -/
  | reading
  deriving DecidableEq, Repr

def listsTraps (command : Option Command) : Bool :=
  match command with
  | some (.simple _ _ (word :: _) _) => Word.plain? word == some (ascii "trap")
  | _ => false

/-- Becomes the part that is split off. -/
def enter (command : Option Command) (way : Split) (isFirst : Bool) : Sh Unit := do
  let shell ← look id
  let taken := shell.traps.filter (!·.2.isEmpty)
  change fun shell => { shell with
    isSubshell := true
    readTo := shell.mainReadTo
    traps := shell.traps.filter (·.2.isEmpty)
    formerTraps := if listsTraps command then taken else []
    skip := .nothing
    loopDepth := 0
    pending := []
    jobs := []
    redirected := []
    traceTo := 2
    printed := [] }
  arrangeAll ((taken.map (·.1)).filter (0 < ·))
  if way == .background then
    ignoreForGood Signal.interrupt
    ignoreForGood Signal.quit
    if isFirst then
      let _ ← ask (.close 0)
      let _ ← ask (.openFile (ascii "/dev/null") .reading 0)

/-- Splits a shell off.  Answers the number of its process. -/
def split (evaluator : Evaluator) (command : Option Command) (way : Split) (isFirst : Bool)
    (action : Sh Nat) : Sh Nat := do
  Sh.flush
  let shell ← look id
  let child := conclude evaluator (do
    enter command way isFirst
    action) shell
  let pid ← Sh.lift (Action.split child)
  if way == .background then change fun shell => { shell with lastBackground := pid }
  pure pid

/-! ## Jobs -/

/-- The least number that no job has.  A job that is over and was waited for gives
its number up. -/
def free : Sh Nat := do
  let jobs ← look (·.jobs)
  let taken := (jobs.filter fun job => !(job.isDone && job.isWaitedFor)).map (·.number)
  let number := ((List.range (taken.length + 1)).find? fun n => !taken.contains (n + 1)).getD 0 + 1
  change fun shell => { shell with jobs := shell.jobs.filter (·.number != number) }
  pure number

/-- Makes a new job without processes. -/
def make : Sh Nat := do
  let number ← free
  change fun shell => { shell with jobs := ⟨number, [], false⟩ :: shell.jobs }
  pure number

def add (number pid : Nat) : Sh Unit := change fun shell =>
  { shell with jobs := shell.jobs.map fun job =>
      if job.number == number then { job with members := job.members ++ [⟨pid, none⟩] } else job }

def job? (number : Nat) : Sh (Option Job) := look (·.jobs.find? (·.number == number))

def remove (number : Nat) : Sh Unit := change fun shell =>
  { shell with jobs := shell.jobs.filter (·.number != number) }

def statusOf (job : Job) : Nat :=
  match job.members.getLast?.bind (·.status) with
  | some (.exited code) => code
  | some (.signaled number) => 128 + number
  | none => 0

/-- What is said about a process that a signal has ended. -/
def farewell (status : ExitStatus) : Bytes :=
  match status with
  | .signaled number =>
      if number == Signal.interrupt || number == Signal.brokenPipe then []
      else ascii (Signal.description number ++ "\n")
  | .exited _ => []

/-- Takes account of the end of a process.  If it belongs to a certain job, what
there is to say about it is said. -/
def note (wanted : Option Nat) (pid : Nat) (status : ExitStatus) : Sh Unit := do
  let owner := (← look (·.jobs)).find? fun job =>
    !job.isDone && job.members.any (·.pid == pid)
  match owner with
  | none => pure ()
  | some owner =>
      change fun shell => { shell with jobs := shell.jobs.map fun job =>
        if job.number == owner.number then
          { job with members := job.members.map fun member =>
              if member.pid == pid then { member with status := some status } else member }
        else job }
      if wanted == some owner.number && !(farewell status).isEmpty then
        Sh.writeError (farewell status)

/-- Takes account of all processes that have ended by now. -/
def reap (wanted : Option Nat) : Sh Unit :=
  Sh.rounds () () fun _ => do
    match ← ask (.await none false) with
    | .ok (some (pid, status)) => do
        note wanted pid status
        pure (.inl ())
    | _ => pure (.inr ())

/-- Waits for the end of a job, and forgets it.  Answers its status. -/
def awaitEnd (number : Nat) : Sh Nat := do
  Sh.rounds () () fun _ => do
    match ← job? number with
    | none => pure (.inr ())
    | some job =>
      if job.isDone then pure (.inr ())
      else
        match ← ask (.await none true) with
        | .ok (some (pid, status)) => do
            note (some number) pid status
            pure (.inl ())
        | .ok none => pure (.inl ())
        | .error fault => do
            collectSignals
            pure (if fault == Errno.interrupted then .inl () else .inr ())
  reap (some number)
  let status := ((← job? number).map statusOf).getD 0
  remove number
  pure status

/-- Splits a shell off whose output is read.  Answers where it can be read, and the
job. -/
def startReading (evaluator : Evaluator) (command : Command) : Sh (Nat × Nat) := do
  let (reader, writer) : Nat × Nat ← ask .openPipe
  let number ← make
  let pid ← split evaluator (some command) .reading true do
    let _ ← ask (.close reader)
    if writer != 1 then
      let _ ← ask (.copyOnto writer 1)
      let _ ← ask (.close writer)
    evaluator.command command ⟨true, false⟩
  add number pid
  let _ ← ask (.close writer)
  pure (reader, number)

end PipelineShell.Machine.Script.Job
