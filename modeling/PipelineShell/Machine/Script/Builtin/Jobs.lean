/-
# Machine.Script.Builtin.Jobs -- jobs, signals and traps

Jobs are named by numbers behind a percent sign, or by signs for the current and
the previous one.  No job is under control, since there is no terminal; so none can
be moved to the foreground, and there is no group of processes to send signals to.
-/
import PipelineShell.Machine.Script.Builtin.Basic

namespace PipelineShell.Machine.Script.Builtin

set_option autoImplicit false

open Sh (ask change fail look print)

/-! ## Jobs -/

/-- The job of a name; the current one without a name. -/
def findJob (name? : Option Bytes) : Sh Job := do
  let jobs ← look (·.jobs)
  let shown := name?.getD (ascii "(null)")
  let or_ (job? : Option Job) (message : String) : Sh Job :=
    match job? with
    | some job => pure job
    | none => fail (ascii message ++ (if message.endsWith ": " then shown else []))
  let mark := name?.bind (·.head?)
  let name := (name?.getD (ascii "%")).drop 1
  if name?.isSome && mark != some (byteOf '%') then or_ none "No such job: "
  else if name.isEmpty || name == ascii "+" || name == ascii "%" then
    or_ jobs.head? "No current job"
  else if name == ascii "-" then or_ (jobs.drop 1).head? "No previous job"
  else
    let number := ((Ascii.natural? name).filter (0 < ·)).bind fun n =>
      jobs.find? (·.number == n)
    match number with
    | some job => pure job
    | none =>
        -- No job has a text by which it could be named, so any text but none is wrong.
        if name != ascii "?" then or_ none "No such job: "
        else
          match jobs with
          | [job] => pure job
          | [] => or_ none "No such job: "
          | _ => fail (shown ++ ascii ": ambiguous")

def stateOf (job : Job) : Bytes :=
  if !job.isDone then ascii "Running"
  else
    match job.members.getLast?.bind (·.status) with
    | some (.signaled number) => (ascii (Signal.description number)).take 32
    | some (.exited 0) => ascii "Done"
    | some (.exited code) => ascii "Done(" ++ Ascii.decimal code ++ ascii ")"
    | none => ascii "Done"

def textColumn : Nat := 33

/-- Blanks up to the column of the text, at least one. -/
def gap (used : Nat) : Bytes := List.replicate (max 1 (textColumn - used)) (byteOf ' ')

/-- Shows a job; one that is over is forgotten. -/
def showJob (job : Job) (showsPids onlyFirst : Bool) : Sh Unit := do
  let first := (job.members.head?.map (·.pid)).getD 0
  if onlyFirst then printLine (Ascii.decimal first)
  else
    let jobs ← look (·.jobs)
    let isAt (index : Nat) : Bool := jobs[index]?.any (·.number == job.number)
    let sign := if isAt 0 then "+" else if isAt 1 then "-" else " "
    let front := ascii "[" ++ Ascii.decimal job.number ++ ascii ("] " ++ sign ++ " ")
    let pid := if showsPids then Ascii.decimal first ++ ascii " " else []
    let line := front ++ pid ++ stateOf job
    let rest := if showsPids then job.members.drop 1 else []
    let others := rest.flatMap fun member =>
      let text := ascii " |\n" ++ List.replicate front.length (byteOf ' ') ++
        Ascii.decimal member.pid ++ ascii " "
      text ++ gap (text.length - 3)
    let pipes := if showsPids then [] else (job.members.drop 1).flatMap fun _ => ascii " | "
    printLine (line ++ gap line.length ++ others ++ pipes)
    if job.isDone then Job.remove job.number

def showJobs : Simple := fun _ words => do
  let (flags, words) ← options "lp" words
  let onlyFirst := flags.getLast?.any (·.letter == 'p')
  let showsPids := !flags.isEmpty
  if words.isEmpty then
    Job.reap none
    for job in ← look (·.jobs) do showJob job showsPids onlyFirst
  else
    for word in words do showJob (← findJob (some word)) showsPids onlyFirst
  pure 0

/-- Moves a job to the foreground or the background, which cannot be done. -/
def resume : Simple := fun _ words => do
  let words ← operands words
  let _ ← findJob words.head?
  fail (ascii "job " ++ words.head?.getD (ascii "(null)") ++
    ascii " not created under job control")

/-! ## Waiting -/

/-- Waits until a job is over.  Answers the signal that came between, if one did. -/
def awaitJob (number : Nat) : Sh (Option Nat) :=
  Sh.rounds none () fun _ => do
    match ← Job.job? number with
    | none => pure (.inr none)
    | some job =>
      if job.isDone then pure (.inr none)
      else
        match ← ask (.await none true) with
        | .ok (some (pid, status)) => do
            Job.note none pid status
            pure (.inl ())
        | .ok none => pure (.inl ())
        | .error _ => do
            Job.collectSignals
            let shell ← look id
            pure (.inr (if shell.pending.isEmpty then none else some shell.lastSignal))

def awaitAll : Sh Nat :=
  Sh.rounds 0 () fun _ => do
    match (← look (·.jobs)).find? (!·.isDone) with
    | none => do
        change fun shell => { shell with
          jobs := shell.jobs.map fun job => { job with isWaitedFor := true } }
        pure (.inr 0)
    | some job =>
        match ← awaitJob job.number with
        | some signal => pure (.inr (128 + signal))
        | none => pure (.inl ())

def awaitNamed : List Bytes → Nat → Sh Nat
  | [], status => pure status
  | word :: rest, status => do
      let job? ←
        if word.head? == some (byteOf '%') then do pure (some (← findJob (some word)))
        else
          let pid ← Sh.number word
          look fun shell => shell.jobs.find? fun job => job.members.getLast?.any (·.pid == pid)
      match job? with
      | none => awaitNamed rest status
      | some job =>
          match ← awaitJob job.number with
          | some signal => pure (128 + signal)
          | none => do
              change fun shell => { shell with jobs := shell.jobs.map fun other =>
                if other.number == job.number then { other with isWaitedFor := true } else other }
              awaitNamed rest (((← Job.job? job.number).map Job.statusOf).getD status)

def wait : Simple := fun _ words => do
  let words ← operands words
  if words.isEmpty then awaitAll else awaitNamed words 127

/-! ## Signals -/

/-- The signal of a name or number.  The names are those from `first` on. -/
def signal? (first : Nat) (text : Bytes) : Option Nat := Signal.number? first text

def refuseSignal {α : Type} : Sh α :=
  fail (ascii ("Usage: kill [-s sigspec | -signum | -sigspec] [pid | job]... or\n" ++
    "kill -l [exitstatus]"))

def nameSignals : List Bytes → Sh Nat
  | [] => do
      printLine (ascii "0")
      print ((List.range Signal.last).flatMap fun n => ascii (Signal.name (n + 1) ++ "\n"))
      pure 0
  | word :: _ => do
      let n ← Sh.number word
      let n := if 128 < n then n - 128 else n
      if 0 < n && n ≤ Signal.last then
        printLine (ascii (Signal.name n))
        pure 0
      else fail (ascii "invalid signal number or exit status: " ++ word)

def sendTo (number : Nat) : List Bytes → Nat → Sh Nat
  | [], status => pure status
  | word :: rest, status => do
      let mark := word.head?
      let target : Option Nat ←
        if mark == some (byteOf '%') then do
          let _ ← findJob (some word)
          pure none
        else if mark == some (byteOf '-') then do
          let _ ← Sh.number word.tail
          pure none
        else do pure (some (← Sh.number word))
      let answer ← match target with
        | some pid => ask (.signal pid number)
        | none => pure (.error Errno.noProcess)
      match answer with
      | .ok () => sendTo number rest status
      | .error fault => do
          Sh.warn (ascii (Errno.description fault ++ "\n"))
          sendTo number rest 1

def kill : Simple := fun _ words => do
  match words with
  | [] => refuseSignal
  | first :: others => do
      let isOption := first.head? == some (byteOf '-')
      let direct := if isOption then signal? 1 first.tail else none
      let (isListing, number, words) ←
        if direct.isSome then pure (false, direct, others)
        else if !isOption then pure (false, none, words)
        else do
          let (flags, words) ← options "ls:" words
          let mut number := none
          for flag in flags do
            if flag.letter == 's' then
              match signal? 1 flag.word with
              | some n => number := some n
              | none => fail (ascii "invalid signal number or name: " ++ flag.word)
          pure (flags.any (·.letter == 'l'), number, words)
      let number := if isListing then number else some (number.getD Signal.terminate)
      if (number.isNone || words.isEmpty) != isListing then refuseSignal
      else if isListing then nameSignals words
      else sendTo (number.getD Signal.terminate) words 0

/-! ## Traps -/

/-- The name of a signal in traps; the end of the shell counts as one. -/
def trapName (number : Nat) : String := if number == 0 then "EXIT" else Signal.name number

def listTraps : Sh Unit := do
  let shell ← look id
  print ((List.range (Signal.last + 1)).flatMap fun number =>
    match (shell.traps ++ shell.formerTraps).lookup number with
    | some text =>
        ascii "trap -- " ++ singleQuoted text ++ ascii (" " ++ trapName number ++ "\n")
    | none => [])

def putTrap (text : Option Bytes) (number : Nat) : Sh Unit := do
  change fun shell => { shell with
    traps := (text.map (number, ·)).toList ++ shell.traps.filter (·.1 != number) }
  if number != 0 then Job.arrange number

def putTraps (text : Option Bytes) : List Bytes → Sh Nat
  | [] => pure 0
  | word :: rest => do
      match signal? 0 word with
      | none => do
          grumble (ascii "trap: " ++ word ++ ascii ": bad trap")
          pure 1
      | some number => do
          putTrap text number
          putTraps text rest

def trap : Simple := fun _ words => do
  match ← operands words with
  | [] => do
      listTraps
      pure 0
  | [word] => putTraps none [word]
  | text :: signals => do
      let isNumber := (Ascii.natural? text).any (· ≤ Signal.last)
      if isNumber then putTraps none (text :: signals)
      else putTraps (if text == ascii "-" then none else some text) signals

end PipelineShell.Machine.Script.Builtin
