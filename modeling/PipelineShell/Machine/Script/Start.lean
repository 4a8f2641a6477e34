/-
# Machine.Script.Start -- the script shell as a program

The shell takes its variables from the environment, its options and parameters from
its words, and its commands from a word, a file or its input.  When it is told to talk
to someone, it asks for every command, and goes on after errors.
-/
import PipelineShell.Machine.Script.Evaluation

namespace PipelineShell.Machine.Script

set_option autoImplicit false

namespace Start

open Sh (ask attempt change fail look raise)

/-! ## Variables -/

/-- The variables that the shell has from the start; some are only known by name. -/
def initialStore : List Variable :=
  let known (name : String) (value : Option Bytes) : Variable :=
    ⟨ascii name, value, false, false, true⟩
  [known "IFS" (some Fields.usualSeparators), known "MAIL" none, known "MAILPATH" none,
    known "PATH" (some Search.usualList), known "PS1" (some (ascii "# ")),
    known "PS2" (some (ascii "> ")), known "PS4" (some (ascii "+ ")),
    known "OPTIND" (some (ascii "1"))]

/-- The state of a shell before anything has been read. -/
def shell : Shell where
  name := ascii "sh"
  command := none
  line := 0
  readTo := 1
  mainReadTo := 1
  isAtEnd := false
  options := []
  store := initialStore
  scopes := []
  parameters := ⟨[], 1, none⟩
  found := []
  stale := []
  aliases := []
  documents := #[]
  status := 0
  substituted := 0
  kept := none
  skip := .nothing
  skipCount := 0
  loopDepth := 0
  callDepth := 0
  traps := []
  formerTraps := []
  pending := []
  lastSignal := 0
  neverTrapped := []
  arranged := []
  isSubshell := false
  jobs := []
  lastBackground := 0
  rootPid := 0
  directory := []
  redirected := []
  traceTo := 2
  isTracing := false
  printed := []
  writeFailed := false

/-- Takes variables over from the environment; what is no variable is dropped. -/
def takeEnvironment : List Bytes → Sh Unit
  | [] => pure ()
  | entry :: rest => do
      match Sh.splitAssignment entry with
      | (name, some value) => if Ascii.isName name then Sh.assign name (some value) true false false
      | _ => pure ()
      takeEnvironment rest

/-- Whether a path leads to the working directory. -/
def isHere (path : Bytes) : Sh Bool := do
  if path.head? != some Path.slash then pure false
  else
    match ← ask (.status path true) with
    | .error _ => pure false
    | .ok there =>
        match ← ask (.status (ascii ".") true) with
        | .error _ => pure false
        | .ok here => pure (there.identity == here.identity)

def setVariables (environment : List Bytes) : Sh Unit := do
  takeEnvironment environment
  Sh.assign (ascii "IFS") (some Fields.usualSeparators) false false false
  Sh.assign (ascii "OPTIND") (some (ascii "1")) false false false
  Sh.assign (ascii "PPID") (some (Ascii.decimal (← ask .parent))) false false false
  let directory ← Sh.setting? "PWD"
  let isKnown ← match directory with
    | some path => isHere path
    | none => pure false
  Directory.put (if isKnown then directory else none) false
  let pid : Nat ← ask .self
  change fun shell => { shell with rootPid := pid }

/-! ## Words -/

/-- Where commands come from. -/
inductive Origin where
  | text (text : Bytes)
  | file (descriptor : Nat)

def takeWords (words : List Bytes) : Sh Origin := do
  let name := words.headD []
  change fun shell => { shell with name }
  let chosen ← ShellOption.choose true (words.length + 1) ⟨false, false, none, words.tail⟩
  if chosen.rest.isEmpty then
    if chosen.hasCommand then fail (ascii "-c requires an argument")
    ShellOption.put 's' true
  let readsInput ← Sh.hasOption 's'
  let (origin, name, parameters) ← match chosen.hasCommand, chosen.rest with
    | true, text :: rest => pure (Origin.text text, rest.headD name, rest.tail)
    | false, path :: rest =>
        if readsInput then pure (Origin.file 0, name, path :: rest)
        else do pure (Origin.file (← Builtin.openScript path), path, rest)
    | _, [] => pure (Origin.file 0, name, [])
  change fun shell => { shell with name, parameters := ⟨parameters, 1, none⟩ }
  if ← Sh.hasOption 'i' then ShellOption.put 'm' true
  ShellOption.checkMonitor
  pure origin

/-! ## Talking -/

/-- How often the end of the input is met without leaving, if it is not meant to be
the end of the shell. -/
def patience : Nat := 50

/-- Says how to leave the shell, over and over. -/
def refuseToLeave : Nat → Sh Unit
  | 0 => pure ()
  | n + 1 => do
      Sh.writeError (ascii "\nUse \"exit\" to leave shell.\n")
      refuseToLeave n

def ask? (name : String) : Sh Unit := do
  Sh.writeError (← Expansion.text Evaluation.evaluator ((← Sh.setting? name).getD []))

/-- Evaluates a command of someone who is talking to the shell. -/
def answer (script : Evaluation.Reader) : Sh (Option Evaluation.Reader) := do
  ask? "PS1"
  let (script, line) ← Evaluation.readFileLine 0 script
  if line.isEnd then pure none
  else
    let _ ← Evaluation.command Evaluation.evaluator line.command .usual
    change fun shell => { shell with skip := .nothing }
    pure (some script)

/-- Talks to someone up to the end of the input.  After an error, what has been read
ahead is dropped. -/
def talk : Sh Nat := do
  Sh.rounds () Evaluation.Reader.start fun script => do
    match ← attempt (answer script) with
    | .ok none => pure (.inr ())
    | .ok (some script) => pure (.inl script)
    | .error .error => do
        Job.settle (some .error)
        change fun shell => { shell with scopes := [], command := none }
        Redirection.undoTo 0 (← look (·.redirected)).length
        pure (.inl .start)
    | .error why => raise why
  if !(← Sh.hasOption 'I') then Sh.writeError (ascii "\n")
  look (·.status)

/-! ## The program -/

def evaluateFile (descriptor : Nat) : Sh Nat := do
  let isTalking ← Sh.hasOption 'i'
  let status ←
    if isTalking && descriptor == 0 then talk else Evaluation.evaluator.file descriptor
  if ← Sh.hasOption 'I' then refuseToLeave patience
  pure status

def run (words environment : List Bytes) : Sh Nat := do
  ask (.arrange Signal.childEnded .usual)
  setVariables environment
  match ← takeWords words with
  | .file descriptor => evaluateFile descriptor
  | .text text => do
      let goesOn ← Sh.hasOption 's'
      let status ← Evaluation.evaluator.text text ⟨!goesOn, false⟩
      if goesOn then evaluateFile 0 else pure status

end Start

/-- What the script shell does, given its words and its environment. -/
def program (words environment : List Bytes) : Program :=
  Job.conclude Evaluation.evaluator (Start.run words environment) Start.shell

end PipelineShell.Machine.Script
