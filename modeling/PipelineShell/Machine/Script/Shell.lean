/-
# Machine.Script.Shell -- the state of a script shell

A `Shell` is everything that a script shell knows between two commands, and an
action of type `Sh α` changes it, asks the machine for something, and comes to a
value or is broken off (`Raise`).  What a shell prints is held back until it is
flushed; what it complains about is written at once.
-/
import PipelineShell.Machine.SystemCall
import PipelineShell.Machine.Script.Grammar

namespace PipelineShell.Machine.Script

set_option autoImplicit false

/-! ## State -/

structure Variable where
  name : Bytes
  /-- A variable without a value is only known by name. -/
  value : Option Bytes
  isExported : Bool
  isReadOnly : Bool
  /-- The variable is kept even without a value. -/
  isKept : Bool
  deriving DecidableEq, Repr

/-- What a local variable was before. -/
structure Saved where
  name : Bytes
  before : Option Variable

/-- What is brought back at the end of a scope. -/
inductive Memory where
  | variable (saved : Saved)
  | options (options : List Char)

/-- The parameters of a script or function, and how far their options have been
read. -/
structure Parameters where
  words : List Bytes
  nextWord : Nat
  /-- Where in a word of several options reading goes on. -/
  offset : Option Nat
  deriving DecidableEq, Repr

inductive Found where
  | function (line : Nat) (body : Command)
  | builtin
  /-- A program in the directory of that number in the search list. -/
  | program (index : Nat)

inductive Skip where
  | nothing
  | break
  | continue
  /-- The rest of a function, which has set a status. -/
  | function
  /-- The rest of a function, whose status is that of its last command. -/
  | functionAsIs
  deriving DecidableEq, Repr

/-- A process of a job. -/
structure Member where
  pid : Nat
  status : Option ExitStatus
  deriving DecidableEq, Repr

/-- A pipeline that was started. -/
structure Job where
  number : Nat
  members : List Member
  /-- Its end has been taken account of. -/
  isWaitedFor : Bool
  deriving DecidableEq, Repr

def Job.isDone (job : Job) : Bool := job.members.all (·.status.isSome)

structure Shell where
  name : Bytes
  /-- The builtin command at work. -/
  command : Option Bytes
  line : Nat
  /-- The line up to which the script has been read. -/
  readTo : Nat
  /-- The same for the script that the shell was started for. -/
  mainReadTo : Nat
  /-- The end of the script has been read, but not taken account of. -/
  isAtEnd : Bool
  options : List Char
  store : List Variable
  /-- What local variables were before, the innermost scope first. -/
  scopes : List (List Memory)
  parameters : Parameters
  /-- What names have been found to be. -/
  found : List (Bytes × Found)
  /-- Names whose places have to be looked up again. -/
  stale : List Bytes
  aliases : List (Bytes × Bytes)
  documents : Documents
  status : Nat
  /-- The status of the last command substitution. -/
  substituted : Nat
  /-- The status that counts when a trap is at work. -/
  kept : Option Nat
  skip : Skip
  skipCount : Nat
  loopDepth : Nat
  /-- So many functions are under way. -/
  callDepth : Nat
  /-- Commands by signal; an empty one ignores the signal. -/
  traps : List (Nat × Bytes)
  /-- The traps that the shell had before it was split off. -/
  formerTraps : List (Nat × Bytes)
  pending : List Nat
  /-- The last signal noted. -/
  lastSignal : Nat
  /-- Signals that were ignored from the start. -/
  neverTrapped : List Nat
  /-- Signals that the shell has made arrangements for. -/
  arranged : List Nat
  isSubshell : Bool
  /-- The jobs, the current one first. -/
  jobs : List Job
  lastBackground : Nat
  rootPid : Nat
  /-- The working directory as it was asked for. -/
  directory : Bytes
  /-- Copies of descriptors that are redirected, the innermost command first: `none`
  if the descriptor was closed. -/
  redirected : List (List (Nat × Option Nat))
  /-- Where commands are traced. -/
  traceTo : Nat
  /-- The text in front of a trace is being expanded. -/
  isTracing : Bool
  /-- What has been printed, the latest first. -/
  printed : List Bytes
  /-- Writing has failed. -/
  writeFailed : Bool

/-- Why an action is broken off. -/
inductive Raise where
  /-- Something is wrong. -/
  | error
  /-- The shell was told to exit. -/
  | exit
  /-- The shell has nothing more to do. -/
  | done
  deriving DecidableEq, Repr

abbrev Sh := ExceptT Raise (StateT Shell Action)

/-- How a command is evaluated. -/
structure Manner where
  /-- The process ends with the command. -/
  exits : Bool
  /-- Its status is looked at, so that failing does not end the shell. -/
  isTested : Bool
  deriving DecidableEq, Repr

def Manner.usual : Manner := ⟨false, false⟩

/-- The evaluation of commands one level deeper, for what commands contain. -/
structure Evaluator where
  command : Command → Manner → Sh Nat
  text : Bytes → Manner → Sh Nat
  /-- A file or the input up to its end. -/
  file : Nat → Sh Nat

namespace Sh

/-! ## Actions -/

def lift {α : Type} (action : Action α) : Sh α := fun shell => do
  let a ← action
  pure (.ok a, shell)

def ask (call : Call) : Sh call.Answer := lift (Action.ask call)

def raise {α : Type} (why : Raise) : Sh α := fun shell => pure (.error why, shell)

def look {α : Type} (view : Shell → α) : Sh α := fun shell => pure (.ok (view shell), shell)

def change (f : Shell → Shell) : Sh Unit := fun shell => pure (.ok (), f shell)

/-- What an action comes to, even if it is broken off. -/
def attempt {α : Type} (action : Sh α) : Sh (Except Raise α) := fun shell => do
  let (answer, shell) ← action shell
  pure (.ok answer, shell)

/-- Goes through rounds until one comes to a value. -/
def rounds {σ α : Type} (given : α) (start : σ) (round : σ → Sh (σ ⊕ α)) : Sh α := fun shell =>
  Action.repeatedly (.ok given, shell) (start, shell) fun (state, shell) => do
    match ← round state shell with
    | (.error why, shell) => pure (.inr (.error why, shell))
    | (.ok (.inl state), shell) => pure (.inl (state, shell))
    | (.ok (.inr a), shell) => pure (.inr (.ok a, shell))

def hasOption (letter : Char) : Sh Bool := look (·.options.contains letter)

/-! ## Printing and complaining -/

def print (text : Bytes) : Sh Unit := change fun shell =>
  { shell with printed := text :: shell.printed }

def flush : Sh Unit := do
  let text := (← look (·.printed)).reverse.flatten
  change fun shell => { shell with printed := [] }
  if !text.isEmpty then
    match ← lift (Action.writeAll 1 text) with
    | .ok () => pure ()
    | .error _ => change fun shell => { shell with writeFailed := true }

def writeError (text : Bytes) : Sh Unit := do
  let _ ← lift (Action.writeAll 2 text)

/-- A complaint, under the name of the shell and the number of the line. -/
def warn (message : Bytes) : Sh Unit := do
  let shell ← look id
  let command := match shell.command with
    | some command => command ++ ascii ": "
    | none => []
  writeError (shell.name ++ ascii ": " ++ Ascii.decimal shell.line ++ ascii ": " ++ command ++
    message ++ ascii "\n")

def failAs {α : Type} (why : Raise) (message : Bytes) : Sh α := do
  warn message
  flush
  raise why

/-- A complaint about something wrong. -/
def fail {α : Type} (message : Bytes) : Sh α := do
  change fun shell => { shell with status := 2 }
  failAs .error message

def badNumber {α : Type} (text : Bytes) : Sh α := fail (ascii "Illegal number: " ++ text)

/-! ## Variables -/

/-- The names of variables are kept in so many groups. -/
def groupCount : Nat := 39

def group (groups : Nat) (name : Bytes) : Nat :=
  ((name.headD 0).toNat * 16 + (name.map UInt8.toNat).foldl (· + ·) 0) % groups

def grouped {α : Type} (groups : Nat) (name : α → Bytes) (all : List α) : List α :=
  (List.range groups).flatMap fun n => all.filter fun a => group groups (name a) == n

def findVariable (name : Bytes) : Sh (Option Variable) :=
  look (·.store.find? (·.name == name))

def value? (name : Bytes) : Sh (Option Bytes) := do
  pure ((← findVariable name).bind (·.value))

/-- The value of a variable by the text of its name. -/
def setting? (name : String) : Sh (Option Bytes) := value? (ascii name)

def put (new : Variable) : Sh Unit := change fun shell =>
  { shell with store :=
      if shell.store.any (·.name == new.name) then
        shell.store.map fun v => if v.name == new.name then new else v
      else shell.store ++ [new] }

def drop (name : Bytes) : Sh Unit := change fun shell =>
  { shell with store := shell.store.filter (·.name != name) }

def forgetPrograms (shell : Shell) : Shell :=
  { shell with found := shell.found.filter fun entry => match entry.2 with
    | .program _ => false
    | _ => true }

def greatest : Nat := 2147483647

/-- A decimal numeral with blanks around it: its value, or nothing if it is none or
too large for the machine. -/
def integer? (text : Bytes) : Option Int :=
  let body := text.dropWhile Ascii.isSpace
  let negative := body.head? == some (byteOf '-')
  let body := if negative || body.head? == some (byteOf '+') then body.tail else body
  let digits := body.takeWhile Ascii.isDigit
  let rest := (body.drop digits.length).dropWhile Ascii.isSpace
  let value := Ascii.value digits
  if digits.isEmpty || !rest.isEmpty then none
  else if negative then if value ≤ Nat.pow 2 63 then some (-(value : Int)) else none
  else if value < Nat.pow 2 63 then some value
  else none

def number (text : Bytes) : Sh Nat := do
  match integer? text with
  | some n => if n < 0 || greatest < n then badNumber text else pure n.toNat
  | none => badNumber text

/-- Takes account of a new value of a variable that means something. -/
def react (name value : Bytes) : Sh Unit := do
  if name == ascii "OPTIND" then
    let n ← number value
    change fun shell => { shell with
      parameters := { shell.parameters with nextWord := if n == 0 then 1 else n, offset := none } }
  else if name == ascii "PATH" then change forgetPrograms
  else pure ()

/-- Gives a variable a value, or takes it away. -/
def assign (name : Bytes) (value : Option Bytes) (exports readOnly keeps : Bool) : Sh Unit := do
  let exports := exports || (← hasOption 'a')
  match ← findVariable name with
  | some old =>
      if old.isReadOnly then
        fail (name ++ ascii ": is read only")
      else
        react name (value.getD [])
        if value.isNone && !exports && !readOnly && !keeps && !old.isKept then drop name
        else
          put ⟨name, value, exports || old.isExported, readOnly, keeps || old.isKept⟩
  | none =>
      if value.isNone && !exports && !readOnly && !keeps then pure ()
      else put ⟨name, value, exports, readOnly, keeps⟩

/-- The name of a variable: the part of a text up to an equals sign, if it can be
one. -/
def variableName (text : Bytes) : Sh Bytes := do
  let name := text.takeWhile (· != byteOf '=')
  if Ascii.isName name then pure name else fail (name ++ ascii ": bad variable name")

def setVariable (text value : Bytes) : Sh Unit := do
  assign (← variableName text) (some value) false false false

def unsetVariable (text : Bytes) : Sh Unit := do
  assign (← variableName text) none false false false

/-- A name, and the value behind the equals sign if there is one. -/
def splitAssignment (text : Bytes) : Bytes × Option Bytes :=
  let name := text.takeWhile (· != byteOf '=')
  if name.length < text.length then (name, some (text.drop (name.length + 1))) else (name, none)

def makeAssignment (text : Bytes) (exports : Bool) : Sh Unit := do
  let (name, value) := splitAssignment text
  assign name (some (value.getD [])) exports false false

def environment : Sh (List Bytes) := do
  let store ← look (·.store)
  pure ((grouped groupCount (·.name) store).filterMap fun v =>
    if v.isExported then v.value.map fun value => v.name ++ ascii "=" ++ value else none)

/-! ## Scopes -/

/-- Makes a variable local to the innermost scope. -/
def makeLocal (text : Bytes) (exports : Bool) : Sh Unit := do
  let remember (memory : Memory) : Sh Unit := change fun shell =>
    { shell with scopes := match shell.scopes with
      | scope :: outer => (memory :: scope) :: outer
      | [] => [] }
  if text == ascii "-" then
    let options ← look (·.options)
    remember (.options options)
  else
    let (name, value) := splitAssignment text
    match ← findVariable name with
    | none =>
        let name ← if value.isNone then variableName name else pure name
        assign name value exports false true
        remember (.variable ⟨name, none⟩)
    | some old =>
        put { old with isKept := true }
        if value.isSome then assign name value exports false false
        remember (.variable ⟨name, some old⟩)

/-- Brings back what a scope remembers. -/
def restore : List Memory → Sh Unit
  | [] => pure ()
  | .options options :: rest => do
      change fun shell => { shell with options }
      restore rest
  | .variable ⟨name, none⟩ :: rest => do
      match ← findVariable name with
      | some v => put { v with isKept := false, isReadOnly := false }
      | none => pure ()
      assign name none false false false
      restore rest
  | .variable ⟨_, some old⟩ :: rest => do
      react old.name (old.value.getD [])
      put old
      restore rest

def openScope : Sh Unit := change fun shell => { shell with scopes := [] :: shell.scopes }

/-- Ends scopes until so many are left. -/
def closeScopes (left : Nat) : Nat → Sh Unit
  | 0 => pure ()
  | fuel + 1 => do
      match ← look (·.scopes) with
      | [] => pure ()
      | scope :: outer =>
          if outer.length < left then pure ()
          else
            change fun shell => { shell with scopes := outer }
            restore scope
            closeScopes left fuel

/-! ## Aliases and functions -/

def remember (name : Bytes) (found : Found) : Sh Unit := change fun shell =>
  { shell with
    stale := shell.stale.filter (· != name)
    found :=
      if shell.found.any (·.1 == name) then
        shell.found.map fun entry => if entry.1 == name then (name, found) else entry
      else shell.found ++ [(name, found)] }

def forget (name : Bytes) : Sh Unit := change fun shell =>
  { shell with found := shell.found.filter (·.1 != name) }

end Sh

/-- A word between single quotes, so that a shell reads it back as it is. -/
def singleQuoted : Bytes → Bytes := go []
where
  /-- Goes on in a part between quotes, which is kept backwards. -/
  go (part : Bytes) : Bytes → Bytes
    | [] => ascii "'" ++ part.reverse ++ ascii "'"
    | b :: rest =>
        if b != byteOf '\'' then go (b :: part) rest
        else
          ascii "'" ++ part.reverse ++ ascii "'" ++ ascii "\"" ++ quotes rest
  /-- A run of quotes stands between double quotes. -/
  quotes : Bytes → Bytes
    | [] => ascii "'\""
    | b :: rest =>
        if b == byteOf '\'' then ascii "'" ++ quotes rest
        else ascii "'\"" ++ go [b] rest

end PipelineShell.Machine.Script
