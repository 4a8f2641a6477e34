/-
# Machine.Script.Search -- what the name of a command stands for

A name stands for a function, a builtin command, or a program in one of the
directories of the search list.  What a name was found to be is remembered until
the search list changes; after a change of directory the places of programs are
looked up again.  A name with a slash in it is a path and is not searched for.
-/
import PipelineShell.Machine.Script.Redirection

namespace PipelineShell.Machine.Script

set_option autoImplicit false

/-- What sort of builtin command there is. -/
structure Trait where
  /-- An error in a special command ends the shell, and assignments in front of it
  last. -/
  isSpecial : Bool
  /-- The command is found before its words are expanded. -/
  isRegular : Bool
  /-- Assignments among its words are not split. -/
  assigns : Bool
  deriving DecidableEq, Repr

namespace Trait

def special : Trait := ⟨true, true, false⟩

def regular : Trait := ⟨false, true, false⟩

def other : Trait := ⟨false, false, false⟩

end Trait

namespace Search

open Sh (ask change look)

def builtins : List (String × Trait) :=
  ([".", ":", "break", "continue", "eval", "exec", "exit", "return", "set", "shift", "times",
      "trap", "unset"].map fun name => (name, Trait.special)) ++
    (["export", "local", "readonly"].map fun name => (name, { Trait.special with assigns := true })) ++
    (["bg", "cd", "chdir", "command", "false", "fg", "getopts", "jobs", "kill", "pwd", "read", "true",
      "umask", "unalias", "wait"].map fun name => (name, Trait.regular)) ++
    [("alias", { Trait.regular with assigns := true })] ++
    (["[", "echo", "hash", "printf", "test", "type", "ulimit"].map fun name => (name, Trait.other))

def builtin? (name : Bytes) : Option Trait :=
  (builtins.find? fun entry => ascii entry.1 == name).map (·.2)

/-- The search list that a search uses if it does not use the one of the shell. -/
def usualList : Bytes := ascii "/usr/local/sbin:/usr/local/bin:/usr/sbin:/usr/bin:/sbin:/bin"

def list : Sh Bytes := do pure ((← Sh.setting? "PATH").getD [])

/-- Where a search list leads for a name. -/
def places (list name : Bytes) : List Bytes :=
  (Text.segments (byteOf ':') list).map fun directory =>
    if directory.isEmpty then name else directory ++ ascii "/" ++ name

/-- What a search comes to. -/
inductive Finding where
  | nothing
  /-- The name is a path. -/
  | path
  | entry (found : Found)

/-- How a name is searched for. -/
structure How where
  /-- Paths have to be there. -/
  checksPaths : Bool
  /-- Only regular builtin commands and functions count. -/
  isQuick : Bool
  skipsFunctions : Bool
  complains : Bool
  /-- Another search list than that of the shell. -/
  list? : Option Bytes

def How.usual : How := ⟨false, false, false, false, none⟩

/-- Looks a name up in a search list, from the first place on or, to look again,
from the one at which it was found.  Answers the place, or the error. -/
def searchPlaces (before : Option Nat) : Nat → Int → List Bytes → Sh (Except Int Nat)
  | _, fault, [] => pure (.error fault)
  | index, fault, place :: rest => do
      let isAbsolute := place.head? == some Path.slash
      if isAbsolute && before.any (index < ·) then
        searchPlaces before (index + 1) fault rest
      else if isAbsolute && before == some index then pure (.ok index)
      else
        match ← ask (.status place true) with
        | .error number =>
            let isMissing := number == Errno.noEntry || number == Errno.notDirectory
            searchPlaces before (index + 1) (if isMissing then fault else number) rest
        | .ok status =>
            if status.kind == .regular then pure (.ok index)
            else searchPlaces before (index + 1) Errno.noAccess rest

/-- Finds a name that is no path, given what it was found to be before.  With
`remembers`, what it is found to be is remembered. -/
def findAnew (name : Bytes) (how : How) (before : Option Found) (remembers : Bool) :
    Sh Finding := do
  if (builtin? name).isSome then
    if remembers then Sh.remember name .builtin
    pure (.entry .builtin)
  else if how.isQuick then pure .nothing
  else
    let before := match before with
      | some (.program index) => some index
      | _ => none
    let paths := places (← match how.list? with
      | some list => pure list
      | none => list) name
    match ← searchPlaces before 0 Errno.noEntry paths with
    | .ok index =>
        if remembers then Sh.remember name (.program index)
        pure (.entry (.program index))
    | .error number =>
        if before.isSome && remembers then Sh.forget name
        if how.complains then
          Sh.warn (name ++ ascii ": " ++ Redirection.reason number "not found")
        pure .nothing

def find (name : Bytes) (how : How) : Sh Finding := do
  if name.contains Path.slash then
    if !how.checksPaths then pure .path
    else
      match ← ask (.status name true) with
      | .ok _ => pure .path
      | .error _ => pure .nothing
  else
    let shell ← look id
    let usesOwn := how.list?.isNone
    match shell.found.lookup name with
    | none => findAnew name how none usesOwn
    | some entry =>
        let isSure := !shell.stale.contains name
        match entry with
        | .program _ =>
            if how.isQuick then pure .nothing
            else if !usesOwn then findAnew name how none false
            else if isSure then pure (.entry entry)
            else findAnew name how (some entry) true
        | .function _ _ =>
            if how.skipsFunctions then findAnew name how none false
            else pure (.entry entry)
        | .builtin =>
            if how.isQuick && !(builtin? name).any (·.isRegular) then pure .nothing
            else pure (.entry entry)

/-- Finds the command that a stage of a pipeline will need, so that it is known
afterwards. -/
def foresee (command : Command) : Sh Unit := do
  match command with
  | .simple _ _ (word :: _) _ =>
      match (Word.plain? word).filter Ascii.isName with
      | some name =>
          let _ ← find name .usual
      | none => pure ()
  | _ => pure ()

/-- After a change of directory, places are looked up again. -/
def doubtPlaces : Sh Unit := change fun shell =>
  { shell with stale := shell.found.filterMap fun entry => match entry.2 with
    | .program _ => some entry.1
    | _ => none }

/-! ## Running programs -/

def scriptShell : Bytes := ascii "/bin/sh"

/-- Tries to run a path.  Comes back only with an error. -/
def tryRun (path : Bytes) (words environment : List Bytes) : Sh Int := do
  let number : Int ← ask (.run path words environment)
  if number == Errno.notExecutable then
    ask (.run scriptShell (scriptShell :: path :: words.tail) environment)
  else pure number

def tryAll (words environment : List Bytes) : Int → List Bytes → Sh Int
  | fault, [] => pure fault
  | fault, path :: rest => do
      let number ← tryRun path words environment
      let isMissing := number == Errno.noEntry || number == Errno.notDirectory
      tryAll words environment (if isMissing then fault else number) rest

/-- Runs a program instead of the shell: a path, or a name that is looked up in a
search list from a place on. -/
def run {α : Type} (list : Bytes) (first : Nat) (words : List Bytes) : Sh α := do
  let name := words.headD []
  let environment ← Sh.environment
  let number ←
    if name.contains Path.slash then tryRun name words environment
    else tryAll words environment Errno.noEntry ((places list name).drop first)
  let isMissing := number == Errno.tooManyLinks || number == Errno.nameTooLong ||
    number == Errno.noEntry || number == Errno.notDirectory
  change fun shell => { shell with status := if isMissing then 127 else 126 }
  Sh.failAs .done (name ++ ascii ": " ++ Redirection.reason number "not found")

/-- Runs a program in a process of its own.  Answers the job. -/
def start (list : Bytes) (first : Nat) (words : List Bytes) : Sh Nat := do
  let number ← Job.make
  let shell ← look id
  let pid ← Sh.lift (Action.split (Action.program do
    let (_, shell) ← (run list first words : Sh Unit) shell
    pure shell.status))
  Job.add number pid
  pure number

end Search

end PipelineShell.Machine.Script
