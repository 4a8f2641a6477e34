/-
# Machine.Script.Builtin.Directory -- changing the working directory

The shell keeps the working directory as it was asked for, so that the way through
a link is gone back by `..`; dots are resolved before the machine is asked
(`Directory.follow`).  With `-P` the machine's own path counts.
-/
import PipelineShell.Machine.Script.Builtin.Basic

namespace PipelineShell.Machine.Script

set_option autoImplicit false

namespace Directory

open Sh (ask change look)

/-- Goes from a directory along names.  Its own first slashes are never left. -/
def walk (directory : List Bytes) : List Bytes → List Bytes
  | [] => directory
  | name :: rest =>
      if name.isEmpty || name == ascii "." then walk directory rest
      else if name == ascii ".." then walk directory.dropLast rest
      else walk (directory ++ [name]) rest

/-- The path of names behind a root. -/
def join (root : Bytes) (names : List Bytes) : Bytes := root ++ (ascii "/").intercalate names

/-- The root of a path: two slashes are kept, one or more than two are one. -/
def rootOf (path : Bytes) : Bytes :=
  let slashes := (path.takeWhile (· == Path.slash)).length
  if slashes == 2 then ascii "//" else ascii "/"

/-- Where a path leads from a directory, without dots; nothing if the directory is
not known. -/
def follow (directory path : Bytes) : Option Bytes :=
  let names (path : Bytes) : List Bytes := Text.segments Path.slash path
  if path.head? == some Path.slash then some (join (rootOf path) (walk [] (names path)))
  else if directory.isEmpty then none
  else some (join (rootOf directory) (walk (walk [] (names directory)) (names path)))

/-- Where the machine says the shell is; nothing, with a complaint, if it cannot say. -/
def actual : Sh Bytes := do
  match ← ask .directory with
  | .ok path => pure path
  | .error number =>
      Sh.warn (ascii "getcwd() failed: " ++ ascii (Errno.description number))
      pure []

/-- Takes account of a change of directory. -/
def put (directory : Option Bytes) (keepsOld : Bool) : Sh Unit := do
  if keepsOld then
    let old ← look (·.directory)
    Sh.assign (ascii "OLDPWD") (some old) true false false
  let directory ← match directory with
    | some directory => pure directory
    | none => actual
  change fun shell => { shell with directory }
  Sh.assign (ascii "PWD") (some directory) true false false

/-- Changes to a directory.  Answers whether that was possible. -/
def enter (path : Bytes) (physically : Bool) : Sh Bool := do
  let current ← look (·.directory)
  let directory := if physically then none else follow current path
  match ← ask (.changeDirectory (directory.getD path)) with
  | .error _ => pure false
  | .ok () => do
      put directory true
      Search.doubtPlaces
      pure true

end Directory

namespace Builtin

open Sh (ask change fail look)

/-- Whether the options ask for the machine's own path: the last one counts. -/
def isPhysical (flags : List Flag) : Bool := flags.getLast?.any (·.letter == 'P')

def beginsWithDots (path : Bytes) : Bool :=
  match Text.segments Path.slash path with
  | first :: _ => first == ascii "." || first == ascii ".."
  | [] => false

def isDirectory (path : Bytes) : Sh Bool := do
  match ← ask (.status path true) with
  | .ok status => pure (status.kind == .directory)
  | .error _ => pure false

/-- The first of some directories in which there is a directory of a name, and
whether it is not the one that goes without saying. -/
def findDirectory (name : Bytes) : List Bytes → Sh (Option (Bytes × Bool))
  | [] => pure none
  | entry :: rest => do
      let path := if entry.isEmpty then name else entry ++ ascii "/" ++ name
      if ← isDirectory path then pure (some (path, !entry.isEmpty))
      else findDirectory name rest

def changeDirectory : Simple := fun _ words => do
  let (flags, words) ← options "LP" words
  let physically := isPhysical flags
  let (target, isBack) ← match words with
    | [] => do pure (((← Sh.setting? "HOME").getD []), false)
    | word :: _ =>
        if word == ascii "-" then do pure (((← Sh.setting? "OLDPWD").getD []), true)
        else pure (word, false)
  let isSearched := target.head? != some Path.slash && !beginsWithDots target
  let target := if isSearched && target.isEmpty then ascii "." else target
  let found ← if !isSearched then pure none
    else
      match ← Sh.setting? "CDPATH" with
      | none => pure none
      | some list => findDirectory target (Text.segments (byteOf ':') list)
  let (path, isElsewhere) := found.getD (target, false)
  if ← Directory.enter path physically then
    if isBack || isElsewhere then printLine (← look (·.directory))
    pure 0
  else fail (ascii "can't cd to " ++ target)

def printDirectory : Simple := fun _ words => do
  let (flags, _) ← options "LP" words
  let directory ← if isPhysical flags then Directory.actual else look (·.directory)
  printLine directory
  pure 0

end Builtin

end PipelineShell.Machine.Script
