/-
# Machine.Script.Builtin.Names -- aliases, and what names stand for

A name is looked for among the keywords, the aliases, what has been found before,
and then like any command (`describe`).
-/
import PipelineShell.Machine.Script.Builtin.Basic

namespace PipelineShell.Machine.Script.Builtin

set_option autoImplicit false

open Sh (change fail look print)

/-! ## Aliases -/

def aliasGroups : Nat := 39

/-- Prints an alias so that it can be read back. -/
def printAlias (entry : Bytes × Bytes) : Sh Unit :=
  printLine (entry.1 ++ ascii "=" ++ singleQuoted entry.2)

def putAlias (name text : Bytes) : Sh Unit := change fun shell =>
  { shell with aliases :=
      if shell.aliases.any (·.1 == name) then
        shell.aliases.map fun entry => if entry.1 == name then (name, text) else entry
      else shell.aliases ++ [(name, text)] }

def makeAliases : Simple := fun _ words => do
  if words.isEmpty then
    for entry in Sh.grouped aliasGroups (·.1) (← look (·.aliases)) do printAlias entry
    pure 0
  else
    let mut status := 0
    for word in words do
      -- An equals sign at the front belongs to the name.
      let name := word.take 1 ++ (word.drop 1).takeWhile (· != byteOf '=')
      if name.length < word.length then putAlias name (word.drop (name.length + 1))
      else
        match (← look (·.aliases)).lookup word with
        | some text => printAlias (word, text)
        | none =>
            grumble (ascii "alias: " ++ word ++ ascii " not found")
            status := 1
    pure status

def dropAliases : Simple := fun _ words => do
  let (flags, words) ← options "a" words
  if !flags.isEmpty then
    change fun shell => { shell with aliases := [] }
    pure 0
  else
    let mut status := 0
    for word in words do
      if ((← look (·.aliases)).lookup word).isSome then
        change fun shell => { shell with aliases := shell.aliases.filter (·.1 != word) }
      else
        grumble (ascii "unalias: " ++ word ++ ascii " not found")
        status := 1
    pure status

/-! ## What names stand for -/

/-- Says what a name stands for.  The answer is 127 if it stands for nothing. -/
def describe (name : Bytes) (list? : Option Bytes) (isVerbose : Bool) : Sh Nat := do
  let say (long short : Bytes) : Sh Nat := do
    printLine (if isVerbose then name ++ long else short)
    pure 0
  if (Token.keyword? name).isSome then say (ascii " is a shell keyword") name
  else
    let shell ← look id
    match shell.aliases.lookup name with
    | some text =>
        if isVerbose then say (ascii " is an alias for " ++ text) []
        else
          print (ascii "alias ")
          printAlias (name, text)
          pure 0
    | none =>
        let known := if list?.isSome then none else shell.found.lookup name
        let finding ← match known with
          | some entry => pure (.entry entry)
          | none => Search.find name { Search.How.usual with checksPaths := true, list? }
        match finding with
        | .nothing => do
            if isVerbose then print (name ++ ascii ": not found\n")
            pure 127
        | .path => say (ascii " is " ++ name) name
        | .entry (.program index) => do
            let list ← match list? with
              | some list => pure list
              | none => Search.list
            let place := (Search.places list name)[index]?.getD name
            let words := if known.isSome then " is a tracked alias for " else " is "
            say (ascii words ++ place) place
        | .entry (.function _ _) => say (ascii " is a shell function") name
        | .entry .builtin =>
            let isSpecial := (Search.builtin? name).any (·.isSpecial)
            say (ascii (if isSpecial then " is a special shell builtin" else " is a shell builtin"))
              name

def describeAll : Simple := fun _ words => do
  let mut status := 0
  for word in ← operands words do
    status := status ||| (← describe word none true)
  pure status

/-- Says what a name stands for, if that was asked; commands are run elsewhere. -/
def describeCommand : Simple := fun _ words => do
  let (flags, words) ← options "pvV" words
  let isAsked (letter : Char) : Bool := flags.any (·.letter == letter)
  match words with
  | name :: _ =>
      if isAsked 'v' || isAsked 'V' then
        describe name (if isAsked 'p' then some Search.usualList else none) (isAsked 'V')
      else pure 0
  | [] => pure 0

/-! ## What has been found -/

def foundGroups : Nat := 31

/-- Lists programs that have been found, looks names up again, or forgets all. -/
def rehash : Simple := fun _ words => do
  let (flags, words) ← options "r" words
  if !flags.isEmpty then
    change Sh.forgetPrograms
    pure 0
  else if words.isEmpty then
    let shell ← look id
    let list ← Search.list
    for entry in Sh.grouped foundGroups (·.1) shell.found do
      match entry.2 with
      | .program index =>
          printLine ((Search.places list entry.1)[index]?.getD [] ++
            ascii (if shell.stale.contains entry.1 then "*" else ""))
      | _ => pure ()
    pure 0
  else
    let mut status := 0
    for word in words do
      match (← look (·.found)).lookup word with
      | some (.program _) => Sh.forget word
      | _ => pure ()
      match ← Search.find word { Search.How.usual with complains := true } with
      | .nothing => status := 1
      | _ => pure ()
    pure status

end PipelineShell.Machine.Script.Builtin
