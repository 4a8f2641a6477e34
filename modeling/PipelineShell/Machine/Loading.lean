/-
# Machine.Loading -- from a path to a program

A path can be run if it leads to a program of the machine, or to a file that may
be run and begins with `#!`: then the interpreter named there is run, and the
path is passed on to it.  Only the first `scriptWindow` bytes of a file count, and
in them a NUL byte ends every word, which decides what very long or odd first
lines mean (`interpreter?`).

Looking a bare name up in a search list, a file that is no program at all is
taken for a script of the shell, and errors other than those of `isPassedOver`
end the search.
-/
import PipelineShell.Machine.Basic

namespace PipelineShell.Machine

set_option autoImplicit false

/-- A program of the machine, and the words it is started with. -/
structure Image where
  program : String
  words : List Bytes

def scriptWindow : Nat := 256

def endsWord (b : UInt8) : Bool := Ascii.isBlank b || b == 0

/-- Bytes without the blanks at their end. -/
def trimmed (bytes : Bytes) : Bytes := (bytes.reverse.dropWhile Ascii.isBlank).reverse

/-- The interpreter that a file asks for, possibly the empty path, with its
argument.  Without a line end in the window, the
path of the interpreter has to end in it, lest it be cut short; the argument may
be cut, and it may be empty. -/
def interpreter? (content : Bytes) : Option (Bytes × Option Bytes) :=
  let window := content.take scriptWindow
  let window := window ++ List.replicate (scriptWindow - window.length) 0
  if !(ascii "#!").isPrefixOf window then none
  else
    let text := window.drop 2
    let line := text.takeWhile fun b => b != byteOf '\n' && b != 0
    let isWhole := text[line.length]? == some (byteOf '\n')
    let line := if isWhole then line else text.dropLast
    let start := text.dropWhile Ascii.isBlank
    if !isWhole && (start.isEmpty || !start.any endsWord) then none
    else
      let words := (trimmed line).dropWhile Ascii.isBlank
      if words.isEmpty then none
      else
        let path := words.takeWhile (!endsWord ·)
        let rest := words.drop path.length
        let more := if rest.head?.any Ascii.isBlank then rest.dropWhile Ascii.isBlank else []
        some (path, if more.isEmpty then none else some (more.takeWhile (· != 0)))

/-- What is run when a path is executed with some words, the first of which is the
name it goes by, if `find` says what paths lead to.  Interpreters may have
interpreters, up to a depth. -/
def load (find : Path → Except Int Node) : Nat → Path → List Bytes → Except Int Image
  | depth, path, words =>
      match find path with
      | .error number => .error number
      | .ok (.program name) => .ok ⟨name, words⟩
      | .ok (.file content permissions _) =>
        if !Permissions.allows permissions mayRun then .error Errno.noAccess
        else
          match interpreter? content with
          | none => .error Errno.notExecutable
          | some (interpreter, argument) =>
            match depth with
            | 0 => .error Errno.tooManyLinks
            | depth + 1 =>
              if interpreter.isEmpty then .error Errno.noAccess
              else
                load find depth ⟨interpreter⟩
                  (interpreter :: argument.toList ++ path.bytes :: words.tail)
      | .ok _ => .error Errno.noAccess

def interpreterDepth : Nat := 4

def scriptShell : Path := Path.ofString "/bin/sh"

/-- Errors that only mean that the search has to go on. -/
def isPassedOver (number : Int) : Bool :=
  number == Errno.noEntry || number == Errno.notDirectory || number == Errno.noAccess

/-- What is run when a bare name is executed: the first program of that name in
the search list.  A file without an interpreter counts as a script.  If nothing
can be run, a refused permission is reported before other errors. -/
def loadByName (find : Path → Except Int Node) (search : Bytes) (words : List Bytes) :
    Except Int Image :=
  let name := words.headD []
  let rec go (denied : Bool) (last : Int) : List Path → Except Int Image
    | [] => .error (if denied then Errno.noAccess else last)
    | entry :: rest =>
        let path := entry.join ⟨name⟩
        let attempt : Except Int Image :=
          match load find interpreterDepth path words with
          | .ok image => .ok image
          | .error number =>
            if number == Errno.notExecutable then
              load find interpreterDepth scriptShell
                (scriptShell.bytes :: path.bytes :: words.tail)
            else .error number
        match attempt with
        | .ok image => .ok image
        | .error number =>
          if isPassedOver number then go (denied || number == Errno.noAccess) number rest
          else .error number
  if Tree.longestName < name.length then .error Errno.nameTooLong
  else go false Errno.noEntry (Path.searchList search)

/-- Runs what `loadByName` finds for a bare name instead of the program that asks.
Comes back only with an error. -/
def Action.runByName (search : Bytes) (words environment : List Bytes) : Action Int :=
  let name := words.headD []
  let rec go (denied : Bool) (last : Int) : List Path → Action Int
    | [] => pure (if denied then Errno.noAccess else last)
    | entry :: rest => do
        let path := (entry.join ⟨name⟩).bytes
        let number : Int ← ask (.run path words environment)
        let number : Int ←
          if number == Errno.notExecutable then
            ask (.run scriptShell.bytes (scriptShell.bytes :: path :: words.tail) environment)
          else pure number
        if isPassedOver number then go (denied || number == Errno.noAccess) number rest
        else pure number
  if name.isEmpty then pure Errno.noEntry
  else if Tree.longestName < name.length then pure Errno.nameTooLong
  else go false Errno.noEntry (Path.searchList search)

def longestWord : Nat := 131072

/-- The most that can be passed to a program in all. -/
def mostWords : Nat := 2097152

def tooMuch (words environment : List Bytes) : Bool :=
  let sizes := (words ++ environment).map (·.length + 1)
  sizes.any (longestWord < ·) || mostWords < (sizes.map (· + 8)).foldl (· + ·) 0

end PipelineShell.Machine
