/-
# Machine.Script.Builtin.Basic -- the words of builtin commands

A builtin command is given the words it was called with, the first of which is its
name.  Options are read letter by letter (`options`); the command fails if there is
one that it does not have.
-/
import PipelineShell.Machine.Script.Search

namespace PipelineShell.Machine.Script.Builtin

set_option autoImplicit false

/-- A builtin command, given its name and the words behind it. -/
abbrev Simple := Bytes → List Bytes → Sh Nat

/-- An option, and the word that goes with it. -/
structure Flag where
  letter : Char
  word : Bytes
  deriving DecidableEq, Repr

/-- Whether there is an option of a letter, and whether a word goes with it: then a
colon follows in the list of letters. -/
def takesWord? (letter : Char) : List Char → Option Bool
  | [] => none
  | c :: ':' :: rest => if c == letter then some true else takesWord? letter rest
  | c :: rest => if c == letter then some false else takesWord? letter rest

/-- The options in one word, and the letter of one whose word is still missing. -/
def flagsOf (letters : List Char) : Bytes → Except Bytes (List Flag × Option Char)
  | [] => .ok ([], none)
  | b :: rest =>
      match takesWord? (charOf b) letters with
      | none => .error (ascii "Illegal option -" ++ [b])
      | some false => do
          let (others, waiting) ← flagsOf letters rest
          pure (⟨charOf b, []⟩ :: others, waiting)
      | some true =>
          if rest.isEmpty then .ok ([], some (charOf b)) else .ok ([⟨charOf b, rest⟩], none)

/-- The options in front of the words, and the words behind them.  The first word may
belong to an option that waits for it. -/
def readFlags (letters : List Char) :
    Option Char → List Bytes → Except Bytes (List Flag × List Bytes)
  | none, [] => .ok ([], [])
  | some letter, [] => .error (ascii "No arg for -" ++ [byteOf letter] ++ ascii " option")
  | some letter, word :: rest => do
      let (others, left) ← readFlags letters none rest
      pure (⟨letter, word⟩ :: others, left)
  | none, word :: rest =>
      if word.head? != some (byteOf '-') || word.length < 2 then .ok ([], word :: rest)
      else if word == ascii "--" then .ok ([], rest)
      else do
        let (flags, waiting) ← flagsOf letters word.tail
        let (others, left) ← readFlags letters waiting rest
        pure (flags ++ others, left)

def options (letters : String) (words : List Bytes) : Sh (List Flag × List Bytes) :=
  match readFlags letters.toList none words with
  | .ok answer => pure answer
  | .error message => Sh.fail message

/-- The words behind the options, of which there are none. -/
def operands (words : List Bytes) : Sh (List Bytes) := do pure (← options "" words).2

def printLine (text : Bytes) : Sh Unit := Sh.print (text ++ ascii "\n")

/-- Complains without more ado. -/
def grumble (text : Bytes) : Sh Unit := Sh.writeError (text ++ ascii "\n")

end PipelineShell.Machine.Script.Builtin
