/-
# Arguments -- options and operands

A program says with a `Grammar` which options it knows and how many operands it
takes.  What a list of words says by a grammar is a `Reading`; words that call for
help, or that the grammar does not allow, are answered by an `EarlyExit`.

The words are read by a package of its own, so the shell is written for any
`ArgumentReader`, and what is proved about it says what it asks of the reader.
`PipelineShell.Arguments.Scan` is an `ArgumentReader` that can be run.
-/
namespace PipelineShell

set_option autoImplicit false

/-- An answer that takes the place of a run: a usage text, or a report of bad
arguments. -/
structure EarlyExit where
  output : String
  success : Bool
  deriving DecidableEq, Repr

namespace Arguments

/-- An option, the words that select it, and whether the next word is its
value. -/
structure Flag where
  name : String
  spellings : List String
  takesValue : Bool

/-- What a command accepts. -/
structure Grammar where
  flags : List Flag
  operands : Nat
  usage : String

/-- What a list of words says. -/
structure Reading where
  switches : List String
  values : List (String × String)
  operands : List String
  deriving DecidableEq, Repr

end Arguments

/-- What reads the words after the name of a program. -/
class ArgumentReader where
  read : Arguments.Grammar → List String → Except EarlyExit Arguments.Reading

end PipelineShell
