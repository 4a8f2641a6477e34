/-
# Machine.Script.Command -- what scripts are made of

A script is a sequence of commands, and commands are made of words.  A word is a
list of pieces: bytes that stand for themselves, bytes that were quoted, marks
where quotes open and close, and parts that are put in when the word is expanded.
The text of a here-document comes after the command that it belongs to, so a
redirection only holds the number of its document (`Documents`).
-/
import PipelineShell.Text.Ascii

namespace PipelineShell.Machine.Script

set_option autoImplicit false

/-- What is done with the value of a parameter. -/
inductive Operation where
  /-- Nothing that is known: expanding it is an error. -/
  | bad
  /-- The value itself. -/
  | value
  /-- A word instead, if there is no value. -/
  | instead
  /-- A word instead, if there is a value. -/
  | alternative
  /-- An error, if there is no value. -/
  | demand
  /-- The word becomes the value, if there is none. -/
  | assign
  /-- The shortest part that matches the word is cut off at the end. -/
  | cutEnd
  /-- The longest part that matches the word is cut off at the end. -/
  | cutLongEnd
  /-- The shortest part that matches the word is cut off at the start. -/
  | cutStart
  /-- The longest part that matches the word is cut off at the start. -/
  | cutLongStart
  /-- The length of the value. -/
  | length
  deriving DecidableEq, Repr

/-- What a redirection does. -/
inductive Direction where
  | input
  | both
  | output
  /-- Output to a file even if it must not be overwritten. -/
  | clobber
  | append
  /-- A copy of an output. -/
  | outputCopy
  /-- A copy of an input. -/
  | inputCopy
  /-- A document as input; `expands` unless the word that ends it was quoted. -/
  | document (expands : Bool)
  deriving DecidableEq, Repr

/-- How commands are joined. -/
inductive Junction where
  | both
  | either
  | next
  deriving DecidableEq, Repr

mutual

inductive Piece where
  | plain (b : UInt8)
  | escaped (b : UInt8)
  /-- A double or single quote opens or closes. -/
  | quoteMark
  /-- A parameter, what is done with it, whether an empty value counts as none, and
  the word that goes with it. -/
  | parameter (operation : Operation) (orEmpty : Bool) (name : Bytes) (word : List Piece)
  /-- The output of a command. -/
  | output (command : Option Command)
  /-- The value of an expression. -/
  | arithmetic (expression : List Piece)

/-- A redirection of a descriptor: the word is the name of a file or a descriptor;
a copy may have the number of its descriptor instead. -/
inductive Redirection where
  | file (direction : Direction) (descriptor : Nat) (word : List Piece)
  /-- A copy of a descriptor; without a number the descriptor is closed. -/
  | copy (direction : Direction) (descriptor : Nat) (source : Option Nat)
  | document (descriptor : Nat) (expands : Bool) (number : Nat)

/-- One choice of a case: patterns, and what is done if one matches. -/
inductive Choice where
  | mk (patterns : List (List Piece)) (body : Option Command)

/-- A command.  Most kinds remember the line they begin on. -/
inductive Command where
  | simple (line : Nat) (assignments words : List (List Piece)) (redirections : List Redirection)
  | pipeline (commands : List Command) (background : Bool)
  | redirected (line : Nat) (command : Command) (redirections : List Redirection)
  | background (line : Nat) (command : Command) (redirections : List Redirection)
  | subshell (line : Nat) (command : Command) (redirections : List Redirection)
  | join (junction : Junction) (first : Command) (second : Command)
  | negation (command : Command)
  | choice (test yes : Command) (no : Option Command)
  /-- A loop goes on while its test comes out as `expected`. -/
  | loop (expected : Bool) (test body : Command)
  | iteration (line : Nat) (name : Bytes) (words : List (List Piece)) (body : Command)
  | selection (line : Nat) (word : List Piece) (choices : List Choice)
  | definition (line : Nat) (name : Bytes) (body : Command)
  /-- Nothing is done. -/
  | nothing

end

abbrev Word := List Piece

instance : Inhabited Command := ⟨.nothing⟩

abbrev Documents := Array Word

namespace Word

/-- The bytes of a word that holds nothing else than bytes that stand for
themselves. -/
def plain? : Word → Option Bytes
  | [] => some []
  | .plain b :: rest => (plain? rest).map (b :: ·)
  | _ :: _ => none

/-- Whether a word is a name, an equals sign and something. -/
def isAssignment : Word → Bool
  | .plain b :: rest => Ascii.beginsName b && go rest
  | _ => false
where
  go : Word → Bool
    | .plain b :: rest => b == byteOf '=' || (Ascii.isNameByte b && go rest)
    | _ => false

/-- The bytes of a word without its quotes; what would be expanded is left out. -/
def unquoted : Word → Bytes
  | [] => []
  | .plain b :: rest => b :: unquoted rest
  | .escaped b :: rest => b :: unquoted rest
  | _ :: rest => unquoted rest

def allParameters : Word :=
  [.quoteMark, .parameter .value false (ascii "@") [], .quoteMark]

end Word

end PipelineShell.Machine.Script
