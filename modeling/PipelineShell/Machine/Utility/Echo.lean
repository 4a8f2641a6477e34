/-
# Machine.Utility.Echo -- words on a line

The words are written with blanks between them.  Escapes in them are read only if
`-e` asks for it; `\c` ends the output then and there.
-/
import PipelineShell.Machine.Utility.Basic

namespace PipelineShell.Machine.Utility.Echo

set_option autoImplicit false

def isOption (word : Bytes) : Bool :=
  word.head? == some (byteOf '-') && 1 < word.length &&
    word.tail.all fun b => (ascii "neE").contains b

/-- The byte that a letter behind a backslash stands for. -/
def letter? (b : UInt8) : Option UInt8 :=
  [('a', 0x07), ('b', 0x08), ('e', 0x1B), ('f', 0x0C), ('n', 0x0A), ('r', 0x0D), ('t', 0x09),
    ('v', 0x0B), ('\\', 0x5C)].lookup (charOf b)

def digitsByte (base : Nat) (digits : Bytes) : UInt8 := (Ascii.valueIn base digits).toUInt8

/-- At most so many bytes of a kind at the front. -/
def front (most : Nat) (isKind : UInt8 → Bool) (text : Bytes) : Bytes :=
  (text.take most).takeWhile isKind

/-- Reads escapes; the second answer is whether the output ends there. -/
def unescape : Nat → Bytes → Bytes × Bool
  | 0, text => (text, false)
  | _ + 1, [] => ([], false)
  | fuel + 1, b :: rest =>
      let go (bytes rest : Bytes) : Bytes × Bool :=
        let (text, stops) := unescape fuel rest
        (bytes ++ text, stops)
      if b != byteOf '\\' then go [b] rest
      else
        match rest with
        | [] => ([b], false)
        | c :: after =>
          match letter? c with
          | some value => go [value] after
          | none =>
            if c == byteOf 'c' then ([], true)
            else if c == byteOf 'x' then
              let digits := front 2 Ascii.isHexDigit after
              if digits.isEmpty then go [b, c] after
              else go [digitsByte 16 digits] (after.drop digits.length)
            else if c == byteOf '0' then
              let digits := front 3 Ascii.isOctalDigit after
              go [digitsByte 8 digits] (after.drop digits.length)
            else if Ascii.isOctalDigit c then
              let digits := front 3 Ascii.isOctalDigit rest
              go [digitsByte 8 digits] (rest.drop digits.length)
            else go [b, c] after

def joined (words : List Bytes) : Bytes := (ascii " ").intercalate words

def run (invocation : Invocation) : Action Nat := do
  let words := invocation.arguments
  let strict := (invocation.setting? (ascii "POSIXLY_CORRECT")).isSome
  if !strict && (words == [ascii "--help"] || words == [ascii "--version"]) then pure 0
  else
    let takes := !strict || words.head? == some (ascii "-n")
    let options := if takes then (words.takeWhile isOption).flatMap List.tail else []
    let words := if takes then words.dropWhile isOption else words
    let reads := strict || (options.filter (· != byteOf 'n')).getLast? == some (byteOf 'e')
    let text := joined words
    let (text, stops) := if reads then unescape (text.length + 1) text else (text, false)
    invocation.emit
      (text ++ if stops || options.contains (byteOf 'n') then [] else ascii "\n") 1
    pure 0

end PipelineShell.Machine.Utility.Echo
