/-
# Machine.Utility.Quoting -- words in messages

Messages show words so that they can be told from the text around them and, for
names of files, typed again.  `Quoting.sign` puts any word between single quotes
and escapes what would confuse.  `Quoting.forShell` writes a word in a form that
a shell reads back as that word; it is left bare where nothing in it is special,
and `Quoting.forShellAlways` never leaves it bare.
-/
import PipelineShell.Text.Ascii

namespace PipelineShell.Machine.Utility.Quoting

set_option autoImplicit false

/-! ## Escapes -/

/-- The letter that stands for a byte behind a backslash. -/
def letter? (b : UInt8) : Option Char :=
  match charOf b with
  | '\x07' => some 'a'
  | '\x08' => some 'b'
  | '\x0c' => some 'f'
  | '\n' => some 'n'
  | '\r' => some 'r'
  | '\t' => some 't'
  | '\x0b' => some 'v'
  | _ => none

def octal (b : UInt8) : Bytes :=
  [b.toNat / 64, b.toNat / 8 % 8, b.toNat % 8].map fun d => (d + 0x30).toUInt8

def escape? (b : UInt8) : Option Bytes :=
  match letter? b with
  | some c => some [byteOf c]
  | none => if Ascii.isPrint b then none else some (octal b)

/-- A word between single quotes; quotes and backslashes in it are escaped. -/
def sign (word : Bytes) : Bytes :=
  ascii "'" ++ word.flatMap (fun b =>
    match escape? b with
    | some text => byteOf '\\' :: text
    | none => if b == byteOf '\'' || b == byteOf '\\' then [byteOf '\\', b] else [b]) ++ ascii "'"

/-! ## For a shell -/

/-- A byte that is special to a shell wherever it stands. -/
def isSpecial (b : UInt8) : Bool := (ascii "?\\ !\"$&()*;<=>[^\x60|'").contains b

/-- Whether a shell would read a bare word as something else. -/
def needsQuotes (word : Bytes) : Bool :=
  word.isEmpty || word.any (fun b => isSpecial b || (escape? b).isSome) ||
    word.head?.any (fun b => b == byteOf '#' || b == byteOf '~') ||
    word == ascii "\x7b" || word == ascii "\x7d"

/-- Whether a byte, at the front or not, means the same between double quotes. -/
def isPlainInDouble (word : Bytes) (isFirst : Bool) (b : UInt8) : Bool :=
  if b == byteOf '#' || b == byteOf '~' then isFirst
  else if b == byteOf '\x7b' || b == byteOf '\x7d' then word.length == 1
  else (Ascii.isAlnum b || (ascii "%+,-./:]_ '@").contains b)

/-- Writes bytes between single quotes, stepping outside for what cannot stand
there; `outside` says whether the bytes before were written there. -/
def stepping : Bool → Bytes → Bytes
  | _, [] => []
  | outside, b :: rest =>
      match escape? b with
      | some text =>
          (if outside then [] else ascii "'$'") ++ byteOf '\\' :: text ++ stepping true rest
      | none =>
          (if b == byteOf '\'' then ascii "'\\''"
            else if outside then ascii "''" ++ [b]
            else [b]) ++ stepping false rest

def forShellAlways (word : Bytes) : Bytes :=
  let firsts := (List.range word.length).map (· == 0)
  if word.contains (byteOf '\'') &&
      (word.zip firsts).all (fun entry => isPlainInDouble word entry.2 entry.1) then
    ascii "\"" ++ word ++ ascii "\""
  else ascii "'" ++ stepping false word ++ ascii "'"

/-- A word as a shell would have it, quoted only if it needs to be. -/
def forShell (word : Bytes) : Bytes :=
  if needsQuotes word then forShellAlways word else word

end PipelineShell.Machine.Utility.Quoting
