/-
# Machine.Script.Builtin.Output -- words and formats

`echo` writes words with blanks between them and reads escapes in all of them.
`printf` writes by a format, which is used again as long as it uses up words.
-/
import PipelineShell.Machine.Script.Builtin.Basic
import PipelineShell.Text.Directive
import PipelineShell.Text.Literal

namespace PipelineShell.Machine.Script.Builtin

set_option autoImplicit false

open Sh (change fail look print)

/-! ## Escapes -/

/-- The letters that stand for other bytes behind a backslash. -/
def escapes : List (Char × UInt8) :=
  [('\\', 0x5C), ('a', 0x07), ('b', 0x08), ('e', 0x1B), ('f', 0x0C), ('n', 0x0A), ('r', 0x0D),
    ('t', 0x09), ('v', 0x0B)]

/-- What stands behind a backslash: the byte that it stands for, and the rest.  An
octal number has three digits at most; with nothing known behind it the backslash
stands for itself. -/
def readEscape (text : Bytes) : UInt8 × Bytes :=
  match text with
  | [] => (byteOf '\\', [])
  | b :: rest =>
      if Ascii.isOctalDigit b then
        let digits := (text.take 3).takeWhile Ascii.isOctalDigit
        ((Ascii.valueIn 8 digits).toUInt8, text.drop digits.length)
      else
        match escapes.lookup (charOf b) with
        | some value => (value, rest)
        | none => (byteOf '\\', text)

/-- A text with its escapes read; the second answer is whether it ends everything.
An octal number may have a zero in front of its digits. -/
def unescape : Nat → Bytes → Bytes × Bool
  | 0, text => (text, false)
  | _ + 1, [] => ([], false)
  | fuel + 1, b :: rest =>
      if b != byteOf '\\' then
        let (text, stops) := unescape fuel rest
        (b :: text, stops)
      else
        match rest with
        | c :: after =>
            if c == byteOf 'c' then ([], true)
            else
              let start :=
                if c == byteOf '0' && after.head?.any Ascii.isOctalDigit then after else rest
              let (value, rest) := readEscape start
              let (text, stops) := unescape fuel rest
              (value :: text, stops)
        | [] => ([b], false)

def unescaped (text : Bytes) : Bytes × Bool := unescape (text.length + 1) text

/-- Words with blanks between them, up to the first that ends everything. -/
def joinWords : List Bytes → Bytes × Bool
  | [] => ([], false)
  | word :: rest =>
      let (text, stops) := unescaped word
      if stops then (text, true)
      else if rest.isEmpty then (text, false)
      else
        let (others, stops) := joinWords rest
        (text ++ ascii " " ++ others, stops)

def echo : Simple := fun _ words => do
  let isBare := words.head? == some (ascii "-n")
  let (text, stops) := joinWords (if isBare then words.tail else words)
  print text
  if !isBare && !stops then print (ascii "\n")
  pure 0

/-! ## Formats -/

/-- How far the output by a format is. -/
structure Progress where
  words : List Bytes
  /-- Something was wrong with a word. -/
  failed : Bool

def Progress.next (progress : Progress) : Option Bytes × Progress :=
  match progress.words with
  | [] => (none, progress)
  | word :: rest => (some word, { progress with words := rest })

def checkNumber (word rest : Bytes) (isOutOfRange : Bool) (progress : Progress) : Sh Progress := do
  if rest.isEmpty && !isOutOfRange then pure progress
  else
    Sh.warn (word ++ ascii (
      if rest.isEmpty then ": " ++ Errno.description Errno.outOfRange
      else if rest.length == word.length then ": expected numeric value"
      else ": not completely converted"))
    pure { progress with failed := true }

/-- The number that a word stands for: the value that `read` finds, or the number of
the character behind a quote. -/
def takeNumber {α : Type} (read : Bytes → α × Bytes × Bool) (ofByte : Nat → α)
    (progress : Progress) : Sh (α × Progress) := do
  let (word, progress) := progress.next
  match word with
  | none => pure (ofByte 0, progress)
  | some word =>
      match word with
      | mark :: more =>
          if mark == byteOf '"' || mark == byteOf '\'' then
            pure (ofByte ((more.headD 0).toNat), progress)
          else
            let (value, rest, isOutOfRange) := read word
            pure (value, ← checkNumber word rest isOutOfRange progress)
      | [] => pure (ofByte 0, progress)

def readFloating (text : Bytes) : Floating × Bytes × Bool :=
  match Floating.ofText .double text with
  | none => (.zero, text, false)
  | some reading => (reading.value, reading.rest, reading.isOutOfRange)

/-- A number as the machine keeps it in half a word. -/
def narrow (n : Int) : Int := Int.bmod n (Nat.pow 2 32)

/-- A number at the front of a format, as a width or a precision: an asterisk takes a
word. -/
def takeSize (text : Bytes) (progress : Progress) : Sh (Int × Bytes × Progress) := do
  match text with
  | b :: rest =>
      if b == byteOf '*' then
        let (n, progress) ← takeNumber Literal.readSigned (fun n => (n : Int)) progress
        pure (narrow n, rest, progress)
      else
        let digits := text.takeWhile Ascii.isDigit
        pure ((Ascii.value digits : Int), text.drop digits.length, progress)
  | [] => pure (0, [], progress)

/-- What the rest of a format comes to. -/
inductive Step where
  | goOn (text rest : Bytes) (progress : Progress)
  | stop (text : Bytes) (progress : Progress)

/-- Lays a value out as the letter at the end of a directive asks.  `whole` is the
directive as it was written. -/
def layOut (directive : Directive) (letter : UInt8) (whole rest : Bytes) (progress : Progress) :
    Sh Step := do
  let signed : Sh Step := do
    let (n, progress) ← takeNumber Literal.readSigned (fun n => (n : Int)) progress
    pure (.goOn (directive.signed n) rest progress)
  let unsigned (base : Nat) (capital : Bool) : Sh Step := do
    let (n, progress) ← takeNumber Literal.readUnsigned id progress
    pure (.goOn (directive.unsigned base capital n) rest progress)
  let floating (style : Directive.Style) : Sh Step := do
    let (n, progress) ← takeNumber readFloating
      (fun n => ⟨false, (Floating.nearest .double n 1).1⟩) progress
    pure (.goOn (directive.floating .double style (Ascii.isUpper letter) n) rest progress)
  match (charOf letter).toLower, Ascii.isUpper letter with
  | 'b', false =>
      let (word, progress) := progress.next
      let (text, stops) := unescaped (word.getD [])
      let text := directive.text text
      pure (if stops then .stop text progress else .goOn text rest progress)
  | 'c', false =>
      let (word, progress) := progress.next
      pure (.goOn (directive.pad [(word.getD []).headD 0]) rest progress)
  | 's', false =>
      let (word, progress) := progress.next
      pure (.goOn (directive.text (word.getD [])) rest progress)
  | 'd', false => signed
  | 'i', false => signed
  | 'o', false => unsigned 8 false
  | 'u', false => unsigned 10 false
  | 'x', capital => unsigned 16 capital
  | 'a', _ => floating .hexadecimal
  | 'e', _ => floating .scientific
  | 'f', _ => floating .fixed
  | 'g', _ => floating .general
  | _, _ => fail (whole ++ ascii ": invalid directive")

/-- Reads a directive behind its percent sign, and lays a value out by it. -/
def readDirective (text : Bytes) (progress : Progress) : Sh Step := do
  let marks := text.takeWhile fun b => (ascii "#-+ 0").contains b
  let directive := marks.foldl (fun directive b => directive.mark (charOf b)) Directive.bare
  let (width, rest, progress) ← takeSize (text.drop marks.length) progress
  let directive := directive.withWidth width
  let (directive, rest, progress) ←
    if rest.head? == some (byteOf '.') then do
      let (precision, rest, progress) ← takeSize rest.tail progress
      let directive := { directive with
        precision := if precision < 0 then none else some precision.toNat }
      pure (directive, rest, progress)
    else pure (directive, rest, progress)
  match rest with
  | [] => fail (ascii "missing format character")
  | letter :: after =>
      let whole := byteOf '%' :: text.take (text.length - after.length)
      layOut directive letter whole after progress

/-- Writes by the rest of a format.  The second answer is whether that ends
everything. -/
def writeFormat : Nat → Bytes → Progress → Sh (Progress × Bool)
  | 0, _, progress => pure (progress, true)
  | _ + 1, [], progress => pure (progress, false)
  | fuel + 1, b :: rest, progress => do
      if b == byteOf '\\' then
        let (value, rest) := readEscape rest
        print [value]
        writeFormat fuel rest progress
      else if b != byteOf '%' then
        print [b]
        writeFormat fuel rest progress
      else if rest.head? == some (byteOf '%') then
        print [b]
        writeFormat fuel rest.tail progress
      else
        match ← readDirective rest progress with
        | .goOn text rest progress => do
            print text
            writeFormat fuel rest progress
        | .stop text progress => do
            print text
            pure (progress, true)

def writeAgain (format : Bytes) : Nat → Progress → Sh Progress
  | 0, progress => pure progress
  | fuel + 1, progress => do
      let (after, stops) ← writeFormat (format.length + 1) format progress
      if stops || after.words.isEmpty || after.words.length == progress.words.length then pure after
      else writeAgain format fuel after

def printFormat : Simple := fun _ words => do
  match ← operands words with
  | [] => fail (ascii "usage: printf format [arg ...]")
  | format :: words => do
      let progress ← writeAgain format (words.length + 1) ⟨words, false⟩
      pure (if progress.failed then 1 else 0)

end PipelineShell.Machine.Script.Builtin
