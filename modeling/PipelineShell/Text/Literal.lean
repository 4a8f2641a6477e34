/-
# Text.Literal -- whole numbers as programs write them

Behind a zero a number is octal, behind `0x` hexadecimal, behind `0b` binary, and
otherwise decimal.  Blanks and a sign may stand in front.  A number ends at the first byte that
cannot go on with it; one that is too large is reported as the nearest that fits.
-/
import PipelineShell.Text.Ascii

namespace PipelineShell.Literal

set_option autoImplicit false

/-- The base of a number by its first bytes, how many of these announce it, and which
bytes are its digits. -/
def baseOf (body : Bytes) : Nat × Nat × (UInt8 → Bool) :=
  let isBinaryDigit (b : UInt8) : Bool := b == byteOf '0' || b == byteOf '1'
  let announces (mark : String) (isDigit : UInt8 → Bool) : Bool :=
    (ascii mark).isPrefixOf (body.map Ascii.lower) && (body.drop 2).head?.any isDigit
  if announces "0x" Ascii.isHexDigit then (16, 2, Ascii.isHexDigit)
  else if announces "0b" isBinaryDigit then (2, 2, isBinaryDigit)
  else if body.head? == some (byteOf '0') then (8, 0, Ascii.isOctalDigit)
  else (10, 0, Ascii.isDigit)

/-- A whole number at the front of a text: its sign, its size, and what follows. -/
def readWhole (text : Bytes) : Option (Bool × Nat × Bytes) :=
  let body := text.dropWhile Ascii.isSpace
  let negative := body.head? == some (byteOf '-')
  let body := if negative || body.head? == some (byteOf '+') then body.tail else body
  let (base, skipped, isDigit) := baseOf body
  let digits := (body.drop skipped).takeWhile isDigit
  if digits.isEmpty then none
  else some (negative, Ascii.valueIn base digits, body.drop (skipped + digits.length))

def greatestSigned : Nat := 9223372036854775807

def readSigned (text : Bytes) : Int × Bytes × Bool :=
  match readWhole text with
  | none => (0, text, false)
  | some (negative, n, rest) =>
      if negative then
        if greatestSigned + 1 < n then (-(greatestSigned : Int) - 1, rest, true)
        else (-(n : Int), rest, false)
      else if greatestSigned < n then (greatestSigned, rest, true)
      else (n, rest, false)

/-- Reads a number without a sign: a minus sign counts from the greatest down. -/
def readUnsigned (text : Bytes) : Nat × Bytes × Bool :=
  match readWhole text with
  | none => (0, text, false)
  | some (negative, n, rest) =>
      let count := 2 * greatestSigned + 2
      if count ≤ n then (count - 1, rest, true)
      else (if negative && n != 0 then count - n else n, rest, false)

end PipelineShell.Literal
