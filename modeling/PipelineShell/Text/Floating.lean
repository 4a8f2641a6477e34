/-
# Text.Floating -- binary numbers with a point, read from text

A `Floating` is a whole number times a power of two, an infinity, or no number.
`Floating.ofText` reads the front of a text as the nearest number that a
`Floating.Shape` has room for; halfway cases go to the even neighbour.  All
arithmetic is exact.
-/
import PipelineShell.Text.Ascii

namespace PipelineShell

set_option autoImplicit false

/-- How large a number there is room for: the bits of the whole number, and the
least and the greatest power of two that may go with it. -/
structure Floating.Shape where
  bits : Nat
  least : Int
  greatest : Int

def Floating.Shape.double : Floating.Shape := ⟨53, -1074, 971⟩

def Floating.Shape.extended : Floating.Shape := ⟨64, -16445, 16320⟩

/-- How large a number is, its sign apart. -/
inductive Floating.Size where
  /-- A whole number times a power of two. -/
  | finite (mantissa : Nat) (exponent : Int)
  | infinite
  | notANumber
  deriving DecidableEq, Repr

/-- A binary number with a point. -/
structure Floating where
  negative : Bool
  size : Floating.Size
  deriving DecidableEq, Repr

namespace Floating

def zero : Floating := ⟨false, .finite 0 0⟩

def bitLength (n : Nat) : Nat := if n == 0 then 0 else n.log2 + 1

/-- A fraction rounded to a whole number; a half goes to the even neighbour. -/
def roundFraction (numerator denominator : Nat) : Nat :=
  let whole := numerator / denominator
  let twice := 2 * (numerator % denominator)
  if denominator < twice || (twice == denominator && whole % 2 == 1) then whole + 1 else whole

def roundScaled (numerator denominator : Nat) (exponent : Int) : Nat :=
  if 0 ≤ exponent then roundFraction numerator (denominator * Nat.pow 2 exponent.toNat)
  else roundFraction (numerator * Nat.pow 2 (-exponent).toNat) denominator

/-- Whether a fraction is a whole multiple of a power of two. -/
def isMultiple (numerator denominator : Nat) (exponent : Int) : Bool :=
  if 0 ≤ exponent then numerator % (denominator * Nat.pow 2 exponent.toNat) == 0
  else numerator * Nat.pow 2 (-exponent).toNat % denominator == 0

/-- The nearest number that a shape has room for, and whether the fraction is out
of its range. -/
def nearest (shape : Shape) (numerator denominator : Nat) : Size × Bool :=
  if numerator == 0 then (.finite 0 0, false)
  else
    let guess : Int := (bitLength numerator : Int) - bitLength denominator - shape.bits
    let fits (exponent : Int) := roundScaled numerator denominator exponent < Nat.pow 2 shape.bits
    let exponent := if fits guess then guess else guess + 1
    let isSmall := exponent < shape.least
    let exponent := max exponent shape.least
    let mantissa := roundScaled numerator denominator exponent
    let (mantissa, exponent) :=
      if mantissa == Nat.pow 2 shape.bits then (mantissa / 2, exponent + 1) else (mantissa, exponent)
    if shape.greatest < exponent then (.infinite, true)
    else (.finite mantissa exponent,
      isSmall && mantissa < Nat.pow 2 (shape.bits - 1) && !isMultiple numerator denominator exponent)

/-! ## Reading -/

/-- What the front of a text comes to. -/
structure Reading where
  value : Floating
  rest : Bytes
  /-- The number is too large, or too small to be told from zero exactly. -/
  isOutOfRange : Bool

/-- Digits with a point among them, as a whole number and how many of the digits
stand behind the point; with what follows them. -/
def readDigits (base : Nat) (isDigit : UInt8 → Bool) (text : Bytes) :
    Option (Nat × Nat × Bytes) :=
  let front := text.takeWhile isDigit
  let rest := text.drop front.length
  let back := if rest.head? == some (byteOf '.') then rest.tail.takeWhile isDigit else []
  if front.isEmpty && back.isEmpty then none
  else
    let rest := if rest.head? == some (byteOf '.') then rest.drop (back.length + 1) else rest
    some (Ascii.valueIn base (front ++ back), back.length, rest)

def readExponent (letter : Char) (text : Bytes) : Int × Bytes :=
  match text with
  | [] => (0, [])
  | first :: rest =>
    if Ascii.lower first != byteOf letter then (0, text)
    else
      let negative := rest.head? == some (byteOf '-')
      let digits := if negative || rest.head? == some (byteOf '+') then rest.tail else rest
      let taken := digits.takeWhile Ascii.isDigit
      if taken.isEmpty then (0, text)
      else
        let value : Int := Ascii.value taken
        (if negative then -value else value, digits.drop taken.length)

/-- Beyond this power of ten nothing but the range matters. -/
def farExponent : Int := 20000

def readDecimal (shape : Shape) (text : Bytes) : Option (Size × Bytes × Bool) := do
  let (digits, places, rest) ← readDigits 10 Ascii.isDigit text
  let (exponent, rest) := readExponent 'e' rest
  let exponent := exponent - places
  let (size, isOut) :=
    if digits == 0 then (Size.finite 0 0, false)
    else if farExponent < exponent then (.infinite, true)
    else if exponent < -farExponent - (bitLength digits : Int) then (.finite 0 0, true)
    else if 0 ≤ exponent then nearest shape (digits * Nat.pow 10 exponent.toNat) 1
    else nearest shape digits (Nat.pow 10 (-exponent).toNat)
  some (size, rest, isOut)

/-- Reads hexadecimal digits behind `0x`. -/
def readHexadecimal (shape : Shape) (text : Bytes) : Option (Size × Bytes × Bool) := do
  if !(ascii "0x").isPrefixOf (text.map Ascii.lower) then none
  let (digits, places, rest) ← readDigits 16 Ascii.isHexDigit (text.drop 2)
  let (exponent, rest) := readExponent 'p' rest
  let exponent := exponent - 4 * places
  let (size, isOut) :=
    if digits == 0 then (Size.finite 0 0, false)
    else if 4 * farExponent < exponent then (.infinite, true)
    else if exponent < -4 * farExponent - (bitLength digits : Int) then (.finite 0 0, true)
    else if 0 ≤ exponent then nearest shape (digits * Nat.pow 2 exponent.toNat) 1
    else nearest shape digits (Nat.pow 2 (-exponent).toNat)
  some (size, rest, isOut)

def readWord (text : Bytes) : Option (Size × Bytes × Bool) :=
  let small := text.map Ascii.lower
  if (ascii "infinity").isPrefixOf small then some (.infinite, text.drop 8, false)
  else if (ascii "inf").isPrefixOf small then some (.infinite, text.drop 3, false)
  else if (ascii "nan").isPrefixOf small then
    let rest := text.drop 3
    let inside := rest.tail.takeWhile Ascii.isNameByte
    let closes := rest.head? == some (byteOf '(') &&
      (rest.drop (inside.length + 1)).head? == some (byteOf ')')
    some (.notANumber, if closes then rest.drop (inside.length + 2) else rest, false)
  else none

/-- Reads the number at the front of a text, behind spaces and a sign.  `none` if
there is no number. -/
def ofText (shape : Shape) (text : Bytes) : Option Reading := do
  let text := text.dropWhile Ascii.isSpace
  let negative := text.head? == some (byteOf '-')
  let text := if negative || text.head? == some (byteOf '+') then text.tail else text
  let (size, rest, isOutOfRange) ←
    (readHexadecimal shape text).orElse fun _ =>
      (readDecimal shape text).orElse fun _ => readWord text
  some ⟨⟨negative, size⟩, rest, isOutOfRange⟩

/-! ## Order -/

/-- Whether one size is less than another, both finite. -/
def isSmaller (m : Nat) (p : Int) (n : Nat) (q : Int) : Bool :=
  let low := min p q
  m * Nat.pow 2 (p - low).toNat < n * Nat.pow 2 (q - low).toNat

/-- Whether one number is less than another.  What is no number is not in order
with anything. -/
def less (a b : Floating) : Bool :=
  let isZero (x : Floating) := match x.size with
    | .finite 0 _ => true
    | _ => false
  let sizeLess (s t : Size) : Bool := match s, t with
    | .finite m p, .finite n q => isSmaller m p n q
    | .finite _ _, .infinite => true
    | _, _ => false
  if a.size == .notANumber || b.size == .notANumber then false
  else if isZero a && isZero b then false
  else if a.negative && !b.negative then true
  else if !a.negative && b.negative then false
  else if a.negative then sizeLess b.size a.size
  else sizeLess a.size b.size

/-! ## Decimal digits -/

def fraction (mantissa : Nat) (exponent : Int) : Nat × Nat :=
  if 0 ≤ exponent then (mantissa * Nat.pow 2 exponent.toNat, 1)
  else (mantissa, Nat.pow 2 (-exponent).toNat)

/-- A finite size as a whole number of units of a power of ten, rounded. -/
def inUnits (mantissa : Nat) (exponent power : Int) : Nat :=
  let (numerator, denominator) := fraction mantissa exponent
  if 0 ≤ power then roundFraction numerator (denominator * Nat.pow 10 power.toNat)
  else roundFraction (numerator * Nat.pow 10 (-power).toNat) denominator

/-- Whether a finite size is at least a power of ten. -/
def reaches (mantissa : Nat) (exponent power : Int) : Bool :=
  let (numerator, denominator) := fraction mantissa exponent
  if 0 ≤ power then denominator * Nat.pow 10 power.toNat ≤ numerator
  else denominator ≤ numerator * Nat.pow 10 (-power).toNat

/-- The power of ten of the first digit of a finite size that is not zero. -/
def decimalExponent (mantissa : Nat) (exponent : Int) : Int :=
  let bits : Int := (bitLength mantissa : Int) - 1 + exponent
  let guess := bits * 30103 / 100000 - 1
  (List.range 4).foldl (fun power _ =>
    if reaches mantissa exponent (power + 1) then power + 1 else power) (guess - 1)

/-- So many digits of a finite size that is not zero, rounded, with the power of
ten of the first. -/
def leadingDigits (mantissa : Nat) (exponent : Int) (count : Nat) : Nat × Int :=
  let power := decimalExponent mantissa exponent
  let digits := inUnits mantissa exponent (power - (count - 1))
  if digits == Nat.pow 10 count then (digits / 10, power + 1) else (digits, power)

end Floating

end PipelineShell
