/-
# Text.Numeral -- whole numbers of 32 bits in decimal

`Numeral.signed32` reads an optional single sign and then ASCII digits, at least
one of them; leading zeros count for nothing.  A value that does not fit in 32
bits with a sign is refused, never wrapped.
-/
namespace PipelineShell.Numeral

set_option autoImplicit false

/-- The value of the digits read so far, and the next one. -/
def accumulate (value : Option Nat) (c : Char) : Option Nat :=
  value.bind fun n => if c.isDigit then some (n * 10 + (c.toNat - '0'.toNat)) else none

/-- The value of a non-empty list of ASCII digits. -/
def digits (text : List Char) : Option Nat :=
  if text.isEmpty then none else text.foldl accumulate (some 0)

/-- The value of a number, if it lies between `-2 ^ 31` and `2 ^ 31 - 1`. -/
def inRange (value : Int) : Option Int :=
  if -2147483648 ≤ value ∧ value ≤ 2147483647 then some value else none

def signed : List Char → Option Int
  | '+' :: rest => (digits rest).map Int.ofNat
  | '-' :: rest => (digits rest).map fun n => -Int.ofNat n
  | text => (digits text).map Int.ofNat

/-- The number that a text spells, if it is a whole number of 32 bits. -/
def signed32 (text : String) : Option Int :=
  (signed text.toList).bind inRange

end PipelineShell.Numeral
