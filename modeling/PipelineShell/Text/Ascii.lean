/-
# Text.Ascii -- bytes as characters of the C locale

Programs of the machine speak the C locale: a byte is a character, those below
128 are the ASCII ones, and no other byte is a letter, a blank or a sign.  The
classes here are the locale's; numerals are written without grouping
(`decimal`) and read digit by digit (`natural?`).
-/
import PipelineShell.Text.Utf8

namespace PipelineShell

set_option autoImplicit false

def ascii (text : String) : Bytes := Utf8.encode text

def byteOf (c : Char) : UInt8 := c.toNat.toUInt8

/-- The character that a byte stands for; above 127 it is only a place holder. -/
def charOf (b : UInt8) : Char := Char.ofNat b.toNat

namespace Ascii

/-! ## Classes -/

def isDigit (b : UInt8) : Bool := 0x30 ≤ b && b ≤ 0x39

def isLower (b : UInt8) : Bool := 0x61 ≤ b && b ≤ 0x7A

def isUpper (b : UInt8) : Bool := 0x41 ≤ b && b ≤ 0x5A

def isAlpha (b : UInt8) : Bool := isLower b || isUpper b

def isAlnum (b : UInt8) : Bool := isAlpha b || isDigit b

def isBlank (b : UInt8) : Bool := b == 0x20 || b == 0x09

def isSpace (b : UInt8) : Bool := b == 0x20 || (0x09 ≤ b && b ≤ 0x0D)

def isGraph (b : UInt8) : Bool := 0x21 ≤ b && b ≤ 0x7E

def isPrint (b : UInt8) : Bool := 0x20 ≤ b && b ≤ 0x7E

def isControl (b : UInt8) : Bool := b < 0x20 || b == 0x7F

def isPunctuation (b : UInt8) : Bool := isGraph b && !isAlnum b

def isHexDigit (b : UInt8) : Bool :=
  isDigit b || (0x61 ≤ b && b ≤ 0x66) || (0x41 ≤ b && b ≤ 0x46)

def isOctalDigit (b : UInt8) : Bool := 0x30 ≤ b && b ≤ 0x37

def classes : List (String × (UInt8 → Bool)) :=
  [("alnum", isAlnum), ("alpha", isAlpha), ("blank", isBlank), ("cntrl", isControl),
    ("digit", isDigit), ("graph", isGraph), ("lower", isLower), ("print", isPrint),
    ("punct", isPunctuation), ("space", isSpace), ("upper", isUpper), ("xdigit", isHexDigit)]

def class? (name : Bytes) : Option (UInt8 → Bool) :=
  (classes.find? fun entry => ascii entry.1 == name).map (·.2)

/-! ## Names -/

def beginsName (b : UInt8) : Bool := isAlpha b || b == 0x5F

def isNameByte (b : UInt8) : Bool := isAlnum b || b == 0x5F

def isName (text : Bytes) : Bool :=
  match text with
  | [] => false
  | b :: rest => beginsName b && rest.all isNameByte

/-! ## Case -/

def upper (b : UInt8) : UInt8 := if isLower b then b - 0x20 else b

def lower (b : UInt8) : UInt8 := if isUpper b then b + 0x20 else b

/-! ## Numerals -/

def digitValue (b : UInt8) : Nat :=
  if isDigit b then b.toNat - 0x30
  else if isLower b then b.toNat - 0x61 + 10
  else if isUpper b then b.toNat - 0x41 + 10
  else 99

def valueIn (base : Nat) (digits : Bytes) : Nat :=
  digits.foldl (fun value d => value * base + digitValue d) 0

def value (digits : Bytes) : Nat := valueIn 10 digits

/-- The number that decimal digits spell, if there is nothing else. -/
def natural? (text : Bytes) : Option Nat :=
  if text.isEmpty || !text.all isDigit then none else some (value text)

def decimal (n : Nat) : Bytes := ascii (toString n)

def signed (n : Int) : Bytes := ascii (toString n)

/-- A number in digits of a base, at most sixteen. -/
def inBase (base n : Nat) : Bytes := ascii (String.ofList (Nat.toDigits base n))

end Ascii

/-- Whether one text comes before another, or is the same, byte by byte. -/
def precedes : Bytes → Bytes → Bool
  | [], _ => true
  | _ :: _, [] => false
  | a :: s, b :: t => a < b || (a == b && precedes s t)

end PipelineShell
