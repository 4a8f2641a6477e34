/-
# Text.Directive -- values in fields

A `Directive` says how a value is to be laid out: its marks, the width of its
field, and its precision.  There is one function for each kind of value:
`Directive.signed`, `Directive.unsigned`, `Directive.text` and
`Directive.floating`, the last of which writes a number with a point in one of
four notations.
-/
import PipelineShell.Text.Floating

namespace PipelineShell

set_option autoImplicit false

/-- How a value is laid out. -/
structure Directive where
  /-- The value stands at the left of its field. -/
  left : Bool
  /-- Numbers that are not negative have a plus sign. -/
  plus : Bool
  /-- Numbers that are not negative have a blank for a sign. -/
  blank : Bool
  /-- The notation is spelled out: a base, a point, zeros at the end. -/
  alternate : Bool
  /-- The field is filled up with zeros. -/
  zeros : Bool
  width : Nat
  precision : Option Nat
  deriving DecidableEq, Repr

/-- The notations of numbers with a point. -/
inductive Directive.Style where
  /-- Digits around the point. -/
  | fixed
  /-- One digit before the point, and a power of ten. -/
  | scientific
  /-- The shorter of the two. -/
  | general
  /-- Hexadecimal digits, and a power of two. -/
  | hexadecimal
  deriving DecidableEq, Repr

namespace Directive

def bare : Directive := ⟨false, false, false, false, false, 0, none⟩

def mark (directive : Directive) (c : Char) : Directive :=
  match c with
  | '-' => { directive with left := true }
  | '+' => { directive with plus := true }
  | ' ' => { directive with blank := true }
  | '#' => { directive with alternate := true }
  | '0' => { directive with zeros := true }
  | _ => directive

/-- The width that an argument asks for: a negative one also moves to the left. -/
def withWidth (directive : Directive) (width : Int) : Directive :=
  if width < 0 then { directive with left := true, width := (-width).toNat }
  else { directive with width := width.toNat }

def fill (n : Nat) (c : Char) : Bytes := List.replicate n (byteOf c)

/-- Fills a field up with blanks. -/
def pad (directive : Directive) (body : Bytes) : Bytes :=
  let missing := fill (directive.width - body.length) ' '
  if directive.left then body ++ missing else missing ++ body

/-- Puts a sign in front of digits; zeros go between the two. -/
def padNumber (directive : Directive) (zeros : Bool) (sign body : Bytes) : Bytes :=
  if zeros && !directive.left then
    sign ++ fill (directive.width - sign.length - body.length) '0' ++ body
  else directive.pad (sign ++ body)

def sign (directive : Directive) (negative : Bool) : Bytes :=
  if negative then ascii "-"
  else if directive.plus then ascii "+"
  else if directive.blank then ascii " "
  else []

def digits (directive : Directive) (digits : Bytes) : Bytes :=
  match directive.precision with
  | none => digits
  | some 0 => if digits == ascii "0" then [] else digits
  | some n => fill (n - digits.length) '0' ++ digits

def signed (directive : Directive) (n : Int) : Bytes :=
  directive.padNumber (directive.zeros && directive.precision.isNone)
    (directive.sign (n < 0)) (directive.digits (Ascii.decimal n.natAbs))

/-- A number without a sign, in a base; `capital` asks for capital letters. -/
def unsigned (directive : Directive) (base : Nat) (capital : Bool) (n : Nat) : Bytes :=
  let digits := directive.digits (Ascii.inBase base n)
  let digits :=
    if base == 8 && directive.alternate && digits.head? != some (byteOf '0')
    then byteOf '0' :: digits else digits
  let sign := if base == 16 && directive.alternate && n != 0 then ascii "0x" else []
  let body := directive.padNumber (directive.zeros && directive.precision.isNone) sign digits
  if capital then body.map Ascii.upper else body

def text (directive : Directive) (text : Bytes) : Bytes :=
  directive.pad (match directive.precision with
    | none => text
    | some n => text.take n)

/-! ## Numbers with a point -/

/-- Digits with a point before the last `places` of them. -/
def withPoint (alternate : Bool) (digits : Bytes) (places : Nat) : Bytes :=
  let digits := fill (places + 1 - digits.length) '0' ++ digits
  let (front, back) := digits.splitAt (digits.length - places)
  front ++ (if back.isEmpty && !alternate then [] else byteOf '.' :: back)

/-- An exponent: its sign and at least so many digits. -/
def exponent (least : Nat) (n : Int) : Bytes :=
  let digits := Ascii.decimal n.natAbs
  ascii (if n < 0 then "-" else "+") ++ fill (least - digits.length) '0' ++ digits

def fixed (alternate : Bool) (places : Nat) (mantissa : Nat) (power : Int) : Bytes :=
  withPoint alternate (Ascii.decimal (Floating.inUnits mantissa power (-(places : Int)))) places

def scientific (alternate : Bool) (places : Nat) (mantissa : Nat) (power : Int) : Bytes :=
  let (digits, first) :=
    if mantissa == 0 then (0, 0) else Floating.leadingDigits mantissa power (places + 1)
  withPoint alternate (fill (places + 1 - (Ascii.decimal digits).length) '0' ++
    Ascii.decimal digits) places ++ ascii "e" ++ exponent 2 first

def withoutZeros (text : Bytes) : Bytes :=
  if text.contains (byteOf '.') then
    let kept := (text.reverse.dropWhile (· == byteOf '0')).reverse
    if kept.getLast? == some (byteOf '.') then kept.dropLast else kept
  else text

def general (alternate : Bool) (significant : Nat) (mantissa : Nat) (power : Int) : Bytes :=
  let first :=
    if mantissa == 0 then 0 else (Floating.leadingDigits mantissa power significant).2
  if -4 ≤ first && first < significant then
    let text := fixed alternate ((significant : Int) - 1 - first).toNat mantissa power
    if alternate then text else withoutZeros text
  else
    let text := scientific alternate (significant - 1) mantissa power
    if alternate then text
    else
      let digits := text.takeWhile (· != byteOf 'e')
      withoutZeros digits ++ text.drop digits.length

/-- Hexadecimal digits: a first one of so many bits before the point. -/
def hexadecimal (alternate : Bool) (leading : Nat) (shape : Floating.Shape) (places : Option Nat)
    (mantissa : Nat) (power : Int) : Bytes :=
  let behind := (shape.bits - leading + 3) / 4
  let shift := behind * 4 - (shape.bits - leading)
  let up := if leading == 1 then 0 else shape.bits - Floating.bitLength mantissa
  let isSubnormal := leading == 1 && Floating.bitLength mantissa < shape.bits
  let mantissa' := if mantissa == 0 then 0 else mantissa * Nat.pow 2 (shift + up)
  let power' : Int :=
    if mantissa == 0 then 0
    else if isSubnormal then shape.least + ((shape.bits : Int) - 1)
    else power - up + shape.bits - leading
  match places with
  | some places =>
      let digits :=
        if places < behind then Floating.roundFraction mantissa' (Nat.pow 16 (behind - places))
        else mantissa' * Nat.pow 16 (places - behind)
      withPoint alternate (Ascii.inBase 16 digits) places ++ ascii "p" ++ exponent 1 power'
  | none =>
      let text := withPoint true (Ascii.inBase 16 mantissa') behind
      let text := withoutZeros text
      text ++ (if alternate && !text.contains (byteOf '.') then ascii "." else []) ++
        ascii "p" ++ exponent 1 power'

def leadingBits (shape : Floating.Shape) : Nat := if shape.bits % 4 == 1 then 1 else 4

def floating (directive : Directive) (shape : Floating.Shape) (way : Directive.Style) (capital : Bool)
    (number : Floating) : Bytes :=
  let sign := directive.sign number.negative
  let text := match number.size with
    | .infinite => directive.padNumber false sign (ascii "inf")
    | .notANumber => directive.padNumber false sign (ascii "nan")
    | .finite mantissa power =>
        let places := directive.precision.getD 6
        let alternate := directive.alternate
        match way with
        | .fixed => directive.padNumber directive.zeros sign (fixed alternate places mantissa power)
        | .scientific =>
            directive.padNumber directive.zeros sign (scientific alternate places mantissa power)
        | .general =>
            directive.padNumber directive.zeros sign
              (general alternate (max places 1) mantissa power)
        | .hexadecimal =>
            directive.padNumber directive.zeros (sign ++ ascii "0x")
              (hexadecimal alternate (leadingBits shape) shape directive.precision mantissa power)
  if capital then text.map Ascii.upper else text

end Directive

end PipelineShell
