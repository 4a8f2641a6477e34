/-
# Machine.Utility.Numeral -- counts with a unit

A count is a decimal numeral that a unit may follow: `K`, `M` and so on are powers
of 1024, the same letters with `B` are powers of 1000, and `b` is a block of 512.
Blanks and a plus sign in front are allowed, a minus sign is not.
-/
import PipelineShell.Text.Ascii

namespace PipelineShell.Machine.Utility.Numeral

set_option autoImplicit false

inductive Count where
  | value (n : Nat)
  | tooLarge
  | malformed
  deriving DecidableEq, Repr

def greatest : Nat := 18446744073709551615

/-- The letters of the units, in rising order from the first power on. -/
def units : String := "KMGTPEZYRQ"

/-- The power that a unit's letter stands for. -/
def powerOf? (allowed : String) (letter : UInt8) : Option Nat :=
  let c := charOf letter
  if !allowed.toList.contains c then none
  else
    let c := if c == 'k' then 'K' else if c == 'm' then 'M' else if c == 'g' then 'G'
      else if c == 't' then 'T' else c
    (units.toList.idxOf? c).map (· + 1)

/-- How many units of one the text after a numeral stands for.  With `0` among the
allowed letters, `B`, `D` and `iB` may follow a letter. -/
def unit? (allowed : String) (text : Bytes) : Option Nat :=
  match text with
  | [] => some 1
  | letter :: rest =>
      if letter == byteOf 'b' && allowed.toList.contains 'b' then
        if rest.isEmpty then some 512 else none
      else if letter == byteOf 'B' && allowed.toList.contains 'B' then
        if rest.isEmpty then some 1024 else none
      else if letter == byteOf 'c' && allowed.toList.contains 'c' then
        if rest.isEmpty then some 1 else none
      else if letter == byteOf 'w' && allowed.toList.contains 'w' then
        if rest.isEmpty then some 2 else none
      else
        match powerOf? allowed letter with
        | none => none
        | some power =>
            let long := allowed.toList.contains '0'
            if rest.isEmpty || (long && rest == ascii "iB") then some (Nat.pow 1024 power)
            else if long && (rest == ascii "B" || rest == ascii "D") then some (Nat.pow 1000 power)
            else none

def read (allowed : String) (text : Bytes) : Count :=
  let text := text.dropWhile Ascii.isSpace
  let text := if text.head? == some (byteOf '+') then text.tail else text
  let digits := text.takeWhile Ascii.isDigit
  let rest := text.drop digits.length
  if digits.isEmpty && (rest.isEmpty || (unit? allowed rest).isNone) then .malformed
  else
    match unit? allowed rest with
    | none => .malformed
    | some unit =>
        let n := (if digits.isEmpty then 1 else Ascii.value digits) * unit
        if greatest < n then .tooLarge else .value n

end PipelineShell.Machine.Utility.Numeral
