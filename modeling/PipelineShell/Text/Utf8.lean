/-
# Text.Utf8 -- texts as bytes, and bytes as texts

A command line is a text; what flows through a pipe is bytes.  This module holds
the two directions.

* `encode` writes a text as UTF-8.
* `decode?` reads bytes that are well formed and refuses all others.
* `decodeLossy` reads any bytes: every maximal part that can begin no character
  becomes one U+FFFD, so `decodeLossy` agrees with `decode?` where that succeeds.

Both readers are driven by `next`, which takes one character, or one malformed
part, off the front.  It never gives back more than it was given
(`next_length_le`), which is why the readers end.
-/
namespace PipelineShell

set_option autoImplicit false

/-- What pipes, files and streams carry. -/
abbrev Bytes := List UInt8

namespace Utf8

/-! ## Writing -/

def encode (text : String) : Bytes :=
  text.toList.flatMap String.utf8EncodeChar

/-! ## Reading one character -/

/-- A byte that may stand second, third or fourth in a character. -/
def isContinuation (b : UInt8) : Bool :=
  0x80 ≤ b && b ≤ 0xBF

/-- How many bytes a leading byte announces after itself, and the range of the
first of them.  `none` for a byte that leads no longer character.  The narrowed
ranges exclude overlong forms, surrogates and what lies above U+10FFFF. -/
def announced (lead : UInt8) : Option (Nat × UInt8 × UInt8) :=
  if 0xC2 ≤ lead && lead ≤ 0xDF then some (1, 0x80, 0xBF)
  else if lead == 0xE0 then some (2, 0xA0, 0xBF)
  else if lead == 0xED then some (2, 0x80, 0x9F)
  else if 0xE1 ≤ lead && lead ≤ 0xEF then some (2, 0x80, 0xBF)
  else if lead == 0xF0 then some (3, 0x90, 0xBF)
  else if 0xF1 ≤ lead && lead ≤ 0xF3 then some (3, 0x80, 0xBF)
  else if lead == 0xF4 then some (3, 0x80, 0x8F)
  else none

/-- The bits that a leading byte contributes to a character of `more` further
bytes. -/
def leadBits (lead : UInt8) (more : Nat) : Nat :=
  match more with
  | 1 => lead.toNat % 0x20
  | 2 => lead.toNat % 0x10
  | _ => lead.toNat % 0x08

/-- Reads `more` continuation bytes into `value`.  The rest comes back in either
case; a part that breaks off has consumed only the bytes that fitted. -/
def continuation : Nat → Nat → Bytes → Option Char × Bytes
  | 0, value, rest => (some (Char.ofNat value), rest)
  | _ + 1, _, [] => (none, [])
  | more + 1, value, b :: rest =>
      if isContinuation b then continuation more (value * 0x40 + b.toNat % 0x40) rest
      else (none, b :: rest)

/-- Takes one character off the front of `lead :: rest`, or `none` and the bytes
after the longest part that could have begun one. -/
def next (lead : UInt8) (rest : Bytes) : Option Char × Bytes :=
  if lead < 0x80 then (some (Char.ofNat lead.toNat), rest)
  else
    match announced lead, rest with
    | some (more, low, high), b :: after =>
        if low ≤ b && b ≤ high then
          continuation (more - 1) (leadBits lead more * 0x40 + b.toNat % 0x40) after
        else (none, rest)
    | _, _ => (none, rest)

theorem continuation_length_le (more value : Nat) (rest : Bytes) :
    (continuation more value rest).2.length ≤ rest.length := by
  induction more generalizing value rest with
  | zero => simp [continuation]
  | succ more ih =>
    cases rest with
    | nil => simp [continuation]
    | cons b rest =>
      by_cases h : isContinuation b
      · have := ih (value * 0x40 + b.toNat % 0x40) rest
        simp only [continuation, h, if_true, List.length_cons]
        omega
      · simp [continuation, h]

theorem next_length_le (lead : UInt8) (rest : Bytes) :
    (next lead rest).2.length ≤ rest.length := by
  unfold next
  split
  · simp
  · split
    · split
      · have := continuation_length_le
        simp only [List.length_cons]
        exact Nat.le_succ_of_le (this ..)
      · simp
    · simp

/-! ## Reading a text -/

/-- The reading of the bytes, character by character: `none` stands for one
malformed part. -/
def parts (read : List (Option Char)) : Bytes → List (Option Char)
  | [] => read.reverse
  | lead :: rest => parts ((next lead rest).1 :: read) (next lead rest).2
termination_by bytes => bytes.length
decreasing_by
  have := next_length_le lead rest
  simp only [List.length_cons]
  omega

/-- The text that well-formed bytes spell; `none` if any part is malformed. -/
def decode? (bytes : Bytes) : Option String :=
  ((parts [] bytes).mapM id).map String.ofList

/-- The text of any bytes, each malformed part shown as U+FFFD. -/
def decodeLossy (bytes : Bytes) : String :=
  String.ofList ((parts [] bytes).map (·.getD '\uFFFD'))

end Utf8

end PipelineShell
