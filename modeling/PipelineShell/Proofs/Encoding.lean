/-
# Proofs.Encoding -- texts are read back from their bytes

What `Utf8.encode` writes, `Utf8.decode?` reads back (`decode?_encode`).  The reader takes one
character after the other off the front, so it is enough that it takes a character off its own
bytes and leaves what comes after them (`next_utf8EncodeChar`).  There are four forms, of one
to four bytes, and in each the leading byte announces how many are to follow and how small the
first of these may be; the narrowed ranges leave out what no character is written as.
-/
import Mathlib.Tactic.SplitIfs
import PipelineShell.Text.Utf8

namespace PipelineShell.Utf8

set_option autoImplicit false

/-! ## Leading bytes -/

section Announced

variable (lead : UInt8)

theorem announced_two (low : 0xC2 ≤ lead.toNat) (high : lead.toNat ≤ 0xDF) :
    announced lead = some (1, 0x80, 0xBF) := by
  simp [announced, UInt8.le_iff_toNat_le, low, high]

theorem announced_three (low : 0xE0 ≤ lead.toNat) (high : lead.toNat ≤ 0xEF) :
    announced lead = some (2, if lead.toNat = 0xE0 then 0xA0 else 0x80,
      if lead.toNat = 0xED then 0x9F else 0xBF) := by
  simp only [announced, UInt8.le_iff_toNat_le, Bool.and_eq_true, decide_eq_true_eq, beq_iff_eq,
    ← UInt8.toNat_inj, UInt8.reduceToNat]
  split_ifs <;> first | omega | rfl

theorem announced_four (low : 0xF0 ≤ lead.toNat) (high : lead.toNat ≤ 0xF4) :
    announced lead = some (3, if lead.toNat = 0xF0 then 0x90 else 0x80,
      if lead.toNat = 0xF4 then 0x8F else 0xBF) := by
  simp only [announced, UInt8.le_iff_toNat_le, Bool.and_eq_true, decide_eq_true_eq, beq_iff_eq,
    ← UInt8.toNat_inj, UInt8.reduceToNat]
  split_ifs <;> first | omega | rfl

end Announced

/-! ## One character -/

section Next

variable {lead b low high : UInt8} {more : Nat}

theorem next_of_announced (announces : announced lead = some (more, low, high))
    (leads : 0x80 ≤ lead.toNat) (above : low.toNat ≤ b.toNat) (below : b.toNat ≤ high.toNat)
    (rest : Bytes) :
    next lead (b :: rest) =
      continuation (more - 1) (leadBits lead more * 0x40 + b.toNat % 0x40) rest := by
  have long : ¬ lead < 0x80 := by
    simp only [UInt8.lt_iff_toNat_lt, UInt8.reduceToNat]
    omega
  simp [next, long, announces, UInt8.le_iff_toNat_le, above, below]

theorem continuation_cons (above : 0x80 ≤ b.toNat) (below : b.toNat ≤ 0xBF) (value : Nat)
    (rest : Bytes) :
    continuation (more + 1) value (b :: rest) =
      continuation more (value * 0x40 + b.toNat % 0x40) rest := by
  simp [continuation, isContinuation, UInt8.le_iff_toNat_le, above, below]

end Next

/-- The bound is a numeral here, so that it can be shown by arithmetic. -/
theorem toNat_ofNat (n : Nat) (small : n < 0x100) : (UInt8.ofNat n).toNat = n :=
  UInt8.toNat_ofNat_of_lt' small

/-! ## The four forms -/

section Forms

variable {v : Nat} (rest : Bytes)

theorem next_one (one : v ≤ 0x7F) :
    next (UInt8.ofNat v) rest = (some (Char.ofNat v), rest) := by
  have lead := toNat_ofNat v (by omega)
  have short : UInt8.ofNat v < 0x80 := by
    simp only [UInt8.lt_iff_toNat_lt, lead, UInt8.reduceToNat]
    omega
  simp [next, short, lead]

theorem next_two (above : 0x7F < v) (two : v ≤ 0x7FF) :
    next (UInt8.ofNat (v / 64 % 32 + 192)) (UInt8.ofNat (v % 64 + 128) :: rest) =
      (some (Char.ofNat v), rest) := by
  have lead := toNat_ofNat (v / 64 % 32 + 192) (by omega)
  have second := toNat_ofNat (v % 64 + 128) (by omega)
  have announces := announced_two (UInt8.ofNat (v / 64 % 32 + 192)) (by omega) (by omega)
  have value : (v / 64 % 32 + 192) % 0x20 * 0x40 + (v % 64 + 128) % 0x40 = v := by omega
  rw [next_of_announced announces (by omega)
    (by simp only [second, UInt8.reduceToNat]; omega)
    (by simp only [second, UInt8.reduceToNat]; omega)]
  simp only [leadBits, lead, second, value, Nat.sub_self, continuation]

/-- Shorter forms and surrogates are left out by the range of the second byte. -/
theorem next_three (above : 0x7FF < v) (three : v ≤ 0xFFFF) (valid : v < 0xD800 ∨ 0xDFFF < v) :
    next (UInt8.ofNat (v / 4096 % 16 + 224))
        (UInt8.ofNat (v / 64 % 64 + 128) :: UInt8.ofNat (v % 64 + 128) :: rest) =
      (some (Char.ofNat v), rest) := by
  have lead := toNat_ofNat (v / 4096 % 16 + 224) (by omega)
  have second := toNat_ofNat (v / 64 % 64 + 128) (by omega)
  have third := toNat_ofNat (v % 64 + 128) (by omega)
  have announces := announced_three (UInt8.ofNat (v / 4096 % 16 + 224)) (by omega) (by omega)
  have value : ((v / 4096 % 16 + 224) % 0x10 * 0x40 + (v / 64 % 64 + 128) % 0x40) * 0x40 +
      (v % 64 + 128) % 0x40 = v := by omega
  rw [next_of_announced announces (by omega)
    (by rw [second, lead]; split_ifs <;> simp only [UInt8.reduceToNat] <;> omega)
    (by rw [second, lead]; split_ifs <;> simp only [UInt8.reduceToNat] <;> omega),
    continuation_cons (by omega) (by omega)]
  simp only [leadBits, lead, second, third, value, continuation]

theorem next_four (above : 0xFFFF < v) (valid : v < 0x110000) :
    next (UInt8.ofNat (v / 262144 % 8 + 240))
        (UInt8.ofNat (v / 4096 % 64 + 128) :: UInt8.ofNat (v / 64 % 64 + 128) ::
          UInt8.ofNat (v % 64 + 128) :: rest) =
      (some (Char.ofNat v), rest) := by
  have lead := toNat_ofNat (v / 262144 % 8 + 240) (by omega)
  have second := toNat_ofNat (v / 4096 % 64 + 128) (by omega)
  have third := toNat_ofNat (v / 64 % 64 + 128) (by omega)
  have fourth := toNat_ofNat (v % 64 + 128) (by omega)
  have announces := announced_four (UInt8.ofNat (v / 262144 % 8 + 240)) (by omega) (by omega)
  have value : (((v / 262144 % 8 + 240) % 0x08 * 0x40 + (v / 4096 % 64 + 128) % 0x40) * 0x40 +
      (v / 64 % 64 + 128) % 0x40) * 0x40 + (v % 64 + 128) % 0x40 = v := by omega
  rw [next_of_announced announces (by omega)
    (by rw [second, lead]; split_ifs <;> simp only [UInt8.reduceToNat] <;> omega)
    (by rw [second, lead]; split_ifs <;> simp only [UInt8.reduceToNat] <;> omega),
    continuation_cons (by omega) (by omega), continuation_cons (by omega) (by omega)]
  simp only [leadBits, lead, second, third, fourth, value, continuation]

end Forms

/-- **The reader takes a character off its own bytes.** -/
theorem next_utf8EncodeChar (c : Char) (rest : Bytes) :
    ∃ lead tail, String.utf8EncodeChar c = lead :: tail ∧
      next lead (tail ++ rest) = (some c, rest) := by
  have valid : c.val.toNat < 0xD800 ∨ 0xDFFF < c.val.toNat ∧ c.val.toNat < 0x110000 := c.valid
  have back : Char.ofNat c.val.toNat = c := Char.ofNat_toNat c
  unfold String.utf8EncodeChar
  generalize c.val.toNat = v at valid back ⊢
  rw [← back]
  by_cases one : v ≤ 0x7F
  · exact ⟨_, _, if_pos one, next_one rest one⟩
  rw [if_neg one]
  by_cases two : v ≤ 0x7FF
  · exact ⟨_, _, if_pos two, next_two rest (by omega) two⟩
  rw [if_neg two]
  by_cases three : v ≤ 0xFFFF
  · exact ⟨_, _, if_pos three, next_three rest (by omega) three (by omega)⟩
  · exact ⟨_, _, if_neg three, next_four rest (by omega) (by omega)⟩

/-! ## A text -/

theorem encode_append (front back : String) :
    encode (front ++ back) = encode front ++ encode back := by
  rw [encode, String.toList_append, List.flatMap_append]
  rfl

theorem parts_encode (chars : List Char) (read : List (Option Char)) :
    parts read (chars.flatMap String.utf8EncodeChar) = read.reverse ++ chars.map some := by
  induction chars generalizing read with
  | nil => simp [parts]
  | cons c chars ih =>
      obtain ⟨lead, tail, bytes, taken⟩ :=
        next_utf8EncodeChar c (chars.flatMap String.utf8EncodeChar)
      rw [List.flatMap_cons, bytes, List.cons_append, parts, taken, ih]
      simp

/-- **A text is read back from its bytes.** -/
theorem decode?_encode (text : String) : decode? (encode text) = some text := by
  have all : (text.toList.map some).mapM id = some text.toList := by
    induction text.toList with
    | nil => rfl
    | cons c rest ih => simp [ih]
  rw [decode?, encode, parts_encode, List.reverse_nil, List.nil_append, all, Option.map_some,
    String.ofList_toList]

end PipelineShell.Utf8
