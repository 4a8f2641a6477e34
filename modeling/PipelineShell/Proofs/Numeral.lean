/-
# Proofs.Numeral -- which texts are whole numbers

A numeral is a digit, or a numeral with one more digit behind it, which counts for ten times
what it did and the digit (`Numeral.Decimal`).  A whole number is a numeral with at most one
sign in front (`Numeral.Whole`).  Nothing is said of how many digits there are, or of zeros in
front.

The reader goes through the digits from the left, and a numeral grows at its right end, so the
two agree digit by digit (`Numeral.digits_eq_some_iff`); what is read as a number of 32 bits
are the whole numbers between the bounds (`Numeral.signed32_eq_some_iff`).  What a natural
number is written as is a numeral for it (`Numeral.decimal_toString`).
-/
import Mathlib.Data.List.Induction
import PipelineShell.Text.Numeral

namespace PipelineShell.Numeral

set_option autoImplicit false

/-! ## Numerals -/

/-- The characters are a numeral for this number. -/
inductive Decimal : List Char → Nat → Prop
  | digit {d : Nat} (small : d < 10) : Decimal [d.digitChar] d
  | snoc {text : List Char} {n d : Nat} (front : Decimal text n) (small : d < 10) :
      Decimal (text ++ [d.digitChar]) (10 * n + d)

/-- The characters are a whole number of this value. -/
inductive Whole : List Char → Int → Prop
  | unsigned {text : List Char} {n : Nat} (numeral : Decimal text n) : Whole text n
  | plus {text : List Char} {n : Nat} (numeral : Decimal text n) : Whole ('+' :: text) n
  | minus {text : List Char} {n : Nat} (numeral : Decimal text n) : Whole ('-' :: text) (-n)

/-- The value has a place in 32 bits with a sign. -/
def Fits (value : Int) : Prop := -2147483648 ≤ value ∧ value ≤ 2147483647

instance (value : Int) : Decidable (Fits value) := inferInstanceAs (Decidable (_ ∧ _))

/-! ## Digits -/

theorem isDigit_digitChar {d : Nat} (small : d < 10) : d.digitChar.isDigit = true := by
  rw [Nat.isDigit_digitChar, decide_eq_true small]

theorem toNat_digitChar {d : Nat} (small : d < 10) : d.digitChar.toNat - '0'.toNat = d := by
  rw [Nat.toNat_digitChar_of_lt_ten small]
  exact Nat.add_sub_cancel_left 48 d

theorem exists_digitChar {c : Char} (digit : c.isDigit = true) :
    ∃ d, d < 10 ∧ c = d.digitChar := by
  obtain ⟨low, high⟩ : 48 ≤ c.toNat ∧ c.toNat ≤ 57 := Char.isDigit_iff_toNat.1 digit
  have shape : ∀ d, d < 10 → Char.ofNat (48 + d) = d.digitChar := by decide
  refine ⟨c.toNat - 48, by omega, ?_⟩
  rw [← shape _ (by omega), Nat.add_sub_cancel' low, Char.ofNat_toNat]

theorem accumulate_digitChar (n : Nat) {d : Nat} (small : d < 10) :
    accumulate (some n) d.digitChar = some (10 * n + d) := by
  simp only [accumulate, Option.bind_some, isDigit_digitChar small, if_true,
    toNat_digitChar small, Nat.mul_comm n 10]

theorem exists_of_accumulate {value : Option Nat} {c : Char} {m : Nat}
    (read : accumulate value c = some m) :
    ∃ n d, value = some n ∧ d < 10 ∧ c = d.digitChar ∧ m = 10 * n + d := by
  obtain ⟨n, rfl, taken⟩ := Option.bind_eq_some_iff.1 read
  split at taken
  case isTrue digit =>
    obtain ⟨d, small, rfl⟩ := exists_digitChar digit
    rw [toNat_digitChar small, Nat.mul_comm] at taken
    exact ⟨n, d, rfl, small, rfl, (Option.some.inj taken).symm⟩
  case isFalse => cases taken

/-! ## What is read -/

theorem digits_eq_foldl {text : List Char} (nonempty : text ≠ []) :
    digits text = text.foldl accumulate (some 0) := by
  rw [digits, if_neg (by simpa using nonempty)]

theorem Decimal.ne_nil {text : List Char} {n : Nat} (numeral : Decimal text n) : text ≠ [] := by
  cases numeral <;> simp

/-- **What is read as a number is a numeral for it.** -/
theorem digits_eq_some_iff {text : List Char} {n : Nat} :
    digits text = some n ↔ Decimal text n := by
  constructor
  · intro read
    induction text using List.reverseRecOn generalizing n with
    | nil => cases read
    | append_singleton front c ih =>
        rw [digits_eq_foldl (by simp), List.foldl_append] at read
        obtain ⟨m, d, before, small, rfl, rfl⟩ := exists_of_accumulate read
        by_cases first : front = []
        · subst first
          obtain rfl : 0 = m := Option.some.inj before
          rw [Nat.mul_zero, Nat.zero_add]
          exact .digit small
        · exact .snoc (ih ((digits_eq_foldl first).trans before)) small
  · intro numeral
    induction numeral with
    | digit small =>
        refine (accumulate_digitChar 0 small).trans ?_
        rw [Nat.mul_zero, Nat.zero_add]
    | snoc front small ih =>
        rw [digits_eq_foldl front.ne_nil] at ih
        rw [digits_eq_foldl (by simp), List.foldl_append, ih]
        exact accumulate_digitChar _ small

theorem Decimal.isDigit {text : List Char} {n : Nat} (numeral : Decimal text n) :
    ∀ c ∈ text, c.isDigit = true := by
  induction numeral with
  | digit small => simpa using isDigit_digitChar small
  | snoc front small ih =>
      intro c member
      rcases List.mem_append.1 member with before | last
      · exact ih c before
      · rw [List.mem_singleton.1 last]
        exact isDigit_digitChar small

/-- **A natural number is written as a numeral for it.** -/
theorem decimal_toString (n : Nat) : Decimal (toString n).toList n := by
  rw [Nat.toString_eq_ofList_toDigits, String.toList_ofList]
  induction n using Nat.strongRecOn with
  | _ n ih =>
      rw [Nat.toDigits_eq_if (by decide)]
      split
      case isTrue small => exact .digit small
      case isFalse large =>
        have numeral := (ih (n / 10) (by omega)).snoc (Nat.mod_lt n (by decide))
        rwa [Nat.div_add_mod] at numeral

/-! ## Signs -/

theorem signed_eq_some_iff {text : List Char} {value : Int} :
    signed text = some value ↔ Whole text value := by
  constructor
  · intro read
    unfold signed at read
    split at read
    all_goals
      obtain ⟨n, numeral, rfl⟩ := Option.map_eq_some_iff.1 read
      rw [digits_eq_some_iff] at numeral
    · exact .plus numeral
    · exact .minus numeral
    · exact .unsigned numeral
  · rintro (⟨numeral⟩ | ⟨numeral⟩ | ⟨numeral⟩)
    · -- a numeral begins with a digit, so no sign is taken off it
      have unsigned : signed text = (digits text).map Int.ofNat := by
        unfold signed
        split
        · exact absurd (numeral.isDigit '+' (by simp)) (by decide)
        · exact absurd (numeral.isDigit '-' (by simp)) (by decide)
        · rfl
      rw [unsigned, digits_eq_some_iff.2 numeral]
      rfl
    · simp only [signed, digits_eq_some_iff.2 numeral, Option.map_some]
      rfl
    · simp only [signed, digits_eq_some_iff.2 numeral, Option.map_some]
      rfl

/-- **What is read as a number of 32 bits are the whole numbers that fit.** -/
theorem signed32_eq_some_iff {text : String} {value : Int} :
    signed32 text = some value ↔ Whole text.toList value ∧ Fits value := by
  rw [signed32, Option.bind_eq_some_iff]
  constructor
  · rintro ⟨whole, read, ranged⟩
    rw [inRange] at ranged
    split at ranged
    case isTrue fits =>
      obtain rfl := Option.some.inj ranged
      exact ⟨signed_eq_some_iff.1 read, fits⟩
    case isFalse => cases ranged
  · rintro ⟨whole, fits⟩
    exact ⟨value, signed_eq_some_iff.2 whole, if_pos fits⟩

end PipelineShell.Numeral
