/-
# Text.Blank -- white space and the words between it

Words are separated by the characters with Unicode's White_Space property, which
is more than `Char.isWhitespace` knows.  `words` gives the maximal runs of other
characters in order, and `segments` cuts a list at every occurrence of one
character; both lose nothing else.

What stands on two sides of a separator is read apart
(`words_append_cons_of_isBlank`, `segments_append_cons`), and a list without
separators is one piece (`words_eq_singleton`, `segments_eq_singleton`).
Everything about either reading follows from these.
-/
namespace PipelineShell.Text

set_option autoImplicit false

/-! ## White space -/

/-- The characters with the property White_Space. -/
def isBlank (c : Char) : Bool :=
  let n := c.toNat
  (0x0009 ≤ n && n ≤ 0x000D) || n == 0x0020 || n == 0x0085 || n == 0x00A0 || n == 0x1680 ||
    (0x2000 ≤ n && n ≤ 0x200A) || n == 0x2028 || n == 0x2029 || n == 0x202F || n == 0x205F ||
    n == 0x3000

/-! ## Words -/

/-- Puts a word in front, unless it has no characters. -/
def consWord (word : List Char) (rest : List (List Char)) : List (List Char) :=
  if word.isEmpty then rest else word :: rest

/-- The word that the characters read so far end in, and the words after it. -/
def wordsStep (c : Char) (read : List Char × List (List Char)) : List Char × List (List Char) :=
  if isBlank c then ([], consWord read.1 read.2) else (c :: read.1, read.2)

/-- The maximal runs of characters that are not blank, in order. -/
def words (text : List Char) : List (List Char) :=
  let read := text.foldr wordsStep ([], [])
  consWord read.1 read.2

@[simp] theorem words_nil : words [] = [] := rfl

@[simp] theorem consWord_nil (rest : List (List Char)) : consWord [] rest = rest := rfl

@[simp] theorem consWord_cons (c : Char) (word : List Char) (rest : List (List Char)) :
    consWord (c :: word) rest = (c :: word) :: rest := rfl

theorem consWord_append (word : List Char) (front rest : List (List Char)) :
    consWord word (front ++ rest) = consWord word front ++ rest := by
  cases word <;> rfl

/-- White space in front belongs to no word. -/
theorem words_cons_of_isBlank {c : Char} (blank : isBlank c) (text : List Char) :
    words (c :: text) = words text := by
  simp [words, wordsStep, blank]

/-- White space ends a word, so the words on its two sides are read apart. -/
theorem words_append_cons_of_isBlank {c : Char} (blank : isBlank c) (front rest : List Char) :
    words (front ++ c :: rest) = words front ++ words rest := by
  have step : ∀ front : List Char,
      (front ++ c :: rest).foldr wordsStep ([], []) =
        ((front.foldr wordsStep ([], [])).1,
          (front.foldr wordsStep ([], [])).2 ++ words rest) := by
    intro front
    induction front with
    | nil => simp [wordsStep, blank, words]
    | cons d front ih =>
      rw [List.cons_append, List.foldr_cons, List.foldr_cons, ih]
      by_cases h : isBlank d
      · simp [wordsStep, h, consWord_append]
      · simp [wordsStep, h]
  rw [words, step, consWord_append]
  rfl

/-- Characters without white space are one word. -/
theorem words_eq_singleton {word : List Char} (ne : word ≠ []) (solid : ∀ c ∈ word, ¬ isBlank c) :
    words word = [word] := by
  have step : ∀ word : List Char, (∀ c ∈ word, ¬ isBlank c) →
      word.foldr wordsStep ([], []) = (word, []) := by
    intro word
    induction word with
    | nil => intro _; rfl
    | cons d word ih =>
      intro solid
      rw [List.foldr_cons, ih fun c member => solid c (List.mem_cons_of_mem _ member)]
      simp [wordsStep, solid d (List.mem_cons_self ..)]
  cases word with
  | nil => exact absurd rfl ne
  | cons c word => simp [words, step _ solid]

/-! ## Segments -/

/-- The segment that the characters read so far begin with, and the segments
after it. -/
def segmentsStep {α : Type} [BEq α] (mark c : α) (read : List α × List (List α)) :
    List α × List (List α) :=
  if c == mark then ([], read.1 :: read.2) else (c :: read.1, read.2)

/-- The segments between occurrences of `mark`: one more than there are marks. -/
def segments {α : Type} [BEq α] (mark : α) (text : List α) : List (List α) :=
  let read := text.foldr (segmentsStep mark) ([], [])
  read.1 :: read.2

@[simp] theorem segments_nil {α : Type} [BEq α] (mark : α) :
    segments mark ([] : List α) = [[]] := rfl

/-- A mark ends a segment, so the segments on its two sides are read apart. -/
theorem segments_append_cons {α : Type} [BEq α] [ReflBEq α] (mark : α) (front rest : List α) :
    segments mark (front ++ mark :: rest) = segments mark front ++ segments mark rest := by
  have step : ∀ front : List α,
      (front ++ mark :: rest).foldr (segmentsStep mark) ([], []) =
        ((front.foldr (segmentsStep mark) ([], [])).1,
          (front.foldr (segmentsStep mark) ([], [])).2 ++ segments mark rest) := by
    intro front
    induction front with
    | nil => simp [segmentsStep, segments]
    | cons d front ih =>
      rw [List.cons_append, List.foldr_cons, List.foldr_cons, ih]
      by_cases h : d == mark <;> simp [segmentsStep, h]
  rw [segments, step]
  rfl

theorem segments_eq_singleton {α : Type} [BEq α] {mark : α} {text : List α}
    (unmarked : ∀ c ∈ text, ¬ (c == mark)) : segments mark text = [text] := by
  have step : ∀ text : List α, (∀ c ∈ text, ¬ (c == mark)) →
      text.foldr (segmentsStep mark) ([], []) = (text, []) := by
    intro text
    induction text with
    | nil => intro _; rfl
    | cons d text ih =>
      intro unmarked
      rw [List.foldr_cons, ih fun c member => unmarked c (List.mem_cons_of_mem _ member)]
      simp [segmentsStep, unmarked d (List.mem_cons_self ..)]
  rw [segments, step text unmarked]

end PipelineShell.Text
