/-
# Proofs.Runs -- words as maximal runs

What the words of a text are can be said without reading it from one end to the other: a
span of positions is solid when no position in it is blank, a run is a solid span that no
larger solid span contains (`Run`), and a list of spans is the runs of a text when it holds
them all, from left to right (`Runs`).  A text has one such list (`Runs.unique`), and
`words` cuts the text at exactly these spans (`exists_runs`).

The induction is on the separators of a text (`splitInduction`).  A run lies on one side of
a separator (`run_append_cons`), just as the words on its two sides are read apart, so a
text without separators, where everything is one run, is the only case to look into.
-/
import Mathlib.Data.List.Sort
import Mathlib.Order.Minimal
import PipelineShell.Proofs.Segments

namespace PipelineShell.Text

set_option autoImplicit false

/-! ## Spans -/

/-- The positions from `start` up to `stop`, which is not one of them. -/
structure Span where
  start : Nat
  stop : Nat

/-- One span contains another. -/
instance : LE Span := ⟨fun inner outer => outer.start ≤ inner.start ∧ inner.stop ≤ outer.stop⟩

namespace Span

def shift (span : Span) (distance : Nat) : Span :=
  ⟨distance + span.start, distance + span.stop⟩

/-- One span begins to the left of another. -/
def Before (left right : Span) : Prop := left.start < right.start

instance : Std.Irrefl Before := ⟨fun span => Nat.lt_irrefl span.start⟩

instance : Std.Antisymm Before :=
  ⟨fun _ _ left right => absurd right (Nat.lt_asymm left)⟩

end Span

/-- The characters of a text at the positions of a span. -/
def part (text : List Char) (span : Span) : List Char := (text.take span.stop).drop span.start

/-- A character stands at the position, and it is not blank. -/
def InkAt (text : List Char) (position : Nat) : Prop :=
  ∃ c, text[position]? = some c ∧ ¬ isBlank c

/-- A span with positions, none of them blank or beyond the text. -/
structure Solid (text : List Char) (span : Span) : Prop where
  nonempty : span.start < span.stop
  inked : ∀ position, span.start ≤ position → position < span.stop → InkAt text position

/-- A maximal run of characters that are not blank. -/
def Run (text : List Char) (span : Span) : Prop := Maximal (Solid text) span

/-- The maximal runs of a text, all of them and from left to right. -/
structure Runs (text : List Char) (spans : List Span) : Prop where
  ordered : spans.Pairwise Span.Before
  listed : ∀ span, span ∈ spans ↔ Run text span

theorem Runs.unique {text : List Char} {spans others : List Span} (these : Runs text spans)
    (those : Runs text others) : spans = others :=
  these.ordered.eq_of_mem_iff those.ordered fun span =>
    (these.listed span).trans (those.listed span).symm

/-! ## Runs by their borders -/

theorem InkAt.lt {text : List Char} {position : Nat} (ink : InkAt text position) :
    position < text.length := by
  obtain ⟨c, found, -⟩ := ink
  exact (List.getElem?_eq_some_iff.1 found).1

theorem Solid.stop_le {text : List Char} {span : Span} (solid : Solid text span) :
    span.stop ≤ text.length := by
  have last := (solid.inked (span.stop - 1) (Nat.le_sub_one_of_lt solid.nonempty)
    (Nat.sub_one_lt (Nat.ne_zero_of_lt solid.nonempty))).lt
  omega

/-- A solid span is a run when there is no ink at its two borders. -/
theorem run_iff {text : List Char} {span : Span} :
    Run text span ↔ Solid text span ∧ (∀ before, before + 1 = span.start → ¬ InkAt text before) ∧
      ¬ InkAt text span.stop := by
  constructor
  · intro ⟨solid, largest⟩
    have nonempty := solid.nonempty
    refine ⟨solid, ?_, ?_⟩
    · intro before next ink
      have wider : Solid text ⟨before, span.stop⟩ := by
        refine ⟨by simp only; omega, fun position above below => ?_⟩
        by_cases first : position = before
        · exact first ▸ ink
        · exact solid.inked position (by simp only at above; omega) below
      have back := (largest wider ⟨by simp only; omega, Nat.le_refl _⟩).1
      simp only at back
      omega
    · intro ink
      have wider : Solid text ⟨span.start, span.stop + 1⟩ := by
        refine ⟨by simp only; omega, fun position above below => ?_⟩
        by_cases last : position = span.stop
        · exact last ▸ ink
        · exact solid.inked position above (by simp only at below; omega)
      have back := (largest wider ⟨Nat.le_refl _, by simp only; omega⟩).2
      simp only at back
      omega
  · intro ⟨solid, left, right⟩
    have nonempty := solid.nonempty
    refine ⟨solid, fun outer wide ⟨begins, ends⟩ => ⟨?_, ?_⟩⟩
    · by_contra beyond
      exact left (span.start - 1) (by omega) (wide.inked _ (by omega) (by omega))
    · by_contra beyond
      exact right (wide.inked _ (by omega) (by omega))

/-! ## Runs on the two sides of a separator -/

section Separator

variable {c : Char} {front rest : List Char}

theorem inkAt_append_cons (blank : isBlank c) {position : Nat} :
    InkAt (front ++ c :: rest) position ↔
      InkAt front position ∨ ∃ later, position = front.length + 1 + later ∧ InkAt rest later := by
  rcases Nat.lt_trichotomy position front.length with before | here | after
  · have same : (front ++ c :: rest)[position]? = front[position]? :=
      List.getElem?_append_left before
    constructor
    · intro ink
      rw [InkAt, same] at ink
      exact .inl ink
    · rintro (ink | ⟨later, far, -⟩)
      · rw [InkAt, same]
        exact ink
      · omega
  · subst here
    constructor
    · rintro ⟨d, found, solid⟩
      rw [List.getElem?_append_right (Nat.le_refl _), Nat.sub_self, List.getElem?_cons_zero,
        Option.some.injEq] at found
      exact absurd (found ▸ blank) solid
    · rintro (ink | ⟨later, far, -⟩)
      · exact absurd ink.lt (Nat.lt_irrefl _)
      · omega
  · obtain ⟨later, rfl⟩ := Nat.exists_eq_add_of_lt after
    have same : (front ++ c :: rest)[front.length + later + 1]? = rest[later]? := by
      rw [List.getElem?_append_right (by omega), show front.length + later + 1 - front.length =
        later + 1 by omega, List.getElem?_cons_succ]
    constructor
    · intro ink
      rw [InkAt, same] at ink
      exact .inr ⟨later, by omega, ink⟩
    · rintro (ink | ⟨other, far, ink⟩)
      · exact absurd ink.lt (by omega)
      · obtain rfl : other = later := by omega
        rw [InkAt, same]
        exact ink

theorem inkAt_shift (blank : isBlank c) {position : Nat} :
    InkAt (front ++ c :: rest) (front.length + 1 + position) ↔ InkAt rest position := by
  rw [inkAt_append_cons blank]
  constructor
  · rintro (ink | ⟨later, same, ink⟩)
    · exact absurd ink.lt (by omega)
    · obtain rfl : position = later := by omega
      exact ink
  · exact fun ink => .inr ⟨position, rfl, ink⟩

theorem inkAt_front (blank : isBlank c) {position : Nat} (within : position ≤ front.length) :
    InkAt (front ++ c :: rest) position ↔ InkAt front position := by
  rw [inkAt_append_cons blank]
  constructor
  · rintro (ink | ⟨later, same, -⟩)
    · exact ink
    · omega
  · exact .inl

/-- **A run lies on one side of a separator.** -/
theorem run_append_cons (blank : isBlank c) {span : Span} :
    Run (front ++ c :: rest) span ↔
      Run front span ∨ ∃ later, Run rest later ∧ span = later.shift (front.length + 1) := by
  constructor
  · intro run
    obtain ⟨solid, left, right⟩ := run_iff.1 run
    have nonempty := solid.nonempty
    -- the separator has no ink, so a solid span does not reach across it
    have gap : ¬ InkAt (front ++ c :: rest) front.length := fun ink =>
      absurd ((inkAt_front blank (Nat.le_refl _)).1 ink).lt (Nat.lt_irrefl _)
    have aside : span.stop ≤ front.length ∨ front.length + 1 ≤ span.start := by
      by_contra across
      exact gap (solid.inked _ (by omega) (by omega))
    rcases aside with before | after
    · refine .inl (run_iff.2 ⟨⟨solid.nonempty, fun position above below => ?_⟩, ?_, ?_⟩)
      · exact (inkAt_front blank (by omega)).1 (solid.inked position above below)
      · intro position next ink
        exact left position next ((inkAt_front blank (by omega)).2 ink)
      · exact fun ink => right ((inkAt_front blank before).2 ink)
    · refine .inr ⟨⟨span.start - (front.length + 1), span.stop - (front.length + 1)⟩, ?_, ?_⟩
      · refine run_iff.2 ⟨⟨?_, fun position above below => ?_⟩, ?_, ?_⟩
        · simp only
          omega
        · simp only at above below
          exact (inkAt_shift blank).1 (solid.inked _ (by omega) (by omega))
        · intro position next ink
          simp only at next
          exact left (front.length + 1 + position) (by omega) ((inkAt_shift blank).2 ink)
        · intro ink
          have there : InkAt (front ++ c :: rest) _ := (inkAt_shift blank).2 ink
          simp only at there
          rw [Nat.add_sub_cancel' (by omega)] at there
          exact right there
      · cases span with
        | mk start stop =>
            simp only [Span.shift, Span.mk.injEq] at after nonempty ⊢
            omega
  · rintro (run | ⟨later, run, rfl⟩)
    · obtain ⟨solid, left, right⟩ := run_iff.1 run
      have within := solid.stop_le
      have nonempty := solid.nonempty
      refine run_iff.2 ⟨⟨nonempty, fun position above below => ?_⟩, ?_, ?_⟩
      · exact (inkAt_front blank (by omega)).2 (solid.inked position above below)
      · intro position next ink
        exact left position next ((inkAt_front blank (by omega)).1 ink)
      · exact fun ink => right ((inkAt_front blank within).1 ink)
    · obtain ⟨solid, left, right⟩ := run_iff.1 run
      refine run_iff.2 ⟨⟨Nat.add_lt_add_left solid.nonempty _, fun position above below => ?_⟩,
        ?_, ?_⟩
      · simp only [Span.shift] at above below
        obtain ⟨offset, rfl⟩ := Nat.exists_eq_add_of_le
          (Nat.le_trans (Nat.le_add_right _ _) above)
        exact (inkAt_shift blank).2 (solid.inked offset (by omega) (by omega))
      · intro position next ink
        simp only [Span.shift] at next
        rcases (inkAt_append_cons blank).1 ink with before | ⟨offset, same, after⟩
        · have := before.lt
          omega
        · exact left offset (by omega) after
      · exact fun ink => right ((inkAt_shift blank).1 ink)

theorem part_front {span : Span} (within : span.stop ≤ front.length) :
    part (front ++ c :: rest) span = part front span := by
  rw [part, part, List.take_append_of_le_length within]

theorem part_shift (span : Span) :
    part (front ++ c :: rest) (span.shift (front.length + 1)) = part rest span := by
  have apart : front ++ c :: rest = (front ++ [c]) ++ rest := by simp
  have size : (front ++ [c]).length = front.length + 1 := by simp
  rw [part, part, Span.shift, apart, ← size, List.take_length_add_append,
    List.drop_length_add_append]

end Separator

/-! ## Words -/

theorem runs_nil : Runs [] [] := by
  refine ⟨.nil, fun span => ⟨(nomatch ·), fun run => ?_⟩⟩
  have solid := (run_iff.1 run).1
  exact absurd (solid.inked span.start (Nat.le_refl _) solid.nonempty).lt (Nat.not_lt_zero _)

/-- A text without white space is one run. -/
theorem runs_solid {text : List Char} (ne : text ≠ []) (solid : ∀ c ∈ text, ¬ isBlank c) :
    Runs text [⟨0, text.length⟩] := by
  have inked : ∀ position, position < text.length → InkAt text position := fun position within =>
    ⟨text[position], List.getElem?_eq_getElem within, solid _ (List.getElem_mem within)⟩
  have whole : Run text ⟨0, text.length⟩ := by
    refine run_iff.2 ⟨⟨List.length_pos_of_ne_nil ne, fun position _ below => inked position below⟩,
      fun _ next => absurd next (Nat.succ_ne_zero _), fun ink => absurd ink.lt (Nat.lt_irrefl _)⟩
  refine ⟨List.pairwise_singleton _ _, fun span => List.mem_singleton.trans ⟨fun same => ?_,
    fun run => ?_⟩⟩
  · exact same ▸ whole
  · have within := run.prop.stop_le
    have contains := run.2 whole.prop ⟨Nat.zero_le _, within⟩
    cases span with
    | mk start stop =>
        obtain ⟨begins, ends⟩ := contains
        simp only at begins ends within
        simp only [Span.mk.injEq]
        omega

/-- The runs on the left of a separator, and then those on its right. -/
theorem Runs.append_cons {c : Char} (blank : isBlank c) {front rest : List Char}
    {before after : List Span} (left : Runs front before) (right : Runs rest after) :
    Runs (front ++ c :: rest) (before ++ after.map (·.shift (front.length + 1))) := by
  refine ⟨List.pairwise_append.2 ⟨left.ordered, ?_, ?_⟩, fun span => ?_⟩
  · exact List.pairwise_map.2 (right.ordered.imp fun first => Nat.add_lt_add_left first _)
  · intro first inFront second inRest
    obtain ⟨later, -, rfl⟩ := List.mem_map.1 inRest
    have solid := ((left.listed first).1 inFront).prop
    have within := solid.stop_le
    have some_ := solid.nonempty
    simp only [Span.Before, Span.shift]
    omega
  · rw [List.mem_append, List.mem_map, run_append_cons blank, left.listed]
    simp only [right.listed, eq_comm]

/-- **Words are the maximal runs of characters that are not blank.** -/
theorem exists_runs (text : List Char) :
    ∃ spans, Runs text spans ∧ words text = spans.map (part text) := by
  have solidRuns : ∀ text : List Char, (∀ c ∈ text, ¬ isBlank c) →
      ∃ spans, Runs text spans ∧ words text = spans.map (part text) := by
    intro text solid
    by_cases none_ : text = []
    · exact ⟨[], none_ ▸ runs_nil, none_ ▸ rfl⟩
    · exact ⟨_, runs_solid none_ solid, by simp [words_eq_singleton none_ solid, part]⟩
  induction text using splitInduction (isBlank · = true) with
  | solid text solid => exact solidRuns text solid
  | split front c rest solid blank ih =>
      obtain ⟨before, left, frontWords⟩ := solidRuns front solid
      obtain ⟨after, right, restWords⟩ := ih
      refine ⟨_, left.append_cons blank right, ?_⟩
      have inFront : before.map (part (front ++ c :: rest)) = before.map (part front) :=
        List.map_congr_left fun span member =>
          part_front ((left.listed span).1 member).prop.stop_le
      rw [words_append_cons_of_isBlank blank, frontWords, restWords, List.map_append, inFront,
        List.map_map]
      exact congrArg _ (List.map_congr_left fun span _ => (part_shift span).symm)

end PipelineShell.Text
