/-
# Proofs.Segments -- a text between its separators

Texts are cut at separators of one kind or another: white space, bars, slashes, colons.
Whatever holds of a text without separators, and of a text as soon as it holds of what
follows its first separator, holds of every text (`splitInduction`).  Where the separator is
a single mark, what stands between the marks are the segments: `segments_unmarked` and
`segments_marked` say what they are in the two cases of that induction (`markInduction`), and
the other statements follow from these two.
-/
import PipelineShell.Text.Blank

namespace PipelineShell.Text

set_option autoImplicit false

variable {α : Type}

/-- **Induction on the separators of a text.** -/
theorem splitInduction (separates : α → Prop) [DecidablePred separates]
    {motive : List α → Prop}
    (solid : ∀ text, (∀ c ∈ text, ¬ separates c) → motive text)
    (split : ∀ front c rest, (∀ d ∈ front, ¬ separates d) → separates c → motive rest →
      motive (front ++ c :: rest)) (text : List α) : motive text := by
  -- `front` is what has been read since the last separator
  have general : ∀ rest front : List α, (∀ d ∈ front, ¬ separates d) → motive (front ++ rest) := by
    intro rest
    induction rest with
    | nil => exact fun front clear => solid _ (by simpa using clear)
    | cons c rest ih =>
        intro front clear
        by_cases here : separates c
        · exact split front c rest clear here (ih [] (by simp))
        · have longer : ∀ d ∈ front ++ [c], ¬ separates d := by
            intro d member
            rcases List.mem_append.1 member with before | last
            · exact clear d before
            · rw [List.mem_singleton.1 last]
              exact here
          simpa using ih (front ++ [c]) longer
  exact general text [] (by simp)

variable {mark : α} {text front rest : List α}

/-- Induction on the marks in a text. -/
theorem markInduction (mark : α) {motive : List α → Prop}
    (unmarked : ∀ text, mark ∉ text → motive text)
    (marked : ∀ front rest, mark ∉ front → motive rest → motive (front ++ mark :: rest))
    (text : List α) : motive text := by
  classical
  induction text using splitInduction (· = mark) with
  | solid text clear => exact unmarked text fun member => clear mark member rfl
  | split front c rest clear here ih =>
      subst here
      exact marked front rest (fun member => clear c member rfl) ih

variable [BEq α] [LawfulBEq α]

theorem segments_unmarked (clear : mark ∉ text) : segments mark text = [text] :=
  segments_eq_singleton fun _ member same => clear (eq_of_beq same ▸ member)

theorem segments_marked (clear : mark ∉ front) :
    segments mark (front ++ mark :: rest) = front :: segments mark rest := by
  rw [segments_append_cons, segments_unmarked clear]
  rfl

theorem segments_eq_splitOn (mark : α) (text : List α) :
    segments mark text = text.splitOn mark := by
  induction text using markInduction mark with
  | unmarked text clear => rw [segments_unmarked clear, List.splitOn_eq_singleton clear]
  | marked front rest clear ih =>
      rw [segments_marked clear, List.splitOn_append_cons_self_of_not_mem clear, ih]

theorem mark_not_mem_segment {segment : List α} (member : segment ∈ segments mark text) :
    mark ∉ segment := by
  induction text using markInduction mark with
  | unmarked text clear =>
      rw [segments_unmarked clear, List.mem_singleton] at member
      exact member ▸ clear
  | marked front rest clear ih =>
      rw [segments_marked clear, List.mem_cons] at member
      rcases member with rfl | later
      · exact clear
      · exact ih later

theorem length_segments (mark : α) (text : List α) :
    (segments mark text).length = text.count mark + 1 := by
  induction text using markInduction mark with
  | unmarked text clear => rw [segments_unmarked clear, List.count_eq_zero.2 clear]; rfl
  | marked front rest clear ih =>
      rw [segments_marked clear, List.length_cons, ih, List.count_append, List.count_cons_self,
        List.count_eq_zero.2 clear, Nat.zero_add]

/-- A segment is no longer than the text. -/
theorem length_segment_le {segment : List α} (member : segment ∈ segments mark text) :
    segment.length ≤ text.length := by
  induction text using markInduction mark with
  | unmarked text clear =>
      rw [segments_unmarked clear, List.mem_singleton] at member
      exact Nat.le_of_eq (congrArg List.length member)
  | marked front rest clear ih =>
      rw [segments_marked clear, List.mem_cons] at member
      rw [List.length_append, List.length_cons]
      rcases member with rfl | later
      · omega
      · have shorter := ih later
        omega

theorem flatten_segments (mark : α) (text : List α) :
    (segments mark text).flatten = text.filter (· != mark) := by
  have whole : ∀ {text : List α}, mark ∉ text → text.filter (· != mark) = text := by
    intro text clear
    refine List.filter_eq_self.2 fun c member => bne_iff_ne.2 ?_
    exact fun same => clear (same ▸ member)
  induction text using markInduction mark with
  | unmarked text clear => rw [segments_unmarked clear, List.flatten_singleton, whole clear]
  | marked front rest clear ih =>
      rw [segments_marked clear, List.flatten_cons, ih, List.filter_append, whole clear,
        List.filter_cons_of_neg (by simp)]

end PipelineShell.Text
