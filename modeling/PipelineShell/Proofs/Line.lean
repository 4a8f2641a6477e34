/-
# Proofs.Line -- lines that are put together

Segments without bars in them, with bars between them, make a line of as many stages:
each stage has the words of its segment (`stages_intercalate`).  In whatever way a line came
about, none of its stages is without words (`stages_worded`).
-/
import PipelineShell.Line

namespace PipelineShell.Line

set_option autoImplicit false

/-- The words of a segment. -/
def wordsOf (segment : String) : List String := (Text.words segment.toList).map String.ofList

theorem words_of_blank {text : List Char} (blank : text.all Text.isBlank) : Text.words text = [] := by
  induction text with
  | nil => rfl
  | cons c rest ih =>
      obtain ⟨here, later⟩ : Text.isBlank c = true ∧ rest.all Text.isBlank = true := by
        simpa using blank
      rw [Text.words_cons_of_isBlank here, ih later]

theorem stagesFrom_eq (index : Nat) (segments : List (List Char))
    (worded : ∀ segment ∈ segments, Text.words segment ≠ []) :
    stagesFrom index segments =
      .ok (segments.map fun segment => (Text.words segment).map String.ofList) := by
  induction segments generalizing index with
  | nil => rfl
  | cons segment rest ih =>
      obtain ⟨here, later⟩ := List.forall_mem_cons.1 worded
      rw [stagesFrom]
      cases read : Text.words segment with
      | nil => exact absurd read here
      | cons word words => simp [ih (index + 1) later, read]

/-- A stage has words. -/
theorem stagesFrom_worded {index : Nat} {segments : List (List Char)} {read : List (List String)}
    (reads : stagesFrom index segments = .ok read) : ∀ words ∈ read, words ≠ [] := by
  induction segments generalizing index read with
  | nil =>
      cases reads
      exact fun _ member => nomatch member
  | cons segment rest ih =>
      rw [stagesFrom] at reads
      cases here : Text.words segment with
      | nil => simp [here] at reads
      | cons word words =>
          cases later : stagesFrom (index + 1) rest with
          | error fault => simp [here, later] at reads
          | ok others =>
              simp only [here, later, Except.ok.injEq] at reads
              subst reads
              exact List.forall_mem_cons.2 ⟨List.cons_ne_nil _ _, ih later⟩

theorem stages_worded {line : String} {read : List (List String)} (reads : stages line = .ok read) :
    ∀ words ∈ read, words ≠ [] := by
  rw [stages] at reads
  split at reads
  · cases reads
  · exact stagesFrom_worded reads

/-- A bar stands between the first segment and the others. -/
theorem toList_intercalate (segment next : String) (rest : List String) :
    ("|".intercalate (segment :: next :: rest)).toList =
      segment.toList ++ bar :: ("|".intercalate (next :: rest)).toList := by
  rw [String.intercalate_cons_cons, String.toList_append, String.toList_append, List.append_assoc]
  rfl

theorem segments_intercalate (segments : List String) (nonempty : segments ≠ [])
    (unmarked : ∀ segment ∈ segments, bar ∉ segment.toList) :
    Text.segments bar ("|".intercalate segments).toList = segments.map String.toList := by
  induction segments with
  | nil => exact absurd rfl nonempty
  | cons segment rest ih =>
      obtain ⟨here, later⟩ := List.forall_mem_cons.1 unmarked
      have alone : Text.segments bar segment.toList = [segment.toList] :=
        Text.segments_eq_singleton fun c member same => here (eq_of_beq same ▸ member)
      cases rest with
      | nil => simpa using alone
      | cons next rest =>
          rw [toList_intercalate, Text.segments_append_cons, alone,
            ih (List.cons_ne_nil _ _) later]
          rfl

theorem intercalate_not_blank (segments : List String) (nonempty : segments ≠ [])
    (worded : ∀ segment ∈ segments, wordsOf segment ≠ []) :
    ¬ ("|".intercalate segments).toList.all Text.isBlank := by
  intro blank
  cases segments with
  | nil => exact nonempty rfl
  | cons segment rest =>
      cases rest with
      | nil =>
          rw [String.intercalate_singleton] at blank
          have here := worded segment (List.mem_cons_self ..)
          rw [wordsOf, words_of_blank blank] at here
          exact here rfl
      | cons next rest =>
          rw [toList_intercalate, List.all_append, List.all_cons] at blank
          have solid : Text.isBlank bar = false := by decide
          simp [solid] at blank

/-- **Segments with bars between them are the stages of a line.** -/
theorem stages_intercalate (segments : List String) (nonempty : segments ≠ [])
    (unmarked : ∀ segment ∈ segments, bar ∉ segment.toList)
    (worded : ∀ segment ∈ segments, wordsOf segment ≠ []) :
    stages ("|".intercalate segments) = .ok (segments.map wordsOf) := by
  have split := segments_intercalate segments nonempty unmarked
  have words : ∀ segment ∈ segments.map String.toList, Text.words segment ≠ [] := by
    intro text member
    obtain ⟨segment, inside, rfl⟩ := List.mem_map.1 member
    exact fun none_ => worded segment inside (by rw [wordsOf, none_, List.map_nil])
  rw [stages, if_neg (intercalate_not_blank segments nonempty worded), split,
    stagesFrom_eq 0 _ words, List.map_map]
  rfl

end PipelineShell.Line
