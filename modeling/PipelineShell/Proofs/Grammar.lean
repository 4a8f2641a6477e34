/-
# Proofs.Grammar -- the grammar of a line

`Reads` is the grammar, said on characters and without a reader: a line of white space is
empty; the segments of any other line are what its bars cut it into (`Cut`); a line with a
segment of nothing but white space is refused at the first of them (`FirstBare`); and each
segment of any other line spells the stage whose words are its maximal runs of characters
that are not white space (`Spelled`).

`Line.stages` accepts exactly this grammar (`stages_eq_iff_reads`).  Both halves rest on one
fact for each splitter: the segments of a text are its only cut (`cut_iff`), and the words
of a segment are all that it spells (`spelled_iff`).
-/
import PipelineShell.Proofs.Line
import PipelineShell.Proofs.Runs

namespace PipelineShell.Line

set_option autoImplicit false

/-! ## Segments -/

/-- Segments without a mark in them, which make the text when marks stand between them. -/
structure Cut (mark : Char) (text : List Char) (segments : List (List Char)) : Prop where
  nonempty : segments ≠ []
  unmarked : ∀ segment ∈ segments, mark ∉ segment
  joined : [mark].intercalate segments = text

section Segments

variable {mark : Char} {text : List Char}

/-- **A text has one cut.** -/
theorem cut_iff {segments : List (List Char)} :
    Cut mark text segments ↔ segments = Text.segments mark text := by
  constructor
  · intro cut
    rw [Text.segments_eq_splitOn, ← cut.joined,
      List.splitOn_intercalate mark cut.unmarked cut.nonempty]
  · rintro rfl
    refine ⟨?_, fun segment => Text.mark_not_mem_segment, ?_⟩
    · exact Text.segments_eq_splitOn mark text ▸ List.splitOn_ne_nil mark text
    · rw [Text.segments_eq_splitOn, List.intercalate_splitOn]

theorem Cut.unique {one another : List (List Char)} (this : Cut mark text one)
    (that : Cut mark text another) : one = another :=
  (cut_iff.1 this).trans (cut_iff.1 that).symm

end Segments

/-! ## Stages -/

/-- Nothing but white space. -/
def Bare (text : List Char) : Prop := ∀ c ∈ text, Text.isBlank c

/-- The words are the maximal runs of the segment, from left to right. -/
def Spelled (segment : List Char) (words : List String) : Prop :=
  ∃ spans, Text.Runs segment spans ∧
    words = spans.map fun span => String.ofList (Text.part segment span)

theorem spelled_iff {segment : List Char} {words : List String} :
    Spelled segment words ↔ words = (Text.words segment).map String.ofList := by
  obtain ⟨spans, runs, same⟩ := Text.exists_runs segment
  rw [same, List.map_map]
  constructor
  · rintro ⟨others, those, rfl⟩
    rw [those.unique runs]
    rfl
  · rintro rfl
    exact ⟨spans, runs, rfl⟩

theorem flatten_words (text : List Char) :
    (Text.words text).flatten = text.filter (! Text.isBlank ·) := by
  have whole : ∀ text : List Char, (∀ c ∈ text, ¬ Text.isBlank c) →
      (Text.words text).flatten = text ∧ text.filter (! Text.isBlank ·) = text := by
    intro text solid
    refine ⟨?_, List.filter_eq_self.2 fun c member => by simp [solid c member]⟩
    by_cases none_ : text = []
    · exact none_ ▸ rfl
    · rw [Text.words_eq_singleton none_ solid, List.flatten_singleton]
  induction text using Text.splitInduction (Text.isBlank · = true) with
  | solid text solid => rw [(whole text solid).1, (whole text solid).2]
  | split front c rest solid blank ih =>
      rw [Text.words_append_cons_of_isBlank blank, List.flatten_append, ih, (whole front solid).1,
        List.filter_append, (whole front solid).2, List.filter_cons_of_neg (by simp [blank])]

theorem mem_words {text word : List Char} (member : word ∈ Text.words text) :
    word ≠ [] ∧ ∀ c ∈ word, c ∈ text ∧ ¬ Text.isBlank c := by
  refine ⟨?_, fun c inside => ?_⟩
  · obtain ⟨spans, runs, same⟩ := Text.exists_runs text
    obtain ⟨span, listed, rfl⟩ := List.mem_map.1 (same ▸ member)
    have solid := ((runs.listed span).1 listed).prop
    have within := solid.stop_le
    have nonempty := solid.nonempty
    rw [← List.length_pos_iff, Text.part, List.length_drop, List.length_take]
    omega
  · have kept : c ∈ text.filter (! Text.isBlank ·) :=
      flatten_words text ▸ List.mem_flatten.2 ⟨word, member, inside⟩
    simpa using kept

theorem words_eq_nil_iff {text : List Char} : Text.words text = [] ↔ Bare text := by
  constructor
  · intro none_ c member
    have nothing : text.filter (! Text.isBlank ·) = [] := by
      rw [← flatten_words, none_, List.flatten_nil]
    simpa using List.filter_eq_nil_iff.1 nothing c member
  · exact fun bare => words_of_blank (List.all_eq_true.2 bare)

/-- The first segment that is nothing but white space stands at the index. -/
structure FirstBare (segments : List (List Char)) (index : Nat) : Prop where
  bare : ∃ segment, segments[index]? = some segment ∧ Bare segment
  least : ∀ earlier < index, ∀ segment, segments[earlier]? = some segment → ¬ Bare segment

theorem FirstBare.unique {segments : List (List Char)} {index other : Nat}
    (first : FirstBare segments index) (second : FirstBare segments other) : index = other := by
  obtain ⟨one, here, oneBare⟩ := first.bare
  obtain ⟨another, there, anotherBare⟩ := second.bare
  rcases Nat.lt_trichotomy index other with before | same | after
  · exact absurd oneBare (second.least index before one here)
  · exact same
  · exact absurd anotherBare (first.least other after another there)

theorem FirstBare.not_worded {segments : List (List Char)} {index : Nat}
    (first : FirstBare segments index) : ¬ ∀ segment ∈ segments, ¬ Bare segment := by
  intro worded
  obtain ⟨segment, found, bare⟩ := first.bare
  exact worded segment (List.mem_of_getElem? found) bare

theorem FirstBare.cons {segment : List Char} {rest : List (List Char)} {index : Nat}
    (worded : ¬ Bare segment) (first : FirstBare rest index) :
    FirstBare (segment :: rest) (index + 1) := by
  refine ⟨first.bare, fun earlier before other found => ?_⟩
  cases earlier with
  | zero =>
      obtain rfl : segment = other := by simpa using found
      exact worded
  | succ earlier => exact first.least earlier (Nat.lt_of_succ_lt_succ before) other found

/-- Segments are read as the stages that they spell, or refused at the first that is bare. -/
theorem stagesFrom_cases (start : Nat) (segments : List (List Char)) :
    (∃ read, stagesFrom start segments = .ok read ∧ (∀ segment ∈ segments, ¬ Bare segment) ∧
      List.Forall₂ Spelled segments read) ∨
    ∃ index, stagesFrom start segments = .error (.emptyStage (start + index)) ∧
      FirstBare segments index := by
  induction segments generalizing start with
  | nil => exact .inl ⟨[], rfl, fun _ => (nomatch ·), .nil⟩
  | cons segment rest ih =>
      rw [stagesFrom]
      cases here : Text.words segment with
      | nil =>
          refine .inr ⟨0, rfl, ⟨segment, rfl, words_eq_nil_iff.1 here⟩, ?_⟩
          exact fun _ before => absurd before (Nat.not_lt_zero _)
      | cons word words =>
          have worded : ¬ Bare segment := fun bare => by simp [words_eq_nil_iff.2 bare] at here
          rcases ih (start + 1) with ⟨read, same, others, spelled⟩ | ⟨index, same, first⟩
          · refine .inl ⟨(word :: words).map String.ofList :: read, by simp [same],
              List.forall_mem_cons.2 ⟨worded, others⟩, .cons ?_ spelled⟩
            exact spelled_iff.2 (by rw [here])
          · exact .inr ⟨index + 1, by simp [same]; omega, first.cons worded⟩

/-- **The grammar of a line.** -/
inductive Reads (line : List Char) : Except ShellError (List (List String)) → Prop
  | emptyLine (bare : Bare line) : Reads line (.error .emptyLine)
  | emptyStage {segments : List (List Char)} {index : Nat} (inked : ¬ Bare line)
      (cut : Cut bar line segments) (first : FirstBare segments index) :
      Reads line (.error (.emptyStage index))
  | stages {segments : List (List Char)} {read : List (List String)} (inked : ¬ Bare line)
      (cut : Cut bar line segments) (worded : ∀ segment ∈ segments, ¬ Bare segment)
      (spelled : List.Forall₂ Spelled segments read) : Reads line (.ok read)

theorem reads_stages (line : String) : Reads line.toList (stages line) := by
  rw [stages]
  split
  · rename_i blank
    exact .emptyLine (List.all_eq_true.1 blank)
  · rename_i inked
    have solid : ¬ Bare line.toList := fun bare => inked (List.all_eq_true.2 bare)
    rcases stagesFrom_cases 0 (Text.segments bar line.toList) with
      ⟨read, same, worded, spelled⟩ | ⟨index, same, first⟩
    · exact same ▸ .stages solid (cut_iff.2 rfl) worded spelled
    · rw [same, Nat.zero_add]
      exact .emptyStage solid (cut_iff.2 rfl) first

theorem forall₂_spelled_iff {segments : List (List Char)} {read : List (List String)} :
    List.Forall₂ Spelled segments read ↔
      read = segments.map fun segment => (Text.words segment).map String.ofList := by
  constructor
  · intro spelled
    induction spelled with
    | nil => rfl
    | cons here _ ih => rw [spelled_iff.1 here, ih, List.map_cons]
  · rintro rfl
    exact List.forall₂_map_right_iff.2 (List.forall₂_same.2 fun segment _ => spelled_iff.2 rfl)

/-- The grammar gives a line one answer. -/
theorem Reads.unique {line : List Char} {one another : Except ShellError (List (List String))}
    (this : Reads line one) (that : Reads line another) : one = another := by
  cases this with
  | emptyLine bare =>
      cases that with
      | emptyLine => rfl
      | emptyStage inked => exact absurd bare inked
      | stages inked => exact absurd bare inked
  | emptyStage inked cut first =>
      cases that with
      | emptyLine bare => exact absurd bare inked
      | emptyStage _ other second =>
          rw [cut.unique other] at first
          rw [first.unique second]
      | stages _ other worded =>
          rw [cut.unique other] at first
          exact absurd worded first.not_worded
  | stages inked cut worded spelled =>
      cases that with
      | emptyLine bare => exact absurd bare inked
      | emptyStage _ other first =>
          rw [cut.unique other] at worded
          exact absurd worded first.not_worded
      | stages _ other _ others =>
          rw [cut.unique other] at spelled
          rw [forall₂_spelled_iff.1 spelled, forall₂_spelled_iff.1 others]

/-! ## What a line holds -/

/-- What was read of a line is the words of its segments. -/
theorem eq_words_of_stages {line : String} {read : List (List String)}
    (reads : stages line = .ok read) :
    read = (Text.segments bar line.toList).map fun segment =>
      (Text.words segment).map String.ofList := by
  have grammar := reads_stages line
  rw [reads] at grammar
  cases grammar with
  | stages _ cut _ spelled =>
      rw [cut_iff.1 cut] at spelled
      exact forall₂_spelled_iff.1 spelled

theorem word_solid {line : String} {read : List (List String)} (reads : stages line = .ok read)
    {words : List String} (stage : words ∈ read) {word : String} (member : word ∈ words) :
    word ≠ "" ∧ ∀ c ∈ word.toList, ¬ Text.isBlank c ∧ c ≠ bar := by
  rw [eq_words_of_stages reads] at stage
  obtain ⟨segment, cut, rfl⟩ := List.mem_map.1 stage
  obtain ⟨run, found, rfl⟩ := List.mem_map.1 member
  obtain ⟨nonempty, solid⟩ := mem_words found
  refine ⟨fun empty => nonempty (by simpa using empty), fun c inside => ?_⟩
  obtain ⟨within, inked⟩ := solid c (by simpa using inside)
  exact ⟨inked, fun same => Text.mark_not_mem_segment cut (same ▸ within)⟩

/-- The words hold every character of the line but its white space and bars, in order. -/
theorem flatten_read {line : String} {read : List (List String)} (reads : stages line = .ok read) :
    read.flatten.flatMap String.toList =
      line.toList.filter fun c => ! Text.isBlank c && c != bar := by
  have ofWords : ∀ words : List (List Char),
      (words.map String.ofList).flatMap String.toList = words.flatten := by
    intro words
    simp [List.flatMap_def]
  have ofSegments : ∀ segments : List (List Char),
      (segments.map fun segment => (Text.words segment).map String.ofList).flatten.flatMap
        String.toList = segments.flatten.filter (! Text.isBlank ·) := by
    intro segments
    induction segments with
    | nil => rfl
    | cons segment rest ih =>
        rw [List.map_cons, List.flatten_cons, List.flatMap_append, ih, ofWords, flatten_words,
          List.flatten_cons, List.filter_append]
  rw [eq_words_of_stages reads, ofSegments, Text.flatten_segments, List.filter_filter]

/-- **A line is read exactly as its grammar says.**  So a line that is read has one stage
more than bars, no stage without words, and no word that is empty or has white space or a
bar in it; and its words, one after the other, are the line without white space and bars. -/
theorem stages_eq_iff_reads (line : String) :
    (∀ answer, stages line = answer ↔ Reads line.toList answer) ∧
    ∀ read, stages line = .ok read →
      read.length = line.toList.count bar + 1 ∧
      (∀ words ∈ read, words ≠ []) ∧
      (∀ words ∈ read, ∀ word ∈ words,
        word ≠ "" ∧ ∀ c ∈ word.toList, ¬ Text.isBlank c ∧ c ≠ bar) ∧
      read.flatten.flatMap String.toList =
        line.toList.filter fun c => ! Text.isBlank c && c != bar := by
  refine ⟨fun answer => ⟨?_, (reads_stages line).unique⟩, fun read reads => ⟨?_, ?_, ?_, ?_⟩⟩
  · rintro rfl
    exact reads_stages line
  · rw [eq_words_of_stages reads, List.length_map, Text.length_segments]
  · exact stages_worded reads
  · exact fun words stage word member => word_solid reads stage member
  · exact flatten_read reads

-- an ideographic space is white space, so the second of these stages is the first without words
example : stages "a b |\u3000|| c" = .error (.emptyStage 1) := by decide +kernel

end PipelineShell.Line
