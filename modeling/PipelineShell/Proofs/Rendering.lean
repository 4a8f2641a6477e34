/-
# Proofs.Rendering -- to read a line is to undo its writing

`Laid` says how stages are written down: words with some white space between them, bars
between stages, and any white space around either (`Spaced`, `Padded`).  The reader takes
every such line back to its stages, and it takes no other line at all (`stages_eq_ok_iff`).

So each of the many ways to write stages down may stand for all of them.  `render` is one of
them (`laid_render`), and a line that is read has a canonical form, which is read as the line
was (`stages_iff_laid`).
-/
import PipelineShell.Proofs.Grammar

namespace PipelineShell.Line

set_option autoImplicit false

/-! ## Words and white space -/

/-- A word that can stand on a line. -/
def IsWord (word : String) : Prop := word ≠ "" ∧ ∀ c ∈ word.toList, ¬ Text.isBlank c ∧ c ≠ bar

theorem isWord_iff {word : String} :
    IsWord word ↔ word ≠ "" ∧ (word.toList.all fun c => !Text.isBlank c && c != bar) = true := by
  simp [IsWord]

instance (word : String) : Decidable (IsWord word) :=
  decidable_of_decidable_of_iff isWord_iff.symm

/-- Words with white space between them. -/
inductive Spaced : List String → List Char → Prop
  | word (word : String) : Spaced [word] word.toList
  | cons (word : String) {gap text : List Char} {rest : List String} (blank : Bare gap)
      (apart : gap ≠ []) (later : Spaced rest text) :
      Spaced (word :: rest) (word.toList ++ gap ++ text)

/-- Words with white space between them, and any white space around them. -/
inductive Padded (words : List String) : List Char → Prop
  | around {front inner back : List Char} (before : Bare front) (spaced : Spaced words inner)
      (behind : Bare back) : Padded words (front ++ inner ++ back)

/-- Stages with bars between them. -/
inductive Laid : List (List String) → List Char → Prop
  | stage {words : List String} {text : List Char} (padded : Padded words text) : Laid [words] text
  | cons {words : List String} {text more : List Char} {rest : List (List String)}
      (padded : Padded words text) (later : Laid rest more) :
      Laid (words :: rest) (text ++ bar :: more)

section Blanks

variable {front back text : List Char}

theorem bare_nil : Bare [] := fun _ member => absurd member List.not_mem_nil

theorem bare_append : Bare (front ++ back) ↔ Bare front ∧ Bare back := by
  simp only [Bare, List.mem_append, or_imp, forall_and]

theorem words_bare_append (bare : Bare front) (text : List Char) :
    Text.words (front ++ text) = Text.words text := by
  induction front with
  | nil => rfl
  | cons c front ih =>
      obtain ⟨here, later⟩ := List.forall_mem_cons.1 bare
      rw [List.cons_append, Text.words_cons_of_isBlank here, ih later]

theorem words_append_bare (text : List Char) (bare : Bare back) :
    Text.words (text ++ back) = Text.words text := by
  cases back with
  | nil => rw [List.append_nil]
  | cons c back =>
      obtain ⟨here, later⟩ := List.forall_mem_cons.1 bare
      rw [Text.words_append_cons_of_isBlank here, words_eq_nil_iff.2 later, List.append_nil]

end Blanks

/-! ## From writing to reading -/

section Reading

variable {words : List String} {text : List Char} {read : List (List String)}

theorem IsWord.words_toList {word : String} (isWord : IsWord word) :
    Text.words word.toList = [word.toList] := by
  apply Text.words_eq_singleton
  · simpa using isWord.1
  · intro c member
    exact (isWord.2 c member).1

theorem Spaced.words_eq (spaced : Spaced words text) (solid : ∀ word ∈ words, IsWord word) :
    Text.words text = words.map String.toList := by
  induction spaced with
  | word word => exact (solid word (List.mem_singleton_self _)).words_toList
  | cons word blank apart later ih =>
      obtain ⟨here, others⟩ := List.forall_mem_cons.1 solid
      -- the first blank ends the word, and the others belong to none
      obtain ⟨c, gap, rfl⟩ := List.exists_cons_of_ne_nil apart
      obtain ⟨first, remaining⟩ := List.forall_mem_cons.1 blank
      rw [List.append_assoc, List.cons_append, Text.words_append_cons_of_isBlank first,
        here.words_toList, words_bare_append remaining, ih others]
      rfl

theorem Padded.words_eq (padded : Padded words text) (solid : ∀ word ∈ words, IsWord word) :
    Text.words text = words.map String.toList := by
  cases padded with
  | around before spaced behind =>
      rw [words_append_bare _ behind, words_bare_append before, spaced.words_eq solid]

theorem Spaced.ne_nil (spaced : Spaced words text) : words ≠ [] := by
  cases spaced <;> exact List.cons_ne_nil _ _

theorem Padded.ne_nil (padded : Padded words text) : words ≠ [] := by
  cases padded with
  | around _ spaced _ => exact spaced.ne_nil

theorem Bare.unmarked (bare : Bare text) : bar ∉ text := by
  intro member
  have blank := bare bar member
  revert blank
  decide

theorem Spaced.unmarked (spaced : Spaced words text) (solid : ∀ word ∈ words, IsWord word) :
    bar ∉ text := by
  induction spaced with
  | word word =>
      intro member
      exact ((solid word (List.mem_singleton_self _)).2 bar member).2 rfl
  | cons word blank apart later ih =>
      obtain ⟨here, others⟩ := List.forall_mem_cons.1 solid
      intro member
      rcases List.mem_append.1 member with first | rest
      · rcases List.mem_append.1 first with inside | between
        · exact (here.2 bar inside).2 rfl
        · exact blank.unmarked between
      · exact ih others rest

theorem Padded.unmarked (padded : Padded words text) (solid : ∀ word ∈ words, IsWord word) :
    bar ∉ text := by
  cases padded with
  | around before spaced behind =>
      simp only [List.mem_append, not_or]
      exact ⟨⟨before.unmarked, spaced.unmarked solid⟩, behind.unmarked⟩

/-- The segments of a line that was laid out are what its stages were written as. -/
theorem Laid.segments (laid : Laid read text)
    (solid : ∀ words ∈ read, ∀ word ∈ words, IsWord word) :
    List.Forall₂ Padded read (Text.segments bar text) := by
  induction laid with
  | stage padded =>
      rw [Text.segments_unmarked (padded.unmarked (solid _ (List.mem_singleton_self _)))]
      exact .cons padded .nil
  | cons padded later ih =>
      obtain ⟨here, others⟩ := List.forall_mem_cons.1 solid
      rw [Text.segments_marked (padded.unmarked here)]
      exact .cons padded (ih others)

theorem Laid.inked (laid : Laid read text) (solid : ∀ words ∈ read, ∀ word ∈ words, IsWord word) :
    ¬ Bare text := by
  cases laid with
  | stage padded =>
      intro bare
      have none_ := words_eq_nil_iff.2 bare
      rw [padded.words_eq (solid _ (List.mem_singleton_self _)), List.map_eq_nil_iff] at none_
      exact padded.ne_nil none_
  | cons padded later =>
      intro bare
      exact bare.unmarked (List.mem_append_right _ List.mem_cons_self)

/-- **A line that was laid out is read as the stages that it was laid out from.** -/
theorem Laid.stages_eq {line : String} (laid : Laid read line.toList)
    (solid : ∀ words ∈ read, ∀ word ∈ words, IsWord word) : stages line = .ok read := by
  have padded := laid.segments solid
  -- each segment has the words of its stage
  have spelled : ∀ segments : List (List Char), List.Forall₂ Padded read segments →
      (∀ segment ∈ segments, Text.words segment ≠ []) ∧
        segments.map (fun segment => (Text.words segment).map String.ofList) = read := by
    intro segments each
    clear padded laid
    induction each with
    | nil => simp
    | cons here _ ih =>
        obtain ⟨first, others⟩ := List.forall_mem_cons.1 solid
        obtain ⟨worded, same⟩ := ih others
        have words := here.words_eq first
        refine ⟨List.forall_mem_cons.2 ⟨?_, worded⟩, ?_⟩
        · rw [words]
          simpa using here.ne_nil
        · rw [List.map_cons, same, words, List.map_map]
          simp [Function.comp_def]
  obtain ⟨worded, same⟩ := spelled _ padded
  have inked : ¬ line.toList.all Text.isBlank = true := fun blank =>
    laid.inked solid (List.all_eq_true.1 blank)
  rw [stages, if_neg inked, stagesFrom_eq 0 _ worded, same]

end Reading

/-! ## From reading to writing -/

section Writing

variable {words : List String} {text more front back : List Char} {read : List (List String)}

theorem Padded.bare_append (bare : Bare front) (padded : Padded words text) :
    Padded words (front ++ text) := by
  cases padded with
  | around before spaced behind =>
      rw [← List.append_assoc, ← List.append_assoc]
      exact .around (Line.bare_append.2 ⟨bare, before⟩) spaced behind

theorem Padded.append_bare (padded : Padded words text) (bare : Bare back) :
    Padded words (text ++ back) := by
  cases padded with
  | around before spaced behind =>
      rw [List.append_assoc]
      exact .around before spaced (Line.bare_append.2 ⟨behind, bare⟩)

theorem Laid.bare_append (bare : Bare front) (laid : Laid read text) :
    Laid read (front ++ text) := by
  cases laid with
  | stage padded => exact .stage (padded.bare_append bare)
  | cons padded later =>
      rw [← List.append_assoc]
      exact .cons (padded.bare_append bare) later

theorem Spaced.padded (spaced : Spaced words text) : Padded words text := by
  have around := Padded.around bare_nil spaced bare_nil
  rwa [List.nil_append, List.append_nil] at around

/-- A word, some white space, and more words. -/
theorem Padded.cons {word : String} {gap : List Char} (blank : Bare gap) (apart : gap ≠ [])
    (padded : Padded words text) : Padded (word :: words) (word.toList ++ gap ++ text) := by
  cases padded with
  | @around front inner back before spaced behind =>
      have wider : Spaced (word :: words) (word.toList ++ (gap ++ front) ++ inner) :=
        .cons word (Line.bare_append.2 ⟨blank, before⟩) (by simp [apart]) spaced
      have padded := wider.padded.append_bare behind
      simpa only [List.append_assoc] using padded

/-- **Any text with words in it is these words, with white space between and around them.** -/
theorem padded_words (worded : Text.words text ≠ []) :
    Padded ((Text.words text).map String.ofList) text := by
  induction text using Text.splitInduction (Text.isBlank · = true) with
  | solid text solid =>
      have nonempty : text ≠ [] := fun none_ => worded (by rw [none_, Text.words_nil])
      rw [Text.words_eq_singleton nonempty solid, List.map_singleton]
      simpa using (Spaced.word (String.ofList text)).padded
  | split front c rest solid blank ih =>
      have separates : Bare [c] := by simpa [Bare] using blank
      rw [Text.words_append_cons_of_isBlank blank] at worded ⊢
      by_cases leading : front = []
      · -- white space in front
        subst leading
        rw [Text.words_nil, List.nil_append] at worded ⊢
        have padded := (ih worded).bare_append separates
        exact padded
      · rw [Text.words_eq_singleton leading solid, List.singleton_append, List.map_cons]
        by_cases last : Text.words rest = []
        · -- nothing but white space after the word
          have behind : Bare (c :: rest) :=
            Line.bare_append.2 ⟨separates, words_eq_nil_iff.1 last⟩
          rw [last, List.map_nil]
          simpa using (Spaced.word (String.ofList front)).padded.append_bare behind
        · have padded : Padded (String.ofList front :: (Text.words rest).map String.ofList)
              ((String.ofList front).toList ++ [c] ++ rest) :=
            (ih last).cons separates (List.cons_ne_nil _ _)
          simpa using padded

/-- A line is laid out from the words of its segments, if each has some. -/
theorem laid_segments (worded : ∀ segment ∈ Text.segments bar text, Text.words segment ≠ []) :
    Laid ((Text.segments bar text).map fun segment => (Text.words segment).map String.ofList)
      text := by
  induction text using Text.markInduction bar with
  | unmarked text clear =>
      rw [Text.segments_unmarked clear] at worded ⊢
      exact .stage (padded_words (worded text (List.mem_singleton_self _)))
  | marked front rest clear ih =>
      rw [Text.segments_marked clear] at worded ⊢
      obtain ⟨here, later⟩ := List.forall_mem_cons.1 worded
      exact .cons (padded_words here) (ih later)

/-- **The reader undoes the writing, and takes nothing else.** -/
theorem stages_eq_ok_iff {line : String} :
    stages line = .ok read ↔
      Laid read line.toList ∧ ∀ words ∈ read, ∀ word ∈ words, IsWord word := by
  constructor
  · intro reads
    refine ⟨?_, fun words stage word member => word_solid reads stage member⟩
    have worded := stages_worded reads
    rw [eq_words_of_stages reads] at worded ⊢
    apply laid_segments
    intro segment member none_
    exact worded _ (List.mem_map_of_mem member) (by rw [none_, List.map_nil])
  · rintro ⟨laid, solid⟩
    exact laid.stages_eq solid

end Writing

/-! ## Single spaces -/

theorem bare_space : Bare [' '] := by
  simp only [Bare, List.mem_singleton, forall_eq]
  decide

theorem spaced_intercalate {words : List String} (worded : words ≠ []) :
    Spaced words (" ".intercalate words).toList := by
  induction words with
  | nil => exact absurd rfl worded
  | cons word rest ih =>
      cases rest with
      | nil =>
          rw [String.intercalate_singleton]
          exact .word word
      | cons next rest =>
          rw [String.intercalate_cons_cons, String.toList_append, String.toList_append]
          exact .cons word bare_space (List.cons_ne_nil _ _) (ih (List.cons_ne_nil _ _))

/-- Among the ways to write stages down is the one with single spaces. -/
theorem laid_render {read : List (List String)} (nonempty : read ≠ [])
    (worded : ∀ words ∈ read, words ≠ []) : Laid read (render read).toList := by
  rw [render]
  induction read with
  | nil => exact absurd rfl nonempty
  | cons words rest ih =>
      obtain ⟨here, later⟩ := List.forall_mem_cons.1 worded
      have padded := (spaced_intercalate here).padded
      cases rest with
      | nil =>
          rw [List.map_singleton, String.intercalate_singleton]
          exact .stage padded
      | cons next rest =>
          have laid : Laid (words :: next :: rest)
              ((" ".intercalate words).toList ++ [' '] ++ bar ::
                ([' '] ++ (" | ".intercalate ((next :: rest).map (" ".intercalate ·))).toList)) :=
            .cons (padded.append_bare bare_space)
              ((ih (List.cons_ne_nil _ _) later).bare_append bare_space)
          have same : (" | ".intercalate ((words :: next :: rest).map (" ".intercalate ·))).toList =
              (" ".intercalate words).toList ++ [' '] ++ bar ::
                ([' '] ++ (" | ".intercalate ((next :: rest).map (" ".intercalate ·))).toList) := by
            rw [List.map_cons, List.map_cons, String.intercalate_cons_cons, String.toList_append,
              String.toList_append, List.append_assoc, List.append_assoc]
            rfl
          rw [same]
          exact laid

/-- The line with single spaces that has the same stages. -/
def canonical (line : String) : Except ShellError String := (stages line).map render

theorem stages_render {line : String} {read : List (List String)} (reads : stages line = .ok read) :
    stages (render read) = .ok read := by
  obtain ⟨laid, solid⟩ := stages_eq_ok_iff.1 reads
  have nonempty : read ≠ [] := by
    rintro rfl
    cases laid
  exact (laid_render nonempty (stages_worded reads)).stages_eq solid

/-- What is read of a line is read of its canonical form. -/
theorem canonical_bind_stages (line : String) : (canonical line).bind stages = stages line := by
  rw [canonical]
  cases reads : stages line with
  | error fault => rfl
  | ok read => exact stages_render reads

/-- Lines of one canonical form have the same stages, or fail alike. -/
theorem canonical_eq_iff {line other : String} :
    canonical line = canonical other ↔ stages line = stages other := by
  constructor
  · intro same
    rw [← canonical_bind_stages line, same, canonical_bind_stages]
  · intro same
    rw [canonical, canonical, same]

/-- **To read a line is to undo its writing.**  A line is read as some stages exactly if it
is these stages, written down with any white space that sets words apart; with single spaces,
any stages can be written down.  So what is read of a line is read of its canonical form, which
two lines share exactly if they have the same stages, and which is its own. -/
theorem stages_iff_laid :
    (∀ line read, stages line = .ok read ↔
      Laid read line.toList ∧ ∀ words ∈ read, ∀ word ∈ words, IsWord word) ∧
    (∀ read : List (List String), read ≠ [] → (∀ words ∈ read, words ≠ []) →
      Laid read (render read).toList) ∧
    (∀ line read, stages line = .ok read → stages (render read) = .ok read) ∧
    (∀ line other, canonical line = canonical other ↔ stages line = stages other) ∧
    (∀ line form, canonical line = .ok form → canonical form = .ok form) := by
  refine ⟨fun line read => stages_eq_ok_iff, fun read => laid_render,
    fun line read => stages_render, fun line other => canonical_eq_iff, ?_⟩
  intro line form canon
  have again := canonical_bind_stages line
  rw [canon] at again
  have same : stages form = stages line := again
  rw [← canon, canonical_eq_iff, same]

/-- Two stages, set apart by tabs, wide spaces and line ends. -/
theorem stages_iff_laid_wide :
    let line := "\u3000echo\u00A0\t-n|wc \u2028-l\r\n"
    let read := [["echo", "-n"], ["wc", "-l"]]
    (Laid read line.toList ∧ ∀ words ∈ read, ∀ word ∈ words, IsWord word) ∧
      stages line = .ok read ∧
      (read ≠ [] ∧ ∀ words ∈ read, words ≠ []) ∧
      Laid read "echo -n | wc -l".toList ∧
      stages "echo -n | wc -l" = .ok read ∧
      canonical line = .ok "echo -n | wc -l" ∧
      canonical line = canonical "echo -n | wc -l" ∧
      canonical "echo -n | wc -l" = .ok "echo -n | wc -l" := by
  intro line read
  obtain ⟨reads, lays, again, alike, own⟩ := stages_iff_laid
  have blank : ∀ {text : String}, (text.toList.all Text.isBlank) = true → Bare text.toList :=
    fun all => List.all_eq_true.1 all
  have first : Padded ["echo", "-n"]
      ("\u3000".toList ++ ("echo".toList ++ "\u00A0\t".toList ++ "-n".toList) ++ "".toList) :=
    .around (blank (by decide)) (.cons _ (blank (by decide)) (by decide) (.word _))
      (blank (by decide))
  have second : Padded ["wc", "-l"]
      ("".toList ++ ("wc".toList ++ " \u2028".toList ++ "-l".toList) ++ "\r\n".toList) :=
    .around (blank (by decide)) (.cons _ (blank (by decide)) (by decide) (.word _))
      (blank (by decide))
  have laid : Laid read line.toList := by
    have written := Laid.cons first (.stage second)
    have same : line.toList = "\u3000".toList ++ ("echo".toList ++ "\u00A0\t".toList ++
        "-n".toList) ++ "".toList ++ bar :: ("".toList ++ ("wc".toList ++ " \u2028".toList ++
        "-l".toList) ++ "\r\n".toList) := by decide
    rw [same]
    exact written
  have solid : ∀ words ∈ read, ∀ word ∈ words, IsWord word := by decide
  have worded : read ≠ [] ∧ ∀ words ∈ read, words ≠ [] := by decide
  have rendered : render read = "echo -n | wc -l" := by decide
  have readLine : stages line = .ok read := (reads line read).2 ⟨laid, solid⟩
  have readForm := again line read readLine
  have canon : canonical line = .ok "echo -n | wc -l" := by
    rw [canonical, readLine, ← rendered]
    rfl
  have form := lays read worded.1 worded.2
  rw [rendered] at readForm form
  exact ⟨⟨laid, solid⟩, readLine, worded, form, readForm, canon,
    (alike line _).2 (readLine.trans readForm.symm), own line _ canon⟩

end PipelineShell.Line
