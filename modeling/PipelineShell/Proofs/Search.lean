/-
# Proofs.Search -- the first file that is found

A word without a slash stands for the first file of that name in the directories of the
search list, from left to right (`searchIn_eq_some_iff`); that it may be a dot or two makes no
difference, for these are components as well (`Path.components_of_clear`).  Other words stand
for one path each, if there is a file.  `FirstMatch` says all this of an answer, and that what
is answered is there.

A program that is started is looked for in this way, and in no other: it is reported as not
found exactly if nothing is found for its word (`resolve_first_match`).
-/
import PipelineShell.Proofs.LastStage
import PipelineShell.Proofs.Resolution

namespace PipelineShell

set_option autoImplicit false

open Stateful

open PipelineShell.Path (slash colon IsName)

/-! ## Words without slashes -/

/-- Such a word is one component, and is called as that is. -/
theorem Path.components_of_clear {word : Path} (nonempty : word.bytes ≠ [])
    (clear : slash ∉ word.bytes) : ∃ single, word.components = [single] ∧ single.path = word := by
  by_cases named : IsName word.bytes
  · exact ⟨.normal word.bytes, components_of_isName named clear, rfl⟩
  · -- a dot, or two
    obtain ⟨bytes⟩ := word
    have dots : bytes = [0x2E] ∨ bytes = [0x2E, 0x2E] := by
      by_contra neither
      exact named ⟨nonempty, not_or.1 neither⟩
    rcases dots with rfl | rfl
    · exact ⟨.current, by decide, rfl⟩
    · exact ⟨.parent, by decide, rfl⟩

namespace External

/-! ## Search lists -/

/-- The text lists these directories, with colons between them. -/
structure Lists (search : Bytes) (entries : List Path) : Prop where
  nonempty : entries ≠ []
  clear : ∀ entry ∈ entries, colon ∉ entry.bytes
  joined : [colon].intercalate (entries.map Path.bytes) = search

theorem Lists.searchList_eq {search : Bytes} {entries : List Path}
    (lists : Lists search entries) : Path.searchList search = entries := by
  have clear : ∀ segment ∈ entries.map Path.bytes, colon ∉ segment := by
    intro segment member
    obtain ⟨entry, listed, rfl⟩ := List.mem_map.1 member
    exact lists.clear entry listed
  have nonempty : entries.map Path.bytes ≠ [] := by
    simpa using lists.nonempty
  rw [Path.searchList, Text.segments_eq_splitOn, ← lists.joined,
    List.splitOn_intercalate colon clear nonempty, List.map_map]
  simp [Function.comp_def]

variable {isFile : Path → Bool} {search : Bytes} {entries : List Path}
  {directory name found word : Path}

/-- **What is found is the first match.** -/
theorem searchIn_eq_some_iff :
    searchIn isFile entries name = some found ↔
      ∃ before entry after, entries = before ++ entry :: after ∧
        (∀ earlier ∈ before, isFile (earlier.join name) = false) ∧
        isFile (entry.join name) = true ∧ entry.join name = found := by
  simp only [searchIn, List.findSome?_eq_some_iff, fileAt?_eq_some_iff, fileAt?_eq_none_iff]
  constructor
  · rintro ⟨before, entry, after, split, here, missing⟩
    exact ⟨before, entry, after, split, missing, here⟩
  · rintro ⟨before, entry, after, split, missing, here⟩
    exact ⟨before, entry, after, split, here, missing⟩

/-! ## What a word stands for -/

/-- The answer is the first match for the word. -/
structure FirstMatch (isFile : Path → Bool) (entries : List Path) (directory word : Path)
    (answer : Option Path) : Prop where
  empty : word.bytes = [] → answer = none
  /-- A word without a slash stands for the first file of that name. -/
  searched : word.bytes ≠ [] → slash ∉ word.bytes → ∀ found, answer = some found ↔
    ∃ before entry after, entries = before ++ entry :: after ∧
      (∀ earlier ∈ before, isFile (earlier.join word) = false) ∧
      isFile (entry.join word) = true ∧ entry.join word = found
  /-- And there is an answer if there is any such file. -/
  missing : word.bytes ≠ [] → slash ∉ word.bytes →
    (answer = none ↔ ∀ entry ∈ entries, isFile (entry.join word) = false)
  absolute : word.isAbsolute = true → ∀ found, answer = some found ↔
    isFile word = true ∧ word = found
  relative : word.isAbsolute = false → 2 ≤ word.components.length → ∀ found,
    answer = some found ↔ isFile (directory.join word) = true ∧ directory.join word = found
  /-- Whatever the word, what is answered is there. -/
  file : ∀ found, answer = some found → found.isAbsolute = true ∧ isFile found = true

theorem resolve_of_clear (lists : Lists search entries) (nonempty : word.bytes ≠ [])
    (clear : slash ∉ word.bytes) :
    resolve isFile search directory word = searchIn isFile entries word := by
  obtain ⟨single, alone, same⟩ := Path.components_of_clear nonempty clear
  have relative := Path.isAbsolute_of_clear nonempty clear []
  rw [List.append_nil] at relative
  rw [resolve, alone, relative, lists.searchList_eq]
  simp [same]

theorem resolve_of_isAbsolute (absolute : word.isAbsolute = true) :
    resolve isFile search directory word = fileAt? isFile word := by
  rw [resolve, if_pos absolute]

theorem resolve_of_relative (relative : word.isAbsolute = false)
    (several : 2 ≤ word.components.length) :
    resolve isFile search directory word = fileAt? isFile (directory.join word) := by
  rw [resolve, relative]
  generalize word.components = steps at several ⊢
  rcases steps with _ | ⟨first, _ | ⟨second, rest⟩⟩
  · simp at several
  · simp at several
  · rfl

theorem resolve_isAbsolute (lists : Lists search entries)
    (absolute : ∀ entry ∈ entries, entry.isAbsolute = true)
    (rooted : directory.isAbsolute = true)
    (finds : resolve isFile search directory word = some found) :
    found.isAbsolute = true ∧ isFile found = true := by
  have joined : ∀ {base : Path} (name : Path), base.isAbsolute = true →
      (base.join name).isAbsolute = true := by
    intro base name absolute
    rw [Path.isAbsolute_join, absolute, Bool.true_or]
  rw [resolve] at finds
  split at finds
  · rename_i itself
    obtain ⟨file, rfl⟩ := fileAt?_eq_some_iff.1 finds
    exact ⟨itself, file⟩
  · split at finds
    · cases finds
    · rw [lists.searchList_eq] at finds
      obtain ⟨entry, member, file, rfl⟩ := exists_of_searchIn finds
      exact ⟨joined _ (absolute entry member), file⟩
    · obtain ⟨file, rfl⟩ := fileAt?_eq_some_iff.1 finds
      exact ⟨joined _ rooted, file⟩

theorem resolve_firstMatch (lists : Lists search entries)
    (absolute : ∀ entry ∈ entries, entry.isAbsolute = true)
    (rooted : directory.isAbsolute = true) (isFile : Path → Bool) (word : Path) :
    FirstMatch isFile entries directory word (resolve isFile search directory word) where
  empty nothing := by
    obtain rfl : word = ⟨[]⟩ := congrArg Path.mk nothing
    rfl
  searched nonempty clear found := by
    rw [resolve_of_clear lists nonempty clear, searchIn_eq_some_iff]
  missing nonempty clear := by
    rw [resolve_of_clear lists nonempty clear, searchIn_eq_none_iff]
  absolute itself found := by rw [resolve_of_isAbsolute itself, fileAt?_eq_some_iff]
  relative relative several found := by
    rw [resolve_of_relative relative several, fileAt?_eq_some_iff]
  file found := resolve_isAbsolute lists absolute rooted

/-! ## Programs that are not found -/

variable {W α : Type} [Host W]

/-- A call by which a program was to be started has ended with the report that it was not
found, and the command remembers this. -/
structure Unfound (program : String)
    (called : (Except ShellError α × External) × Context W) : Prop where
  answer : called.1.1 = .error (.notFound program)
  progress : called.1.2.progress = .failed 127
  /-- This is its status from now on. -/
  status : ∀ later : Context W, (called.1.2.wait later).1.1 = .ok 127

/-- The call has ended in some other way. -/
def Found (called : (Except ShellError α × External) × Context W) : Prop :=
  ∀ name, called.1.1 ≠ .error (.notFound name)

variable (external : External) (context : Context W)

/-- A start ends with that report exactly if nothing is found. -/
theorem start_cases (output : LaunchOutput) :
    external.located context.session context.world = none ∧
      (external.start output context).1.1 = .error (.notFound external.program) ∧
      (external.start output context).1.2.progress = .failed 127 ∨
    external.located context.session context.world ≠ none ∧
      Found (external.start output context) := by
  have same : located { external with streams := .standard } context.session context.world =
      external.located context.session context.world := rfl
  simp only [start, bind_apply, Context.ask, Context.look, id, same]
  cases external.located context.session context.world with
  | none => exact .inl ⟨rfl, rfl, rfl⟩
  | some path =>
      refine .inr ⟨Option.some_ne_none path, fun name => ?_⟩
      simp only [bind_apply]
      generalize (Context.act (Host.spawn _) _ : Except IoError Child × Context W) = launched
      obtain ⟨cause | child, left⟩ := launched
      all_goals
        intro failed
        cases failed

/-- So does a call that begins with a start, if it hands such a report on and makes none of
its own. -/
theorem start_bind_cases {output : LaunchOutput}
    {next : Except ShellError Child × External →
      StateM (Context W) (Except ShellError α × External)}
    (hands : ∀ fault after left, next (.error fault, after) left = ((.error fault, after), left))
    (makes : ∀ child after left, Found (next (.ok child, after) left)) :
    external.located context.session context.world = none ∧
      Unfound external.program ((external.start output >>= next) context) ∨
    external.located context.session context.world ≠ none ∧
      Found ((external.start output >>= next) context) := by
  have started := start_cases external context output
  rw [bind_apply]
  generalize external.start output context = called at started ⊢
  obtain ⟨⟨fault | child, after⟩, left⟩ := called
  · simp only [hands]
    rcases started with ⟨nothing, failed, progress⟩ | ⟨something, found⟩
    · obtain rfl := Except.error.inj failed
      exact .inl ⟨nothing, rfl, progress, fun later => wait_past (.inr progress) later⟩
    · exact .inr ⟨something, fun name same => found name (congrArg _ (Except.error.inj same))⟩
  · rcases started with ⟨-, failed, -⟩ | ⟨something, -⟩
    · cases failed
    · exact .inr ⟨something, makes child after left⟩

variable {external context}

theorem run_cases (idle : external.progress = .idle) (worded : external.words ≠ []) :
    external.located context.session context.world = none ∧
      Unfound external.program (external.run context) ∨
    external.located context.session context.world ≠ none ∧ Found (external.run context) := by
  obtain ⟨words, streams, bound, progress⟩ := external
  obtain rfl : progress = .idle := idle
  obtain ⟨word, rest, rfl⟩ := List.exists_cons_of_ne_nil worded
  exact start_bind_cases
    ⟨word :: rest, { streams with output := .standardOutput }, bound, .idle⟩ context
    (fun _ _ _ => rfl) (fun _ _ _ => nofun)

theorem collect_cases :
    external.located context.session context.world = none ∧
      Unfound external.program (external.collect context) ∨
    external.located context.session context.world ≠ none ∧ Found (external.collect context) := by
  refine start_bind_cases external context (fun _ _ _ => rfl) fun child after left name => ?_
  simp only [bind_apply]
  generalize Context.act (Host.capture child) left = collected
  obtain ⟨cause | ⟨bytes, status⟩, ended⟩ := collected
  · exact nofun
  · dsimp only
    split <;> exact nofun

/-- The call has ended with the report that the program was not found, if this is the answer
to the search for it, and in some other way if not. -/
structure Reports (program : String) (answer : Option Path)
    (called : (Except ShellError α × External) × Context W) : Prop where
  unfound : answer = none → Unfound program called
  found : answer ≠ none → Found called

theorem reports_of_cases {called : (Except ShellError α × External) × Context W}
    {program : String} {answer : Option Path}
    (cases_ : answer = none ∧ Unfound program called ∨ answer ≠ none ∧ Found called) :
    Reports program answer called := by
  rcases cases_ with ⟨nothing, unfound⟩ | ⟨something, found⟩
  · exact ⟨fun _ => unfound, fun something => absurd nothing something⟩
  · exact ⟨fun nothing => absurd nothing something, fun _ => found⟩

/-- **The first file that is found.**  What a word stands for is the first match, if all that
is searched is absolute; and a program is reported as not found, whether it is run or its
output is collected, exactly if nothing is found for its word. -/
theorem resolve_first_match (lists : Lists search entries)
    (absolute : ∀ entry ∈ entries, entry.isAbsolute = true)
    (rooted : directory.isAbsolute = true) :
    (∀ isFile word,
      FirstMatch isFile entries directory word (resolve isFile search directory word)) ∧
    ∀ (external : External) (context : Context W),
      external.progress = .idle → external.words ≠ [] →
        let answer := resolve (Host.isFile · context.world)
          (Utf8.encode ((context.session.value? (Host.environment context.world) "PATH").getD ""))
          context.session.directory (.ofString external.program)
        Reports external.program answer (external.run context) ∧
          (external.outputBound = false →
            Reports external.program answer (external.output context)) := by
  refine ⟨resolve_firstMatch lists absolute rooted, fun external context idle worded => ?_⟩
  refine ⟨reports_of_cases (run_cases idle worded), fun unbound => ?_⟩
  rw [external.output_idle context idle worded unbound]
  exact reports_of_cases collect_cases

/-- The second of three directories has the file, and the third has it in vain; and in a world
without files, the program is not found. -/
theorem resolve_first_match_shadowed :
    let search := Utf8.encode "/bin:/usr/bin:/sbin"
    let entries := [Path.ofString "/bin", .ofString "/usr/bin", .ofString "/sbin"]
    let directory := Path.ofString "/home"
    let isFile := fun path : Path =>
      decide (path ∈ [Path.ofString "/usr/bin/tool", .ofString "/sbin/tool"])
    let tool := External.fresh.parseArguments ["tool"]
    let context := CommandLine.start (⟨false⟩ : Unreaping)
    Lists search entries ∧ (∀ entry ∈ entries, entry.isAbsolute = true) ∧
      directory.isAbsolute = true ∧
      FirstMatch isFile entries directory (.ofString "tool")
        (resolve isFile search directory (.ofString "tool")) ∧
      resolve isFile search directory (.ofString "tool") = some (.ofString "/usr/bin/tool") ∧
      tool.progress = .idle ∧ tool.words ≠ [] ∧ tool.outputBound = false ∧
      Unfound "tool" (tool.run context) ∧ Unfound "tool" (tool.output context) := by
  intro search entries directory isFile tool context
  have lists : Lists search entries := ⟨by decide, by decide +kernel, by decide +kernel⟩
  have absolute : ∀ entry ∈ entries, entry.isAbsolute = true := by decide +kernel
  have rooted : directory.isAbsolute = true := by decide +kernel
  obtain ⟨first, reports⟩ := resolve_first_match (W := Unreaping) lists absolute rooted
  have match_ := first isFile (.ofString "tool")
  obtain ⟨ran, collected⟩ := reports tool context rfl (List.cons_ne_nil _ _)
  have nothing : resolve (Host.isFile · context.world)
      (Utf8.encode ((context.session.value? (Host.environment context.world) "PATH").getD ""))
      context.session.directory (.ofString tool.program) = none := by decide +kernel
  refine ⟨lists, absolute, rooted, match_, ?_, rfl, List.cons_ne_nil _ _, rfl,
    ran.unfound nothing, (collected rfl).unfound nothing⟩
  refine (match_.searched (by decide +kernel) (by decide +kernel) _).2
    ⟨[.ofString "/bin"], .ofString "/usr/bin", [.ofString "/sbin"], rfl, ?_⟩
  decide +kernel

end External

end PipelineShell
