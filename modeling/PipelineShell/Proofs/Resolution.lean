/-
# Proofs.Resolution -- which program a word stands for

Only a word whose components are a single name is searched for (`resolve_of_bare`).  Any
other stands for what it says, taken from the session's directory (`resolve_of_not_bare`):
what is looked for under a dot, two dots or nothing can only be a directory.

Two rules that this comes near to, and how far they hold:

* a word with a slash is not searched for.  It is, if all that its slash separates from a
  name are slashes and single dots, and then it stands for what the name stands for
  (`literal_iff`);
* the session's directory decides, not the process's.  It does, unless the word is searched
  for, and then as long as every entry of the search list is absolute (`local_iff`).  Other
  entries are tried from where the process is.  The file that they are told from is as deep
  down as no entry reaches (`remote`).

Poles: `trailing_slash_searched` and `relative_entry_astray`.
-/
import PipelineShell.External.Resolution
import PipelineShell.Proofs.Filesystem

namespace PipelineShell.External

set_option autoImplicit false

open PipelineShell.Path (slash IsName Trails)

variable {isFile isFile' : Path → Bool} {files : Filesystem} {search : Bytes}
  {directories : List Path} {directory process path name found word : Path}

/-! ## Searching -/

theorem fileAt?_eq_some_iff :
    fileAt? isFile path = some found ↔ isFile path = true ∧ path = found := by
  simp [fileAt?]

theorem fileAt?_eq_none_iff : fileAt? isFile path = none ↔ isFile path = false := by
  simp [fileAt?]

theorem exists_of_searchIn (finds : searchIn isFile directories name = some found) :
    ∃ entry ∈ directories, isFile (entry.join name) = true ∧ entry.join name = found := by
  obtain ⟨entry, member, here⟩ := List.exists_of_findSome?_eq_some finds
  exact ⟨entry, member, fileAt?_eq_some_iff.1 here⟩

theorem searchIn_eq_none_iff :
    searchIn isFile directories name = none ↔
      ∀ entry ∈ directories, isFile (entry.join name) = false := by
  simp only [searchIn, List.findSome?_eq_none_iff, fileAt?_eq_none_iff]

theorem searchIn_congr (agree : ∀ entry ∈ directories,
    isFile (entry.join name) = isFile' (entry.join name)) :
    searchIn isFile directories name = searchIn isFile' directories name := by
  induction directories with
  | nil => rfl
  | cons entry later ih =>
      have first := agree entry List.mem_cons_self
      have rest := ih fun other member => agree other (List.mem_cons_of_mem _ member)
      simp only [searchIn, fileAt?, List.findSome?_cons, first] at rest ⊢
      rw [rest]

/-- Neither a dot nor two are found anywhere, and nor is a path that ends in a slash. -/
theorem searchIn_of_not_isName (unnamed : ¬ IsName name.final) :
    searchIn (files.seenFrom process) directories name = none := by
  refine searchIn_eq_none_iff.2 fun entry _ => files.seenFrom_of_not_isName ?_ process
  rwa [Path.final_join]

theorem fileAt?_join_of_not_isName (unnamed : ¬ IsName word.final) :
    fileAt? (files.seenFrom process) (directory.join word) = none := by
  refine fileAt?_eq_none_iff.2 (files.seenFrom_of_not_isName ?_ process)
  rwa [Path.final_join]

/-! ## The two kinds of words -/

/-- A single name is searched for, whatever else the word is written with. -/
theorem resolve_of_bare {name : Bytes} (bare : word.components = [.normal name]) :
    resolve isFile search directory word =
      searchIn isFile (Path.searchList search) ⟨name⟩ := by
  have relative : ¬ word.isAbsolute = true := by
    intro absolute
    rw [Path.components_of_isAbsolute absolute] at bare
    cases bare
  rw [resolve, if_neg relative, bare]
  rfl

/-- Any other word stands for what it says. -/
theorem resolve_of_not_bare (bare : ∀ name, word.components ≠ [.normal name]) :
    resolve (files.seenFrom process) search directory word =
      fileAt? (files.seenFrom process) (directory.join word) := by
  unfold resolve
  split
  · rename_i absolute
    rw [Path.join_of_isAbsolute absolute]
  · split
    · rename_i nothing
      have unnamed : ¬ IsName word.final := fun named =>
        List.not_mem_nil (nothing ▸ Path.final_mem_components named)
      rw [fileAt?_join_of_not_isName unnamed]
    · -- a dot or two: only directories are called that
      rename_i single one
      have unnamed : ¬ IsName word.final := by
        intro named
        have member := Path.final_mem_components named
        rw [one, List.mem_singleton] at member
        exact bare _ (member ▸ one)
      have step : ¬ IsName single.path.final := by
        cases single with
        | normal name => exact absurd one (bare name)
        | root | current | parent => decide
      rw [fileAt?_join_of_not_isName unnamed, searchIn_of_not_isName step]
    · rfl

/-! ## Words with slashes -/

/-- Whatever is searched, the word stands for the path that it says, if that is a file. -/
def Literal (word : Path) : Prop :=
  ∀ (files : Filesystem) (process directory : Path) (search : Bytes),
    resolve (files.seenFrom process) search directory word =
      fileAt? (files.seenFrom process) (directory.join word)

/-- **Words with slashes stand for what they say, unless the slashes only trail a name; then
they stand for what the name does, and what they say is no file.** -/
theorem literal_iff (slashed : slash ∈ word.bytes) :
    (Literal word ↔ ∀ name, ¬ Trails name word) ∧
      ∀ name, Trails name word →
        ∀ (files : Filesystem) (process directory : Path) (search : Bytes),
          resolve (files.seenFrom process) search directory word =
            resolve (files.seenFrom process) search directory ⟨name⟩ ∧
          fileAt? (files.seenFrom process) (directory.join word) = none := by
  have trailing : ∀ name, Trails name word →
      ∀ (files : Filesystem) (process directory : Path) (search : Bytes),
        resolve (files.seenFrom process) search directory word =
          resolve (files.seenFrom process) search directory ⟨name⟩ ∧
        fileAt? (files.seenFrom process) (directory.join word) = none := by
    intro name trails files process directory search
    have alone := Path.components_of_isName trails.1 trails.2.1
    refine ⟨?_, fileAt?_join_of_not_isName trails.not_isName_final⟩
    rw [resolve_of_bare ((Path.components_eq_name_iff slashed).2 trails), resolve_of_bare alone]
  refine ⟨⟨?_, ?_⟩, trailing⟩
  · -- a file of that name in the root, and the root for a search list
    intro literal name trails
    let target := Path.root.join ⟨name⟩
    have absolute : target.isAbsolute = true := Path.isAbsolute_join .root ⟨name⟩
    have file : (Filesystem.only target).seenFrom .root target = true := by
      rw [Filesystem.seenFrom_of_isAbsolute _ absolute]
      exact Filesystem.isFile_only (Path.isName_join trails.1 trails.2.1 .root)
    obtain ⟨same, nothing⟩ := trailing name trails (.only target) .root .root [slash]
    have alone := Path.components_of_isName trails.1 trails.2.1
    rw [literal, nothing, resolve_of_bare alone] at same
    have missing := searchIn_eq_none_iff.1 same.symm .root (by decide)
    rw [file] at missing
    cases missing
  · intro untrailing files process directory search
    refine resolve_of_not_bare fun name bare => untrailing name ?_
    exact (Path.components_eq_name_iff slashed).1 bare

theorem literal_iff_doubledSlash :
    slash ∈ (Path.ofString "./bin//tool").bytes ∧ Literal (Path.ofString "./bin//tool") := by
  have slashed : slash ∈ (Path.ofString "./bin//tool").bytes := by decide +kernel
  have steps : (Path.ofString "./bin//tool").components =
      [.current, .normal (Utf8.encode "bin"), .normal (Utf8.encode "tool")] := by decide +kernel
  refine ⟨slashed, (literal_iff slashed).1.2 fun name trails => ?_⟩
  rw [← Path.components_eq_name_iff slashed, steps] at trails
  cases trails

/-- What a name with a trailing slash says is no file, and the name is searched for. -/
theorem trailing_slash_searched :
    let files := Filesystem.only (.ofString "/bin/tool")
    let word := Path.ofString "tool/"
    slash ∈ word.bytes ∧
      files.isFile ((Path.ofString "/home").join word) = false ∧
      resolve (files.seenFrom .root) (Utf8.encode "/sbin") (.ofString "/home") word = none ∧
      resolve (files.seenFrom .root) (Utf8.encode "/bin") (.ofString "/home") word =
        some (.ofString "/bin/tool") := by
  decide +kernel

/-! ## Words that are searched for -/

/-- Where the process is makes no difference to what the word stands for. -/
def Settled (search : Bytes) (word : Path) : Prop :=
  ∀ (files : Filesystem) (directory process process' : Path), directory.isAbsolute = true →
    process.isAbsolute = true → process'.isAbsolute = true →
      resolve (files.seenFrom process) search directory word =
        resolve (files.seenFrom process') search directory word

/-- What the word stands for is there, as seen from the session's directory. -/
def Present (search : Bytes) (word : Path) : Prop :=
  ∀ (files : Filesystem) (directory process found : Path), directory.isAbsolute = true →
    process.isAbsolute = true →
      resolve (files.seenFrom process) search directory word = some found →
        files.isFile (directory.join found) = true

/-- If the word is searched for, every entry of the search list is absolute. -/
def Anchored (search : Bytes) (word : Path) : Prop :=
  ∀ name, word.components = [.normal name] →
    ∀ entry ∈ Path.searchList search, entry.isAbsolute = true

/-- What stands at an absolute path is seen from everywhere. -/
theorem seenFrom_join (absolute : path.isAbsolute = true) (name process : Path) :
    files.seenFrom process (path.join name) = files.isFile (path.join name) := by
  refine files.seenFrom_of_isAbsolute ?_ process
  rw [Path.isAbsolute_join, absolute, Bool.true_or]

theorem Anchored.settled (anchored : Anchored search word) : Settled search word := by
  intro files directory process process' absolute _ _
  by_cases bare : ∃ name, word.components = [.normal name]
  · obtain ⟨name, bare⟩ := bare
    rw [resolve_of_bare bare, resolve_of_bare bare]
    refine searchIn_congr fun entry member => ?_
    have entries := anchored name bare entry member
    rw [seenFrom_join entries, seenFrom_join entries]
  · have other := not_exists.1 bare
    rw [resolve_of_not_bare other, resolve_of_not_bare other, fileAt?, fileAt?,
      seenFrom_join absolute, seenFrom_join absolute]

theorem Anchored.present (anchored : Anchored search word) : Present search word := by
  intro files directory process found absolute _ finds
  by_cases bare : ∃ name, word.components = [.normal name]
  · obtain ⟨name, bare⟩ := bare
    rw [resolve_of_bare bare] at finds
    obtain ⟨entry, member, here, rfl⟩ := exists_of_searchIn finds
    have entries := anchored name bare entry member
    rw [seenFrom_join entries] at here
    rw [Path.join_of_isAbsolute (by rw [Path.isAbsolute_join, entries, Bool.true_or])]
    exact here
  · rw [resolve_of_not_bare (not_exists.1 bare)] at finds
    obtain ⟨here, rfl⟩ := fileAt?_eq_some_iff.1 finds
    rw [seenFrom_join absolute] at here
    rw [Path.join_of_isAbsolute (by rw [Path.isAbsolute_join, absolute, Bool.true_or])]
    exact here

/-- A directory in the root, of a name longer than this. -/
def remote (length : Nat) : Path := ⟨slash :: List.replicate (length + 1) 0x64⟩

theorem names_remote (length : Nat) :
    (remote length).names = [List.replicate (length + 1) 0x64] := by
  have clear : slash ∉ List.replicate (length + 1) (0x64 : UInt8) := by
    intro member
    have same := List.eq_of_mem_replicate member
    revert same
    decide
  have steps := Path.names_slashed [] (List.replicate (length + 1) 0x64)
  rw [List.nil_append, Path.names_nil, List.nil_append] at steps
  rw [remote, steps, Path.names, Text.segments_unmarked clear]
  rfl

/-- Nothing this short is in that directory. -/
theorem components_join_remote_ne (relative : name.isAbsolute = false) {length : Nat}
    (short : path.bytes.length ≤ length) :
    path.components ≠ ((remote length).join name).components := by
  intro same
  have named : IsName (List.replicate (length + 1) 0x64) := by
    simp [IsName, List.replicate_succ]
  have member : .normal (List.replicate (length + 1) 0x64) ∈
      ((remote length).join name).components := by
    rw [Path.mem_components_iff, Path.names_join relative, names_remote]
    exact ⟨List.mem_cons_self, named⟩
  rw [← same] at member
  have long := Path.length_le_of_mem_components member
  rw [List.length_replicate] at long
  omega

/-- Through an entry that is not absolute, a file is seen from one directory which is not
seen from the root through any entry. -/
theorem exists_astray {name : Bytes} (bare : word.components = [.normal name]) {entry : Path}
    (relative : entry.isAbsolute = false) (search : Bytes) :
    ∃ (files : Filesystem) (process : Path), process.isAbsolute = true ∧
      files.seenFrom process (entry.join ⟨name⟩) = true ∧
      ∀ other ∈ Path.searchList search,
        files.isFile (Path.root.join (other.join ⟨name⟩)) = false := by
  have single : .normal name ∈ word.components := bare ▸ List.mem_singleton_self _
  have clear := Path.clear_of_mem_components single
  have named := (Path.mem_components_iff.1 single).2
  have unrooted : (entry.join ⟨name⟩).isAbsolute = false := by
    have alone := Path.isAbsolute_of_clear named.1 clear []
    rw [List.append_nil] at alone
    rw [Path.isAbsolute_join, relative, alone, Bool.or_false]
  let process := remote (search.length + name.length + 3)
  let target := process.join (entry.join ⟨name⟩)
  refine ⟨.only target, process, rfl, ?_, fun other elsewhere => ?_⟩
  · refine Filesystem.isFile_only ?_
    rw [Path.final_join]
    exact Path.isName_join named clear entry
  · -- the entries are parts of the search list, so no longer than it
    obtain ⟨segment, part, rfl⟩ := List.mem_map.1 elsewhere
    have short : segment.length ≤ search.length := Text.length_segment_le part
    have outer := Path.length_join_le .root (Path.join ⟨segment⟩ ⟨name⟩)
    have inner := Path.length_join_le ⟨segment⟩ ⟨name⟩
    have start : Path.root.bytes.length = 1 := rfl
    refine decide_eq_false fun same => components_join_remote_ne unrooted ?_ same.1
    simp only at inner
    omega

theorem Settled.anchored (settled : Settled search word) : Anchored search word := by
  intro name bare entry member
  cases relative : entry.isAbsolute with
  | true => rfl
  | false =>
      obtain ⟨files, process, absolute, seen, unseen⟩ := exists_astray bare relative search
      have nothing : searchIn (files.seenFrom .root) (Path.searchList search) ⟨name⟩ = none :=
        searchIn_eq_none_iff.2 unseen
      have same := settled files .root process .root rfl absolute rfl
      rw [resolve_of_bare bare, resolve_of_bare bare, nothing] at same
      have missing := searchIn_eq_none_iff.1 same entry member
      rw [seen] at missing
      cases missing

theorem Present.anchored (present : Present search word) : Anchored search word := by
  intro name bare entry member
  cases relative : entry.isAbsolute with
  | true => rfl
  | false =>
      obtain ⟨files, process, absolute, seen, unseen⟩ := exists_astray bare relative search
      cases finds : resolve (files.seenFrom process) search .root word with
      | none =>
          rw [resolve_of_bare bare] at finds
          have missing := searchIn_eq_none_iff.1 finds entry member
          rw [seen] at missing
          cases missing
      | some found =>
          have there := present files .root process found rfl absolute finds
          rw [resolve_of_bare bare] at finds
          obtain ⟨other, elsewhere, -, rfl⟩ := exists_of_searchIn finds
          rw [unseen other elsewhere] at there
          cases there

/-- **What a word stands for is told by the session's directory alone, and is there, exactly
if the word is not searched for or is searched for in absolute directories only.** -/
theorem local_iff :
    (Settled search word ↔ Anchored search word) ∧ (Present search word ↔ Anchored search word) :=
  ⟨⟨Settled.anchored, Anchored.settled⟩, ⟨Present.anchored, Anchored.present⟩⟩

/-- An entry that is not absolute leads to a program that is found from one directory, not
from another, and not in the session's. -/
theorem relative_entry_astray :
    let files := Filesystem.only (.ofString "/process/bin/tool")
    let directory := Path.ofString "/session"
    let word := Path.ofString "tool"
    resolve (files.seenFrom (.ofString "/process")) (Utf8.encode "bin") directory word =
        some (.ofString "bin/tool") ∧
      resolve (files.seenFrom .root) (Utf8.encode "bin") directory word = none ∧
      files.isFile (directory.join (.ofString "bin/tool")) = false := by
  decide +kernel

end PipelineShell.External
