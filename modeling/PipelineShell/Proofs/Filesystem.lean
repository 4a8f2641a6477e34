/-
# Proofs.Filesystem -- where paths lead

A `Filesystem` says which absolute paths lead to regular files.  What is assumed of it is
that a path which ends in a slash, or in a dot or two, leads to a directory if it leads
anywhere, and that more slashes and dots between the steps lead nowhere else.  A process
takes a relative path from its own working directory (`Filesystem.seenFrom`), so what it
sees of an absolute path does not depend on where it is.

To join paths is to write one after the other: the steps are those of both
(`Path.names_join`), the last one is that of the second (`Path.final_join`), and the whole
is absolute if one of them is (`Path.isAbsolute_join`).  A last step that is a name is one
of the components (`Path.final_mem_components`).  With a slash in it, a path has a name for
its only component exactly if that name is followed by slashes and dots alone
(`Path.components_eq_name_iff`).
-/
import PipelineShell.Path
import PipelineShell.Proofs.Segments

namespace PipelineShell

set_option autoImplicit false

namespace Path

variable {base name path word : Path} {front rest : Bytes}

/-! ## Joining -/

theorem join_of_isAbsolute (absolute : name.isAbsolute = true) (base : Path) :
    base.join name = name := by
  rw [join, if_pos absolute]

/-- What is joined is one path and then the other, with a slash between them if there is
none. -/
theorem join_cases (relative : name.isAbsolute = false) (base : Path) :
    base.bytes = [] ∧ base.join name = name ∨
      (∃ front, base.bytes = front ++ [slash]) ∧ base.join name = ⟨base.bytes ++ name.bytes⟩ ∨
      base.bytes ≠ [] ∧ base.join name = ⟨base.bytes ++ slash :: name.bytes⟩ := by
  have join : base.join name =
      if base.isEmpty || base.bytes.getLast? == some slash then ⟨base.bytes ++ name.bytes⟩
      else ⟨base.bytes ++ slash :: name.bytes⟩ := by
    simp only [Path.join, relative, Bool.false_eq_true, if_false]
  by_cases empty : base.bytes = []
  · refine .inl ⟨empty, ?_⟩
    rw [join, if_pos (by simp [isEmpty, empty]), empty]
    rfl
  · by_cases ends : base.bytes.getLast? = some slash
    · obtain ⟨front, same⟩ := List.getLast?_eq_some_iff.1 ends
      exact .inr (.inl ⟨⟨front, same⟩, by rw [join, if_pos (by simp [ends])]⟩)
    · exact .inr (.inr ⟨empty, by rw [join, if_neg (by simp [isEmpty, empty, ends])]⟩)

theorem isAbsolute_join (base name : Path) :
    (base.join name).isAbsolute = (base.isAbsolute || name.isAbsolute) := by
  cases absolute : name.isAbsolute with
  | true => rw [join_of_isAbsolute absolute, absolute, Bool.or_true]
  | false =>
      rw [Bool.or_false]
      rcases join_cases absolute base with ⟨empty, same⟩ | ⟨⟨front, ends⟩, same⟩ | ⟨some, same⟩
      · rw [same, absolute, isAbsolute, empty]
        rfl
      · rw [same, isAbsolute, isAbsolute, ends]
        cases front <;> rfl
      · obtain ⟨b, front, begins⟩ := List.exists_cons_of_ne_nil some
        rw [same, isAbsolute, isAbsolute, begins]
        rfl

theorem length_join_le (base name : Path) :
    (base.join name).bytes.length ≤ base.bytes.length + 1 + name.bytes.length := by
  cases absolute : name.isAbsolute with
  | true =>
      rw [join_of_isAbsolute absolute]
      omega
  | false =>
      rcases join_cases absolute base with ⟨-, same⟩ | ⟨-, same⟩ | ⟨-, same⟩ <;> rw [same]
      · omega
      · simp only [List.length_append]
        omega
      · simp only [List.length_append, List.length_cons]
        omega

/-! ## Steps -/

@[simp] theorem names_nil : names ⟨[]⟩ = [] := rfl

theorem names_slashed (front rest : Bytes) :
    names ⟨front ++ slash :: rest⟩ = names ⟨front⟩ ++ names ⟨rest⟩ := by
  rw [names, Text.segments_append_cons, List.filter_append]
  rfl

/-- The steps are those of both paths. -/
theorem names_join (relative : name.isAbsolute = false) (base : Path) :
    (base.join name).names = base.names ++ name.names := by
  rcases join_cases relative base with ⟨empty, same⟩ | ⟨⟨front, ends⟩, same⟩ | ⟨-, same⟩
  · obtain rfl : base = ⟨[]⟩ := congrArg Path.mk empty
    rw [same, names_nil, List.nil_append]
  · obtain rfl : base = ⟨front ++ [slash]⟩ := congrArg Path.mk ends
    rw [same, List.append_assoc, List.singleton_append, names_slashed, names_slashed, names_nil,
      List.append_nil]
  · rw [same, names_slashed]

/-! ## Last steps -/

/-- What stands after the last slash. -/
def final (path : Path) : Bytes := (Text.segments slash path.bytes).getLast?.getD []

/-- Something in a directory can be called that. -/
def IsName (name : Bytes) : Prop := name ≠ [] ∧ name ≠ [0x2E] ∧ name ≠ [0x2E, 0x2E]

instance (name : Bytes) : Decidable (IsName name) := inferInstanceAs (Decidable (_ ∧ _ ∧ _))

theorem final_slashed (front rest : Bytes) :
    final ⟨front ++ slash :: rest⟩ = final ⟨rest⟩ := by
  have nonempty : Text.segments slash rest ≠ [] := List.cons_ne_nil _ _
  rw [final, final, Text.segments_append_cons, List.getLast?_append,
    List.getLast?_eq_some_getLast nonempty, Option.some_or]

theorem final_of_clear (clear : slash ∉ rest) : final ⟨rest⟩ = rest := by
  rw [final, Text.segments_unmarked clear]
  rfl

theorem final_mem_segments (path : Path) : path.final ∈ Text.segments slash path.bytes := by
  obtain ⟨last, ends⟩ : ∃ last, (Text.segments slash path.bytes).getLast? = some last :=
    ⟨_, List.getLast?_eq_some_getLast (List.cons_ne_nil _ _)⟩
  rw [final, ends]
  exact List.mem_of_getLast? ends

/-- The last step is that of the second path. -/
theorem final_join (base name : Path) : (base.join name).final = name.final := by
  cases absolute : name.isAbsolute with
  | true => rw [join_of_isAbsolute absolute]
  | false =>
      rcases join_cases absolute base with ⟨-, same⟩ | ⟨⟨front, ends⟩, same⟩ | ⟨-, same⟩
      · rw [same]
      · rw [same, ends, List.append_assoc]
        exact final_slashed front name.bytes
      · rw [same]
        exact final_slashed base.bytes name.bytes

theorem isName_join {name : Bytes} (named : IsName name) (clear : slash ∉ name) (base : Path) :
    IsName (base.join ⟨name⟩).final := by
  rw [final_join, final_of_clear clear]
  exact named

/-! ## Components -/

theorem componentOf_of_isName {name : Bytes} (named : IsName name) :
    componentOf name = some (.normal name) := by
  obtain ⟨-, notCurrent, notParent⟩ := named
  simp [componentOf, notCurrent, notParent]

theorem componentOf_eq_normal {step name : Bytes}
    (normal : componentOf step = some (.normal name)) :
    step = name ∧ name ≠ [0x2E] ∧ name ≠ [0x2E, 0x2E] := by
  unfold componentOf at normal
  split at normal
  · cases normal
  · split at normal
    · cases normal
    · rename_i notCurrent notParent
      obtain rfl : step = name := by simpa using normal
      exact ⟨rfl, by simpa using notCurrent, by simpa using notParent⟩

/-- Inner steps are components, and there is at most one other in front of them. -/
theorem components_eq (path : Path) :
    ∃ lead : List Component, (∀ name, .normal name ∉ lead) ∧
      path.components = lead ++ path.names.filterMap componentOf := by
  unfold components
  dsimp only
  split
  · exact ⟨[.root], by simp, rfl⟩
  · split
    · exact ⟨[.current], by simp, rfl⟩
    · exact ⟨[], by simp, rfl⟩

theorem mem_components_iff {name : Bytes} :
    .normal name ∈ path.components ↔ name ∈ path.names ∧ IsName name := by
  obtain ⟨lead, absent, same⟩ := path.components_eq
  rw [same, List.mem_append, List.mem_filterMap]
  constructor
  · rintro (here | ⟨step, member, normal⟩)
    · exact absurd here (absent name)
    · obtain ⟨rfl, notCurrent, notParent⟩ := componentOf_eq_normal normal
      have nonempty : step ≠ [] := by simpa using (List.mem_filter.1 member).2
      exact ⟨member, nonempty, notCurrent, notParent⟩
  · rintro ⟨member, named⟩
    exact .inr ⟨name, member, componentOf_of_isName named⟩

/-- A component that is a name holds no slash. -/
theorem clear_of_mem_components {name : Bytes} (member : .normal name ∈ path.components) :
    slash ∉ name :=
  Text.mark_not_mem_segment (List.mem_filter.1 (mem_components_iff.1 member).1).1

theorem length_le_of_mem_components {name : Bytes} (member : .normal name ∈ path.components) :
    name.length ≤ path.bytes.length :=
  Text.length_segment_le (List.mem_filter.1 (mem_components_iff.1 member).1).1

/-- A last step that is a name is a component. -/
theorem final_mem_components (named : IsName path.final) :
    .normal path.final ∈ path.components := by
  refine mem_components_iff.2 ⟨List.mem_filter.2 ⟨path.final_mem_segments, ?_⟩, named⟩
  simpa using named.1

theorem isAbsolute_of_clear (nonempty : front ≠ []) (clear : slash ∉ front) (rest : Bytes) :
    isAbsolute ⟨front ++ rest⟩ = false := by
  obtain ⟨b, later, rfl⟩ := List.exists_cons_of_ne_nil nonempty
  have other : b ≠ slash := fun same => clear (same ▸ List.mem_cons_self)
  simpa [isAbsolute] using other

theorem components_of_isAbsolute (absolute : path.isAbsolute = true) :
    path.components = .root :: path.names.filterMap componentOf := by
  simp only [components, absolute, if_true]

/-- The first step of a relative path, and what comes after it. -/
theorem components_slashed (nonempty : front ≠ []) (clear : slash ∉ front) :
    components ⟨front ++ slash :: rest⟩ =
      (componentOf front).getD .current :: (names ⟨rest⟩).filterMap componentOf := by
  have relative := isAbsolute_of_clear nonempty clear (slash :: rest)
  have steps : names ⟨front ++ slash :: rest⟩ = front :: names ⟨rest⟩ := by
    rw [names, Text.segments_marked clear, List.filter_cons_of_pos (by simpa using nonempty)]
    rfl
  simp only [components, relative, Bool.false_eq_true, if_false, steps, List.head?_cons,
    List.filterMap_cons]
  by_cases dot : front = [0x2E]
  · simp [dot, componentOf]
  · by_cases dots : front = [0x2E, 0x2E]
    · simp [dots, componentOf]
    · simp [dot, dots, componentOf]

/-- A name, a slash, and after that nothing but slashes and single dots. -/
def Trails (name : Bytes) (word : Path) : Prop :=
  IsName name ∧ slash ∉ name ∧ ∃ rest, word.bytes = name ++ slash :: rest ∧
    ∀ step ∈ Text.segments slash rest, step = [] ∨ step = [0x2E]

theorem Trails.not_isName_final {name : Bytes} (trails : Trails name word) :
    ¬ IsName word.final := by
  obtain ⟨-, -, rest, same, idle⟩ := trails
  obtain rfl : word = ⟨name ++ slash :: rest⟩ := congrArg Path.mk same
  rintro ⟨nonempty, notCurrent, -⟩
  rw [final_slashed] at nonempty notCurrent
  rcases idle _ (final_mem_segments ⟨rest⟩) with nothing | dot
  · exact nonempty nothing
  · exact notCurrent dot

theorem filterMap_names_eq_nil_iff :
    (names path).filterMap componentOf = [] ↔
      ∀ step ∈ Text.segments slash path.bytes, step = [] ∨ step = [0x2E] := by
  have dot : ∀ step : Bytes, componentOf step = none ↔ step = [0x2E] := by
    intro step
    by_cases current : step = [0x2E]
    · simp [componentOf, current]
    · by_cases parent : step = [0x2E, 0x2E] <;> simp [componentOf, current, parent]
  rw [List.filterMap_eq_nil_iff]
  constructor
  · intro idle step member
    by_cases nothing : step = []
    · exact .inl nothing
    · exact .inr ((dot step).1 (idle step (List.mem_filter.2 ⟨member, by simpa using nothing⟩)))
  · intro idle step member
    obtain ⟨member, nonempty⟩ := List.mem_filter.1 member
    rcases idle step member with rfl | rfl
    · simp at nonempty
    · rfl

/-- **Of the paths with a slash in them, these have a name for their only component.** -/
theorem components_eq_name_iff (slashed : slash ∈ word.bytes) {name : Bytes} :
    word.components = [.normal name] ↔ Trails name word := by
  constructor
  · intro one
    have named : .normal name ∈ word.components := one ▸ List.mem_singleton_self _
    have clear := clear_of_mem_components named
    refine ⟨(mem_components_iff.1 named).2, clear, ?_⟩
    obtain ⟨front, rest, same, clearFront⟩ := List.eq_append_cons_of_mem slashed
    obtain rfl : word = ⟨front ++ slash :: rest⟩ := congrArg Path.mk same
    have nonempty : front ≠ [] := by
      rintro rfl
      rw [components_of_isAbsolute (by simp [isAbsolute])] at one
      cases one
    rw [components_slashed nonempty clearFront] at one
    obtain ⟨first, nothing⟩ := List.cons.inj one
    have same : componentOf front = some (.normal name) := by
      cases step : componentOf front with
      | none => simp [step] at first
      | some component => simpa [step] using first
    obtain ⟨rfl, -⟩ := componentOf_eq_normal same
    exact ⟨rest, rfl, filterMap_names_eq_nil_iff.1 nothing⟩
  · rintro ⟨named, clear, rest, same, idle⟩
    obtain rfl : word = ⟨name ++ slash :: rest⟩ := congrArg Path.mk same
    rw [components_slashed named.1 clear, componentOf_of_isName named,
      filterMap_names_eq_nil_iff.2 idle]
    rfl

/-- A name on its own has one component. -/
theorem components_of_isName {name : Bytes} (named : IsName name) (clear : slash ∉ name) :
    components ⟨name⟩ = [.normal name] := by
  have relative : isAbsolute ⟨name⟩ = false := by
    rw [← List.append_nil name]
    exact isAbsolute_of_clear named.1 clear []
  have steps : names ⟨name⟩ = [name] := by
    rw [names, Text.segments_unmarked clear, List.filter_cons_of_pos (by simpa using named.1)]
    rfl
  simp [components, relative, steps, componentOf_of_isName named, named.2.1]

end Path

/-! ## Files -/

/-- Which files there are. -/
structure Filesystem where
  /-- The absolute path leads, through links, to a regular file. -/
  isFile : Path → Bool
  /-- What ends otherwise than in a name is a directory, if anything. -/
  named : ∀ path, isFile path = true → Path.IsName path.final
  /-- Slashes may be doubled, and dots put between them. -/
  same : ∀ path other, isFile path = true → other.components = path.components →
    Path.IsName other.final → isFile other = true

namespace Filesystem

variable (files : Filesystem)

/-- What a process in this directory sees. -/
def seenFrom (process path : Path) : Bool := files.isFile (process.join path)

theorem seenFrom_of_isAbsolute {path : Path} (absolute : path.isAbsolute = true) (process : Path) :
    files.seenFrom process path = files.isFile path := by
  rw [seenFrom, Path.join_of_isAbsolute absolute]

theorem seenFrom_of_not_isName {path : Path} (unnamed : ¬ Path.IsName path.final)
    (process : Path) : files.seenFrom process path = false := by
  rw [← Bool.not_eq_true]
  intro seen
  have named := files.named _ seen
  rw [Path.final_join] at named
  exact unnamed named

/-- One file, and no other. -/
def only (path : Path) : Filesystem where
  isFile other := decide (other.components = path.components ∧ Path.IsName other.final)
  named _ here := (of_decide_eq_true here).2
  same _ _ here alike named :=
    decide_eq_true ⟨alike.trans (of_decide_eq_true here).1, named⟩

theorem isFile_only {path : Path} (named : Path.IsName path.final) :
    (only path).isFile path = true := decide_eq_true ⟨rfl, named⟩

end Filesystem

end PipelineShell
