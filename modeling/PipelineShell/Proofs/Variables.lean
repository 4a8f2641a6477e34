/-
# Proofs.Variables -- variables and their values, as a finite map

An `Environment` is looked up by name.  To set a variable gives its name the new value, to
remove it takes the value away, and no other name notices either (`Environment.get?_insert`,
`Environment.get?_erase`).  Where no name stands twice, none does afterwards, so it makes no
difference in which order an environment is looked through.
-/
import Mathlib.Data.List.Nodup
import PipelineShell.Session

namespace PipelineShell.Environment

set_option autoImplicit false

variable {environment above below : Environment} {name : String}

/-- The names that have a value. -/
def names (environment : Environment) : List String := environment.map Prod.fst

/-- A name has no value if it does not stand there. -/
theorem get?_eq_none_iff : environment.get? name = none ↔ name ∉ environment.names := by
  rw [get?, List.lookup_eq_none_iff, names, List.mem_map]
  constructor
  · rintro absent ⟨entry, member, rfl⟩
    exact absurd (absent entry member) (by simp)
  · exact fun absent entry member => bne_iff_ne.2 fun same => absent ⟨entry, member, same.symm⟩

/-- To remove a variable takes its value away, and no other. -/
theorem get?_erase (environment : Environment) (removed name : String) :
    (environment.erase removed).get? name =
      if removed = name then none else environment.get? name := by
  induction environment with
  | nil => exact (ite_self _).symm
  | cons entry rest ih =>
      simp only [erase, get?] at ih ⊢
      by_cases here : entry.1 = removed
      · rw [List.filter_cons_of_neg (by simpa using here), ih, List.lookup_cons]
        split
        · rfl
        · rename_i other
          rw [beq_eq_false_iff_ne.2 fun same => other (here.symm.trans same.symm)]
      · rw [List.filter_cons_of_pos (by simpa using here), List.lookup_cons, List.lookup_cons, ih]
        cases asked : name == entry.1 with
        | false => rfl
        | true =>
            have same : name = entry.1 := beq_iff_eq.1 asked
            exact (if_neg fun gone => here (same.symm.trans gone.symm)).symm

/-- To set a variable gives it the value, and none to others. -/
theorem get?_insert (environment : Environment) (set value name : String) :
    (environment.insert set value).get? name =
      if set = name then some value else environment.get? name := by
  have split : (environment.insert set value).get? name =
      ((environment.erase set).get? name).or (Environment.get? [(set, value)] name) :=
    List.lookup_append
  rw [split, get?_erase]
  by_cases same : set = name
  · simp [same, get?]
  · have other : (name == set) = false := beq_eq_false_iff_ne.2 (Ne.symm same)
    simp [same, get?, List.lookup_cons, other]

/-! ## No name twice -/

theorem nodup_erase (single : environment.names.Nodup) (removed : String) :
    (environment.erase removed).names.Nodup :=
  single.sublist (List.filter_sublist.map _)

theorem nodup_insert (single : environment.names.Nodup) (set value : String) :
    (environment.insert set value).names.Nodup := by
  rw [names, insert, List.map_append]
  refine List.nodup_append.2 ⟨nodup_erase single set, List.nodup_singleton _, ?_⟩
  rintro name member _ last rfl
  have gone : (environment.erase set).get? set = none :=
    (get?_erase environment set set).trans (if_pos rfl)
  have same : name = set := List.mem_singleton.1 last
  exact get?_eq_none_iff.1 gone (same ▸ member)

/-- What is laid over an environment hides what it has of the same names. -/
theorem nodup_overlay (single : above.names.Nodup) (single' : below.names.Nodup) :
    (above.overlay below).names.Nodup := by
  rw [names, overlay, List.map_append]
  refine List.nodup_append.2 ⟨single, single'.sublist (List.filter_sublist.map _), ?_⟩
  rintro name up _ down rfl
  obtain ⟨entry, member, rfl⟩ := List.mem_map.1 down
  have hidden : above.get? entry.1 = none :=
    Option.isNone_iff_eq_none.1 (List.mem_filter.1 member).2
  exact get?_eq_none_iff.1 hidden up

end PipelineShell.Environment
