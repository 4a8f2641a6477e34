/-
# Proofs.Pipeline.Work -- the stages work from left to right

A stage does its work when it is run, or, if it is the last one, when it is asked for its
output.  The stages that have done so in the course of a run are the first stages of the
pipeline, in order (`worked_prefix`); when the run succeeds they are all of them
(`worked_of_ok`).

The calls change a stage, and it is known again by what they leave alone:
`Contract.Preserves` says that no call changes what is `told` of a stage.
-/
import PipelineShell.Proofs.Pipeline.Course

namespace PipelineShell.Pipeline

set_option autoImplicit false

variable {S R E C A : Type}

/-- No call changes what is told of a stage. -/
structure Contract.Preserves (contract : Contract S R E C) (told : S → A) : Prop where
  setInput : ∀ s input context, told (contract.setInput s input context).1 = told s
  openPipe : ∀ s context, told (contract.openPipe s context).1.2 = told s
  setError : ∀ s error context, told (contract.setError s error context).1 = told s
  run : ∀ s context, told (contract.run s context).1.2 = told s
  output : ∀ s context, told (contract.output s context).1.2 = told s
  wait : ∀ s context, told (contract.wait s context).1.2 = told s
  abort : ∀ s context, told (contract.abort s context).1 = told s

namespace Contract.Preserves

variable {contract : Contract S R E C} {told : S → A}

theorem takes (preserves : contract.Preserves told) {before after : S} {call : Call R E}
    (takes : contract.Takes before call after) : told after = told before := by
  cases call with
  | setInput input => obtain ⟨context, rfl⟩ := takes; exact preserves.setInput _ _ _
  | openPipe answer =>
      obtain ⟨context, same⟩ := takes
      exact congrArg (told ·.2) same ▸ preserves.openPipe before context
  | setError error => obtain ⟨context, rfl⟩ := takes; exact preserves.setError _ _ _
  | run answer =>
      obtain ⟨context, same⟩ := takes
      exact congrArg (told ·.2) same ▸ preserves.run before context
  | output answer =>
      obtain ⟨context, same⟩ := takes
      exact congrArg (told ·.2) same ▸ preserves.output before context
  | wait answer =>
      obtain ⟨context, same⟩ := takes
      exact congrArg (told ·.2) same ▸ preserves.wait before context
  | abort => obtain ⟨context, rfl⟩ := takes; exact preserves.abort _ _
  | release => exact congrArg told takes.symm

/-- Through all the calls on it a stage stays what it is. -/
theorem leads (preserves : contract.Preserves told) {stage : S} {events : List (Event S R E)}
    (leads : contract.Leads stage events) : ∀ event ∈ events, told event.stage = told stage := by
  induction events generalizing stage with
  | nil => exact fun _ member => nomatch member
  | cons first rest ih =>
      obtain ⟨now, later⟩ := leads
      have here : told first.stage = told stage := preserves.takes now
      refine List.forall_mem_cons.2 ⟨here, fun event member => ?_⟩
      exact (ih later event member).trans here

theorem started (preserves : contract.Preserves told) {position : Nat} {pending : Option R}
    {stages : List S} {starts : List (Start S R E)}
    (started : Started contract position pending stages starts) :
    (starts.map Start.ran).map told = stages.map told := by
  induction started with
  | nil => rfl
  | cons leads rest ih =>
      rename_i position _ _ start _ _
      have here := preserves.leads leads ⟨position, .run start.result, start.ran⟩
        (by simp [Start.events])
      rw [List.map_cons, List.map_cons, List.map_cons, ih]
      exact congrArg (· :: _) here

end Contract.Preserves

/-! ## The stages that have worked -/

/-- The stage as its work left it, if the call is the one in which it worked. -/
def Event.worked? (event : Event S R E) : Option S :=
  match event.call with
  | .run _ => some event.stage
  | .output _ => some event.stage
  | _ => none

/-- The stages that have done their work, in the order in which they did. -/
def worked (events : List (Event S R E)) : List S := events.filterMap Event.worked?

theorem map_ran_zipIdx (starts : List (Start S R E)) (position : Nat) :
    (starts.zipIdx position).map (fun entry => entry.1.ran) = starts.map Start.ran := by
  have forgotten := congrArg (List.map Start.ran) (List.zipIdx_map_fst position starts)
  rwa [List.map_map] at forgotten

theorem worked_startEvents (position : Nat) (pending : Option R) (starts : List (Start S R E)) :
    worked (startEvents position pending starts) = starts.map Start.ran := by
  rw [worked, filterMap_startEvents (fun _ _ _ => rfl), ← map_ran_zipIdx starts position]
  simp [List.filterMap_cons, Event.worked?, ← List.map_eq_flatMap]

theorem Completion.worked_events (run : Completion S R E) :
    worked run.events = run.starts.map Start.ran ++ [run.finale.collected] := by
  rw [worked, run.filterMap_events (fun _ _ _ => rfl) (fun _ _ => rfl),
    ← map_ran_zipIdx run.starts 0]
  simp [List.filterMap_cons, Event.worked?, ← List.map_eq_flatMap]

theorem Breakdown.worked_events (run : Breakdown S R E) :
    worked run.events = run.starts.map Start.ran := by
  have released : ∀ (position : Nat) (stages : List S),
      worked (releaseEvents (R := R) (E := E) position stages) = [] := by
    intro position stages
    simp [worked, releaseEvents, List.filterMap_flatMap, Event.worked?]
  have stopped : worked (stopEvents (R := R) (E := E) 0 run.stops) = [] := by
    simp [worked, stopEvents, List.filterMap_flatMap, Event.worked?]
  have refused : worked (run.refusal.events (E := E) run.starts.length
      (handedOn none run.starts)) = [] := by
    rw [worked, Refusal.events, List.filterMap_append, filterMap_connectEvents fun _ _ _ => rfl]
    rfl
  have started := worked_startEvents 0 none run.starts
  simp only [worked] at released stopped refused started ⊢
  simp only [Breakdown.events, List.filterMap_append, released, stopped, refused, started,
    List.append_nil]

section Runs

variable {contract : Contract S R E C} {told : S → A} (preserves : contract.Preserves told)
include preserves

theorem Completion.Of.worked {stages before : List S} {last : S} {run : Completion S R E}
    (of : run.Of contract stages before last) :
    (Pipeline.worked run.events).map told = stages.map told := by
  have collected := preserves.leads of.finale
    ⟨run.starts.length, .output run.finale.produced, run.finale.collected⟩
    (by simp [Finale.events])
  rw [run.worked_events, of.stages_eq, List.map_append, List.map_append,
    preserves.started of.started]
  exact congrArg (before.map told ++ [·]) collected

/-- **The stages work from left to right**, without leaving one out. -/
theorem worked_prefix (freshError : StateM C E) (stages : List S) (context : C) :
    (worked (transcript contract freshError stages context)).map told <+: stages.map told := by
  rw [transcript]
  rcases watch_cases contract freshError stages context with
    ⟨-, watched⟩ | ⟨run, before, last, context', of, watched⟩ |
    ⟨run, before, stage, context', of, watched⟩
  · rw [watched]
    exact List.nil_prefix
  · rw [watched]
    exact ⟨[], (List.append_nil _).trans (of.worked preserves)⟩
  · rw [watched, run.worked_events, preserves.started of.started, of.stages_eq, List.map_append,
      List.map_append, List.append_assoc]
    exact List.prefix_append _ _

/-- **In a run that succeeds, all stages work.** -/
theorem worked_of_ok {freshError : StateM C E} {stages : List S} {context : C} {outcome : Outcome}
    (succeeds : (execute contract freshError stages context).1 = .ok outcome) :
    (worked (transcript contract freshError stages context)).map told = stages.map told := by
  rw [← watch_forget] at succeeds
  rw [transcript]
  rcases watch_cases contract freshError stages context with
    ⟨-, watched⟩ | ⟨run, before, last, context', of, watched⟩ |
    ⟨run, before, stage, context', of, watched⟩
  · rw [watched] at succeeds
    cases succeeds
  · rw [watched]
    exact of.worked preserves
  · rw [watched] at succeeds
    cases succeeds

end Runs

end PipelineShell.Pipeline
