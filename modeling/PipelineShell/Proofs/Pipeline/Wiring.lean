/-
# Proofs.Pipeline.Wiring -- what a run does to one stage, up to its work

`wiringOn` picks out of a transcript the calls that wire one stage and the call that
makes it work; it leaves out waiting, aborting and letting go.  `wiringOn_cases` says
what these calls are: those of a `Start`, those of a `Finale`, those of a `Refusal`, or
none at all.  So a fact about what a stage holds after `run` or `output` needs to be
shown only along one short chain of calls.
-/
import PipelineShell.Proofs.Pipeline.Course

namespace PipelineShell.Pipeline

set_option autoImplicit false

variable {S R E C : Type}

/-- Whether a call wires a stage or makes it work. -/
def Call.Kind.wires : Call.Kind → Bool
  | .wait | .abort | .release => false
  | _ => true

/-- The wiring of one stage and the call that makes it work. -/
def wiringOn (i : Nat) (events : List (Event S R E)) : List (Event S R E) :=
  events.filter fun event => event.position == i && event.call.kind.wires

@[simp] theorem wiringOn_append (i : Nat) (l₁ l₂ : List (Event S R E)) :
    wiringOn i (l₁ ++ l₂) = wiringOn i l₁ ++ wiringOn i l₂ := List.filter_append ..

theorem mem_wiringOn {i : Nat} {events : List (Event S R E)} {event : Event S R E} :
    event ∈ wiringOn i events ↔
      event ∈ events ∧ event.position = i ∧ event.call.kind.wires = true := by
  simp [wiringOn]

/-- Calls of a sort that only wire a stage are found in the wiring. -/
theorem exists_wiringOn_iff {A : Type} {view : Call R E → Option A}
    (wires : ∀ call a, view call = some a → call.kind.wires = true) (i : Nat) (a : A)
    (events : List (Event S R E)) :
    (∃ event ∈ events, event.position = i ∧ view event.call = some a) ↔
      ∃ event ∈ wiringOn i events, event.position = i ∧ view event.call = some a := by
  constructor
  · rintro ⟨event, member, here, seen⟩
    exact ⟨event, mem_wiringOn.2 ⟨member, here, wires event.call a seen⟩, here, seen⟩
  · rintro ⟨event, member, here, seen⟩
    exact ⟨event, (mem_wiringOn.1 member).1, here, seen⟩

theorem wiringOn_eq_nil {i : Nat} {events : List (Event S R E)}
    (other : ∀ event ∈ events, event.position = i → event.call.kind.wires = false) :
    wiringOn i events = [] := by
  refine List.filter_eq_nil_iff.2 fun event member => ?_
  simpa using other event member

/-- Events that all are at one position, the wiring first. -/
theorem wiringOn_at {position : Nat} {wiring rest : List (Event S R E)}
    (own : ∀ event ∈ wiring ++ rest, event.position = position)
    (wires : ∀ event ∈ wiring, event.call.kind.wires = true)
    (idle : ∀ event ∈ rest, event.call.kind.wires = false) (i : Nat) :
    wiringOn i (wiring ++ rest) = if i = position then wiring else [] := by
  by_cases here : i = position
  · have kept : wiringOn i wiring = wiring := by
      refine List.filter_eq_self.2 fun event member => ?_
      simp [here, own event (List.mem_append_left rest member), wires event member]
    rw [if_pos here, wiringOn_append, kept, wiringOn_eq_nil fun event member _ => idle event member,
      List.append_nil]
  · rw [if_neg here]
    exact wiringOn_eq_nil fun event member same => absurd (same.symm.trans (own event member)) here

/-! ## The parts of a run -/

theorem mem_connectEvents {position : Nat} {stage : S} {pending : Option R}
    {event : Event S R E} :
    event ∈ connectEvents position stage pending ↔
      ∃ input, pending = some input ∧ event = ⟨position, .setInput input, stage⟩ := by
  cases pending <;> simp [connectEvents]

theorem Start.mem_events {start : Start S R E} {position : Nat} {pending : Option R}
    {event : Event S R E} :
    event ∈ start.events position pending ↔
      (∃ input, pending = some input ∧ event = ⟨position, .setInput input, start.connected⟩) ∨
      event = ⟨position, .openPipe (.ok start.reader), start.piped⟩ ∨
      event = ⟨position, .setError start.error, start.bound⟩ ∨
      event = ⟨position, .run start.result, start.ran⟩ := by
  simp [Start.events, mem_connectEvents]

/-- The calls of a finale before the wait. -/
def Finale.wiring (position : Nat) (pending : Option R) (finale : Finale S E) :
    List (Event S R E) :=
  connectEvents position finale.connected pending ++
    [⟨position, .setError finale.error, finale.bound⟩,
      ⟨position, .output finale.produced, finale.collected⟩]

theorem Finale.mem_wiring {finale : Finale S E} {position : Nat} {pending : Option R}
    {event : Event S R E} :
    event ∈ finale.wiring position pending ↔
      (∃ input, pending = some input ∧ event = ⟨position, .setInput input, finale.connected⟩) ∨
      event = ⟨position, .setError finale.error, finale.bound⟩ ∨
      event = ⟨position, .output finale.produced, finale.collected⟩ := by
  simp [Finale.wiring, mem_connectEvents]

theorem Finale.events_eq (finale : Finale S E) (position : Nat) (pending : Option R) :
    finale.events position pending =
      finale.wiring position pending ++ [⟨position, .wait finale.ended, finale.last⟩] := by
  simp [Finale.events, Finale.wiring]

/-- The calls of a refusal before the stage is let go. -/
def Refusal.wiring (position : Nat) (pending : Option R) (refusal : Refusal S) :
    List (Event S R E) :=
  connectEvents position refusal.connected pending ++
    [⟨position, .openPipe (.error refusal.cause), refusal.refused⟩]

theorem Refusal.mem_wiring {refusal : Refusal S} {position : Nat} {pending : Option R}
    {event : Event S R E} :
    event ∈ refusal.wiring position pending ↔
      (∃ input, pending = some input ∧ event = ⟨position, .setInput input, refusal.connected⟩) ∨
      event = ⟨position, .openPipe (.error refusal.cause), refusal.refused⟩ := by
  simp [Refusal.wiring, mem_connectEvents]

theorem Refusal.events_eq (refusal : Refusal S) (position : Nat) (pending : Option R) :
    refusal.events (E := E) position pending =
      refusal.wiring position pending ++ [⟨position, .release, refusal.refused⟩] := by
  simp [Refusal.events, Refusal.wiring]

/-! The one call of a wiring that makes the stage work. -/

theorem Start.work {start : Start S R E} {position : Nat} {pending : Option R}
    {event : Event S R E} (member : event ∈ start.events position pending)
    (works : event.call.kind = .run ∨ event.call.kind = .output) :
    event = ⟨position, .run start.result, start.ran⟩ := by
  rcases Start.mem_events.1 member with ⟨input, -, rfl⟩ | rfl | rfl | rfl
  case inr.inr.inr => rfl
  all_goals rcases works with kind | kind <;> cases kind

theorem Finale.work {finale : Finale S E} {position : Nat} {pending : Option R}
    {event : Event S R E} (member : event ∈ finale.wiring position pending)
    (works : event.call.kind = .run ∨ event.call.kind = .output) :
    event = ⟨position, .output finale.produced, finale.collected⟩ := by
  rcases Finale.mem_wiring.1 member with ⟨input, -, rfl⟩ | rfl | rfl
  case inr.inr => rfl
  all_goals rcases works with kind | kind <;> cases kind

theorem Refusal.no_work {refusal : Refusal S} {position : Nat} {pending : Option R}
    {event : Event S R E} (member : event ∈ refusal.wiring position pending) :
    ¬ (event.call.kind = .run ∨ event.call.kind = .output) := by
  rcases Refusal.mem_wiring.1 member with ⟨input, -, rfl⟩ | rfl <;>
    rintro (kind | kind) <;> cases kind

theorem wiringOn_start (start : Start S R E) (position : Nat) (pending : Option R) (i : Nat) :
    wiringOn i (start.events position pending) =
      if i = position then start.events position pending else [] := by
  have shape : ∀ event ∈ start.events position pending,
      event.position = position ∧ event.call.kind.wires = true := by
    intro event member
    rcases Start.mem_events.1 member with ⟨input, -, rfl⟩ | rfl | rfl | rfl <;> exact ⟨rfl, rfl⟩
  have split : wiringOn i (start.events position pending ++ []) =
      if i = position then start.events position pending else [] :=
    wiringOn_at (fun event member => (shape event (by simpa using member)).1)
      (fun event member => (shape event member).2) (by simp) i
  rwa [List.append_nil] at split

theorem wiringOn_finale (finale : Finale S E) (position : Nat) (pending : Option R) (i : Nat) :
    wiringOn i (finale.events position pending) =
      if i = position then finale.wiring position pending else [] := by
  rw [Finale.events_eq]
  refine wiringOn_at (fun event member => ?_) (fun event member => ?_) (fun event member => ?_) i
  · rw [List.mem_append, Finale.mem_wiring, List.mem_singleton] at member
    rcases member with (⟨input, -, rfl⟩ | rfl | rfl) | rfl <;> rfl
  · rcases Finale.mem_wiring.1 member with ⟨input, -, rfl⟩ | rfl | rfl <;> rfl
  · rw [List.mem_singleton.1 member]
    rfl

theorem wiringOn_refusal (refusal : Refusal S) (position : Nat) (pending : Option R) (i : Nat) :
    wiringOn i (refusal.events (E := E) position pending) =
      if i = position then refusal.wiring position pending else [] := by
  rw [Refusal.events_eq]
  refine wiringOn_at (fun event member => ?_) (fun event member => ?_) (fun event member => ?_) i
  · rw [List.mem_append, Refusal.mem_wiring, List.mem_singleton] at member
    rcases member with (⟨input, -, rfl⟩ | rfl) | rfl <;> rfl
  · rcases Refusal.mem_wiring.1 member with ⟨input, -, rfl⟩ | rfl <;> rfl
  · rw [List.mem_singleton.1 member]
    rfl

/-- Waiting, aborting and letting go belong to no wiring. -/
theorem wiringOn_stopEvents (i first : Nat) (stops : List (Stop S)) :
    wiringOn i (stopEvents (R := R) (E := E) first stops) = [] := by
  refine wiringOn_eq_nil fun event member _ => ?_
  simp only [stopEvents, List.mem_flatMap, List.mem_cons, List.not_mem_nil, or_false] at member
  obtain ⟨stop, -, rfl | rfl⟩ := member <;> rfl

theorem wiringOn_reapEvents (i first : Nat) (reaps : List (Reap S)) :
    wiringOn i (reapEvents (R := R) (E := E) first reaps) = [] := by
  refine wiringOn_eq_nil fun event member _ => ?_
  simp only [reapEvents, List.mem_flatMap, List.mem_singleton] at member
  obtain ⟨reap, -, rfl⟩ := member
  rfl

theorem wiringOn_releaseEvents (i first : Nat) (stages : List S) :
    wiringOn i (releaseEvents (R := R) (E := E) first stages) = [] := by
  refine wiringOn_eq_nil fun event member _ => ?_
  simp only [releaseEvents, List.mem_flatMap, List.mem_singleton] at member
  obtain ⟨stage, -, rfl⟩ := member
  rfl

theorem Completion.wiringOn_events (run : Completion S R E) (i : Nat) :
    wiringOn i run.events = wiringOn i (startEvents 0 none run.starts) ++
      wiringOn i (run.finale.events run.starts.length (handedOn none run.starts)) := by
  simp [Completion.events, wiringOn_reapEvents, wiringOn_releaseEvents]

theorem Breakdown.wiringOn_events (run : Breakdown S R E) (i : Nat) :
    wiringOn i run.events = wiringOn i (startEvents 0 none run.starts) ++
      wiringOn i (run.refusal.events run.starts.length (handedOn none run.starts)) := by
  simp [Breakdown.events, wiringOn_stopEvents, wiringOn_releaseEvents]

/-! ## One stage of a run -/

theorem Contract.Leads.of_append {contract : Contract S R E C} {stage : S}
    {l₁ l₂ : List (Event S R E)} (leads : contract.Leads stage (l₁ ++ l₂)) :
    contract.Leads stage l₁ := by
  induction l₁ generalizing stage with
  | nil => trivial
  | cons event rest ih => exact ⟨leads.1, ih leads.2⟩

section Stage

variable {contract : Contract S R E C} {position : Nat} {pending : Option R} {stages : List S}
  {starts : List (Start S R E)}

/-- The wiring of a started stage. -/
theorem Started.wiringOn (started : Started contract position pending stages starts) (i : Nat) :
    (Pipeline.wiringOn i (startEvents position pending starts) = [] ∧
      (i < position ∨ position + stages.length ≤ i)) ∨
    ∃ (stage : S) (start : Start S R E) (given : Option R),
      position ≤ i ∧ stages[i - position]? = some stage ∧
      contract.Leads stage (start.events i given) ∧
      Pipeline.wiringOn i (startEvents position pending starts) = start.events i given := by
  induction started with
  | nil position pending => exact Or.inl ⟨rfl, by simp only [List.length_nil]; omega⟩
  | @cons position pending stage start stages starts leads rest ih =>
      rw [startEvents, wiringOn_append, wiringOn_start]
      by_cases here : i = position
      · subst here
        refine Or.inr ⟨stage, start, pending, Nat.le_refl i, by simp, leads, ?_⟩
        rcases ih with ⟨nothing, -⟩ | ⟨_, _, _, late, -⟩
        · rw [if_pos rfl, nothing, List.append_nil]
        · omega
      · rw [if_neg here, List.nil_append]
        rcases ih with ⟨nothing, outside⟩ | ⟨stage', start', given, late, found, leads', wired⟩
        · refine Or.inl ⟨nothing, ?_⟩
          rw [List.length_cons]
          omega
        · have next : i - position = (i - (position + 1)) + 1 := by omega
          refine Or.inr ⟨stage', start', given, by omega, ?_, leads', wired⟩
          rw [next, List.getElem?_cons_succ, found]

/-- The wiring of a stage, when the stages before some others are started. -/
theorem Started.wiringOn_append {before : List S} {starts : List (Start S R E)}
    (started : Started contract 0 none before starts) (others : List S) (i : Nat) :
    (Pipeline.wiringOn i (startEvents 0 none starts) = [] ∧ starts.length ≤ i) ∨
    i < starts.length ∧ ∃ (stage : S) (start : Start S R E) (given : Option R),
      (before ++ others)[i]? = some stage ∧ contract.Leads stage (start.events i given) ∧
      Pipeline.wiringOn i (startEvents 0 none starts) = start.events i given := by
  rw [started.length_eq]
  rcases started.wiringOn i with
    ⟨nothing, outside⟩ | ⟨stage, start, given, -, found, leads, wired⟩
  · exact Or.inl ⟨nothing, by omega⟩
  · rw [Nat.sub_zero] at found
    obtain ⟨inside, -⟩ := List.getElem?_eq_some_iff.1 found
    refine Or.inr ⟨inside, stage, start, given, ?_, leads, wired⟩
    rw [List.getElem?_append_left inside, found]

/-- A read end that is handed on was answered by a call. -/
theorem Started.opened (started : Started contract position pending stages starts) {reader : R}
    (awaits : handedOn pending starts = some reader) :
    pending = some reader ∨
      ∃ before after, contract.Takes before (.openPipe (.ok reader)) after := by
  induction started with
  | nil position pending => exact Or.inl awaits
  | @cons position pending stage start stages starts leads rest ih =>
      rcases ih awaits with same | answered
      · cases same
        cases pending with
        | none => exact Or.inr ⟨_, _, leads.1⟩
        | some input => exact Or.inr ⟨_, _, leads.2.1⟩
      · exact Or.inr answered

end Stage

/-- **What a run does to one stage, up to its work.**  A stage before the last is
started, or refused its pipe, or never reached; the last stage is collected, unless it
is never reached.  What the last stage is given to read, if there are others before it,
is a read end that one of them handed out. -/
theorem wiringOn_cases (contract : Contract S R E C) (freshError : StateM C E) (stages : List S)
    (context : C) (i : Nat) :
    wiringOn i (transcript contract freshError stages context) = [] ∨
    ∃ (stage : S) (given : Option R), stages[i]? = some stage ∧
      ((∃ start : Start S R E, i + 1 < stages.length ∧
          contract.Leads stage (start.events i given) ∧
          wiringOn i (transcript contract freshError stages context) = start.events i given) ∨
        (∃ finale : Finale S E, i + 1 = stages.length ∧ (given = none ↔ i = 0) ∧
          (∀ reader, given = some reader →
            ∃ before after, contract.Takes before (.openPipe (.ok reader)) after) ∧
          contract.Leads stage (finale.wiring i given) ∧
          wiringOn i (transcript contract freshError stages context) = finale.wiring i given) ∨
        ∃ refusal : Refusal S,
          wiringOn i (transcript contract freshError stages context) =
            refusal.wiring i given) := by
  rcases watch_cases contract freshError stages context with
    ⟨-, watched⟩ | ⟨run, before, last, context', of, watched⟩ |
    ⟨run, before, first, context', of, watched⟩
  · refine Or.inl ?_
    rw [transcript, watched]
    rfl
  · have length := of.length_eq
    rw [transcript, watched, run.wiringOn_events, wiringOn_finale]
    rcases of.started.wiringOn_append [last] i with
      ⟨nothing, outside⟩ | ⟨inside, stage, start, given, found, leads, wired⟩
    · rw [nothing, List.nil_append]
      by_cases here : i = run.starts.length
      · rw [if_pos here]
        subst here
        refine Or.inr ⟨last, handedOn none run.starts, ?_, Or.inr (Or.inl ⟨run.finale,
          length.symm, handedOn_none_iff run.starts, fun reader awaits => ?_, ?_, rfl⟩)⟩
        · simp [of.stages_eq, of.started.length_eq]
        · exact (of.started.opened awaits).resolve_left (by simp)
        · exact Contract.Leads.of_append (Finale.events_eq run.finale _ _ ▸ of.finale)
      · exact Or.inl (if_neg here)
    · rw [wired, if_neg (Nat.ne_of_lt inside), List.append_nil]
      rw [← of.stages_eq] at found
      exact Or.inr ⟨stage, given, found, Or.inl ⟨start, by omega, leads, rfl⟩⟩
  · have length := of.length_eq
    rw [transcript, watched, run.wiringOn_events, wiringOn_refusal]
    rcases of.started.wiringOn_append (first :: run.rest ++ [run.last]) i with
      ⟨nothing, outside⟩ | ⟨inside, stage, start, given, found, leads, wired⟩
    · rw [nothing, List.nil_append]
      by_cases here : i = run.starts.length
      · rw [if_pos here]
        subst here
        refine Or.inr ⟨first, handedOn none run.starts, ?_, Or.inr (Or.inr ⟨run.refusal, rfl⟩)⟩
        simp [of.stages_eq, of.started.length_eq]
      · exact Or.inl (if_neg here)
    · rw [wired, if_neg (Nat.ne_of_lt inside), List.append_nil]
      rw [← List.append_assoc, ← of.stages_eq] at found
      exact Or.inr ⟨stage, given, found, Or.inl ⟨start, by omega, leads, rfl⟩⟩

end PipelineShell.Pipeline
