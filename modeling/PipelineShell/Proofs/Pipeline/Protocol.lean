/-
# Proofs.Pipeline.Protocol -- the calls of a run depend on nothing but its length

When every pipe can be opened, the calls that a run makes, and their order, are fixed
by the number of stages (`execute_follows_protocol`): no answer to `run`, `output` or
`wait` adds a call, leaves one out or ends the run early.

`protocol` is that list of calls.  `inTurn` makes such lists, and `callsOn` picks the
calls on one stage out of them.
-/
import PipelineShell.Proofs.Pipeline.Course
import PipelineShell.Proofs.Quiet

namespace PipelineShell.Pipeline

set_option autoImplicit false

variable {S R E C : Type}

/-- Stage after stage, `count` of them from position `first` on: the calls `kinds i` on
stage `i`. -/
def inTurn (first count : Nat) (kinds : Nat → List Call.Kind) : List (Nat × Call.Kind) :=
  (List.range' first count).flatMap fun i => (kinds i).map (i, ·)

/-- The calls on one stage, in order. -/
def callsOn (i : Nat) (steps : List (Nat × Call.Kind)) : List Call.Kind :=
  steps.filterMap fun step => if step.1 = i then some step.2 else none

/-- Every stage but the first is given the read end that the one before it handed out. -/
def connectKinds (i : Nat) : List Call.Kind := if i = 0 then [] else [.setInput]

/-- The calls that start stage `i`. -/
def startKinds (i : Nat) : List Call.Kind := connectKinds i ++ [.openPipe, .setError, .run]

/-- The calls that collect stage `i`, the last one. -/
def finaleKinds (i : Nat) : List Call.Kind := connectKinds i ++ [.setError, .output, .wait]

/-- **The call protocol of `n` stages**: all but the last are started in order, the last
one is collected, and then the others are waited for in order. -/
def protocol (n : Nat) : List (Nat × Call.Kind) :=
  inTurn 0 (n - 1) startKinds ++ inTurn (n - 1) 1 finaleKinds ++ inTurn 0 (n - 1) fun _ => [.wait]

/-! ## Lists of calls -/

@[simp] theorem inTurn_zero (first : Nat) (kinds : Nat → List Call.Kind) :
    inTurn first 0 kinds = [] := rfl

theorem inTurn_succ (first count : Nat) (kinds : Nat → List Call.Kind) :
    inTurn first (count + 1) kinds =
      (kinds first).map (first, ·) ++ inTurn (first + 1) count kinds := by
  simp [inTurn, List.range'_succ]

theorem inTurn_add (first m n : Nat) (kinds : Nat → List Call.Kind) :
    inTurn first (m + n) kinds = inTurn first m kinds ++ inTurn (first + m) n kinds := by
  rw [inTurn, inTurn, inTurn, ← List.flatMap_append, List.range'_append_1]

@[simp] theorem callsOn_append (i : Nat) (l₁ l₂ : List (Nat × Call.Kind)) :
    callsOn i (l₁ ++ l₂) = callsOn i l₁ ++ callsOn i l₂ := by
  simp [callsOn]

theorem callsOn_map (i j : Nat) (kinds : List Call.Kind) :
    callsOn i (kinds.map (j, ·)) = if j = i then kinds else [] := by
  have seen : (fun step : Nat × Call.Kind => if step.1 = i then some step.2 else none) ∘ (j, ·) =
      fun kind => if j = i then some kind else none := rfl
  rw [callsOn, List.filterMap_map, seen]
  by_cases here : j = i
  · simp [here]
  · simp [here]

theorem callsOn_inTurn (i first count : Nat) (kinds : Nat → List Call.Kind) :
    callsOn i (inTurn first count kinds) =
      if first ≤ i ∧ i < first + count then kinds i else [] := by
  induction count generalizing first with
  | zero => rw [inTurn_zero, if_neg (by omega)]; rfl
  | succ count ih =>
      rw [inTurn_succ, callsOn_append, callsOn_map, ih]
      by_cases here : first = i
      · subst here
        rw [if_pos rfl, if_neg (by omega), if_pos (by omega), List.append_nil]
      · have same : (first + 1 ≤ i ∧ i < first + 1 + count) ↔
            (first ≤ i ∧ i < first + (count + 1)) := by omega
        simp only [if_neg here, List.nil_append, same]

/-! ## The calls in the transcripts of the parts of a run -/

/-- The calls of a transcript, without what went in and came out. -/
def steps (events : List (Event S R E)) : List (Nat × Call.Kind) := events.map Event.step

@[simp] theorem steps_append (l₁ l₂ : List (Event S R E)) :
    steps (l₁ ++ l₂) = steps l₁ ++ steps l₂ := List.map_append

/-- A list of records, one for each stage, each with the same calls in its events. -/
theorem steps_flatMap_zipIdx {A : Type} {events : A × Nat → List (Event S R E)}
    {kinds : Nat → List Call.Kind}
    (same : ∀ a i, steps (events (a, i)) = (kinds i).map (i, ·)) (records : List A)
    (first : Nat) :
    steps ((records.zipIdx first).flatMap events) = inTurn first records.length kinds := by
  induction records generalizing first with
  | nil => rfl
  | cons a rest ih =>
      rw [List.zipIdx_cons, List.flatMap_cons, steps_append, same, ih, List.length_cons, inTurn_succ]

theorem steps_connectEvents (position : Nat) (stage : S) (pending : Option R)
    (first : pending = none ↔ position = 0) :
    steps (connectEvents (E := E) position stage pending) =
      (connectKinds position).map (position, ·) := by
  cases pending with
  | none => simp [connectEvents, connectKinds, steps, first.1 rfl]
  | some input =>
      have later : position ≠ 0 := fun h => by simpa using first.2 h
      simp [connectEvents, connectKinds, steps, later, Event.step, Call.kind]

theorem steps_startEvents (starts : List (Start S R E)) (position : Nat) (pending : Option R)
    (first : pending = none ↔ position = 0) :
    steps (startEvents position pending starts) =
      inTurn position starts.length startKinds := by
  induction starts generalizing position pending with
  | nil => rfl
  | cons start rest ih =>
      rw [startEvents, steps_append, Start.events, steps_append,
        steps_connectEvents position start.connected pending first,
        ih (position + 1) (some start.reader) (by simp), List.length_cons, inTurn_succ]
      simp [startKinds, steps, Event.step, Call.kind]

theorem steps_finaleEvents (finale : Finale S E) (position : Nat) (pending : Option R)
    (first : pending = none ↔ position = 0) :
    steps (finale.events position pending) = inTurn position 1 finaleKinds := by
  rw [Finale.events, steps_append, steps_connectEvents position finale.connected pending first,
    inTurn_succ]
  simp [finaleKinds, steps, Event.step, Call.kind]

theorem steps_reapEvents (reaps : List (Reap S)) (first : Nat) :
    steps (reapEvents (R := R) (E := E) first reaps) =
      inTurn first reaps.length fun _ => [.wait] :=
  steps_flatMap_zipIdx (fun _ _ => rfl) reaps first

theorem steps_releaseEvents (stages : List S) (first : Nat) :
    steps (releaseEvents (R := R) (E := E) first stages) =
      inTurn first stages.length fun _ => [.release] :=
  steps_flatMap_zipIdx (fun _ _ => rfl) stages first

/-! ## Refused pipes -/

/-- The failed attempts to open a pipe. -/
def refusals (events : List (Event S R E)) : List (Event S R E) :=
  events.filter fun event => event.call.refusal?.isSome

@[simp] theorem refusals_append (l₁ l₂ : List (Event S R E)) :
    refusals (l₁ ++ l₂) = refusals l₁ ++ refusals l₂ := List.filter_append ..

theorem refusals_eq_nil_iff (events : List (Event S R E)) :
    refusals events = [] ↔ ∀ event ∈ events, event.call.refusal? = none := by
  simp [refusals, List.filter_eq_nil_iff]

@[simp] theorem refusals_connectEvents (position : Nat) (stage : S) (pending : Option R) :
    refusals (connectEvents (E := E) position stage pending) = [] := by
  cases pending <;> rfl

@[simp] theorem refusals_startEvents (starts : List (Start S R E)) (position : Nat)
    (pending : Option R) : refusals (startEvents position pending starts) = [] := by
  induction starts generalizing position pending with
  | nil => rfl
  | cons start rest ih =>
      rw [startEvents, refusals_append, ih, Start.events, refusals_append, refusals_connectEvents]
      rfl

@[simp] theorem refusals_finaleEvents (finale : Finale S E) (position : Nat)
    (pending : Option R) : refusals (finale.events position pending) = [] := by
  rw [Finale.events, refusals_append, refusals_connectEvents]
  rfl

/-- Records that stand for no attempt to open a pipe. -/
theorem refusals_flatMap_zipIdx {A : Type} {events : A × Nat → List (Event S R E)}
    (none_ : ∀ a i, refusals (events (a, i)) = []) (records : List A) (first : Nat) :
    refusals ((records.zipIdx first).flatMap events) = [] := by
  induction records generalizing first with
  | nil => rfl
  | cons a rest ih => rw [List.zipIdx_cons, List.flatMap_cons, refusals_append, none_, ih]; rfl

@[simp] theorem refusals_reapEvents (reaps : List (Reap S)) (first : Nat) :
    refusals (reapEvents (R := R) (E := E) first reaps) = [] :=
  refusals_flatMap_zipIdx (fun _ _ => rfl) reaps first

@[simp] theorem refusals_releaseEvents (stages : List S) (first : Nat) :
    refusals (releaseEvents (R := R) (E := E) first stages) = [] :=
  refusals_flatMap_zipIdx (fun _ _ => rfl) stages first

@[simp] theorem refusals_stopEvents (stops : List (Stop S)) (first : Nat) :
    refusals (stopEvents (R := R) (E := E) first stops) = [] :=
  refusals_flatMap_zipIdx (fun _ _ => rfl) stops first

@[simp] theorem Completion.refusals_events (run : Completion S R E) :
    refusals run.events = [] := by
  simp [Completion.events]

/-- A run that breaks down is refused one pipe. -/
theorem Breakdown.refusals_events (run : Breakdown S R E) :
    refusals run.events =
      [⟨run.starts.length, .openPipe (.error run.refusal.cause), run.refusal.refused⟩] := by
  simp only [Breakdown.events, Refusal.events, refusals_append, refusals_startEvents,
    refusals_connectEvents, refusals_stopEvents, refusals_releaseEvents]
  rfl

/-! ## Runs in which every pipe can be opened -/

theorem Completion.steps_events {contract : Contract S R E C} {stages before : List S} {last : S}
    {run : Completion S R E} (of : run.Of contract stages before last) :
    steps run.events =
      protocol stages.length ++ inTurn 0 stages.length fun _ => [.release] := by
  have first := handedOn_none_iff run.starts
  simp only [Completion.events, steps_append]
  rw [steps_startEvents run.starts 0 none (by simp), steps_finaleEvents _ _ _ first,
    steps_reapEvents, steps_releaseEvents, steps_releaseEvents, of.length_eq, inTurn_add]
  simp [protocol, of.reaps_length]

/-- The calls on one stage of a run in which every pipe can be opened. -/
theorem callsOn_protocol {n i : Nat} (inside : i < n) :
    callsOn i (protocol n ++ inTurn 0 n fun _ => [.release]) =
      if i + 1 < n then startKinds i ++ [.wait, .release] else finaleKinds i ++ [.release] := by
  simp only [protocol, callsOn_append, callsOn_inTurn]
  by_cases early : i + 1 < n
  · rw [if_pos early, if_pos (by omega), if_neg (by omega), if_pos (by omega), if_pos (by omega)]
    simp
  · rw [if_neg early, if_neg (by omega), if_pos (by omega), if_neg (by omega), if_pos (by omega)]
    simp

theorem watch_of_opened {contract : Contract S R E C} {freshError : StateM C E}
    {stages : List S} {context : C} (nonempty : stages ≠ [])
    (opened : ∀ event ∈ transcript contract freshError stages context,
      event.call.refusal? = none) :
    ∃ (run : Completion S R E) (before : List S) (last : S) (context' : C),
      run.Of contract stages before last ∧
      watch contract freshError stages context = (.ok run.outcome, (context', run.events)) := by
  rcases watch_cases contract freshError stages context with
    ⟨empty, -⟩ | completed | ⟨run, before, stage, context', of, watched⟩
  · exact absurd empty nonempty
  · exact completed
  · rw [← refusals_eq_nil_iff, transcript, watched, run.refusals_events] at opened
    cases opened

/-- **The call protocol.**  When every pipe that a run asks for can be opened, the run of
`n ≥ 1` stages ends with an outcome, its calls are those of `protocol n` and then the
letting go of the stages in order, whatever `run`, `output` and `wait` answered.  So
every stage but the last is run once and waited for once, the last is asked for its
output once and waited for once, and none is aborted. -/
theorem execute_follows_protocol (contract : Contract S R E C) (freshError : StateM C E)
    (stages : List S) (context : C) (nonempty : stages ≠ [])
    (opened : ∀ event ∈ transcript contract freshError stages context,
      event.call.refusal? = none) :
    (∃ outcome, (execute contract freshError stages context).1 = .ok outcome) ∧
      steps (transcript contract freshError stages context) =
        protocol stages.length ++ inTurn 0 stages.length (fun _ => [.release]) ∧
      ∀ i < stages.length,
        callsOn i (steps (transcript contract freshError stages context)) =
          if i + 1 < stages.length then startKinds i ++ [.wait, .release]
          else finaleKinds i ++ [.release] := by
  obtain ⟨run, before, last, context', of, watched⟩ := watch_of_opened nonempty opened
  have calls : steps (transcript contract freshError stages context) =
      protocol stages.length ++ inTurn 0 stages.length (fun _ => [.release]) := by
    rw [transcript, watched]
    exact run.steps_events of
  refine ⟨⟨run.outcome, ?_⟩, calls, fun i inside => ?_⟩
  · rw [← watch_forget, watched]
  · rw [calls, callsOn_protocol inside]

/-- Three stages of which the first fails to run, the second fails to be waited for, and
the last ends with status 3. -/
def failingStages : List Command :=
  [.scripted (.fresh { Quiet.script "first" with runFailure := some (.io (.os 32)) }),
    .scripted (.fresh { Quiet.script "second" with wait := .error (.io (.os 10)) }),
    .scripted (.fresh { Quiet.script "third" with outputFailure := some (.exited "third" 3 []) })]

theorem execute_follows_protocol_failingStages :
    failingStages ≠ [] ∧
      (∀ event ∈ transcript Command.contract (pure .standardError) failingStages Quiet.context,
        event.call.refusal? = none) ∧
      (∃ outcome, (execute Command.contract (pure .standardError) failingStages
        Quiet.context).1 = .ok outcome) ∧
      steps (transcript Command.contract (pure .standardError) failingStages Quiet.context) =
        [(0, .openPipe), (0, .setError), (0, .run),
          (1, .setInput), (1, .openPipe), (1, .setError), (1, .run),
          (2, .setInput), (2, .setError), (2, .output), (2, .wait),
          (0, .wait), (1, .wait), (0, .release), (1, .release), (2, .release)] := by
  have nonempty : failingStages ≠ [] := List.cons_ne_nil _ _
  have opened : ∀ event ∈ transcript Command.contract (pure .standardError) failingStages
      Quiet.context, event.call.refusal? = none := by decide +kernel
  have fixed := execute_follows_protocol Command.contract (pure .standardError) failingStages
    Quiet.context nonempty opened
  exact ⟨nonempty, opened, fixed.1, fixed.2.1.trans (by decide)⟩

end PipelineShell.Pipeline
