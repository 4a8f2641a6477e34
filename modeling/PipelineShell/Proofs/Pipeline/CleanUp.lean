/-
# Proofs.Pipeline.CleanUp -- what happens to whom when a pipe is refused

When a pipe cannot be opened the run is over, and four groups of stages fare
differently (`execute_refused`): the stages before are aborted and waited for, the
stage itself is let go at once, and those after it are never called.  Nothing else
makes a run fail, an empty pipeline apart.

A stage is waited for as soon as it is aborted, so it is waited for while the stages
to its right still run: `waits_before_aborts_iff`.  The aborts all come before the
waits just when there is at most one stage to abort.
-/
import PipelineShell.Proofs.Pipeline.Protocol

namespace PipelineShell.Pipeline

set_option autoImplicit false

variable {S R E C : Type}

/-- The calls on stage `i` when it is refused its pipe. -/
def refusalKinds (i : Nat) : List Call.Kind := connectKinds i ++ [.openPipe, .release]

/-- **The calls of `n` stages of which stage `k` is refused its pipe.**  The refused
stage is let go first, then each stage before it is aborted and waited for, and at the
end all are let go. -/
def brokenProtocol (n k : Nat) : List (Nat × Call.Kind) :=
  inTurn 0 k startKinds ++ inTurn k 1 refusalKinds ++ inTurn 0 k (fun _ => [.abort, .wait]) ++
    (inTurn (k + 1) (n - (k + 2)) (fun _ => [.release]) ++ inTurn 0 k (fun _ => [.release]) ++
      inTurn (n - 1) 1 fun _ => [.release])

/-! ## The transcript of a run that breaks down -/

theorem steps_refusalEvents (refusal : Refusal S) (position : Nat) (pending : Option R)
    (first : pending = none ↔ position = 0) :
    steps (refusal.events (E := E) position pending) = inTurn position 1 refusalKinds := by
  rw [Refusal.events, steps_append, steps_connectEvents position refusal.connected pending first,
    inTurn_succ]
  simp [refusalKinds, steps, Event.step, Call.kind]

theorem steps_stopEvents (stops : List (Stop S)) (first : Nat) :
    steps (stopEvents (R := R) (E := E) first stops) =
      inTurn first stops.length fun _ => [.abort, .wait] :=
  steps_flatMap_zipIdx (fun _ _ => rfl) stops first

theorem Breakdown.steps_events {contract : Contract S R E C} {stages before : List S} {stage : S}
    {run : Breakdown S R E} (of : run.Of contract stages before stage) :
    steps run.events = brokenProtocol stages.length run.starts.length := by
  have rest : stages.length - (run.starts.length + 2) = run.rest.length := by
    rw [of.length_eq]; omega
  have last : stages.length - 1 = run.starts.length + 1 + run.rest.length := by
    rw [of.length_eq]; omega
  simp only [Breakdown.events, steps_append, brokenProtocol]
  rw [steps_startEvents run.starts 0 none (by simp),
    steps_refusalEvents _ _ _ (handedOn_none_iff run.starts), steps_stopEvents,
    steps_releaseEvents, steps_releaseEvents, steps_releaseEvents, rest, last]
  simp [of.stops_length]

/-- The stage that is refused its pipe is let go in the very next call. -/
theorem Breakdown.refused_infix (run : Breakdown S R E) :
    [⟨run.starts.length, .openPipe (.error run.refusal.cause), run.refusal.refused⟩,
      ⟨run.starts.length, .release, run.refusal.refused⟩] <:+: run.events := by
  let index := run.starts.length
  refine ⟨startEvents 0 none run.starts ++
      connectEvents index run.refusal.connected (handedOn none run.starts),
    stopEvents 0 run.stops ++ releaseEvents (index + 1) run.rest ++
      releaseEvents 0 (run.stops.map Stop.stopped) ++
      releaseEvents (index + 1 + run.rest.length) [run.last], ?_⟩
  simp [Breakdown.events, Refusal.events, index]

/-- The calls on one stage of a run that breaks down. -/
theorem callsOn_brokenProtocol {n k i : Nat} (refused : k + 1 < n) (inside : i < n) :
    callsOn i (brokenProtocol n k) =
      if i < k then startKinds i ++ [.abort, .wait, .release]
      else if i = k then refusalKinds i
      else [.release] := by
  simp only [brokenProtocol, callsOn_append, callsOn_inTurn, Nat.zero_le, Nat.zero_add, true_and]
  rcases Nat.lt_trichotomy i k with before | rfl | after
  · have other : ¬ k ≤ i ∧ ¬ k + 1 ≤ i ∧ ¬ n - 1 ≤ i := by omega
    simp [before, other]
  · have other : ¬ i + 1 ≤ i ∧ ¬ n - 1 ≤ i := by omega
    simp [other]
  · have other : ¬ i < k ∧ ¬ i = k ∧ ¬ i < k + 1 ∧ k + 1 ≤ i := by omega
    by_cases last : i = n - 1
    · have only : ¬ i < k + 1 + (n - (k + 2)) ∧ n - 1 ≤ i ∧ i < n - 1 + 1 := by omega
      simp [other, only]
    · have only : i < k + 1 + (n - (k + 2)) ∧ ¬ n - 1 ≤ i := by omega
      simp [other, only]

/-- A refused pipe in the transcript of a run says which run it is. -/
theorem watch_of_refused {contract : Contract S R E C} {freshError : StateM C E}
    {stages : List S} {context : C} {k : Nat} {cause : IoError} {stage : S}
    (refused : ⟨k, .openPipe (.error cause), stage⟩ ∈
      transcript contract freshError stages context) :
    ∃ (run : Breakdown S R E) (before : List S) (first : S) (context' : C),
      run.Of contract stages before first ∧
      k = run.starts.length ∧ cause = run.refusal.cause ∧ stage = run.refusal.refused ∧
      watch contract freshError stages context =
        (.error (.pipe (contract.name stage) cause), (context', run.events)) := by
  have found : (⟨k, .openPipe (.error cause), stage⟩ : Event S R E) ∈
      refusals (transcript contract freshError stages context) :=
    List.mem_filter.2 ⟨refused, rfl⟩
  rcases watch_cases contract freshError stages context with
    ⟨-, watched⟩ | ⟨run, before, last, context', of, watched⟩ |
    ⟨run, before, first, context', of, watched⟩
  · rw [transcript, watched] at refused
    cases refused
  · rw [transcript, watched, run.refusals_events] at found
    cases found
  · rw [transcript, watched, run.refusals_events, List.mem_singleton] at found
    cases found
    exact ⟨run, before, first, context', of, rfl, rfl, rfl, watched⟩

/-- **A refused pipe.**  When stage `k` is refused its pipe, the run fails with just that
error, and its calls are those of `brokenProtocol`: the stages before it have been
started, and each is now aborted once and then waited for once; the stage itself is let
go before that, and never run, aborted or waited for; the stages after it are not
called.  A run fails in no other way, unless it has no stages. -/
theorem execute_refused (contract : Contract S R E C) (freshError : StateM C E)
    (stages : List S) (context : C) :
    (∀ (k : Nat) (cause : IoError) (stage : S),
      ⟨k, .openPipe (.error cause), stage⟩ ∈ transcript contract freshError stages context →
        k + 1 < stages.length ∧
        (execute contract freshError stages context).1 =
          .error (.pipe (contract.name stage) cause) ∧
        steps (transcript contract freshError stages context) =
          brokenProtocol stages.length k ∧
        [⟨k, .openPipe (.error cause), stage⟩, ⟨k, .release, stage⟩] <:+:
          transcript contract freshError stages context ∧
        ∀ i < stages.length,
          callsOn i (steps (transcript contract freshError stages context)) =
            if i < k then startKinds i ++ [.abort, .wait, .release]
            else if i = k then refusalKinds i
            else [.release]) ∧
    (∀ fault : ShellError, (execute contract freshError stages context).1 = .error fault ↔
      (stages = [] ∧ fault = .emptyLine) ∨
      ∃ (k : Nat) (cause : IoError) (stage : S),
        ⟨k, .openPipe (.error cause), stage⟩ ∈ transcript contract freshError stages context ∧
        fault = .pipe (contract.name stage) cause) := by
  refine ⟨fun k cause stage refused => ?_, fun fault => ⟨fun failed => ?_, ?_⟩⟩
  · obtain ⟨run, before, first, context', of, rfl, rfl, rfl, watched⟩ := watch_of_refused refused
    have inside : run.starts.length + 1 < stages.length := by rw [of.length_eq]; omega
    have calls : steps (transcript contract freshError stages context) =
        brokenProtocol stages.length run.starts.length := by
      rw [transcript, watched]
      exact run.steps_events of
    refine ⟨inside, ?_, calls, ?_, fun i hi => ?_⟩
    · rw [← watch_forget, watched]
    · rw [transcript, watched]
      exact run.refused_infix
    · rw [calls, callsOn_brokenProtocol inside hi]
  · rcases watch_cases contract freshError stages context with
      ⟨empty, watched⟩ | ⟨run, before, last, context', of, watched⟩ |
      ⟨run, before, first, context', of, watched⟩
    · rw [← watch_forget, watched] at failed
      cases failed
      exact Or.inl ⟨empty, rfl⟩
    · rw [← watch_forget, watched] at failed
      cases failed
    · rw [← watch_forget, watched] at failed
      cases failed
      refine Or.inr ⟨run.starts.length, run.refusal.cause, run.refusal.refused, ?_, rfl⟩
      rw [transcript, watched]
      exact run.refused_infix.subset (List.mem_cons_self ..)
  · rintro (⟨rfl, rfl⟩ | ⟨k, cause, stage, refused, rfl⟩)
    · rfl
    · obtain ⟨run, before, first, context', of, -, -, -, watched⟩ := watch_of_refused refused
      rw [← watch_forget, watched]

/-! ## Waiting while others still run -/

/-- Stage `i` is waited for before stage `j` is aborted. -/
def WaitsBeforeAbort (steps : List (Nat × Call.Kind)) (i j : Nat) : Prop :=
  [(i, .wait), (j, .abort)].Sublist steps

/-- Whether a call ends a stage early or waits for its end. -/
def Call.Kind.stops : Call.Kind → Bool
  | .wait | .abort => true
  | _ => false

/-- Other calls do not matter for which of the two comes first. -/
theorem waitsBeforeAbort_filter (steps : List (Nat × Call.Kind)) (i j : Nat) :
    WaitsBeforeAbort (steps.filter (·.2.stops)) i j ↔ WaitsBeforeAbort steps i j := by
  constructor
  · intro before
    exact before.trans List.filter_sublist
  · intro before
    exact before.filter (·.2.stops)

theorem filter_inTurn (first count : Nat) (kinds : Nat → List Call.Kind) :
    (inTurn first count kinds).filter (·.2.stops) =
      inTurn first count fun i => (kinds i).filter Call.Kind.stops := by
  simp [inTurn, List.filter_flatMap, List.filter_map, Function.comp_def]

theorem inTurn_nil (first count : Nat) : (inTurn first count fun _ => []) = [] := by
  simp [inTurn]

theorem filter_connectKinds (i : Nat) : (connectKinds i).filter Call.Kind.stops = [] := by
  unfold connectKinds
  split <;> rfl

/-- In the calls of a run that breaks down, waiting and aborting take turns. -/
theorem filter_brokenProtocol (n k : Nat) :
    (brokenProtocol n k).filter (·.2.stops) = inTurn 0 k fun _ => [.abort, .wait] := by
  simp only [brokenProtocol, List.filter_append, filter_inTurn, startKinds, refusalKinds,
    filter_connectKinds, List.nil_append]
  simp [Call.Kind.stops, inTurn_nil, List.filter_cons]

theorem mem_inTurn (step : Nat × Call.Kind) (first count : Nat) (kinds : Nat → List Call.Kind) :
    step ∈ inTurn first count kinds ↔
      first ≤ step.1 ∧ step.1 < first + count ∧ step.2 ∈ kinds step.1 := by
  obtain ⟨i, kind⟩ := step
  simp only [inTurn, List.mem_flatMap, List.mem_range'_1, List.mem_map, Prod.mk.injEq]
  constructor
  · rintro ⟨j, ⟨lower, upper⟩, kind', member, rfl, rfl⟩
    exact ⟨lower, upper, member⟩
  · rintro ⟨lower, upper, member⟩
    exact ⟨i, ⟨lower, upper⟩, kind, member, rfl, rfl⟩

/-- Where each stage is waited for as soon as it is aborted, it is waited for before any
stage to its right is aborted. -/
theorem waitsBeforeAbort_inTurn (first count i j : Nat) :
    WaitsBeforeAbort (inTurn first count fun _ => [.abort, .wait]) i j ↔
      first ≤ i ∧ i < j ∧ j < first + count := by
  induction count generalizing first with
  | zero =>
      simp only [WaitsBeforeAbort, inTurn_zero, List.sublist_nil, List.cons_ne_nil, false_iff]
      omega
  | succ count ih =>
      have right : [(j, Call.Kind.abort)].Sublist
          (inTurn (first + 1) count fun _ => [.abort, .wait]) ↔
            first + 1 ≤ j ∧ j < first + 1 + count := by
        simp [mem_inTurn]
      unfold WaitsBeforeAbort at ih ⊢
      simp only [inTurn_succ, List.map_cons, List.map_nil, List.cons_append, List.nil_append,
        List.sublist_cons_iff, ih, List.cons.injEq, Prod.mk.injEq, reduceCtorEq, and_false,
        false_and, exists_false, or_false, and_true]
      constructor
      · rintro (⟨lower, order, upper⟩ | ⟨_, ⟨rfl, rfl⟩, found⟩)
        · omega
        · have := right.1 found
          omega
      · rintro ⟨lower, order, upper⟩
        by_cases here : i = first
        · exact Or.inr ⟨_, ⟨here, rfl⟩, right.2 (by omega)⟩
        · exact Or.inl (by omega)

/-- **No stage is waited for while another still runs only if there is no other.**  When
stage `k` is refused its pipe, a stage is waited for before just those stages to its
right are aborted that have been started.  So every abort comes before the first wait
exactly when at most one stage has been started. -/
theorem waits_before_aborts_iff (contract : Contract S R E C) (freshError : StateM C E)
    (stages : List S) (context : C) (k : Nat) (cause : IoError) (stage : S)
    (refused : ⟨k, .openPipe (.error cause), stage⟩ ∈
      transcript contract freshError stages context) :
    (∀ i j, WaitsBeforeAbort (steps (transcript contract freshError stages context)) i j ↔
      i < j ∧ j < k) ∧
    ((∀ i j, ¬ WaitsBeforeAbort (steps (transcript contract freshError stages context)) i j) ↔
      k ≤ 1) := by
  have order : ∀ i j, WaitsBeforeAbort (steps (transcript contract freshError stages context)) i j ↔
      i < j ∧ j < k := by
    intro i j
    obtain ⟨run, before, first, context', of, rfl, -, -, watched⟩ := watch_of_refused refused
    rw [transcript, watched, run.steps_events of, ← waitsBeforeAbort_filter, filter_brokenProtocol,
      waitsBeforeAbort_inTurn]
    omega
  refine ⟨order, ?_⟩
  simp only [order]
  constructor
  · intro apart
    have := apart 0 1
    omega
  · intro few i j
    omega

/-! ## Poles, in the quiet world -/

/-- Four stages of which the third is refused its pipe. -/
def refusedStages : List Command :=
  [.scripted (.fresh (Quiet.script "first")),
    .scripted (.fresh { Quiet.script "second" with runFailure := some (.io (.os 32)) }),
    .scripted (.fresh { Quiet.script "third" with pipeFailure := some (.os 24) }),
    .scripted (.fresh (Quiet.script "fourth"))]

theorem exists_refused {events : List (Event S R E)} {k : Nat} {cause : IoError}
    (found : ∃ event ∈ events, event.position = k ∧ event.call.refusal? = some cause) :
    ∃ stage, ⟨k, .openPipe (.error cause), stage⟩ ∈ events := by
  obtain ⟨⟨position, call, stage⟩, member, rfl, refusal⟩ := found
  obtain rfl := Call.refusal?_eq_some_iff.1 refusal
  exact ⟨stage, member⟩

theorem refusedStages_refused : ∃ stage, ⟨2, .openPipe (.error (.os 24)), stage⟩ ∈
    transcript Command.contract (pure .standardError) refusedStages Quiet.context :=
  exists_refused (by decide +kernel)

theorem execute_refused_refusedStages :
    ∃ stage, ⟨2, .openPipe (.error (.os 24)), stage⟩ ∈
        transcript Command.contract (pure .standardError) refusedStages Quiet.context ∧
      (execute Command.contract (pure .standardError) refusedStages Quiet.context).1 =
        .error (.pipe (Command.name stage) (.os 24)) ∧
      steps (transcript Command.contract (pure .standardError) refusedStages Quiet.context) =
        [(0, .openPipe), (0, .setError), (0, .run),
          (1, .setInput), (1, .openPipe), (1, .setError), (1, .run),
          (2, .setInput), (2, .openPipe), (2, .release),
          (0, .abort), (0, .wait), (1, .abort), (1, .wait),
          (0, .release), (1, .release), (3, .release)] := by
  obtain ⟨stage, refused⟩ := refusedStages_refused
  have cleaned := (execute_refused Command.contract (pure .standardError) refusedStages
    Quiet.context).1 2 (.os 24) stage refused
  exact ⟨stage, refused, cleaned.2.1, cleaned.2.2.1.trans (by decide)⟩

theorem waits_before_aborts_iff_refusedStages :
    ∃ stage, ⟨2, .openPipe (.error (.os 24)), stage⟩ ∈
        transcript Command.contract (pure .standardError) refusedStages Quiet.context ∧
      ∀ i j, WaitsBeforeAbort
        (steps (transcript Command.contract (pure .standardError) refusedStages Quiet.context)) i j ↔
          i < j ∧ j < 2 := by
  obtain ⟨stage, refused⟩ := refusedStages_refused
  exact ⟨stage, refused, (waits_before_aborts_iff Command.contract (pure .standardError)
    refusedStages Quiet.context 2 (.os 24) stage refused).1⟩

/-- The first stage is waited for while the second, which has been started, still runs. -/
theorem first_waits_while_second_runs :
    (∃ stage, ⟨2, .openPipe (.error (.os 24)), stage⟩ ∈
      transcript Command.contract (pure .standardError) refusedStages Quiet.context) ∧
      WaitsBeforeAbort
        (steps (transcript Command.contract (pure .standardError) refusedStages Quiet.context)) 0 1 :=
  ⟨refusedStages_refused, by unfold WaitsBeforeAbort; decide +kernel⟩

end PipelineShell.Pipeline
