/-
# Proofs.Pipeline.Course -- the two ways in which a run can go

A run either opens every pipe it needs or is refused one.  `watch_cases` says so and
gives the whole transcript of either kind, together with the answer of the run.  The
only freedom left is what the stages answered: a `Start` for each stage that was
started, a `Finale` for the last one, a `Refusal` for the one whose pipe could not be
opened, and a `Stop` for each stage that was aborted.

Each of these records also holds the stages as the calls left them, and `Leads` says
that the calls really take one to the next.
-/
import PipelineShell.Proofs.Pipeline.Transcript

namespace PipelineShell.Pipeline

set_option autoImplicit false

open Stateful

variable {S R E C : Type}

/-- The call takes a stage from `before` to `after`, in some context. -/
def Contract.Takes (contract : Contract S R E C) (before : S) (call : Call R E) (after : S) :
    Prop :=
  match call with
  | .setInput input => ∃ context, (contract.setInput before input context).1 = after
  | .openPipe answer => ∃ context, (contract.openPipe before context).1 = (answer, after)
  | .setError error => ∃ context, (contract.setError before error context).1 = after
  | .run answer => ∃ context, (contract.run before context).1 = (answer, after)
  | .output answer => ∃ context, (contract.output before context).1 = (answer, after)
  | .wait answer => ∃ context, (contract.wait before context).1 = (answer, after)
  | .abort => ∃ context, (contract.abort before context).1 = after
  | .release => before = after

/-- Events that follow from one another, the first of them from `stage`. -/
def Contract.Leads (contract : Contract S R E C) : S → List (Event S R E) → Prop
  | _, [] => True
  | stage, event :: rest =>
      contract.Takes stage event.call event.stage ∧ contract.Leads event.stage rest

/-! ## What the stages answer -/

/-- A stage that is started. -/
structure Start (S R E : Type) where
  connected : S
  piped : S
  /-- The read end that the stage hands out. -/
  reader : R
  bound : S
  error : E
  ran : S
  result : Except ShellError Unit

/-- The last stage of a run. -/
structure Finale (S E : Type) where
  connected : S
  bound : S
  error : E
  produced : Except ShellError Bytes
  collected : S
  ended : Except ShellError ExitCode
  last : S

/-- A stage whose pipe cannot be opened. -/
structure Refusal (S : Type) where
  connected : S
  refused : S
  cause : IoError

/-- A stage that is aborted and waited for. -/
structure Stop (S : Type) where
  aborted : S
  result : Except ShellError ExitCode
  stopped : S

/-- A stage that is waited for. -/
structure Reap (S : Type) where
  result : Except ShellError ExitCode
  reaped : S

/-! ## The transcripts of the parts of a run -/

/-- The event of giving a stage its input, if there is one to be given. -/
def connectEvents (position : Nat) (stage : S) : Option R → List (Event S R E)
  | some input => [⟨position, .setInput input, stage⟩]
  | none => []

def Start.events (position : Nat) (pending : Option R) (start : Start S R E) :
    List (Event S R E) :=
  connectEvents position start.connected pending ++
    [⟨position, .openPipe (.ok start.reader), start.piped⟩,
      ⟨position, .setError start.error, start.bound⟩,
      ⟨position, .run start.result, start.ran⟩]

/-- Stages are started from left to right; each is given the read end that the one
before it handed out. -/
def startEvents : Nat → Option R → List (Start S R E) → List (Event S R E)
  | _, _, [] => []
  | position, pending, start :: rest =>
      start.events position pending ++ startEvents (position + 1) (some start.reader) rest

/-- The read end that awaits the stage after the started ones. -/
def handedOn : Option R → List (Start S R E) → Option R
  | pending, [] => pending
  | _, start :: rest => handedOn (some start.reader) rest

def Finale.events (position : Nat) (pending : Option R) (finale : Finale S E) :
    List (Event S R E) :=
  connectEvents position finale.connected pending ++
    [⟨position, .setError finale.error, finale.bound⟩,
      ⟨position, .output finale.produced, finale.collected⟩,
      ⟨position, .wait finale.ended, finale.last⟩]

def Refusal.events (position : Nat) (pending : Option R) (refusal : Refusal S) :
    List (Event S R E) :=
  connectEvents position refusal.connected pending ++
    [⟨position, .openPipe (.error refusal.cause), refusal.refused⟩,
      ⟨position, .release, refusal.refused⟩]

def stopEvents (position : Nat) (stops : List (Stop S)) : List (Event S R E) :=
  (stops.zipIdx position).flatMap fun (stop, i) =>
    [⟨i, .abort, stop.aborted⟩, ⟨i, .wait stop.result, stop.stopped⟩]

def reapEvents (position : Nat) (reaps : List (Reap S)) : List (Event S R E) :=
  (reaps.zipIdx position).flatMap fun (reap, i) => [⟨i, .wait reap.result, reap.reaped⟩]

def releaseEvents (position : Nat) (stages : List S) : List (Event S R E) :=
  (stages.zipIdx position).flatMap fun (stage, i) => [⟨i, .release, stage⟩]

/-- The failures of the runs of stages. -/
def startErrors (position : Nat) (starts : List (Start S R E)) : List StageError :=
  (starts.zipIdx position).flatMap fun (start, i) => failure i start.result

/-- The failures of waiting for stages. -/
def reapErrors (position : Nat) (reaps : List (Reap S)) : List StageError :=
  (reaps.zipIdx position).flatMap fun (reap, i) => failure i reap.result

/-- A run in which every pipe could be opened. -/
structure Completion (S R E : Type) where
  starts : List (Start S R E)
  finale : Finale S E
  reaps : List (Reap S)

namespace Completion

def events (run : Completion S R E) : List (Event S R E) :=
  startEvents 0 none run.starts ++
    run.finale.events run.starts.length (handedOn none run.starts) ++
    reapEvents 0 run.reaps ++
    releaseEvents 0 (run.reaps.map Reap.reaped) ++
    releaseEvents run.starts.length [run.finale.last]

def outcome (run : Completion S R E) : Outcome :=
  let index := run.starts.length
  { stdout := (outputResult index run.finale.produced).1
    status := statusOf run.finale.ended
    errors := Outcome.inOrder
      (startErrors 0 run.starts ++ (outputResult index run.finale.produced).2 ++
        failure index run.finale.ended ++ reapErrors 0 run.reaps) }

end Completion

/-- A run in which a pipe was refused.  `rest` and `last` were never reached. -/
structure Breakdown (S R E : Type) where
  starts : List (Start S R E)
  refusal : Refusal S
  stops : List (Stop S)
  rest : List S
  last : S

namespace Breakdown

def events (run : Breakdown S R E) : List (Event S R E) :=
  let index := run.starts.length
  startEvents 0 none run.starts ++
    run.refusal.events index (handedOn none run.starts) ++
    stopEvents 0 run.stops ++
    releaseEvents (index + 1) run.rest ++
    releaseEvents 0 (run.stops.map Stop.stopped) ++
    releaseEvents (index + 1 + run.rest.length) [run.last]

end Breakdown

/-- The starts are what becomes of the stages, one after the other. -/
inductive Started (contract : Contract S R E C) :
    Nat → Option R → List S → List (Start S R E) → Prop where
  | nil (position : Nat) (pending : Option R) : Started contract position pending [] []
  | cons {position : Nat} {pending : Option R} {stage : S} {start : Start S R E}
      {stages : List S} {starts : List (Start S R E)}
      (leads : contract.Leads stage (start.events position pending))
      (rest : Started contract (position + 1) (some start.reader) stages starts) :
      Started contract position pending (stage :: stages) (start :: starts)

theorem Started.length_eq {contract : Contract S R E C} {position : Nat} {pending : Option R}
    {stages : List S} {starts : List (Start S R E)}
    (started : Started contract position pending stages starts) :
    starts.length = stages.length := by
  induction started with
  | nil => rfl
  | cons leads rest ih => simp [ih]

theorem handedOn_eq_none (starts : List (Start S R E)) (pending : Option R) :
    handedOn pending starts = none ↔ pending = none ∧ starts = [] := by
  induction starts generalizing pending with
  | nil => simp [handedOn]
  | cons start rest ih => simp [handedOn, ih]

/-- The read end awaits the next stage unless that is the first. -/
theorem handedOn_none_iff (starts : List (Start S R E)) :
    handedOn none starts = none ↔ starts.length = 0 := by
  simp [handedOn_eq_none]

/-- The run is one of these stages. -/
structure Completion.Of (contract : Contract S R E C) (stages : List S)
    (run : Completion S R E) (before : List S) (last : S) : Prop where
  stages_eq : stages = before ++ [last]
  started : Started contract 0 none before run.starts
  finale : contract.Leads last
    (run.finale.events run.starts.length (handedOn none run.starts))
  reaps_length : run.reaps.length = run.starts.length

/-- The run is one of these stages. -/
structure Breakdown.Of (contract : Contract S R E C) (stages : List S)
    (run : Breakdown S R E) (before : List S) (stage : S) : Prop where
  stages_eq : stages = before ++ stage :: run.rest ++ [run.last]
  started : Started contract 0 none before run.starts
  refusal : contract.Leads stage
    (run.refusal.events (E := E) run.starts.length (handedOn none run.starts))
  stops_length : run.stops.length = run.starts.length

theorem Completion.Of.length_eq {contract : Contract S R E C} {stages before : List S} {last : S}
    {run : Completion S R E} (of : run.Of contract stages before last) :
    stages.length = run.starts.length + 1 := by
  rw [of.stages_eq, of.started.length_eq]
  simp

theorem Breakdown.Of.length_eq {contract : Contract S R E C} {stages before : List S} {stage : S}
    {run : Breakdown S R E} (of : run.Of contract stages before stage) :
    stages.length = run.starts.length + 1 + run.rest.length + 1 := by
  rw [of.stages_eq, of.started.length_eq]
  simp
  omega

/-- What holds of a stage, whatever it is given to read, holds when it has been given it. -/
theorem Contract.Leads.connected {contract : Contract S R E C} (holds : S → Prop)
    (kept : ∀ {s : S} (input : R) (context : C),
      holds s → holds (contract.setInput s input context).1)
    {stage after : S} {position : Nat} {pending : Option R} {rest : List (Event S R E)}
    (leads : contract.Leads stage (connectEvents position after pending ++ rest))
    (here : holds stage) : ∃ connected, holds connected ∧ contract.Leads connected rest := by
  cases pending with
  | none => exact ⟨stage, here, leads⟩
  | some input =>
      obtain ⟨⟨context, given⟩, leads⟩ := leads
      obtain rfl : (contract.setInput stage input context).1 = after := given
      exact ⟨_, kept input context here, leads⟩

/-! ## Picking something out of a transcript -/

section Picking

variable {A : Type} {pick : Event S R E → Option A}

@[simp] theorem flatMap_nothing {B : Type} (records : List B) :
    (records.flatMap fun _ => ([] : List A)) = [] :=
  List.flatMap_eq_nil_iff.2 fun _ _ => rfl

theorem filterMap_connectEvents (silent : ∀ i input stage, pick ⟨i, .setInput input, stage⟩ = none)
    (position : Nat) (stage : S) (pending : Option R) :
    (connectEvents position stage pending).filterMap pick = [] := by
  cases pending with
  | none => rfl
  | some input => simp [connectEvents, silent]

theorem filterMap_startEvents (silent : ∀ i input stage, pick ⟨i, .setInput input, stage⟩ = none)
    (position : Nat) (pending : Option R) (starts : List (Start S R E)) :
    (startEvents position pending starts).filterMap pick =
      (starts.zipIdx position).flatMap fun (start, i) =>
        [⟨i, .openPipe (.ok start.reader), start.piped⟩, ⟨i, .setError start.error, start.bound⟩,
          ⟨i, .run start.result, start.ran⟩].filterMap pick := by
  induction starts generalizing position pending with
  | nil => rfl
  | cons start rest ih =>
      rw [startEvents, List.filterMap_append, ih, Start.events, List.filterMap_append,
        filterMap_connectEvents silent]
      rfl

/-- What is picked out of the calls of a completed run, apart from those that give a
stage its input or let go of it. -/
theorem Completion.filterMap_events
    (silent : ∀ i input stage, pick ⟨i, .setInput input, stage⟩ = none)
    (deaf : ∀ i stage, pick ⟨i, .release, stage⟩ = none) (run : Completion S R E) :
    run.events.filterMap pick =
      (run.starts.zipIdx.flatMap fun (start, i) =>
        [⟨i, .openPipe (.ok start.reader), start.piped⟩, ⟨i, .setError start.error, start.bound⟩,
          ⟨i, .run start.result, start.ran⟩].filterMap pick) ++
      [⟨run.starts.length, .setError run.finale.error, run.finale.bound⟩,
        ⟨run.starts.length, .output run.finale.produced, run.finale.collected⟩,
        ⟨run.starts.length, .wait run.finale.ended, run.finale.last⟩].filterMap pick ++
      run.reaps.zipIdx.flatMap fun (reap, i) =>
        [⟨i, .wait reap.result, reap.reaped⟩].filterMap pick := by
  have released : ∀ (position : Nat) (stages : List S),
      (releaseEvents position stages).filterMap pick = [] := by
    intro position stages
    simp [releaseEvents, List.filterMap_flatMap, deaf]
  have reaped : (reapEvents 0 run.reaps).filterMap pick =
      run.reaps.zipIdx.flatMap fun (reap, i) =>
        [⟨i, .wait reap.result, reap.reaped⟩].filterMap pick := List.filterMap_flatMap
  simp only [Completion.events, List.filterMap_append, released, reaped, List.append_nil,
    filterMap_startEvents silent, Finale.events, filterMap_connectEvents silent, List.nil_append]

end Picking

/-! ## One part after the other -/

section Parts

variable (contract : Contract S R E C) (freshError : StateM C E)

theorem connect_watched (stage : S) (position : Nat) (pending : Option R) (context : C)
    (events : List (Event S R E)) :
    connect contract.watched (stage, position) pending (context, events) =
      let after := connect contract stage pending context
      ((after.1, position), (after.2, events ++ connectEvents position after.1 pending)) := by
  cases pending with
  | none => simp [connect, connectEvents, pure_apply]
  | some input => rfl

theorem leads_connect (stage : S) (position : Nat) (pending : Option R) (context : C)
    (rest : List (Event S R E))
    (leads : contract.Leads (connect contract stage pending context).1 rest) :
    contract.Leads stage
      (connectEvents position (connect contract stage pending context).1 pending ++ rest) := by
  cases pending with
  | none => exact leads
  | some input => exact ⟨⟨context, rfl⟩, leads⟩

theorem releaseAll_watched (stages : List S) (position : Nat) (context : C)
    (events : List (Event S R E)) :
    ∃ context', releaseAll contract.watched (stages.zipIdx position) (context, events) =
      ((), (context', events ++ releaseEvents position stages)) := by
  induction stages generalizing position context events with
  | nil => exact ⟨context, by simp [releaseAll, releaseEvents, pure_apply]⟩
  | cons stage rest ih =>
      obtain ⟨context', released⟩ := ih (position + 1) (contract.release stage context).2
        (events ++ [⟨position, .release, stage⟩])
      refine ⟨context', ?_⟩
      simp only [List.zipIdx_cons, releaseAll, bind_apply, watched_release, released]
      simp [releaseEvents, List.zipIdx_cons]

theorem abortAll_watched (stages : List S) (position : Nat) (context : C)
    (events : List (Event S R E)) :
    ∃ (stops : List (Stop S)) (context' : C), stops.length = stages.length ∧
      abortAll contract.watched (stages.zipIdx position) (context, events) =
        ((stops.map Stop.stopped).zipIdx position,
          (context', events ++ stopEvents position stops)) := by
  induction stages generalizing position context events with
  | nil => exact ⟨[], context, rfl, by simp [abortAll, stopEvents, pure_apply]⟩
  | cons stage rest ih =>
      let aborted := contract.abort stage context
      let waited := contract.wait aborted.1 aborted.2
      let stop : Stop S := ⟨aborted.1, waited.1.1, waited.1.2⟩
      obtain ⟨stops, context', length, stopped⟩ := ih (position + 1) waited.2
        (events ++ [⟨position, .abort, stop.aborted⟩] ++
          [⟨position, .wait stop.result, stop.stopped⟩])
      refine ⟨stop :: stops, context', by simp [length], ?_⟩
      simp only [List.zipIdx_cons, abortAll, bind_apply, watched_abort, watched_wait, pure_apply]
      rw [stopped]
      simp [stopEvents, List.zipIdx_cons, stop, waited, aborted]

theorem waitAll_watched (stages : List S) (position : Nat) (context : C)
    (events : List (Event S R E)) :
    ∃ (reaps : List (Reap S)) (context' : C), reaps.length = stages.length ∧
      waitAll contract.watched position (stages.zipIdx position) (context, events) =
        ((reapErrors position reaps, (reaps.map Reap.reaped).zipIdx position),
          (context', events ++ reapEvents position reaps)) := by
  induction stages generalizing position context events with
  | nil => exact ⟨[], context, rfl, by simp [waitAll, reapErrors, reapEvents, pure_apply]⟩
  | cons stage rest ih =>
      let waited := contract.wait stage context
      let reap : Reap S := ⟨waited.1.1, waited.1.2⟩
      obtain ⟨reaps, context', length, reaped⟩ := ih (position + 1) waited.2
        (events ++ [⟨position, .wait reap.result, reap.reaped⟩])
      refine ⟨reap :: reaps, context', by simp [length], ?_⟩
      simp only [List.zipIdx_cons, waitAll, bind_apply, watched_wait, pure_apply]
      rw [reaped]
      simp [reapErrors, reapEvents, List.zipIdx_cons, reap, waited]

/-- **What starting a stage can come to.**  Either the stage is started and the read
end of its pipe awaits the next one, or its pipe is refused; then it is let go, and the
stages before it are aborted. -/
theorem startStage_watched (stage : S) (ran : List S) (errors : List StageError)
    (pending : Option R) (context : C) (events : List (Event S R E)) :
    (∃ (start : Start S R E) (context' : C),
      contract.Leads stage (start.events ran.length pending) ∧
      startStage contract.watched (unnoted freshError) (stage, ran.length)
          ⟨ran.zipIdx, errors, pending⟩ (context, events) =
        (.ok ⟨(ran ++ [start.ran]).zipIdx, errors ++ failure ran.length start.result,
            some start.reader⟩,
          (context', events ++ start.events ran.length pending))) ∨
    (∃ (refusal : Refusal S) (stops : List (Stop S)) (context' : C),
      contract.Leads stage (refusal.events (E := E) ran.length pending) ∧
      stops.length = ran.length ∧
      startStage contract.watched (unnoted freshError) (stage, ran.length)
          ⟨ran.zipIdx, errors, pending⟩ (context, events) =
        (.error (.pipe (contract.name refusal.refused) refusal.cause,
            (stops.map Stop.stopped).zipIdx),
          (context', events ++ refusal.events ran.length pending ++ stopEvents 0 stops))) := by
  rcases connected : connect contract stage pending context with ⟨s₁, c₁⟩
  rcases opened : contract.openPipe s₁ c₁ with ⟨⟨answer, s₂⟩, c₂⟩
  have leads := leads_connect contract stage ran.length pending context
  rw [connected] at leads
  cases answer with
  | ok reader =>
      rcases fresh : freshError c₂ with ⟨error, c₃⟩
      rcases bound : contract.setError s₂ error c₃ with ⟨s₃, c₄⟩
      rcases run : contract.run s₃ c₄ with ⟨⟨result, s₄⟩, c₅⟩
      refine Or.inl ⟨⟨s₁, s₂, reader, s₃, error, s₄, result⟩, c₅, ?_, ?_⟩
      · refine leads _ ⟨⟨c₁, ?_⟩, ⟨c₃, ?_⟩, ⟨c₄, ?_⟩, trivial⟩
        · rw [opened]
        · rw [bound]
        · rw [run]
      · simp only [startStage, bind_apply, connect_watched, connected, watched_openPipe, opened,
          unnoted_apply, fresh, watched_setError, bound, watched_run, run, pure_apply]
        simp [Start.events, List.zipIdx_append]
  | error cause =>
      let refusal : Refusal S := ⟨s₁, s₂, cause⟩
      obtain ⟨stops, c₃, length, stopped⟩ := abortAll_watched contract ran 0
        (contract.release s₂ c₂).2 (events ++ refusal.events ran.length pending)
      refine Or.inr ⟨refusal, stops, c₃, ?_, length, ?_⟩
      · refine leads _ ⟨⟨c₁, ?_⟩, rfl, trivial⟩
        rw [opened]
      · simp only [startStage, bind_apply, connect_watched, connected, watched_openPipe, opened,
          watched_release, pure_apply]
        simp only [Refusal.events, refusal, List.append_assoc, List.cons_append, List.nil_append]
          at stopped ⊢
        rw [stopped]
        rfl

/-- Starting stages from left to right: all of them are started, or one is refused its
pipe and those after it are never reached. -/
theorem startAll_watched (stages ran : List S) (errors : List StageError)
    (pending : Option R) (context : C) (events : List (Event S R E)) :
    (∃ (starts : List (Start S R E)) (context' : C),
      Started contract ran.length pending stages starts ∧
      startAll contract.watched (unnoted freshError) (stages.zipIdx ran.length)
          ⟨ran.zipIdx, errors, pending⟩ (context, events) =
        (.ok ⟨(ran ++ starts.map Start.ran).zipIdx, errors ++ startErrors ran.length starts,
            handedOn pending starts⟩,
          (context', events ++ startEvents ran.length pending starts))) ∨
    (∃ (before : List S) (stage : S) (rest : List S) (starts : List (Start S R E))
        (refusal : Refusal S) (stops : List (Stop S)) (context' : C),
      stages = before ++ stage :: rest ∧
      Started contract ran.length pending before starts ∧
      contract.Leads stage
        (refusal.events (E := E) (ran.length + starts.length) (handedOn pending starts)) ∧
      stops.length = ran.length + starts.length ∧
      startAll contract.watched (unnoted freshError) (stages.zipIdx ran.length)
          ⟨ran.zipIdx, errors, pending⟩ (context, events) =
        (.error (.pipe (contract.name refusal.refused) refusal.cause),
          (context', events ++ startEvents ran.length pending starts ++
            refusal.events (ran.length + starts.length) (handedOn pending starts) ++
            stopEvents 0 stops ++ releaseEvents (ran.length + starts.length + 1) rest ++
            releaseEvents 0 (stops.map Stop.stopped)))) := by
  induction stages generalizing ran errors pending context events with
  | nil =>
      refine Or.inl ⟨[], context, .nil _ _, ?_⟩
      simp [startAll, startErrors, startEvents, handedOn, pure_apply]
  | cons stage rest ih =>
      rcases startStage_watched contract freshError stage ran errors pending context events with
        ⟨start, context₁, leads, equation⟩ | ⟨refusal, stops, context₁, leads, length, equation⟩
      · have next := ih (ran ++ [start.ran]) (errors ++ failure ran.length start.result)
          (some start.reader) context₁ (events ++ start.events ran.length pending)
        simp only [List.length_append, List.length_singleton] at next
        rcases next with ⟨starts, context₂, started, next⟩ |
          ⟨before, refused, rest', starts, refusal, stops, context₂, split, started, leads', length, next⟩
        · refine Or.inl ⟨start :: starts, context₂, .cons leads started, ?_⟩
          simp only [List.zipIdx_cons, startAll, bind_apply, equation, next]
          simp [startErrors, startEvents, handedOn, List.zipIdx_cons]
        · refine Or.inr ⟨stage :: before, refused, rest', start :: starts, refusal, stops, context₂,
            by simp [split], .cons leads started, ?_, ?_, ?_⟩
          · simpa [handedOn, Nat.add_assoc, Nat.add_comm] using leads'
          · simp [length]; omega
          · simp only [List.zipIdx_cons, startAll, bind_apply, equation, next]
            simp [startEvents, handedOn, Nat.add_assoc, Nat.add_comm]
      · obtain ⟨context₂, released⟩ := releaseAll_watched contract rest (ran.length + 1) context₁
          (events ++ refusal.events ran.length pending ++ stopEvents 0 stops)
        obtain ⟨context₃, released'⟩ := releaseAll_watched contract (stops.map Stop.stopped) 0
          context₂ (events ++ refusal.events ran.length pending ++ stopEvents 0 stops ++
            releaseEvents (ran.length + 1) rest)
        refine Or.inr ⟨[], stage, rest, [], refusal, stops, context₃, rfl, .nil _ _, leads,
          by simpa using length, ?_⟩
        simp only [List.zipIdx_cons, startAll, bind_apply, equation, released, released', pure_apply]
        simp [startEvents, handedOn]

/-- The last stage, and then the others, are collected. -/
theorem finish_watched (last : S) (ran : List S) (errors : List StageError)
    (pending : Option R) (context : C) (events : List (Event S R E)) :
    ∃ (finale : Finale S E) (reaps : List (Reap S)) (context' : C),
      contract.Leads last (finale.events ran.length pending) ∧
      reaps.length = ran.length ∧
      finish contract.watched (unnoted freshError) (last, ran.length) ⟨ran.zipIdx, errors, pending⟩
          (context, events) =
        ({ stdout := (outputResult ran.length finale.produced).1
           status := statusOf finale.ended
           errors := Outcome.inOrder
            (errors ++ (outputResult ran.length finale.produced).2 ++
              failure ran.length finale.ended ++ reapErrors 0 reaps) },
          (context', events ++ finale.events ran.length pending ++ reapEvents 0 reaps ++
            releaseEvents 0 (reaps.map Reap.reaped) ++ releaseEvents ran.length [finale.last])) := by
  rcases connected : connect contract last pending context with ⟨s₁, c₁⟩
  rcases fresh : freshError c₁ with ⟨error, c₂⟩
  rcases bound : contract.setError s₁ error c₂ with ⟨s₂, c₃⟩
  rcases collected : contract.output s₂ c₃ with ⟨⟨produced, s₃⟩, c₄⟩
  rcases waited : contract.wait s₃ c₄ with ⟨⟨ended, s₄⟩, c₅⟩
  let finale : Finale S E := ⟨s₁, s₂, error, produced, s₃, ended, s₄⟩
  obtain ⟨reaps, c₆, length, reaped⟩ := waitAll_watched contract ran 0 c₅
    (events ++ finale.events ran.length pending)
  obtain ⟨c₇, released⟩ := releaseAll_watched contract (reaps.map Reap.reaped) 0 c₆
    (events ++ finale.events ran.length pending ++ reapEvents 0 reaps)
  refine ⟨finale, reaps, (contract.release s₄ c₇).2, ?_, length, ?_⟩
  · have leads := leads_connect contract last ran.length pending context
    rw [connected] at leads
    refine leads _ ⟨⟨c₂, ?_⟩, ⟨c₃, ?_⟩, ⟨c₄, ?_⟩, trivial⟩
    · rw [bound]
    · rw [collected]
    · rw [waited]
  · simp only [finish, bind_apply, connect_watched, connected, unnoted_apply, fresh,
      watched_setError, bound, watched_output, collected, watched_wait, waited, pure_apply]
    simp only [Finale.events, finale, List.append_assoc, List.cons_append, List.nil_append]
      at reaped released ⊢
    rw [reaped]
    simp only [released, watched_release, List.length_zipIdx]
    simp [releaseEvents]

end Parts

/-- **The two ways in which a run can go**, an empty pipeline apart. -/
theorem watch_cases (contract : Contract S R E C) (freshError : StateM C E) (stages : List S)
    (context : C) :
    (stages = [] ∧ watch contract freshError stages context = (.error .emptyLine, (context, []))) ∨
    (∃ (run : Completion S R E) (before : List S) (last : S) (context' : C),
      run.Of contract stages before last ∧
      watch contract freshError stages context = (.ok run.outcome, (context', run.events))) ∨
    (∃ (run : Breakdown S R E) (before : List S) (stage : S) (context' : C),
      run.Of contract stages before stage ∧
      watch contract freshError stages context =
        (.error (.pipe (contract.name run.refusal.refused) run.refusal.cause),
          (context', run.events))) := by
  rcases List.eq_nil_or_concat stages with rfl | ⟨before, last, rfl⟩
  · exact Or.inl ⟨rfl, rfl⟩
  · refine Or.inr ?_
    have split : (before ++ [last]).zipIdx = before.zipIdx ++ [(last, before.length)] := by
      simp [List.zipIdx_append]
    rcases startAll_watched contract freshError before [] [] none context [] with
      ⟨starts, context₁, started, equation⟩ |
      ⟨done, stage, rest, starts, refusal, stops, context₁, stages_eq, started, leads, length,
        equation⟩
    · obtain ⟨finale, reaps, context₂, leads, length, finished⟩ :=
        finish_watched contract freshError last (starts.map Start.ran) (startErrors 0 starts)
          (handedOn none starts) context₁ (startEvents 0 none starts)
      simp only [List.length_map] at leads length finished
      refine Or.inl ⟨⟨starts, finale, reaps⟩, before, last, context₂,
        ⟨by simp, started, leads, length⟩, ?_⟩
      simp only [List.length_nil, List.nil_append, List.zipIdx_nil] at equation
      simp only [watch, execute, List.concat_eq_append, split, List.getLast?_concat,
        List.dropLast_concat, bind_apply, equation, map_apply, ← started.length_eq, finished]
      rfl
    · refine Or.inr ⟨⟨starts, refusal, stops, rest, last⟩, done, stage,
        (contract.release last context₁).2, ⟨by simp [stages_eq], started, ?_, ?_⟩, ?_⟩
      · simpa using leads
      · simpa using length
      · simp only [List.length_nil, List.nil_append, List.zipIdx_nil] at equation
        simp only [watch, execute, List.concat_eq_append, split, List.getLast?_concat,
          List.dropLast_concat, bind_apply, equation, then_apply, watched_release, pure_apply]
        have positions : before.length = starts.length + 1 + rest.length := by
          rw [started.length_eq, stages_eq]
          simp
          omega
        simp [Breakdown.events, releaseEvents, positions]

end PipelineShell.Pipeline
