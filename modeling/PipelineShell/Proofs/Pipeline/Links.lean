/-
# Proofs.Pipeline.Links -- which end of which pipe goes to which stage

In a run in which every pipe can be opened, the pipe that is opened for the output of a
stage is the one whose read end the next stage is given, and no other end changes hands
(`Completion.opened_events`, `Completion.given_events`).  The first stage is given nothing
to read, and no pipe is opened for the last.

Error streams are made in the course of the run.  `errorsMade` lists them, from a run that
keeps a tally, and `boundErrors_eq` says that each stage is given one of them, its own.
-/
import PipelineShell.Proofs.Pipeline.Protocol
import PipelineShell.Proofs.Pipeline.Upkeep

namespace PipelineShell.Pipeline

set_option autoImplicit false

open Stateful

variable {S R E C D : Type}

namespace Event

/-- The read end that the call hands out, with the position of the stage whose output goes
into the pipe. -/
def opened? (event : Event S R E) : Option (R × Nat) :=
  event.call.reader?.map (·, event.position)

/-- The read end that the call gives to a stage, with the position of the stage. -/
def given? (event : Event S R E) : Option (R × Nat) :=
  event.call.input?.map (·, event.position)

/-- The error stream that the call gives to a stage, with the position of the stage. -/
def boundError? (event : Event S R E) : Option (E × Nat) :=
  match event.call with
  | .setError error => some (error, event.position)
  | _ => none

end Event

/-! ## Pipes -/

theorem Completion.opened_events (run : Completion S R E) :
    run.events.filterMap Event.opened? = (run.starts.map Start.reader).zipIdx := by
  rw [run.filterMap_events (fun _ _ _ => rfl) (fun _ _ => rfl), List.zipIdx_map]
  simp [List.filterMap_cons, Event.opened?, Call.reader?, ← List.map_eq_flatMap]

/-- Every read end that is handed out is given to the next stage. -/
theorem given_startEvents (starts : List (Start S R E)) (position : Nat) (pending : Option R)
    (next : S) :
    (startEvents position pending starts).filterMap Event.given? ++
        (connectEvents (E := E) (position + starts.length) next
          (handedOn pending starts)).filterMap Event.given? =
      (pending.toList.zipIdx position) ++ (starts.map Start.reader).zipIdx (position + 1) := by
  induction starts generalizing position pending with
  | nil => cases pending <;> rfl
  | cons start rest ih =>
      have next := ih (position + 1) (some start.reader)
      have here : (start.events position pending).filterMap Event.given? =
          pending.toList.zipIdx position := by
        cases pending <;> rfl
      have length : position + (start :: rest).length = position + 1 + rest.length := by
        simp only [List.length_cons]
        omega
      rw [startEvents, List.filterMap_append, here, handedOn, length, List.append_assoc, next]
      rfl

theorem Completion.given_events (run : Completion S R E) :
    run.events.filterMap Event.given? = (run.starts.map Start.reader).zipIdx 1 := by
  have finale : (run.finale.events run.starts.length (handedOn none run.starts)).filterMap
        Event.given? =
      (connectEvents (E := E) run.starts.length run.finale.connected
        (handedOn none run.starts)).filterMap Event.given? := by
    rw [Finale.events, List.filterMap_append]
    exact List.append_nil _
  have reaped : (reapEvents (R := R) (E := E) 0 run.reaps).filterMap Event.given? = [] := by
    simp [reapEvents, List.filterMap_flatMap, List.filterMap_cons, Event.given?, Call.input?]
  have released : ∀ (position : Nat) (stages : List S),
      (releaseEvents (R := R) (E := E) position stages).filterMap Event.given? = [] := by
    intro position stages
    simp [releaseEvents, List.filterMap_flatMap, List.filterMap_cons, Event.given?, Call.input?]
  have links := given_startEvents run.starts 0 none run.finale.connected
  rw [Nat.zero_add] at links
  simp only [Completion.events, List.filterMap_append, finale, reaped, released, List.append_nil]
  exact links

/-! ## Error streams -/

theorem Completion.boundErrors_events (run : Completion S R E) :
    run.events.filterMap Event.boundError? =
      (run.starts.map Start.error ++ [run.finale.error]).zipIdx := by
  rw [run.filterMap_events (fun _ _ _ => rfl) (fun _ _ => rfl), List.zipIdx_append,
    List.zipIdx_map]
  simp [List.filterMap_cons, Event.boundError?, ← List.map_eq_flatMap]

/-- Acts on a context and leaves what is kept beside it alone. -/
def aside {A : Type} (action : StateM C A) : StateM (C × D) A := fun (context, beside) =>
  let (answer, context) := action context
  (answer, (context, beside))

/-- The contract on contexts with something beside them, which no call touches. -/
def Contract.beside (contract : Contract S R E C) (D : Type) : Contract S R E (C × D) where
  name := contract.name
  setInput s input := aside (contract.setInput s input)
  openPipe s := aside (contract.openPipe s)
  setError s error := aside (contract.setError s error)
  run s := aside (contract.run s)
  output s := aside (contract.output s)
  wait s := aside (contract.wait s)
  abort s := aside (contract.abort s)
  release s := aside (contract.release s)

/-- Makes an error stream and adds it to the tally. -/
def tallying (freshError : StateM C E) : StateM (C × List E) E := fun (context, made) =>
  let (error, context) := freshError context
  (error, (context, made ++ [error]))

/-- Runs stages as `execute` does, with a tally of the error streams that are made. -/
def tally (contract : Contract S R E C) (freshError : StateM C E) (stages : List S)
    (context : C) : Except ShellError Outcome × (C × List E) :=
  execute (contract.beside (List E)) (tallying freshError) stages (context, [])

/-- The error streams that a run makes, in order. -/
def errorsMade (contract : Contract S R E C) (freshError : StateM C E) (stages : List S)
    (context : C) : List E :=
  (tally contract freshError stages context).2.2

/-- Under watch, a run with a tally is the run itself. -/
theorem transcript_tally (contract : Contract S R E C) (freshError : StateM C E)
    (stages : List S) (context : C) :
    transcript (contract.beside (List E)) (tallying freshError) stages (context, []) =
      transcript contract freshError stages context := by
  have projects : (contract.beside (List E)).watched.Projects contract.watched id
      fun (context : (C × List E) × List (Event S R E)) => (context.1.1, context.2) :=
    { name := fun _ => rfl
      setInput := fun _ _ _ => rfl
      openPipe := fun _ _ => rfl
      setError := fun _ _ _ => rfl
      run := fun _ _ => rfl
      output := fun _ _ => rfl
      wait := fun _ _ => rfl
      abort := fun _ _ => rfl
      release := fun _ _ => rfl }
  have fresh : Carried (fun (context : (C × List E) × List (Event S R E)) =>
      (context.1.1, context.2)) id (unnoted (tallying freshError)) (unnoted freshError) :=
    fun _ => rfl
  have run := projects.execute fresh stages.zipIdx ((context, []), [])
  rw [List.map_id] at run
  exact (congrArg (·.2.2) run).symm

/-- **Each stage is given an error stream of its own.**  The streams bound in a run are
those that it made, each of them once, in the order of the stages. -/
theorem boundErrors_eq (contract : Contract S R E C) (freshError : StateM C E)
    (stages : List S) (context : C) :
    ((transcript contract freshError stages context).filterMap Event.boundError?).map Prod.fst =
      errorsMade contract freshError stages context := by
  have silent : ∀ (event : Event S R E) (events : List (Event S R E)) (made : List E),
      event.boundError? = none → (events.filterMap Event.boundError?).map Prod.fst = made →
      ((events ++ [event]).filterMap Event.boundError?).map Prod.fst = made := by
    intro event events made other held
    rw [List.filterMap_append, List.filterMap_cons_none other, List.filterMap_nil, List.append_nil,
      held]
  have bound : ∀ (i : Nat) (error : E) (s : S) (events : List (Event S R E)) (made : List E),
      (events.filterMap Event.boundError?).map Prod.fst = made →
      ((events ++ [(⟨i, .setError error, s⟩ : Event S R E)]).filterMap Event.boundError?).map Prod.fst =
        made ++ [error] := by
    intro i error s events made held
    rw [List.filterMap_append, List.map_append, held]
    rfl
  -- Between two calls, what was made is what was bound.
  have keeps : (contract.beside (List E)).watched.Keeps (unnoted (tallying freshError))
      (fun _ => True) (fun _ => True) fun (context : (C × List E) × List (Event S R E)) =>
        (context.2.filterMap Event.boundError?).map Prod.fst = context.1.2 :=
    { setInput := fun _ _ _ ((_, made), events) held => ⟨trivial, silent _ events made rfl held⟩
      openPipe := fun _ _ ((_, made), events) held => ⟨trivial, silent _ events made rfl held⟩
      setError := fun _ _ ((_, made), events) held => ⟨trivial, bound _ _ _ events made held⟩
      run := fun _ _ ((_, made), events) held => ⟨trivial, silent _ events made rfl held⟩
      output := fun _ _ ((_, made), events) held => ⟨trivial, silent _ events made rfl held⟩
      wait := fun _ _ ((_, made), events) held => ⟨trivial, silent _ events made rfl held⟩
      abort := fun _ _ ((_, made), events) held => ⟨trivial, silent _ events made rfl held⟩
      release := fun _ _ ((_, made), events) held => silent _ events made rfl held }
  have kept := keeps.maintains.execute stages.zipIdx (fun _ _ => trivial) ((context, []), []) rfl
  have tallied := watch_forget (contract.beside (List E)) (tallying freshError) stages (context, [])
  rw [← transcript_tally]
  exact kept.trans (congrArg (·.2.2) tallied)

/-! ## The wiring of a run -/

/-- How the stages of a run are wired.  `ends` are the read ends of its pipes, and
`errors` its error streams. -/
structure Wired (events : List (Event S R E)) (ends : List R) (errors : List E) : Prop where
  /-- The pipe at position `i` is opened for the output of stage `i`. -/
  opened : events.filterMap Event.opened? = ends.zipIdx
  /-- It is given to stage `i + 1` to read from. -/
  given : events.filterMap Event.given? = ends.zipIdx 1
  /-- The error stream at position `i` is bound to stage `i`. -/
  bound : events.filterMap Event.boundError? = errors.zipIdx

/-- When a run succeeds, no pipe was refused. -/
theorem opened_of_ok {contract : Contract S R E C} {freshError : StateM C E} {stages : List S}
    {context : C} {outcome : Outcome}
    (succeeds : (execute contract freshError stages context).1 = .ok outcome) :
    ∀ event ∈ transcript contract freshError stages context, event.call.refusal? = none := by
  rw [← refusals_eq_nil_iff, transcript]
  rw [← watch_forget] at succeeds
  rcases watch_cases contract freshError stages context with
    ⟨-, watched⟩ | ⟨run, before, last, context', -, watched⟩ |
    ⟨run, before, stage, context', -, watched⟩
  · rw [watched]
    rfl
  · rw [watched]
    exact run.refusals_events
  · rw [watched] at succeeds
    cases succeeds

/-- **The wiring of a run in which every pipe can be opened**: there is a pipe between any
two neighbours, and an error stream for each stage. -/
theorem wired_of_opened (contract : Contract S R E C) (freshError : StateM C E)
    (stages : List S) (context : C) (nonempty : stages ≠ [])
    (opened : ∀ event ∈ transcript contract freshError stages context,
      event.call.refusal? = none) :
    ∃ ends : List R,
      Wired (transcript contract freshError stages context) ends
        (errorsMade contract freshError stages context) ∧
      ends.length + 1 = stages.length ∧
      (errorsMade contract freshError stages context).length = stages.length := by
  obtain ⟨run, before, last, context', of, watched⟩ := watch_of_opened nonempty opened
  have calls : transcript contract freshError stages context = run.events := by
    rw [transcript, watched]
  have made : errorsMade contract freshError stages context =
      run.starts.map Start.error ++ [run.finale.error] := by
    rw [← boundErrors_eq, calls, run.boundErrors_events, List.zipIdx_map_fst]
  refine ⟨run.starts.map Start.reader, ⟨?_, ?_, ?_⟩, ?_, ?_⟩
  · rw [calls, run.opened_events]
  · rw [calls, run.given_events]
  · rw [calls, run.boundErrors_events, made]
  · rw [List.length_map, of.length_eq]
  · rw [made, of.length_eq]
    simp

end PipelineShell.Pipeline
