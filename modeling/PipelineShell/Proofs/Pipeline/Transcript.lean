/-
# Proofs.Pipeline.Transcript -- a pipeline under watch

`execute` knows stages only by the calls of a `Contract`.  `Contract.watched` is the
same contract with a record kept: every call that a stage answers is written down
as an `Event`, with what went in, what came out, and the stage as the call left it.
The `transcript` of a run is what stands there at its end.

The record changes nothing: `watch_forget` says that a watched run is the run
itself with the transcript beside it.
-/
import PipelineShell.Pipeline.Execution
import PipelineShell.Proofs.Stateful

namespace PipelineShell.Pipeline

set_option autoImplicit false

open Stateful

/-- A call on a stage: what went in, and what came out.  To let go of a stage counts
as a call. -/
inductive Call (R E : Type) where
  | setInput (input : R)
  | openPipe (answer : Except IoError R)
  | setError (error : E)
  | run (answer : Except ShellError Unit)
  | output (answer : Except ShellError Bytes)
  | wait (answer : Except ShellError ExitCode)
  | abort
  | release

/-- Which call it is. -/
inductive Call.Kind where
  | setInput
  | openPipe
  | setError
  | run
  | output
  | wait
  | abort
  | release
  deriving DecidableEq, Repr

/-- One call in the course of a run. -/
structure Event (S R E : Type) where
  /-- The position of the stage in the pipeline, from the left. -/
  position : Nat
  call : Call R E
  /-- The stage as the call left it, or the stage that was let go. -/
  stage : S

variable {S S' R E C C' : Type}

namespace Call

def kind : Call R E → Kind
  | .setInput _ => .setInput
  | .openPipe _ => .openPipe
  | .setError _ => .setError
  | .run _ => .run
  | .output _ => .output
  | .wait _ => .wait
  | .abort => .abort
  | .release => .release

/-- Why a pipe could not be opened, if the call is a failed attempt to. -/
def refusal? : Call R E → Option IoError
  | .openPipe (.error cause) => some cause
  | _ => none

/-- The read end that the call gives to a stage. -/
def input? : Call R E → Option R
  | .setInput input => some input
  | _ => none

/-- The read end that the call hands out. -/
def reader? : Call R E → Option R
  | .openPipe (.ok reader) => some reader
  | _ => none

theorem refusal?_eq_some_iff {call : Call R E} {cause : IoError} :
    call.refusal? = some cause ↔ call = .openPipe (.error cause) := by
  cases call with
  | openPipe answer => cases answer <;> simp [refusal?]
  | _ => simp [refusal?]

end Call

/-- Which call was made on which stage, without what went in and came out. -/
def Event.step (event : Event S R E) : Nat × Call.Kind := (event.position, event.call.kind)

/-! ## The watched contract -/

/-- Makes a call on a stage and writes it down. -/
def noting {α : Type} (call : α → Call R E) (action : S → StateM C (α × S)) :
    S × Nat → StateM (C × List (Event S R E)) (α × (S × Nat)) :=
  fun (stage, position) (context, events) =>
    let ((answer, after), context) := action stage context
    ((answer, (after, position)), (context, events ++ [⟨position, call answer, after⟩]))

/-- Makes a call that answers nothing and writes it down. -/
def marking (call : Call R E) (action : S → StateM C S) :
    S × Nat → StateM (C × List (Event S R E)) (S × Nat) :=
  fun (stage, position) (context, events) =>
    let (after, context) := action stage context
    ((after, position), (context, events ++ [⟨position, call, after⟩]))

/-- Acts without writing anything down. -/
def unnoted {α : Type} (action : StateM C α) : StateM (C × List (Event S R E)) α :=
  fun (context, events) =>
    let (answer, context) := action context
    (answer, (context, events))

/-- The contract with a record of its calls.  A stage goes with its position. -/
def Contract.watched (contract : Contract S R E C) :
    Contract (S × Nat) R E (C × List (Event S R E)) where
  name stage := contract.name stage.1
  setInput stage input := marking (.setInput input) (contract.setInput · input) stage
  openPipe := noting .openPipe contract.openPipe
  setError stage error := marking (.setError error) (contract.setError · error) stage
  run := noting .run contract.run
  output := noting .output contract.output
  wait := noting .wait contract.wait
  abort := marking .abort contract.abort
  release stage := (fun _ => ()) <$> marking .release (fun s => (fun _ => s) <$> contract.release s) stage

section Watched

variable (contract : Contract S R E C) (stage : S) (position : Nat) (context : C)
  (events : List (Event S R E))

@[simp] theorem watched_openPipe :
    contract.watched.openPipe (stage, position) (context, events) =
      let after := contract.openPipe stage context
      ((after.1.1, (after.1.2, position)),
        (after.2, events ++ [⟨position, .openPipe after.1.1, after.1.2⟩])) := rfl

@[simp] theorem watched_setError (error : E) :
    contract.watched.setError (stage, position) error (context, events) =
      let after := contract.setError stage error context
      ((after.1, position), (after.2, events ++ [⟨position, .setError error, after.1⟩])) := rfl

@[simp] theorem watched_run :
    contract.watched.run (stage, position) (context, events) =
      let after := contract.run stage context
      ((after.1.1, (after.1.2, position)),
        (after.2, events ++ [⟨position, .run after.1.1, after.1.2⟩])) := rfl

@[simp] theorem watched_output :
    contract.watched.output (stage, position) (context, events) =
      let after := contract.output stage context
      ((after.1.1, (after.1.2, position)),
        (after.2, events ++ [⟨position, .output after.1.1, after.1.2⟩])) := rfl

@[simp] theorem watched_wait :
    contract.watched.wait (stage, position) (context, events) =
      let after := contract.wait stage context
      ((after.1.1, (after.1.2, position)),
        (after.2, events ++ [⟨position, .wait after.1.1, after.1.2⟩])) := rfl

@[simp] theorem watched_abort :
    contract.watched.abort (stage, position) (context, events) =
      let after := contract.abort stage context
      ((after.1, position), (after.2, events ++ [⟨position, .abort, after.1⟩])) := rfl

@[simp] theorem watched_release :
    contract.watched.release (stage, position) (context, events) =
      ((), ((contract.release stage context).2, events ++ [⟨position, .release, stage⟩])) := rfl

@[simp] theorem unnoted_apply {α : Type} (action : StateM C α) :
    unnoted action (context, events) = ((action context).1, ((action context).2, events)) := rfl

end Watched

/-- Runs stages as `execute` does, with a record. -/
def watch (contract : Contract S R E C) (freshError : StateM C E) (stages : List S)
    (context : C) : Except ShellError Outcome × (C × List (Event S R E)) :=
  execute contract.watched (unnoted freshError) stages.zipIdx (context, [])

/-- The calls that a run makes, in order. -/
def transcript (contract : Contract S R E C) (freshError : StateM C E) (stages : List S)
    (context : C) : List (Event S R E) :=
  (watch contract freshError stages context).2.2

/-! ## Projections of contracts -/

/-- Every call of `source` is seen as the same call of `target`, when stages and
contexts are seen through `stage` and `view`. -/
structure Contract.Projects (source : Contract S R E C) (target : Contract S' R E C')
    (stage : S → S') (view : C → C') : Prop where
  name : ∀ s, target.name (stage s) = source.name s
  setInput : ∀ s r, Carried view stage (source.setInput s r) (target.setInput (stage s) r)
  openPipe : ∀ s, Carried view (Prod.map id stage) (source.openPipe s) (target.openPipe (stage s))
  setError : ∀ s e, Carried view stage (source.setError s e) (target.setError (stage s) e)
  run : ∀ s, Carried view (Prod.map id stage) (source.run s) (target.run (stage s))
  output : ∀ s, Carried view (Prod.map id stage) (source.output s) (target.output (stage s))
  wait : ∀ s, Carried view (Prod.map id stage) (source.wait s) (target.wait (stage s))
  abort : ∀ s, Carried view stage (source.abort s) (target.abort (stage s))
  release : ∀ s, Carried view id (source.release s) (target.release (stage s))

/-- Progress with every stage seen through a map. -/
def Progress.map (stage : S → S') (progress : Progress S R) : Progress S' R :=
  ⟨progress.started.map stage, progress.errors, progress.pending⟩

/-- What comes of starting a stage, with every stage seen through a map. -/
def Progress.mapAnswer (stage : S → S') :
    Except (ShellError × List S) (Progress S R) → Except (ShellError × List S') (Progress S' R)
  | .error (fault, stopped) => .error (fault, stopped.map stage)
  | .ok progress => .ok (progress.map stage)

namespace Contract.Projects

variable {source : Contract S R E C} {target : Contract S' R E C'} {stage : S → S'}
  {view : C → C'} {freshError : StateM C E} {freshError' : StateM C' E}

theorem connect (projects : source.Projects target stage view) (s : S) (pending : Option R) :
    Carried view stage (Pipeline.connect source s pending)
      (Pipeline.connect target (stage s) pending) := by
  cases pending with
  | none => exact .pure _ s
  | some input => exact projects.setInput s input

theorem releaseAll (projects : source.Projects target stage view) (stages : List S) :
    Carried view id (Pipeline.releaseAll source stages)
      (Pipeline.releaseAll target (stages.map stage)) := by
  induction stages with
  | nil => exact .pure _ ()
  | cons s rest ih => exact (projects.release s).bind fun _ => ih

theorem abortAll (projects : source.Projects target stage view) (stages : List S) :
    Carried view (List.map stage) (Pipeline.abortAll source stages)
      (Pipeline.abortAll target (stages.map stage)) := by
  induction stages with
  | nil => exact .pure _ []
  | cons s rest ih =>
      exact (projects.abort s).bind fun s => (projects.wait s).bind fun (_, s) =>
        ih.bind fun rest => .pure _ (s :: rest)

theorem waitAll (projects : source.Projects target stage view) (index : Nat) (stages : List S) :
    Carried view (Prod.map id (List.map stage)) (Pipeline.waitAll source index stages)
      (Pipeline.waitAll target index (stages.map stage)) := by
  induction stages generalizing index with
  | nil => exact .pure _ ([], [])
  | cons s rest ih =>
      exact (projects.wait s).bind fun (result, s) => (ih (index + 1)).bind fun (errors, rest) =>
        .pure _ (failure index result ++ errors, s :: rest)

theorem startStage (projects : source.Projects target stage view)
    (fresh : Carried view id freshError freshError') (s : S) (progress : Progress S R) :
    Carried view (Progress.mapAnswer stage) (Pipeline.startStage source freshError s progress)
      (Pipeline.startStage target freshError' (stage s) (progress.map stage)) := by
  refine (projects.connect s progress.pending).bind fun s => ?_
  refine (projects.openPipe s).bind fun (answer, s) => ?_
  cases answer with
  | error cause =>
      refine (projects.release s).bind fun _ => ?_
      refine (projects.abortAll progress.started).bind fun stopped => ?_
      rw [projects.name]
      exact .pure (Progress.mapAnswer stage) (.error (.pipe (source.name s) cause, stopped))
  | ok reader =>
      refine fresh.bind fun error => ?_
      refine (projects.setError s error).bind fun s => ?_
      refine (projects.run s).bind fun (result, s) => ?_
      intro context
      simp [pure_apply, Progress.mapAnswer, Progress.map]

theorem startAll (projects : source.Projects target stage view)
    (fresh : Carried view id freshError freshError') (stages : List S) (progress : Progress S R) :
    Carried view (Except.map (Progress.map stage))
      (Pipeline.startAll source freshError stages progress)
      (Pipeline.startAll target freshError' (stages.map stage) (progress.map stage)) := by
  induction stages generalizing progress with
  | nil => exact .pure (Except.map (Progress.map stage)) (.ok progress)
  | cons s rest ih =>
      refine (projects.startStage fresh s progress).bind fun answer => ?_
      cases answer with
      | error refused =>
          refine (projects.releaseAll rest).bind fun _ => ?_
          refine (projects.releaseAll refused.2).bind fun _ => ?_
          exact .pure (Except.map (Progress.map stage)) (.error refused.1)
      | ok progress => exact ih progress

theorem finish (projects : source.Projects target stage view)
    (fresh : Carried view id freshError freshError') (last : S) (progress : Progress S R) :
    Carried view id (Pipeline.finish source freshError last progress)
      (Pipeline.finish target freshError' (stage last) (progress.map stage)) := by
  refine (projects.connect last progress.pending).bind fun last => ?_
  refine fresh.bind fun error => ?_
  refine (projects.setError last error).bind fun last => ?_
  refine (projects.output last).bind fun (produced, last) => ?_
  refine (projects.wait last).bind fun (ended, last) => ?_
  refine (projects.waitAll 0 progress.started).bind fun (errors, started) => ?_
  refine (projects.releaseAll started).bind fun _ => ?_
  refine (projects.release last).bind fun _ => ?_
  intro context
  simp [pure_apply, Progress.map]

/-- **A run seen through a projection is the run of what is seen.** -/
theorem execute (projects : source.Projects target stage view)
    (fresh : Carried view id freshError freshError') (stages : List S) :
    Carried view id (Pipeline.execute source freshError stages)
      (Pipeline.execute target freshError' (stages.map stage)) := by
  unfold Pipeline.execute
  rw [List.getLast?_map]
  cases stages.getLast? with
  | none => exact .pure _ _
  | some last =>
      simp only [Option.map_some, ← List.map_dropLast]
      refine (projects.startAll fresh stages.dropLast ⟨[], [], none⟩).bind fun answer => ?_
      cases answer with
      | error fault => exact (projects.release last).bind fun _ => .pure _ _
      | ok progress => exact (projects.finish fresh last progress).map fun _ => rfl

end Contract.Projects

/-! ## The record changes nothing -/

theorem Contract.watched_projects (contract : Contract S R E C) :
    contract.watched.Projects contract Prod.fst Prod.fst where
  name _ := rfl
  setInput _ _ _ := rfl
  openPipe _ _ := rfl
  setError _ _ _ := rfl
  run _ _ := rfl
  output _ _ := rfl
  wait _ _ := rfl
  abort _ _ := rfl
  release _ _ := rfl

/-- **A watched run is the run itself**, with a record beside it. -/
theorem watch_forget (contract : Contract S R E C) (freshError : StateM C E) (stages : List S)
    (context : C) :
    ((watch contract freshError stages context).1, (watch contract freshError stages context).2.1) =
      execute contract freshError stages context := by
  have fresh : Carried Prod.fst id (@unnoted S R E C E freshError) freshError := fun _ => rfl
  have run := contract.watched_projects.execute fresh stages.zipIdx (context, [])
  rw [List.zipIdx_map_fst] at run
  exact run.symm

end PipelineShell.Pipeline
