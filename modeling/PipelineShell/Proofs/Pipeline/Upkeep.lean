/-
# Proofs.Pipeline.Upkeep -- what every call keeps, a run keeps

An invariant of a run is shown call by call.  `Contract.Maintains` lists what there is to
show: a property `holds` of contexts is kept by every call on a stage of which that call
can be expected, `fit` being said of the stages that await their work, `piped` of those for
whose output a pipe was opened, and `spent` of those that have done their work.  From this,
`Contract.Maintains.execute` says that a whole run keeps it.

Where it makes no difference to a stage that a pipe was opened for it, `Contract.Keeps` is
enough.
-/
import PipelineShell.Pipeline.Execution
import PipelineShell.Proofs.Stateful

namespace PipelineShell.Pipeline

set_option autoImplicit false

open Stateful

variable {S R E C : Type}

/-- Every call keeps up a property of contexts, and the standing of the stage it is made
on: a stage is fit until it is run or asked for its output, and then it is spent. -/
structure Contract.Keeps (contract : Contract S R E C) (freshError : StateM C E)
    (fit spent : S → Prop) (holds : C → Prop) : Prop where
  setInput : ∀ s input, fit s →
    Ensures holds (contract.setInput s input) fun s' c => fit s' ∧ holds c
  openPipe : ∀ s, fit s → Ensures holds (contract.openPipe s) fun answer c => fit answer.2 ∧ holds c
  /-- An error stream is made for the stage and bound at once. -/
  setError : ∀ s, fit s → Ensures holds freshError fun error c =>
    fit (contract.setError s error c).1 ∧ holds (contract.setError s error c).2
  run : ∀ s, fit s → Ensures holds (contract.run s) fun answer c => spent answer.2 ∧ holds c
  output : ∀ s, fit s → Ensures holds (contract.output s) fun answer c => spent answer.2 ∧ holds c
  wait : ∀ s, spent s → Ensures holds (contract.wait s) fun answer c => spent answer.2 ∧ holds c
  abort : ∀ s, spent s → Ensures holds (contract.abort s) fun s' c => spent s' ∧ holds c
  release : ∀ s, fit s ∨ spent s → Ensures holds (contract.release s) fun _ c => holds c

/-- The same, with more known of a stage that is run: a pipe was opened for it. -/
structure Contract.Maintains (contract : Contract S R E C) (freshError : StateM C E)
    (fit piped spent : S → Prop) (holds : C → Prop) : Prop where
  setInput : ∀ s input, fit s →
    Ensures holds (contract.setInput s input) fun s' c => fit s' ∧ holds c
  openPipe : ∀ s, fit s → Ensures holds (contract.openPipe s) fun answer c =>
    (∀ reader, answer.1 = .ok reader → piped answer.2) ∧
    (∀ cause, answer.1 = .error cause → fit answer.2) ∧ holds c
  /-- An error stream is made and bound for a stage that is run. -/
  run : ∀ s, piped s →
    Ensures holds (freshError >>= fun error => contract.setError s error >>= contract.run)
      fun answer c => spent answer.2 ∧ holds c
  /-- And so it is for one whose output is collected. -/
  output : ∀ s, fit s →
    Ensures holds (freshError >>= fun error => contract.setError s error >>= contract.output)
      fun answer c => spent answer.2 ∧ holds c
  wait : ∀ s, spent s → Ensures holds (contract.wait s) fun answer c => spent answer.2 ∧ holds c
  abort : ∀ s, spent s → Ensures holds (contract.abort s) fun s' c => spent s' ∧ holds c
  release : ∀ s, fit s ∨ spent s → Ensures holds (contract.release s) fun _ c => holds c

namespace Contract.Maintains

variable {contract : Contract S R E C} {freshError : StateM C E} {fit piped spent : S → Prop}
  {holds : C → Prop} (maintains : contract.Maintains freshError fit piped spent holds)

/-- To make an error stream and bind it, to call the stage, and then to go on. -/
theorem bindError {s : S} {A B : Type} {call : S → StateM C (B × S)} {next : B × S → StateM C A}
    {after : A → C → Prop}
    (called : Ensures holds (freshError >>= fun error => contract.setError s error >>= call)
      fun answer c => spent answer.2 ∧ holds c)
    (then_ : ∀ answer, spent answer.2 → Ensures holds (next answer) after) :
    Ensures holds (freshError >>= fun error =>
      contract.setError s error >>= fun bound => call bound >>= next) after := by
  intro context held
  obtain ⟨done, held⟩ := called context held
  exact then_ _ done _ held

include maintains

theorem connect (s : S) (able : fit s) (pending : Option R) :
    Ensures holds (Pipeline.connect contract s pending) fun s' c => fit s' ∧ holds c := by
  cases pending with
  | none => exact .pure fun _ held => ⟨able, held⟩
  | some input => exact maintains.setInput s input able

theorem releaseAll (stages : List S) (known : ∀ s ∈ stages, fit s ∨ spent s) :
    Ensures holds (Pipeline.releaseAll contract stages) fun _ c => holds c := by
  induction stages with
  | nil => exact .pure fun _ held => held
  | cons s rest ih =>
      obtain ⟨here, later⟩ := List.forall_mem_cons.1 known
      exact (maintains.release s here).bind fun _ => ih later

theorem abortAll (stages : List S) (done : ∀ s ∈ stages, spent s) :
    Ensures holds (Pipeline.abortAll contract stages)
      fun stopped c => (∀ s ∈ stopped, spent s) ∧ holds c := by
  induction stages with
  | nil => exact .pure fun _ held => ⟨by simp, held⟩
  | cons s rest ih =>
      obtain ⟨here, later⟩ := List.forall_mem_cons.1 done
      refine (maintains.abort s here).bind fun aborted => .of_and fun here => ?_
      refine (maintains.wait aborted here).bind fun (_, waited) => .of_and fun here => ?_
      refine (ih later).bind fun stopped => .of_and fun later => ?_
      exact .pure fun _ held => ⟨List.forall_mem_cons.2 ⟨here, later⟩, held⟩

theorem waitAll (index : Nat) (stages : List S) (done : ∀ s ∈ stages, spent s) :
    Ensures holds (Pipeline.waitAll contract index stages)
      fun answer c => (∀ s ∈ answer.2, spent s) ∧ holds c := by
  induction stages generalizing index with
  | nil => exact .pure fun _ held => ⟨by simp, held⟩
  | cons s rest ih =>
      obtain ⟨here, later⟩ := List.forall_mem_cons.1 done
      refine (maintains.wait s here).bind fun (_, waited) => .of_and fun here => ?_
      refine (ih (index + 1) later).bind fun (_, rest) => .of_and fun later => ?_
      exact .pure fun _ held => ⟨List.forall_mem_cons.2 ⟨here, later⟩, held⟩

theorem startStage (s : S) (able : fit s) (progress : Progress S R)
    (done : ∀ s ∈ progress.started, spent s) :
    Ensures holds (Pipeline.startStage contract freshError s progress) fun answer c =>
      (∀ refused, answer = .error refused → ∀ s ∈ refused.2, spent s) ∧
      (∀ next, answer = .ok next → ∀ s ∈ next.started, spent s) ∧ holds c := by
  refine (maintains.connect s able progress.pending).bind fun connected => .of_and fun able => ?_
  refine (maintains.openPipe connected able).bind fun (answer, opened) =>
    .of_and fun ready => .of_and fun refused => ?_
  cases answer with
  | error cause =>
      refine (maintains.release opened (Or.inl (refused cause rfl))).bind fun _ => ?_
      refine (maintains.abortAll progress.started done).bind fun stopped => .of_and fun done => ?_
      refine .pure fun _ held => ⟨fun refused same => ?_, fun _ impossible => ?_, held⟩
      · cases same
        exact done
      · cases impossible
  | ok reader =>
      refine bindError (maintains.run opened (ready reader rfl)) fun (result, ran) here => ?_
      refine .pure fun _ held => ⟨fun _ impossible => ?_, fun next same => ?_, held⟩
      · cases impossible
      · cases same
        simpa [or_imp, forall_and] using ⟨done, here⟩

theorem startAll (stages : List S) (able : ∀ s ∈ stages, fit s) (progress : Progress S R)
    (done : ∀ s ∈ progress.started, spent s) :
    Ensures holds (Pipeline.startAll contract freshError stages progress) fun answer c =>
      (∀ next, answer = .ok next → ∀ s ∈ next.started, spent s) ∧ holds c := by
  induction stages generalizing progress with
  | nil =>
      refine .pure fun _ held => ⟨fun next same => ?_, held⟩
      cases same
      exact done
  | cons s rest ih =>
      obtain ⟨here, later⟩ := List.forall_mem_cons.1 able
      refine (maintains.startStage s here progress done).bind fun answer => ?_
      cases answer with
      | error refused =>
          refine .of_and fun stopped => .of_and fun _ => ?_
          refine (maintains.releaseAll rest fun s member =>
            Or.inl (later s member)).bind fun _ => ?_
          refine (maintains.releaseAll refused.2 fun s member =>
            Or.inr (stopped refused rfl s member)).bind fun _ => ?_
          refine .pure fun _ held => ⟨fun _ impossible => ?_, held⟩
          cases impossible
      | ok next => exact .of_and fun _ => .of_and fun done => ih later next (done next rfl)

theorem finish (last : S) (able : fit last) (progress : Progress S R)
    (done : ∀ s ∈ progress.started, spent s) :
    Ensures holds (Pipeline.finish contract freshError last progress) fun _ c => holds c := by
  refine (maintains.connect last able progress.pending).bind fun connected =>
    .of_and fun able => ?_
  refine bindError (maintains.output connected able) fun (produced, collected) here => ?_
  refine (maintains.wait collected here).bind fun (ended, last) => .of_and fun here => ?_
  refine (maintains.waitAll 0 progress.started done).bind fun (errors, reaped) =>
    .of_and fun done => ?_
  refine (maintains.releaseAll reaped fun s member => Or.inr (done s member)).bind fun _ => ?_
  refine (maintains.release last (Or.inr here)).bind fun _ => ?_
  exact .pure fun _ held => held

/-- **What every call keeps, a run keeps.** -/
theorem execute (stages : List S) (able : ∀ s ∈ stages, fit s) :
    Ensures holds (Pipeline.execute contract freshError stages) fun _ c => holds c := by
  unfold Pipeline.execute
  cases ends : stages.getLast? with
  | none => exact .pure fun _ held => held
  | some last =>
      have lastAble : fit last := able last (List.mem_of_getLast? ends)
      have earlier : ∀ s ∈ stages.dropLast, fit s := fun s member =>
        able s ((List.dropLast_sublist stages).subset member)
      refine (maintains.startAll stages.dropLast earlier ⟨[], [], none⟩ (by simp)).bind
        fun answer => ?_
      cases answer with
      | error fault => exact .of_and fun _ => maintains.release last (Or.inl lastAble)
      | ok progress =>
          exact .of_and fun done =>
            (maintains.finish last lastAble progress (done progress rfl)).map

end Contract.Maintains

namespace Contract.Keeps

variable {contract : Contract S R E C} {freshError : StateM C E} {fit spent : S → Prop}
  {holds : C → Prop} (keeps : contract.Keeps freshError fit spent holds)
include keeps

/-- A stage that is bound to its error stream is fit to be called. -/
theorem bindError {A : Type} {call : S → StateM C A} {after : A → C → Prop}
    (calls : ∀ s, fit s → Ensures holds (call s) after) (s : S) (able : fit s) :
    Ensures holds (freshError >>= fun error => contract.setError s error >>= call) after := by
  intro context held
  obtain ⟨able, held⟩ := keeps.setError s able context held
  exact calls _ able _ held

theorem maintains : contract.Maintains freshError fit fit spent holds where
  setInput := keeps.setInput
  openPipe s able context held :=
    have opened := keeps.openPipe s able context held
    ⟨fun _ _ => opened.1, fun _ _ => opened.1, opened.2⟩
  run := keeps.bindError keeps.run
  output := keeps.bindError keeps.output
  wait := keeps.wait
  abort := keeps.abort
  release := keeps.release

end Contract.Keeps

end PipelineShell.Pipeline
