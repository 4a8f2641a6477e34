/-
# Proofs.Pipeline.Answers -- the outcome of a run is made of what its stages answered

When every pipe can be opened, the outcome of a run depends on nothing but the answers
of the stages to `run`, `output` and `wait` (`execute_outcome`).  `Answers` holds them,
and `Answers.In` says that they are the answers a transcript shows.

The failures of a run are found in another order than the one they are reported in: all
the runs come first, then the last stage, then the waits of the others.  Sorting repairs
this, since it keeps the order within a stage (`ofStage_inOrder`) and a list in the order
of its stages is known from what it holds of each (`eq_of_ofStage`).
-/
import Mathlib.Control.Monad.Basic
import PipelineShell.Proofs.Pipeline.Protocol

namespace PipelineShell.Pipeline

set_option autoImplicit false

variable {S R E C : Type}

/-! ## Failures in the order of their stages -/

/-- The failures of one stage. -/
def ofStage (i : Nat) (errors : List StageError) : List StageError :=
  errors.filter fun error => error.stage = i

@[simp] theorem ofStage_append (i : Nat) (l₁ l₂ : List StageError) :
    ofStage i (l₁ ++ l₂) = ofStage i l₁ ++ ofStage i l₂ := List.filter_append ..

/-- The failures stand in the order of their stages. -/
def Ordered (errors : List StageError) : Prop :=
  errors.Pairwise fun a b => a.stage ≤ b.stage

/-- The order by stages, as the sorting knows it, is transitive and total. -/
theorem stage_le_trans (a b c : StageError) :
    decide (a.stage ≤ b.stage) → decide (b.stage ≤ c.stage) → decide (a.stage ≤ c.stage) := by
  simpa using Nat.le_trans

theorem stage_le_total (a b : StageError) :
    decide (a.stage ≤ b.stage) || decide (b.stage ≤ a.stage) := by
  simpa using Nat.le_total a.stage b.stage

theorem ordered_inOrder (errors : List StageError) : Ordered (Outcome.inOrder errors) :=
  (List.pairwise_mergeSort stage_le_trans stage_le_total errors).imp of_decide_eq_true

/-- Sorting keeps the order within a stage. -/
theorem ofStage_inOrder (i : Nat) (errors : List StageError) :
    ofStage i (Outcome.inOrder errors) = ofStage i errors := by
  have alike : (ofStage i errors).Pairwise fun a b => decide (a.stage ≤ b.stage) := by
    refine List.pairwise_of_forall_mem_list fun a ha b hb => ?_
    have sameA := of_decide_eq_true (List.mem_filter.1 ha).2
    have sameB := of_decide_eq_true (List.mem_filter.1 hb).2
    exact decide_eq_true (by omega)
  have kept : (ofStage i errors).Sublist (Outcome.inOrder errors) :=
    List.sublist_mergeSort stage_le_trans stage_le_total alike List.filter_sublist
  have within : (ofStage i errors).Sublist (ofStage i (Outcome.inOrder errors)) := by
    have filtered := kept.filter fun error => error.stage = i
    simpa only [ofStage, List.filter_filter, Bool.and_self] using filtered
  refine (within.eq_of_length ?_).symm
  exact ((List.mergeSort_perm errors _).filter _).length_eq.symm

/-- A list in the order of its stages is known from what it holds of each. -/
theorem eq_of_ofStage {l₁ l₂ : List StageError} (ordered₁ : Ordered l₁) (ordered₂ : Ordered l₂)
    (same : ∀ i, ofStage i l₁ = ofStage i l₂) : l₁ = l₂ := by
  induction l₁ generalizing l₂ with
  | nil =>
      cases l₂ with
      | nil => rfl
      | cons b l₂ => simpa [ofStage] using same b.stage
  | cons a l₁ ih =>
      cases l₂ with
      | nil => simpa [ofStage] using same a.stage
      | cons b l₂ =>
          obtain ⟨least₁, rest₁⟩ := List.pairwise_cons.1 ordered₁
          obtain ⟨least₂, rest₂⟩ := List.pairwise_cons.1 ordered₂
          have stages : a.stage = b.stage := by
            have inSecond : a ∈ b :: l₂ := by
              have found : a ∈ ofStage a.stage (a :: l₁) := by simp [ofStage]
              rw [same] at found
              exact (List.mem_filter.1 found).1
            have inFirst : b ∈ a :: l₁ := by
              have found : b ∈ ofStage b.stage (b :: l₂) := by simp [ofStage]
              rw [← same] at found
              exact (List.mem_filter.1 found).1
            rcases List.mem_cons.1 inSecond with rfl | later₂
            · rfl
            · rcases List.mem_cons.1 inFirst with rfl | later₁
              · rfl
              · exact Nat.le_antisymm (least₁ b later₁) (least₂ a later₂)
          have heads : a = b := by
            have first := same a.stage
            simp only [ofStage, stages, List.filter_cons, decide_true, if_true] at first
            exact (List.cons.inj first).1
          subst heads
          refine congrArg (a :: ·) (ih rest₁ rest₂ fun i => ?_)
          have at_ := same i
          simp only [ofStage, List.filter_cons] at at_ ⊢
          split at at_
          · exact (List.cons.inj at_).2
          · exact at_

theorem inOrder_eq {errors l : List StageError} (ordered : Ordered l)
    (same : ∀ i, ofStage i errors = ofStage i l) : Outcome.inOrder errors = l :=
  eq_of_ofStage (ordered_inOrder errors) ordered fun i => (ofStage_inOrder i errors).trans (same i)

/-! ## Failures stage by stage -/

/-- The failures of stages that follow one another, the first of them at `first`. -/
def numbered (first : Nat) (faults : List (List ShellError)) : List StageError :=
  (faults.zipIdx first).flatMap fun (faults, i) => faults.map (⟨i, ·⟩)

theorem numbered_cons (first : Nat) (here : List ShellError) (rest : List (List ShellError)) :
    numbered first (here :: rest) = here.map (⟨first, ·⟩) ++ numbered (first + 1) rest := rfl

theorem stage_of_mem_numbered {first : Nat} {faults : List (List ShellError)}
    {error : StageError} (member : error ∈ numbered first faults) : first ≤ error.stage := by
  simp only [numbered, List.mem_flatMap, List.mem_map] at member
  obtain ⟨⟨here, i⟩, found, fault, -, rfl⟩ := member
  exact (List.mem_zipIdx found).1

theorem ordered_numbered (first : Nat) (faults : List (List ShellError)) :
    Ordered (numbered first faults) := by
  induction faults generalizing first with
  | nil => exact .nil
  | cons here rest ih =>
      rw [numbered_cons]
      refine List.pairwise_append.2 ⟨?_, ih (first + 1), ?_⟩
      · exact List.pairwise_map.2 (List.pairwise_of_forall_mem_list fun _ _ _ _ => Nat.le_refl first)
      · intro a ha b hb
        obtain ⟨fault, -, rfl⟩ := List.mem_map.1 ha
        exact Nat.le_of_succ_le (stage_of_mem_numbered hb)

theorem ofStage_map (i j : Nat) (faults : List ShellError) :
    ofStage i (faults.map (StageError.mk j)) = if j = i then faults.map (⟨j, ·⟩) else [] := by
  by_cases here : j = i
  · rw [if_pos here]
    exact List.filter_eq_self.2 (by simp [here])
  · rw [if_neg here]
    exact List.filter_eq_nil_iff.2 (by simp [here])

theorem ofStage_numbered (i first : Nat) (faults : List (List ShellError)) :
    ofStage i (numbered first faults) =
      if first ≤ i then (faults[i - first]?.getD []).map (⟨i, ·⟩) else [] := by
  induction faults generalizing first with
  | nil => simp [numbered, ofStage]
  | cons here rest ih =>
      rw [numbered_cons, ofStage_append, ofStage_map, ih]
      rcases Nat.lt_trichotomy first i with before | rfl | after
      · have next : i - first = (i - (first + 1)) + 1 := by omega
        rw [if_neg (by omega), if_pos (by omega), if_pos (by omega), next]
        simp
      · rw [if_pos rfl, if_neg (by omega), if_pos (Nat.le_refl _), Nat.sub_self]
        simp
      · rw [if_neg (by omega), if_neg (by omega), if_neg (by omega)]
        rfl

/-! ## What the stages answered -/

/-- The failure in an answer, if it is one. -/
def fault? {α : Type} : Except ShellError α → Option ShellError
  | .ok _ => none
  | .error fault => some fault

/-- The failure in an answer to `output`.  To have ended with a status other than 0 is
no failure, since the status tells it. -/
def outputFault? : Except ShellError Bytes → Option ShellError
  | .error (.exited _ _ _) => none
  | answer => fault? answer

/-- The answers of the stages of a run in which every pipe could be opened. -/
structure Answers where
  /-- What each stage before the last answered to `run` and to `wait`. -/
  earlier : List (Except ShellError Unit × Except ShellError ExitCode)
  /-- What the last stage answered to `output`. -/
  produced : Except ShellError Bytes
  /-- What the last stage answered to `wait`. -/
  ended : Except ShellError ExitCode

/-- The failures of every stage, those of `run` and `output` before those of `wait`. -/
def Answers.faults (answers : Answers) : List (List ShellError) :=
  answers.earlier.map (fun (ran, ended) => (fault? ran).toList ++ (fault? ended).toList) ++
    [(outputFault? answers.produced).toList ++ (fault? answers.ended).toList]

theorem Answers.faults_last (answers : Answers) :
    answers.faults[answers.earlier.length]? =
      some ((outputFault? answers.produced).toList ++ (fault? answers.ended).toList) := by
  rw [faults, List.getElem?_append_right (by simp), List.length_map, Nat.sub_self]
  rfl

namespace Event

/-- An answer to `run`, with the position of the stage. -/
def ran? (event : Event S R E) : Option (Except ShellError Unit × Nat) :=
  match event.call with
  | .run answer => some (answer, event.position)
  | _ => none

/-- An answer to `output`, with the position of the stage. -/
def produced? (event : Event S R E) : Option (Except ShellError Bytes × Nat) :=
  match event.call with
  | .output answer => some (answer, event.position)
  | _ => none

/-- An answer to `wait`, with the position of the stage. -/
def ended? (event : Event S R E) : Option (Except ShellError ExitCode × Nat) :=
  match event.call with
  | .wait answer => some (answer, event.position)
  | _ => none

end Event

/-- The answers are all that a transcript shows: those to `run` in order, that to
`output`, and those to `wait`, of which the one of the last stage comes first. -/
structure Answers.In (answers : Answers) (events : List (Event S R E)) : Prop where
  ran : events.filterMap Event.ran? = (answers.earlier.map Prod.fst).zipIdx
  produced : events.filterMap Event.produced? = [(answers.produced, answers.earlier.length)]
  ended : events.filterMap Event.ended? =
    (answers.ended, answers.earlier.length) :: (answers.earlier.map Prod.snd).zipIdx

/-- A transcript shows one list of answers. -/
theorem Answers.In.unique {answers answers' : Answers} {events : List (Event S R E)}
    (shown : answers.In events) (shown' : answers'.In events) : answers = answers' := by
  have fsts : answers.earlier.map Prod.fst = answers'.earlier.map Prod.fst := by
    have same := congrArg (List.map Prod.fst) (shown.ran.symm.trans shown'.ran)
    simpa [List.zipIdx_map_fst] using same
  have ends := shown.ended.symm.trans shown'.ended
  have snds : answers.earlier.map Prod.snd = answers'.earlier.map Prod.snd := by
    have same := congrArg (List.map Prod.fst) (List.cons.inj ends).2
    simpa [List.zipIdx_map_fst] using same
  have produced : answers.produced = answers'.produced := by
    have same := shown.produced.symm.trans shown'.produced
    exact congrArg Prod.fst (List.cons.inj same).1
  have ended : answers.ended = answers'.ended := congrArg Prod.fst (List.cons.inj ends).1
  have earlier : answers.earlier = answers'.earlier :=
    (List.zip_of_prod fsts snds).trans (List.zip_of_prod rfl rfl).symm
  cases answers
  cases answers'
  simp_all

/-! ## The answers of a completed run -/

def Completion.answers (run : Completion S R E) : Answers where
  earlier := (run.starts.map Start.result).zip (run.reaps.map Reap.result)
  produced := run.finale.produced
  ended := run.finale.ended

theorem Completion.answers_in {contract : Contract S R E C} {stages before : List S} {last : S}
    {run : Completion S R E} (of : run.Of contract stages before last) :
    run.answers.In run.events := by
  have lengths : (run.starts.map Start.result).length = (run.reaps.map Reap.result).length := by
    rw [List.length_map, List.length_map, of.reaps_length]
  have count : run.answers.earlier.length = run.starts.length := by
    simp [Completion.answers, of.reaps_length]
  have numbers : ∀ {A : Type} (records : List A) {D : Type} (answer : A → D),
      records.zipIdx.flatMap (fun entry => [(answer entry.1, entry.2)]) =
        (records.map answer).zipIdx := by
    intro A records D answer
    rw [← List.map_eq_flatMap, List.zipIdx_map]
    rfl
  refine ⟨?_, ?_, ?_⟩
  · have ran : run.answers.earlier.map Prod.fst = run.starts.map Start.result :=
      List.map_fst_zip (Nat.le_of_eq lengths)
    rw [run.filterMap_events (fun _ _ _ => rfl) (fun _ _ => rfl), ran, ← numbers]
    simp [List.filterMap_cons, Event.ran?]
  · rw [run.filterMap_events (fun _ _ _ => rfl) (fun _ _ => rfl), count]
    simp [List.filterMap_cons, Event.produced?, Completion.answers]
  · have ended : run.answers.earlier.map Prod.snd = run.reaps.map Reap.result :=
      List.map_snd_zip (Nat.le_of_eq lengths.symm)
    rw [run.filterMap_events (fun _ _ _ => rfl) (fun _ _ => rfl), count, ended, ← numbers]
    simp [List.filterMap_cons, Event.ended?, Completion.answers]

/-! ## The failures of a completed run -/

theorem failure_eq_numbered {α : Type} (i : Nat) (answer : Except ShellError α) :
    failure i answer = numbered i [(fault? answer).toList] := by
  cases answer <;> rfl

theorem outputErrors_eq_numbered (i : Nat) (answer : Except ShellError Bytes) :
    (outputResult i answer).2 = numbered i [(outputFault? answer).toList] := by
  cases answer with
  | ok bytes => rfl
  | error fault => cases fault <;> rfl

theorem flatMap_failure {A α : Type} (answer : A → Except ShellError α) (records : List A)
    (first : Nat) :
    ((records.zipIdx first).flatMap fun (record, i) => failure i (answer record)) =
      numbered first (records.map fun record => (fault? (answer record)).toList) := by
  induction records generalizing first with
  | nil => rfl
  | cons record rest ih =>
      have here : failure first (answer record) =
          (fault? (answer record)).toList.map (⟨first, ·⟩) := by
        cases answer record <;> rfl
      rw [List.zipIdx_cons, List.flatMap_cons, ih, List.map_cons, numbered_cons, ← here]

/-- What is collected in the order of the calls is reported in the order of the stages. -/
theorem Completion.errors_eq {contract : Contract S R E C} {stages before : List S} {last : S}
    {run : Completion S R E} (of : run.Of contract stages before last) :
    run.outcome.errors = numbered 0 run.answers.faults := by
  have reaps := of.reaps_length
  refine inOrder_eq (ordered_numbered 0 _) fun i => ?_
  rw [outputErrors_eq_numbered, failure_eq_numbered, startErrors, flatMap_failure, reapErrors,
    flatMap_failure]
  simp only [ofStage_append, ofStage_numbered, Nat.zero_le, if_true, Nat.sub_zero]
  have count : run.answers.earlier.length = run.starts.length := by
    simp [Completion.answers, reaps]
  rcases Nat.lt_trichotomy i run.starts.length with early | rfl | beyond
  · have waited : i < run.reaps.length := by omega
    have found : run.answers.faults[i]? =
        some ((fault? run.starts[i].result).toList ++ (fault? run.reaps[i].result).toList) := by
      have pair : run.answers.earlier[i]? = some (run.starts[i].result, run.reaps[i].result) :=
        List.getElem?_zip_eq_some.2 ⟨by simp [early], by simp [waited]⟩
      rw [Answers.faults, List.getElem?_append_left (by simpa [count] using early),
        List.getElem?_map, pair]
      rfl
    simp [found, early, waited, Nat.not_le.2 early]
  · have found : run.answers.faults[run.starts.length]? =
        some ((outputFault? run.finale.produced).toList ++ (fault? run.finale.ended).toList) := by
      rw [Answers.faults, List.getElem?_append_right (by simp [count])]
      simp [Completion.answers, reaps]
    simp [found, reaps]
  · have found : run.answers.faults[i]? = none := by
      simp only [Answers.faults, List.getElem?_eq_none_iff, List.length_append, List.length_map,
        count, List.length_singleton]
      omega
    have none_ : run.starts[i]? = none ∧ run.reaps[i]? = none := by
      simp only [List.getElem?_eq_none_iff]
      omega
    have late : ∃ k, i - run.starts.length = k + 1 := ⟨i - run.starts.length - 1, by omega⟩
    obtain ⟨k, late⟩ := late
    simp [found, none_, late]

/-! ## The first failure -/

theorem head?_numbered_eq_none (first : Nat) (faults : List (List ShellError)) :
    (numbered first faults).head? = none ↔ ∀ here ∈ faults, here = [] := by
  induction faults generalizing first with
  | nil => simp [numbered]
  | cons here rest ih =>
      rw [numbered_cons]
      cases here with
      | nil => simpa using ih (first + 1)
      | cons fault others => simp

/-- The first failure is the first of the first stage that has any. -/
theorem head?_numbered_eq_some (first : Nat) (faults : List (List ShellError)) (i : Nat)
    (fault : ShellError) :
    (numbered first faults).head? = some ⟨first + i, fault⟩ ↔
      (∃ rest, faults[i]? = some (fault :: rest)) ∧ ∀ j < i, faults[j]? = some [] := by
  induction faults generalizing first i with
  | nil => simp [numbered]
  | cons here rest ih =>
      rw [numbered_cons]
      cases here with
      | cons other others =>
          cases i with
          | zero => simp
          | succ i =>
              have blocked : ¬ ∀ j < i + 1, ((other :: others) :: rest)[j]? = some [] := by
                intro clear
                cases clear 0 (Nat.succ_pos i)
              refine iff_of_false ?_ fun both => blocked both.2
              simp
      | nil =>
          cases i with
          | zero =>
              have later : (numbered (first + 1) rest).head? ≠ some ⟨first, fault⟩ := by
                intro found
                have late : first + 1 ≤ first := stage_of_mem_numbered (List.mem_of_head? found)
                omega
              simpa using later
          | succ i =>
              have shifted : first + (i + 1) = (first + 1) + i := by omega
              rw [shifted, List.map_nil, List.nil_append, ih (first + 1) i,
                Nat.forall_lt_succ_left]
              simp

/-! ## The outcome -/

/-- The outcome is the one that the answers make. -/
structure Answers.Make (answers : Answers) (outcome : Outcome) : Prop where
  printed : ∀ bytes, answers.produced = .ok bytes → outcome.stdout = bytes
  /-- What a program printed before it ended with another status than 0 counts too. -/
  exited : ∀ name code bytes, answers.produced = .error (.exited name code bytes) →
    outcome.stdout = bytes
  unprinted : ∀ fault, answers.produced = .error fault →
    (∀ name code bytes, fault ≠ .exited name code bytes) → outcome.stdout = []
  ended : ∀ code, answers.ended = .ok code → outcome.status = code
  lost : ∀ fault, answers.ended = .error fault → outcome.status = fault.exitCode
  errors : outcome.errors = numbered 0 answers.faults
  sound : outcome.firstFailure = none ↔ ∀ faults ∈ answers.faults, faults = []
  first : ∀ i fault, outcome.firstFailure = some ⟨i, fault⟩ ↔
    (∃ rest, answers.faults[i]? = some (fault :: rest)) ∧ ∀ j < i, answers.faults[j]? = some []

/-- The answers leave nothing of the outcome open. -/
theorem Answers.Make.unique {answers : Answers} {outcome outcome' : Outcome}
    (make : answers.Make outcome) (make' : answers.Make outcome') : outcome = outcome' := by
  have stdout : outcome.stdout = outcome'.stdout := by
    cases produced : answers.produced with
    | ok bytes => rw [make.printed bytes produced, make'.printed bytes produced]
    | error fault =>
        by_cases exits : ∃ name code bytes, fault = .exited name code bytes
        · obtain ⟨name, code, bytes, rfl⟩ := exits
          rw [make.exited name code bytes produced, make'.exited name code bytes produced]
        · have other : ∀ name code bytes, fault ≠ .exited name code bytes :=
            fun name code bytes same => exits ⟨name, code, bytes, same⟩
          rw [make.unprinted fault produced other, make'.unprinted fault produced other]
  have status : outcome.status = outcome'.status := by
    cases ended : answers.ended with
    | ok code => rw [make.ended code ended, make'.ended code ended]
    | error fault => rw [make.lost fault ended, make'.lost fault ended]
  have errors : outcome.errors = outcome'.errors := make.errors.trans make'.errors.symm
  cases outcome
  cases outcome'
  simp_all

theorem Completion.answers_make {contract : Contract S R E C} {stages before : List S} {last : S}
    {run : Completion S R E} (of : run.Of contract stages before last) :
    run.answers.Make run.outcome where
  printed bytes produced := by
    simp [Completion.outcome, show run.finale.produced = _ from produced, outputResult]
  exited name code bytes produced := by
    simp [Completion.outcome, show run.finale.produced = _ from produced, outputResult]
  unprinted fault produced other := by
    have produced : run.finale.produced = .error fault := produced
    cases fault with
    | exited name code bytes => exact absurd rfl (other name code bytes)
    | _ => simp [Completion.outcome, produced, outputResult]
  ended code ended := by
    simp [Completion.outcome, show run.finale.ended = _ from ended, statusOf]
  lost fault ended := by
    simp [Completion.outcome, show run.finale.ended = _ from ended, statusOf]
  errors := Completion.errors_eq of
  sound := by
    rw [Outcome.firstFailure, Completion.errors_eq of, head?_numbered_eq_none]
  first i fault := by
    have first := head?_numbered_eq_some 0 run.answers.faults i fault
    rwa [Nat.zero_add, ← Completion.errors_eq of] at first

/-- **The outcome is a function of what the stages answer.**  When every pipe can be
opened, a run of `n ≥ 1` stages ends with the outcome that their answers make: the output
is that of the last stage, also of one that ended with a status other than 0; the status
is what waiting for the last stage came to; and the failures are, stage by stage, the
failed run (or output) and then the failed wait, and nothing else.  So the first failure is
one of the first stage that failed. -/
theorem execute_outcome (contract : Contract S R E C) (freshError : StateM C E)
    (stages : List S) (context : C) (nonempty : stages ≠ [])
    (opened : ∀ event ∈ transcript contract freshError stages context,
      event.call.refusal? = none) :
    ∃ (answers : Answers) (outcome : Outcome),
      answers.In (transcript contract freshError stages context) ∧
      answers.earlier.length + 1 = stages.length ∧
      (execute contract freshError stages context).1 = .ok outcome ∧
      answers.Make outcome := by
  obtain ⟨run, before, last, context', of, watched⟩ := watch_of_opened nonempty opened
  refine ⟨run.answers, run.outcome, ?_, ?_, ?_, Completion.answers_make of⟩
  · rw [transcript, watched]
    exact Completion.answers_in of
  · rw [of.length_eq]
    simp [Completion.answers, of.reaps_length]
  · rw [← watch_forget, watched]

/-- Three stages: the first fails both to run and to be waited for, the second ends with
status 7, and the last prints and ends with status 3, and fails to be waited for. -/
def troubledStages : List Command :=
  [.scripted (.fresh { Quiet.script "first" with
      runFailure := some (.io (.os 32)), wait := .error (.io (.os 10)) }),
    .scripted (.fresh { Quiet.script "second" with wait := .error (.exited "second" 7 []) }),
    .scripted (.fresh { Quiet.script "third" with
      outputFailure := some (.exited "third" 3 [0x61]), wait := .error (.notFound "third") })]

/-- What they answer. -/
def troubledAnswers : Answers where
  earlier := [(.error (.io (.os 32)), .error (.io (.os 10))),
    (.ok (), .error (.exited "second" 7 []))]
  produced := .error (.exited "third" 3 [0x61])
  ended := .error (.notFound "third")

theorem troubledAnswers_in : troubledAnswers.In
    (transcript Command.contract (pure .standardError) troubledStages Quiet.context) where
  ran := by decide +kernel
  produced := by decide +kernel
  ended := by decide +kernel

theorem execute_outcome_troubledStages :
    troubledStages ≠ [] ∧
      (∀ event ∈ transcript Command.contract (pure .standardError) troubledStages Quiet.context,
        event.call.refusal? = none) ∧
      ∃ outcome : Outcome,
        (execute Command.contract (pure .standardError) troubledStages Quiet.context).1 =
          .ok outcome ∧
        outcome.stdout = [0x61] ∧ outcome.status = 127 ∧
        outcome.errors = [⟨0, .io (.os 32)⟩, ⟨0, .io (.os 10)⟩, ⟨1, .exited "second" 7 []⟩,
          ⟨2, .notFound "third"⟩] ∧
        outcome.firstFailure = some ⟨0, .io (.os 32)⟩ := by
  have nonempty : troubledStages ≠ [] := List.cons_ne_nil _ _
  have opened : ∀ event ∈ transcript Command.contract (pure .standardError) troubledStages
      Quiet.context, event.call.refusal? = none := by decide +kernel
  obtain ⟨answers, outcome, shown, -, executed, make⟩ := execute_outcome Command.contract
    (pure .standardError) troubledStages Quiet.context nonempty opened
  obtain rfl : answers = troubledAnswers := shown.unique troubledAnswers_in
  exact ⟨nonempty, opened, outcome, executed, make.exited _ _ _ rfl, make.lost _ rfl, make.errors,
    (make.first 0 _).2 ⟨⟨_, rfl⟩, fun j impossible => absurd impossible (Nat.not_lt_zero j)⟩⟩

end PipelineShell.Pipeline
