/-
# Proofs.Lifecycle.Builtin -- a builtin works once

However a builtin is called, it works at most once: by the first run, or the first request
for its output, after words were given to it.  Before that it is idle, and its words may be
given again and again; the last ones count.  Afterwards everything about it is settled,
even if the work could not be reported: its status, the record of what it printed, and that
it has nothing more to do with the session (`Builtin.works_once`).

What is executed is put on record by a second account of the work (`Builtin.runRecording`),
which with the record left out is the first (`Builtin.answerRecording_erases`).
-/
import PipelineShell.Proofs.Authority
import PipelineShell.Proofs.Lifecycle.Calls
import PipelineShell.Proofs.Running

namespace PipelineShell.Builtin

set_option autoImplicit false

open Lifecycle Stateful

variable {W : Type} [Host W]

/-! ## The work on record -/

/-- The work of a builtin, with what it executes put on record. -/
def performRecording (streams : Streams) : Except EarlyExit Invocation →
    StateM (Context W × List Invocation) (Bytes × Except ShellError ExitCode)
  | .ok invocation => do
      record invocation
      match ← unrecorded (invocation.execute streams.output) with
      | (accepted, .ok code) => pure (accepted, .ok code)
      | (accepted, .error complaint) =>
          let (_, result) ← unrecorded (report streams.error complaint.message 1)
          pure (accepted, result)
  | .error early => do
      if early.success then unrecorded (report streams.output (trimmed early.output) 0)
      else
        let (_, result) ← unrecorded (report streams.error (trimmed early.output) 1)
        pure ([], result)

/-- A run, with what it executes put on record. -/
def runRecording (builtin : Builtin) :
    StateM (Context W × List Invocation) (Except ShellError Unit × Builtin) := do
  match builtin.status, builtin.parsed with
  | some _, _ => pure (.error (.alreadyRun builtin.name), builtin)
  | none, none => pure (.error (.notParsed builtin.name), builtin)
  | none, some parsed =>
    let (accepted, result) ← performRecording builtin.streams parsed
    let concluded ← unrecorded (builtin.conclude accepted)
    pure (result.map fun _ => (), { concluded with status := some (codeOf result) })

/-- A request for the output, with what it executes put on record. -/
def outputRecording (builtin : Builtin) :
    StateM (Context W × List Invocation) (Except ShellError Bytes × Builtin) := do
  match builtin.status with
  | some _ => pure (.ok builtin.recorded, builtin)
  | none =>
    let builtin ← unrecorded (builtin.setOutput .scratch)
    let (answer, ran) ← builtin.runRecording
    pure (answer.map fun _ => ran.recorded, ran)

/-- What a builtin answers to a call.  There is nothing to abort. -/
def answer [ArgumentReader] (call : Call) (builtin : Builtin) : StateM (Context W)
    (Answer × Builtin) :=
  match call with
  | .parseArguments words => pure (.nothing, builtin.parseArguments words)
  | .setInput input => (.nothing, ·) <$> builtin.setInput input
  | .setOutput output => (.nothing, ·) <$> builtin.setOutput output
  | .setError error => (.nothing, ·) <$> builtin.setError error
  | .openPipe => Prod.map .pipe id <$> builtin.openPipe
  | .run => Prod.map .ran id <$> builtin.run
  | .output => Prod.map .produced id <$> builtin.output
  | .wait => Prod.map .ended id <$> builtin.wait
  | .abort => pure (.nothing, builtin)

/-- What a builtin answers to a call, with what it executes put on record. -/
def answerRecording [ArgumentReader] (call : Call) (builtin : Builtin) :
    StateM (Context W × List Invocation) (Answer × Builtin) :=
  match call with
  | .run => Prod.map .ran id <$> builtin.runRecording
  | .output => Prod.map .produced id <$> builtin.outputRecording
  | other => unrecorded (builtin.answer other)

theorem performRecording_erases (streams : Streams) (reading : Except EarlyExit Invocation) :
    Carried Prod.fst id (performRecording streams reading : StateM (Context W × _) _)
      (perform streams reading) := by
  cases reading with
  | ok invocation =>
      refine record_erases invocation ((unrecorded_erases _).bind fun (accepted, result) => ?_)
      cases result with
      | ok code => exact .pure id _
      | error complaint => exact (unrecorded_erases _).bind fun _ => .pure id _
  | error early =>
      simp only [performRecording, perform]
      split
      · exact unrecorded_erases _
      · exact (unrecorded_erases _).bind fun _ => .pure id _

theorem runRecording_erases (builtin : Builtin) :
    Carried Prod.fst id (builtin.runRecording : StateM (Context W × _) _) builtin.run := by
  intro context
  cases status : builtin.status with
  | some code => simp only [run, runRecording, status, pure_apply, id]
  | none =>
      cases parsed : builtin.parsed with
      | none => simp only [run, runRecording, status, parsed, pure_apply, id]
      | some reading =>
          have performed := performRecording_erases builtin.streams reading context
          rw [run_unrun parsed status, performed]
          simp only [runRecording, status, parsed]
          rfl

theorem outputRecording_erases (builtin : Builtin) :
    Carried Prod.fst id (builtin.outputRecording : StateM (Context W × _) _) builtin.output := by
  simp only [output, outputRecording]
  cases builtin.status with
  | some code => exact .pure id _
  | none =>
      refine (unrecorded_erases _).bind fun bound => ?_
      refine (runRecording_erases bound).bind fun (answer, ran) => ?_
      cases answer <;> exact .pure id _

/-- With the record left out, the two accounts of a builtin are one. -/
theorem answerRecording_erases [ArgumentReader] (call : Call) (builtin : Builtin) :
    Carried Prod.fst id (builtin.answerRecording call : StateM (Context W × _) _)
      (builtin.answer call) := by
  cases call with
  | run => exact builtin.runRecording_erases.map fun _ => rfl
  | output => exact builtin.outputRecording_erases.map fun _ => rfl
  | _ => exact unrecorded_erases _

/-! ## One call -/

/-- The call sets the builtin to work. -/
structure Works (builtin : Builtin) (call : Call) : Prop where
  starts : call.Starts
  unrun : builtin.status = none
  worded : builtin.parsed.isSome

/-- Which builtin it is, and what has become of it. -/
def fate (builtin : Builtin) :
    Kind × Option (Except EarlyExit Invocation) × Bytes × Option ExitCode :=
  (builtin.kind, builtin.parsed, builtin.recorded, builtin.status)

/-- The builtin with the words that the call gives to it. -/
def given [ArgumentReader] (builtin : Builtin) (call : Call) : Builtin :=
  (call.words?.map builtin.parseArguments).getD builtin

/-- What a call comes to by which nothing is done. -/
structure Rests [ArgumentReader] (builtin : Builtin) (call : Call)
    (context : Context W) : Prop where
  fate : (builtin.answer call context).1.2.fate = (builtin.given call).fate
  session : (builtin.answer call context).2.session = context.session
  /-- Nothing is put on record. -/
  nothing : ∀ deeds, (builtin.answerRecording call (context, deeds)).2.2 = deeds

theorem setOutput_fate (builtin : Builtin) (output : OutputHandle) (context : Context W) :
    (builtin.setOutput output context).1.fate = builtin.fate := by
  rw [setOutput_eq]
  rfl

theorem openPipe_fate (builtin : Builtin) (context : Context W) :
    (builtin.openPipe context).1.2.fate = builtin.fate := by
  simp only [openPipe, bind_apply]
  rcases Context.act Host.openPipe context with ⟨answer, opened⟩
  cases answer with
  | error fault => rfl
  | ok pipe => exact builtin.setOutput_fate .scratch opened

theorem wait_fate (builtin : Builtin) (context : Context W) :
    (builtin.wait context).1.2.fate = builtin.fate := by
  obtain ⟨kind, arguments, reading?, streams, pipe, delivery, recorded, status⟩ := builtin
  cases delivery <;> rfl

/-- Why a run is refused, if it is. -/
def refusal? (builtin : Builtin) : Option ShellError :=
  match builtin.status, builtin.parsed with
  | some _, _ => some (.alreadyRun builtin.name)
  | none, none => some (.notParsed builtin.name)
  | none, some _ => none

theorem works_of_refusal?_eq_none {builtin : Builtin} {call : Call} (starts : call.Starts)
    (admitted : builtin.refusal? = none) : builtin.Works call := by
  cases status : builtin.status with
  | some code => simp [refusal?, status] at admitted
  | none =>
      cases parsed : builtin.parsed with
      | none => simp [refusal?, status, parsed] at admitted
      | some reading => exact ⟨starts, status, by rw [parsed]; rfl⟩

/-- A builtin that does not work has a reason. -/
theorem exists_refusal {builtin : Builtin} {call : Call} (starts : call.Starts)
    (idle : ¬ builtin.Works call) : ∃ fault, builtin.refusal? = some fault :=
  Option.ne_none_iff_exists'.1 fun admitted => idle (works_of_refusal?_eq_none starts admitted)

/-- A run that is refused is no run at all. -/
theorem run_of_refusal? {builtin : Builtin} {fault : ShellError}
    (refused : builtin.refusal? = some fault) (context : Context W) :
    builtin.run context = ((.error fault, builtin), context) ∧
      ∀ deeds, builtin.runRecording (context, deeds) =
        ((.error fault, builtin), (context, deeds)) := by
  cases status : builtin.status with
  | some code =>
      obtain rfl : .alreadyRun builtin.name = fault := by simpa [refusal?, status] using refused
      simp only [run, runRecording, status, pure_apply, implies_true, and_self]
  | none =>
      cases parsed : builtin.parsed with
      | none =>
          obtain rfl : .notParsed builtin.name = fault := by
            simpa [refusal?, status, parsed] using refused
          simp only [run, runRecording, status, parsed, pure_apply, implies_true, and_self]
      | some reading => simp [refusal?, status, parsed] at refused

/-- A request for the output rests if the builtin has run, or cannot. -/
theorem output_rests [ArgumentReader] {builtin : Builtin} (idle : ¬ builtin.Works .output)
    (context : Context W) : builtin.Rests .output context := by
  cases status : builtin.status with
  | some code =>
      have answers : builtin.answer .output context =
          ((.produced (.ok builtin.recorded), builtin), context) := by
        simp only [answer, map_apply, output, status, pure_apply, Prod.map, id]
      refine ⟨congrArg (·.1.2.fate) answers, congrArg (·.2.session) answers, fun deeds => ?_⟩
      simp only [answerRecording, map_apply, outputRecording, status, pure_apply]
  | none =>
      have unworded : ¬ (builtin.withOutput .scratch).Works .output := fun works =>
        idle ⟨works.starts, works.unrun, works.worded⟩
      obtain ⟨fault, refused⟩ := exists_refusal (.inr rfl) unworded
      obtain ⟨ran, ranRecording⟩ := run_of_refusal? refused (builtin.setOutput .scratch context).2
      have session := builtin.setOutput_spares Context.aloof_session .scratch context
      refine ⟨?_, ?_, fun deeds => ?_⟩
      · simp only [answer, map_apply, output_apply status, ran]
        rfl
      · simp only [answer, map_apply, output_apply status, ran]
        exact session
      · have bound := builtin.setOutput_eq .scratch context
        simp only [answerRecording, map_apply, outputRecording, status, bind_apply,
          unrecorded_apply, bound, ranRecording, pure_apply]

/-- Any call rests that does not set the builtin to work. -/
theorem rests_of_not_works [ArgumentReader] {builtin : Builtin} {call : Call}
    (idle : ¬ builtin.Works call) (context : Context W) : builtin.Rests call context := by
  have aloof := Context.aloof_session (W := W)
  cases call with
  | parseArguments words => exact ⟨rfl, rfl, fun _ => rfl⟩
  | setInput input => exact ⟨rfl, aloof.spares (builtin.setInput_built input) context, fun _ => rfl⟩
  | setOutput output =>
      exact ⟨builtin.setOutput_fate output context,
        builtin.setOutput_spares aloof output context, fun _ => rfl⟩
  | setError error => exact ⟨rfl, aloof.spares (builtin.setError_built error) context, fun _ => rfl⟩
  | openPipe =>
      exact ⟨builtin.openPipe_fate context, aloof.spares builtin.openPipe_built context,
        fun _ => rfl⟩
  | run =>
      obtain ⟨fault, refused⟩ := exists_refusal (.inl rfl) idle
      obtain ⟨ran, ranRecording⟩ := run_of_refusal? refused context
      refine ⟨?_, ?_, fun deeds => ?_⟩
      · rw [answer, map_apply, ran]
        rfl
      · rw [answer, map_apply, ran]
      · rw [answerRecording, map_apply, ranRecording]
  | output => exact output_rests idle context
  | wait => exact ⟨builtin.wait_fate context, aloof.spares builtin.wait_built context, fun _ => rfl⟩
  | abort => exact ⟨rfl, rfl, fun _ => rfl⟩

/-! ## The call at which a builtin works -/

/-- What a reading of the arguments has executed. -/
def executes (reading : Except EarlyExit Invocation) : List Invocation :=
  reading.toOption.toList

theorem performRecording_executes (streams : Streams) (reading : Except EarlyExit Invocation)
    (context : Context W) (deeds : List Invocation) :
    (performRecording streams reading (context, deeds)).2.2 = deeds ++ executes reading := by
  cases reading with
  | error early =>
      obtain ⟨text, success⟩ := early
      have nothing : executes (.error ⟨text, success⟩) = [] := rfl
      rw [nothing, List.append_nil]
      cases success with
      | true => simp only [performRecording, if_true, unrecorded_apply]
      | false =>
          simp only [performRecording, Bool.false_eq_true, if_false, bind_apply, unrecorded_apply]
          rcases report streams.error (trimmed text) 1 context with ⟨⟨accepted, result⟩, left⟩
          rfl
  | ok invocation =>
      simp only [performRecording, bind_apply, record_apply, unrecorded_apply]
      rcases invocation.execute streams.output context with ⟨⟨accepted, result⟩, worked⟩
      cases result <;> rfl

theorem conclude_fate (builtin : Builtin) (accepted : Bytes) (context : Context W) :
    (builtin.conclude accepted context).1.fate =
      (builtin.kind, none, builtin.recorded ++ accepted, builtin.status) := by
  obtain ⟨kind, arguments, reading?, streams, pipe, delivery, recorded, status⟩ := builtin
  cases pipe <;> rfl

/-- What a run comes to that is the first one, with arguments. -/
structure Ran (builtin : Builtin) (reading : Except EarlyExit Invocation) (context : Context W)
    (code : ExitCode) : Prop where
  /-- It may fail, for one reason only, and then the code is 1. -/
  answer : (builtin.run context).1.1 = .ok () ∨
    code = 1 ∧ ∃ cause, (builtin.run context).1.1 = .error (.io cause)
  kind : (builtin.run context).1.2.kind = builtin.kind
  status : (builtin.run context).1.2.status = some code
  executes : ∀ deeds, (builtin.runRecording (context, deeds)).2.2 = deeds ++ executes reading

theorem exists_ran {builtin : Builtin} {reading : Except EarlyExit Invocation}
    (unrun : builtin.status = none) (parsed : builtin.parsed = some reading)
    (context : Context W) : ∃ code, builtin.Ran reading context code := by
  have ran := run_unrun parsed unrun context
  have failing : ∀ fault, (perform builtin.streams reading context).1.2 = .error fault →
      ∃ cause, fault = .io cause := fun _ => perform_error
  generalize perform builtin.streams reading context = done at ran failing
  obtain ⟨⟨accepted, result⟩, worked⟩ := done
  have fate := builtin.conclude_fate accepted worked
  refine ⟨codeOf result, ?_, ?_, ?_, fun deeds => ?_⟩
  · rw [ran]
    cases result with
    | ok code => exact .inl rfl
    | error fault =>
        obtain ⟨cause, rfl⟩ := failing fault rfl
        exact .inr ⟨rfl, cause, rfl⟩
  · rw [ran]
    exact congrArg (·.1) fate
  · rw [ran]
  · have performed := performRecording_executes builtin.streams reading context deeds
    simp only [runRecording, unrun, parsed, bind_apply]
    exact performed

/-- The answer to the call at which a builtin works: it goes with the code and the bytes that
are on record from then on.  If the work could not be reported, the code is 1. -/
inductive Concludes (code : ExitCode) (bytes : Bytes) : Answer → Prop
  | ran : Concludes code bytes (.ran (.ok ()))
  | produced : Concludes code bytes (.produced (.ok bytes))
  | ranUnreported (cause : IoError) (failed : code = 1) :
      Concludes code bytes (.ran (.error (.io cause)))
  | producedUnreported (cause : IoError) (failed : code = 1) :
      Concludes code bytes (.produced (.error (.io cause)))

/-- What the call comes to at which a builtin works. -/
structure Worked [ArgumentReader] (builtin : Builtin) (call : Call)
    (reading : Except EarlyExit Invocation)
    (context : Context W) (code : ExitCode) (bytes : Bytes) : Prop where
  answer : Concludes code bytes (builtin.answer call context).1.1
  kind : (builtin.answer call context).1.2.kind = builtin.kind
  status : (builtin.answer call context).1.2.status = some code
  recorded : (builtin.answer call context).1.2.recorded = bytes
  executes : ∀ deeds, (builtin.answerRecording call (context, deeds)).2.2 =
    deeds ++ executes reading

/-- **A builtin that is set to work works**, even if that cannot be reported. -/
theorem exists_worked [ArgumentReader] {builtin : Builtin} {call : Call}
    {reading : Except EarlyExit Invocation} (starts : call.Starts) (unrun : builtin.status = none)
    (parsed : builtin.parsed = some reading) (context : Context W) :
    ∃ code bytes, builtin.Worked call reading context code bytes := by
  rcases starts with rfl | rfl
  case inl =>
    obtain ⟨code, ran⟩ := exists_ran unrun parsed context
    refine ⟨code, (builtin.run context).1.2.recorded, ?_, ran.kind, ran.status, rfl, ran.executes⟩
    simp only [answer, map_apply, Prod.map]
    rcases ran.answer with done | ⟨failed, cause, broken⟩
    · rw [done]
      exact .ran
    · rw [broken]
      exact .ranUnreported cause failed
  case inr =>
    have unrunYet : (builtin.withOutput .scratch).status = none := unrun
    have stillParsed : (builtin.withOutput .scratch).parsed = some reading := parsed
    obtain ⟨code, ran⟩ := exists_ran unrunYet stillParsed (builtin.setOutput .scratch context).2
    have collected := output_apply unrun context
    refine ⟨code, (builtin.output context).1.2.recorded, ?_, ?_, ?_, rfl, fun deeds => ?_⟩
    · simp only [answer, map_apply, Prod.map, collected]
      rcases ran.answer with done | ⟨failed, cause, broken⟩
      · rw [done]
        exact .produced
      · rw [broken]
        exact .producedUnreported cause failed
    · simp only [answer, map_apply, Prod.map, collected, id]
      exact ran.kind
    · simp only [answer, map_apply, Prod.map, collected, id]
      exact ran.status
    · have executed := ran.executes deeds
      have bound := builtin.setOutput_eq .scratch context
      simp only [answerRecording, map_apply, outputRecording, unrun, bind_apply,
        unrecorded_apply, bound, pure_apply]
      exact executed

/-! ## Any calls -/

/-- One of the calls set the builtin to work: a run, or a request for its output, that came
after words were given. -/
def HasRun (calls : List (Call × Context W)) : Prop :=
  ∃ before call context later, calls = before ++ (call, context) :: later ∧
    call.Starts ∧ words? before ≠ none

omit [Host W] in
theorem not_hasRun_nil : ¬ HasRun ([] : List (Call × Context W)) := by
  rintro ⟨before, call, context, later, calls, -⟩
  simp at calls

omit [Host W] in
theorem hasRun_snoc (calls : List (Call × Context W)) (call : Call) (context : Context W) :
    HasRun (calls ++ [(call, context)]) ↔
      HasRun calls ∨ call.Starts ∧ words? calls ≠ none := by
  constructor
  · rintro ⟨before, call', context', later, same, starts, worded⟩
    rcases List.eq_nil_or_concat later with rfl | ⟨later, last, rfl⟩
    · obtain ⟨rfl, last⟩ := List.append_inj' same rfl
      cases last
      exact .inr ⟨starts, worded⟩
    · have split : calls ++ [(call, context)] =
          (before ++ (call', context') :: later) ++ [last] := by simpa using same
      obtain ⟨calls, -⟩ := List.append_inj' split rfl
      exact .inl ⟨before, call', context', later, calls, starts, worded⟩
  · rintro (⟨before, call', context', later, rfl, starts, worded⟩ | ⟨starts, worded⟩)
    · exact ⟨before, call', context', later ++ [(call, context)], by simp, starts, worded⟩
    · exact ⟨calls, call, context, [], rfl, starts, worded⟩

variable [ArgumentReader] (kind : Kind) (calls : List (Call × Context W))

/-- The builtin after the calls, which were made on a fresh one. -/
def afterCalls : Builtin := after answer (fresh kind) calls

/-- What it has executed by then. -/
def executed : List Invocation := (Lifecycle.recorded answerRecording (fresh kind) calls).2

theorem afterCalls_snoc (call : Call) (context : Context W) :
    afterCalls kind (calls ++ [(call, context)]) =
      ((afterCalls kind calls).answer call context).1.2 := after_snoc calls call context

theorem executed_snoc (call : Call) (context : Context W) :
    executed kind (calls ++ [(call, context)]) =
      ((afterCalls kind calls).answerRecording call (context, executed kind calls)).2.2 :=
  recorded_snoc_snd answerRecording_erases calls call context

/-- How a builtin stands after the calls. -/
structure Standing : Prop where
  same : (afterCalls kind calls).kind = kind
  /-- A builtin that has not run awaits its run, with the words that were given last. -/
  idle : ¬ HasRun calls → (afterCalls kind calls).status = none ∧
    (afterCalls kind calls).parsed =
      (words? calls).map (Invocation.parse kind [kind.name]) ∧
    executed kind calls = []
  worked : HasRun calls → (afterCalls kind calls).status ≠ none ∧
    (executed kind calls).length ≤ 1

variable {kind calls}

/-- A call that sets a builtin to work does so for the first time. -/
theorem Standing.exists_worked (standing : Standing kind calls) {call : Call}
    (works : (afterCalls kind calls).Works call) (context : Context W) :
    ¬ HasRun calls ∧ ∃ words code bytes, words? calls = some words ∧
      (afterCalls kind calls).Worked call (Invocation.parse kind [kind.name] words) context
        code bytes := by
  have first : ¬ HasRun calls := fun hasRun => (standing.worked hasRun).1 works.unrun
  obtain ⟨-, parsed, -⟩ := standing.idle first
  obtain ⟨words, given⟩ : ∃ words, words? calls = some words := by
    have worded := works.worded
    rw [parsed, Option.isSome_map] at worded
    exact Option.isSome_iff_exists.1 worded
  rw [given] at parsed
  obtain ⟨code, bytes, worked⟩ := Builtin.exists_worked works.starts works.unrun parsed context
  exact ⟨first, words, code, bytes, given, worked⟩

/-- Any other call leaves it at that. -/
theorem Standing.hasRun_snoc_of_not_works (standing : Standing kind calls) {call : Call}
    (rests : ¬ (afterCalls kind calls).Works call) (context : Context W) :
    HasRun (calls ++ [(call, context)]) ↔ HasRun calls := by
  rw [hasRun_snoc]
  refine or_iff_left_of_imp fun ⟨starts, worded⟩ => ?_
  by_contra first
  obtain ⟨unrun, parsed, -⟩ := standing.idle first
  refine rests ⟨starts, unrun, ?_⟩
  rw [parsed, Option.isSome_map, Option.isSome_iff_ne_none]
  exact worded

theorem given_fate (builtin : Builtin) (call : Call) :
    (builtin.given call).fate =
      (builtin.kind,
        (call.words?.map (Invocation.parse builtin.kind [builtin.kind.name])).or builtin.parsed,
        builtin.recorded, builtin.status) := by
  cases words : call.words? <;> simp [given, words, fate, parseArguments]

/-- **One call more.** -/
theorem Standing.snoc (standing : Standing kind calls) (call : Call) (context : Context W) :
    Standing kind (calls ++ [(call, context)]) := by
  have left := afterCalls_snoc kind calls call context
  have done := executed_snoc kind calls call context
  by_cases works : (afterCalls kind calls).Works call
  · obtain ⟨first, words, code, bytes, given, worked⟩ := standing.exists_worked works context
    have hasRun : HasRun (calls ++ [(call, context)]) :=
      (hasRun_snoc calls call context).2 (.inr ⟨works.starts, by simp [given]⟩)
    refine ⟨?_, fun idle => absurd hasRun idle, fun _ => ⟨?_, ?_⟩⟩
    · rw [left, worked.kind, standing.same]
    · rw [left, worked.status]
      exact Option.some_ne_none code
    · rw [done, worked.executes, (standing.idle first).2.2, List.nil_append]
      exact Option.length_toList_le
  · have rests := rests_of_not_works works context
    have fate := rests.fate.trans (given_fate _ call)
    rw [← left, standing.same] at fate
    obtain ⟨kind, fate⟩ := Prod.mk.inj fate
    obtain ⟨parsed, fate⟩ := Prod.mk.inj fate
    obtain ⟨-, status⟩ := Prod.mk.inj fate
    have same := standing.hasRun_snoc_of_not_works works context
    have nothing := done.trans (rests.nothing _)
    refine ⟨kind, fun idle => ?_, fun hasRun => ?_⟩
    · obtain ⟨unrun, unread, unexecuted⟩ := standing.idle (mt same.2 idle)
      rw [status, parsed, nothing, unread, words?_snoc]
      refine ⟨unrun, ?_, unexecuted⟩
      cases call.words? <;> rfl
    · rw [status, nothing]
      exact standing.worked (same.1 hasRun)

theorem standing (kind : Kind) (calls : List (Call × Context W)) : Standing kind calls := by
  induction calls using List.reverseRecOn with
  | nil => exact ⟨rfl, fun _ => ⟨rfl, rfl, rfl⟩, fun hasRun => absurd hasRun not_hasRun_nil⟩
  | append_singleton calls made ih => exact ih.snoc made.1 made.2

/-! ## Afterwards -/

omit [ArgumentReader] in
/-- A builtin that has run answers with its status, and with what is on record. -/
theorem answers_of_status {builtin : Builtin} {code : ExitCode}
    (status : builtin.status = some code) (context : Context W) :
    (builtin.wait context).1.1 = .ok code ∧
      builtin.output context = ((.ok builtin.recorded, builtin), context) := by
  constructor
  · simp only [wait]
    cases builtin.delivery <;> simp [status, pure_apply, bind_apply]
  · simp only [output, status, pure_apply]

/-- Whatever is called next, the builtin answers with this code and these bytes, and does
nothing more. -/
structure Settled (kind : Kind) (calls : List (Call × Context W)) (code : ExitCode)
    (bytes : Bytes) : Prop where
  wait : ∀ context : Context W, ((afterCalls kind calls).wait context).1.1 = .ok code
  /-- Nothing is written, and nothing else is done either. -/
  output : ∀ context : Context W, (afterCalls kind calls).output context =
    ((.ok bytes, afterCalls kind calls), context)
  session : ∀ call (context : Context W),
    ((afterCalls kind calls).answer call context).2.session = context.session
  nothing : ∀ call (context : Context W),
    executed kind (calls ++ [(call, context)]) = executed kind calls

theorem settled_of_status {code : ExitCode} (status : (afterCalls kind calls).status = some code) :
    Settled kind calls code (afterCalls kind calls).recorded := by
  have idle : ∀ call, ¬ (afterCalls kind calls).Works call := by
    intro call works
    have unrun := works.unrun
    rw [status] at unrun
    cases unrun
  refine ⟨fun context => (answers_of_status status context).1,
    fun context => (answers_of_status status context).2, fun call context => ?_,
    fun call context => ?_⟩
  · exact (rests_of_not_works (idle call) context).session
  · rw [executed_snoc]
    exact (rests_of_not_works (idle call) context).nothing _

/-- What has become of a builtin that has run does not change. -/
theorem status_append {code : ExitCode} (status : (afterCalls kind calls).status = some code)
    (later : List (Call × Context W)) :
    (afterCalls kind (calls ++ later)).status = some code ∧
      (afterCalls kind (calls ++ later)).recorded = (afterCalls kind calls).recorded := by
  induction later using List.reverseRecOn with
  | nil => simp [status]
  | append_singleton later made ih =>
      obtain ⟨call, context⟩ := made
      obtain ⟨still, kept⟩ := ih
      have idle : ¬ (afterCalls kind (calls ++ later)).Works call := by
        intro works
        have unrun := works.unrun
        rw [still] at unrun
        cases unrun
      have fate := (rests_of_not_works idle context).fate.trans (given_fate _ call)
      rw [← afterCalls_snoc, List.append_assoc] at fate
      obtain ⟨-, fate⟩ := Prod.mk.inj fate
      obtain ⟨-, fate⟩ := Prod.mk.inj fate
      obtain ⟨recorded, status⟩ := Prod.mk.inj fate
      exact ⟨status.trans still, recorded.trans kept⟩

/-- The life of a builtin, whatever the calls on it. -/
structure WorksOnce (W : Type) [Host W] (kind : Kind) : Prop where
  /-- What is executed is put on record beside the calls, which remain what they are. -/
  faithful : ∀ call (builtin : Builtin),
    Carried Prod.fst id (builtin.answerRecording call : StateM (Context W × _) _)
      (builtin.answer call)
  /-- At most one thing is executed. -/
  once : ∀ calls : List (Call × Context W), (executed kind calls).length ≤ 1
  /-- It is what the words ask for that were given last. -/
  latest : ∀ (calls : List (Call × Context W)) call (context : Context W),
    executed kind (calls ++ [(call, context)]) ≠ executed kind calls →
      ∃ words invocation, words? calls = some words ∧
        Invocation.parse kind [kind.name] words = .ok invocation ∧
        executed kind (calls ++ [(call, context)]) = [invocation]
  /-- A run is refused for want of words exactly if none were ever given, and it has not
  run. -/
  notParsed : ∀ (calls : List (Call × Context W)) (context : Context W) name,
    ((afterCalls kind calls).run context).1.1 = .error (.notParsed name) ↔
      name = kind.name ∧ ¬ HasRun calls ∧ words? calls = none
  /-- A run is refused as a second one exactly if it has run. -/
  alreadyRun : ∀ (calls : List (Call × Context W)) (context : Context W) name,
    ((afterCalls kind calls).run context).1.1 = .error (.alreadyRun name) ↔
      name = kind.name ∧ HasRun calls
  /-- The call that sets it to work settles everything, whatever it answers. -/
  settles : ∀ (calls : List (Call × Context W)) call (context : Context W),
    ¬ HasRun calls → call.Starts →
    words? calls ≠ none → ∃ code bytes,
      Concludes code bytes ((afterCalls kind calls).answer call context).1.1 ∧
      ∀ later, Settled kind (calls ++ (call, context) :: later) code bytes

/-- How a run is answered, as the builtin stands. -/
inductive RunAnswer (kind : Kind) (calls : List (Call × Context W)) :
    Except ShellError Unit → Prop
  | again (hasRun : HasRun calls) : RunAnswer kind calls (.error (.alreadyRun kind.name))
  | wordless (first : ¬ HasRun calls) (wordless : words? calls = none) :
      RunAnswer kind calls (.error (.notParsed kind.name))
  | done (first : ¬ HasRun calls) (worded : words? calls ≠ none) : RunAnswer kind calls (.ok ())
  | broken (first : ¬ HasRun calls) (worded : words? calls ≠ none) (cause : IoError) :
      RunAnswer kind calls (.error (.io cause))

theorem Standing.run_answer (standing : Standing kind calls) (context : Context W) :
    RunAnswer kind calls ((afterCalls kind calls).run context).1.1 := by
  have named : (afterCalls kind calls).name = kind.name := congrArg Kind.name standing.same
  by_cases hasRun : HasRun calls
  · obtain ⟨code, status⟩ := Option.ne_none_iff_exists'.1 (standing.worked hasRun).1
    have refused : (afterCalls kind calls).refusal? = some (.alreadyRun kind.name) := by
      rw [refusal?, status, named]
    rw [(run_of_refusal? refused context).1]
    exact .again hasRun
  · obtain ⟨unrun, parsed, -⟩ := standing.idle hasRun
    cases given : words? calls with
    | none =>
        rw [given, Option.map_none] at parsed
        have refused : (afterCalls kind calls).refusal? = some (.notParsed kind.name) := by
          rw [refusal?, unrun, parsed, named]
        rw [(run_of_refusal? refused context).1]
        exact .wordless hasRun given
    | some words =>
        rw [given, Option.map_some] at parsed
        obtain ⟨code, ran⟩ := exists_ran unrun parsed context
        have worded : words? calls ≠ none := by
          rw [given]
          exact Option.some_ne_none words
        rcases ran.answer with done | ⟨-, cause, broken⟩
        · rw [done]
          exact .done hasRun worded
        · rw [broken]
          exact .broken hasRun worded cause

/-- **A builtin works once.** -/
theorem works_once (kind : Kind) : WorksOnce W kind where
  faithful := answerRecording_erases
  once calls := by
    by_cases hasRun : HasRun calls
    · exact ((standing kind calls).worked hasRun).2
    · rw [((standing kind calls).idle hasRun).2.2]
      exact Nat.zero_le 1
  latest calls call context more := by
    have stands := standing kind calls
    rw [executed_snoc] at more ⊢
    by_cases works : (afterCalls kind calls).Works call
    · obtain ⟨first, words, code, bytes, given, worked⟩ := stands.exists_worked works context
      rw [worked.executes, (stands.idle first).2.2, List.nil_append] at more ⊢
      cases reading : Invocation.parse kind [kind.name] words with
      | error early => exact absurd (by rw [reading]; rfl) more
      | ok invocation => exact ⟨words, invocation, given, reading, rfl⟩
    · exact absurd ((rests_of_not_works works context).nothing _) more
  notParsed calls context name := by
    have answered := (standing kind calls).run_answer context
    generalize ((afterCalls kind calls).run context).1.1 = answer at answered ⊢
    cases answered <;> simp_all [eq_comm]
  alreadyRun calls context name := by
    have answered := (standing kind calls).run_answer context
    generalize ((afterCalls kind calls).run context).1.1 = answer at answered ⊢
    cases answered <;> simp_all [eq_comm]
  settles calls call context first starts worded := by
    have works : (afterCalls kind calls).Works call := by
      obtain ⟨unrun, parsed, -⟩ := (standing kind calls).idle first
      refine ⟨starts, unrun, ?_⟩
      rw [parsed, Option.isSome_map, Option.isSome_iff_ne_none]
      exact worded
    obtain ⟨-, words, code, bytes, -, worked⟩ := (standing kind calls).exists_worked works context
    refine ⟨code, bytes, worked.answer, fun later => ?_⟩
    have status : (afterCalls kind (calls ++ [(call, context)])).status = some code := by
      rw [afterCalls_snoc, worked.status]
    obtain ⟨still, kept⟩ := status_append status later
    have settled := settled_of_status still
    rw [kept, afterCalls_snoc, worked.recorded] at settled
    rwa [List.append_assoc] at settled

end PipelineShell.Builtin
