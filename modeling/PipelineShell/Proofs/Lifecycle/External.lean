/-
# Proofs.Lifecycle.External -- a program is started once

However the command of a program is called, its program is looked for and started at most
once: by the first run, or the first request for its output, that finds words and, for the
latter, an output of its own.  What has become of that start is remembered.  If it failed,
all there is to remember is a status, which is 127 exactly if no program was found; from it
the kind of failure is told again whenever the output is asked for.  If it succeeded, the
program is waited for once, and its status does not change any more.

`External.Fits` says which records go with which progress.  One call keeps them fitting
(`External.Fits.step`), and so does any number of calls; what is said of a command that was
called in any order (`External.starts_once`) is read off the record and the next call.
-/
import PipelineShell.Proofs.Lifecycle.Deeds
import PipelineShell.Proofs.Quiet

namespace PipelineShell.External

set_option autoImplicit false

open Lifecycle Stateful

variable {W : Type} [Host W]

/-! ## Records and progress -/

/-- What was looked for, if that was the deed. -/
def Deed.sought? : Deed → Option (Option Path)
  | .sought found => some found
  | _ => none

/-- If the deed was to wait for a program, it succeeded. -/
def Deed.Waited : Deed → Prop
  | .captured _ answer => answer.isOk = true
  | .awaited _ answer => answer.isOk = true
  | _ => True

instance : DecidablePred Deed.Waited
  | .captured _ answer => inferInstanceAs (Decidable (answer.isOk = true))
  | .awaited _ answer => inferInstanceAs (Decidable (answer.isOk = true))
  | .sought _ => inferInstanceAs (Decidable True)
  | .spawned _ => inferInstanceAs (Decidable True)
  | .killed _ => inferInstanceAs (Decidable True)

/-- The program has ended like this, and the command knows. -/
def Reaped (child : Child) (status : ExitStatus) (deeds : List Deed) : Prop :=
  .awaited child (.ok status) ∈ deeds ∨ ∃ bytes, .captured child (.ok (bytes, status)) ∈ deeds

/-- The attempts to start that are on record. -/
def attempts (deeds : List Deed) : List (Option Path) := deeds.filterMap Deed.sought?

@[simp] theorem attempts_nil : attempts [] = [] := rfl

@[simp] theorem attempts_append (deeds new : List Deed) :
    attempts (deeds ++ new) = attempts deeds ++ attempts new := List.filterMap_append

/-- A start that succeeded. -/
def started (path : Path) (child : Child) : List Deed := [.sought (some path), .spawned (.ok child)]

/-- The progress of a command that goes with a record. -/
inductive Fits : List Deed → Progress → Prop
  | idle : Fits [] .idle
  | failed {program : String} {deeds : List Deed} {fault : ShellError} {code : ExitCode}
      (failing : Fails program deeds fault code) : Fits deeds (.failed code)
  | running (path : Path) (child : Child) (kills : Nat) :
      Fits (started path child ++ List.replicate kills (.killed child)) (.running child)
  | awaited (path : Path) (child : Child) (kills : Nat) (status : ExitStatus) :
      Fits (started path child ++ List.replicate kills (.killed child) ++
        [.awaited child (.ok status)]) (.finished status.code)
  | captured (path : Path) (child : Child) (bytes : Bytes) (status : ExitStatus) :
      Fits (started path child ++ [.captured child (.ok (bytes, status))])
        (.finished status.code)

theorem Fits.of_idle {deeds : List Deed} (fits : Fits deeds .idle) : deeds = [] := by
  cases fits
  rfl

theorem Fits.of_running {deeds : List Deed} {child : Child} (fits : Fits deeds (.running child)) :
    ∃ path kills, deeds = started path child ++ List.replicate kills (.killed child) := by
  cases fits with
  | running path child kills => exact ⟨path, kills, rfl⟩

/-- **The record fits the progress after one call more**, if it was no failed attempt to
wait. -/
theorem Fits.step {external : External} {deeds new : List Deed} {call : Call} {answer : Answer}
    {progress : Progress} (fits : Fits deeds external.progress)
    (comes : Comes external call new answer progress) (waited : ∀ deed ∈ new, deed.Waited) :
    Fits (deeds ++ new) progress := by
  cases comes with
  | aside answer other => rwa [List.append_nil]
  | runAgain busy => rwa [List.append_nil]
  | runWordless idle wordless => rwa [List.append_nil, ← idle]
  | runFails idle worded failing =>
      rw [idle] at fits
      rw [fits.of_idle]
      exact .failed failing
  | runStarts path child idle worded =>
      rw [idle] at fits
      rw [fits.of_idle]
      exact .running path child 0
  | outputBound idle bound => rwa [List.append_nil, ← idle]
  | outputWordless idle free wordless => rwa [List.append_nil, ← idle]
  | outputFails idle free worded failing =>
      rw [idle] at fits
      rw [fits.of_idle]
      exact .failed failing
  | outputCollects path child bytes status idle free worded =>
      rw [idle] at fits
      rw [fits.of_idle]
      exact .captured path child bytes status
  | outputLoses path child fault idle free worded =>
      have impossible := waited (.captured child (.error fault)) (by simp)
      cases impossible
  | outputFailed failed => rwa [List.append_nil, ← failed]
  | outputReaps status running =>
      rw [running] at fits
      obtain ⟨path, kills, rfl⟩ := fits.of_running
      exact .awaited path _ kills status
  | outputLeaves fault running =>
      have impossible := waited (.awaited _ (.error fault)) (List.mem_singleton_self _)
      cases impossible
  | outputFinished finished => rwa [List.append_nil, ← finished]
  | waitIdle idle => rwa [List.append_nil, ← idle]
  | waitReaps status running =>
      rw [running] at fits
      obtain ⟨path, kills, rfl⟩ := fits.of_running
      exact .awaited path _ kills status
  | waitLeaves fault running =>
      have impossible := waited (.awaited _ (.error fault)) (List.mem_singleton_self _)
      cases impossible
  | waitOver past => rwa [List.append_nil]
  | aborts running =>
      rw [running] at fits
      obtain ⟨path, kills, rfl⟩ := fits.of_running
      rw [List.append_assoc, ← List.replicate_succ']
      exact .running path _ (kills + 1)
  | abortsNothing stopped => rwa [List.append_nil]

/-! ## What is read off them -/

theorem Fails.attempts_eq {program : String} {deeds : List Deed} {fault : ShellError}
    {code : ExitCode} (failing : Fails program deeds fault code) :
    ∃ found, attempts deeds = [found] := by
  cases failing with
  | unknown => exact ⟨none, rfl⟩
  | refused path cause => exact ⟨some path, rfl⟩

/-- The status that is remembered is that of the error. -/
theorem Fails.exitCode {program : String} {deeds : List Deed} {fault : ShellError}
    {code : ExitCode} (failing : Fails program deeds fault code) : code = fault.exitCode := by
  cases failing <;> rfl

theorem attempts_kills (child : Child) (kills : Nat) :
    attempts (List.replicate kills (.killed child)) = [] := by
  refine List.filterMap_eq_nil_iff.2 fun deed member => ?_
  rw [List.eq_of_mem_replicate member]
  rfl

/-- No start was attempted, or one was, and then the command is idle no more. -/
theorem Fits.attempts {deeds : List Deed} {progress : Progress} (fits : Fits deeds progress) :
    progress = .idle ∧ attempts deeds = [] ∨
      progress ≠ .idle ∧ ∃ found, attempts deeds = [found] := by
  cases fits with
  | idle => exact .inl ⟨rfl, rfl⟩
  | failed failing => exact .inr ⟨nofun, failing.attempts_eq⟩
  | running path child kills =>
      exact .inr ⟨nofun, some path, by rw [attempts_append, attempts_kills]; rfl⟩
  | awaited path child kills status =>
      exact .inr ⟨nofun, some path, by rw [attempts_append, attempts_append, attempts_kills]; rfl⟩
  | captured path child bytes status => exact .inr ⟨nofun, some path, rfl⟩

theorem Fits.attempts_eq_nil_iff {deeds : List Deed} {progress : Progress}
    (fits : Fits deeds progress) : External.attempts deeds = [] ↔ progress = .idle := by
  rcases fits.attempts with ⟨idle, none_⟩ | ⟨busy, found, one⟩
  · exact iff_of_true none_ idle
  · exact iff_of_false (by rw [one]; exact List.cons_ne_nil _ _) busy

/-- How a run is answered, and whether it attempts a start. -/
theorem Comes.of_run {external : External} {new : List Deed} {answer : Answer}
    {progress : Progress} (comes : Comes external .run new answer progress) :
    (attempts new ≠ [] ↔ external.progress = .idle ∧ external.words ≠ []) ∧
    (∀ name, answer = .ran (.error (.alreadyRun name)) ↔
      name = external.program ∧ external.progress ≠ .idle) ∧
    (∀ name, answer = .ran (.error (.notParsed name)) ↔
      name = "" ∧ external.progress = .idle ∧ external.words = []) := by
  cases comes with
  | aside answer other => exact absurd (.inl rfl) other.1
  | runAgain busy => simp [busy, eq_comm]
  | runWordless idle wordless => simp [idle, wordless, eq_comm]
  | runFails idle worded failing =>
      cases failing <;> simp [idle, worded, attempts, Deed.sought?]
  | runStarts path child idle worded => simp [idle, worded, attempts, Deed.sought?]

/-- How a request for the output is answered by a command that was never started, and
whether it attempts a start. -/
theorem Comes.of_output {external : External} {new : List Deed} {answer : Answer}
    {progress : Progress} (comes : Comes external .output new answer progress)
    (idle : external.progress = .idle) :
    (attempts new ≠ [] ↔ external.outputBound = false ∧ external.words ≠ []) ∧
    (∀ name, answer = .produced (.error (.stdoutBound name)) ↔
      name = external.program ∧ external.outputBound = true) ∧
    (∀ name, answer = .produced (.error (.notParsed name)) ↔
      name = "" ∧ external.outputBound = false ∧ external.words = []) := by
  cases comes with
  | aside answer other => exact absurd (.inr rfl) other.1
  | outputBound idle bound => simp [bound, eq_comm]
  | outputWordless idle free wordless => simp [free, wordless, eq_comm]
  | outputFails idle free worded failing =>
      cases failing <;> simp [free, worded, attempts, Deed.sought?]
  | outputCollects path child bytes status idle free worded =>
      have ended : ∀ fault, (∀ code, fault ≠ .exited external.program code bytes) →
          collected external.program bytes status ≠ .error fault := by
        intro fault other
        simp only [collected]
        split
        · intro same
          cases same
        · exact fun same => other _ (Except.error.inj same).symm
      simp [free, worded, attempts, Deed.sought?, ended]
  | outputLoses path child fault idle free worded =>
      simp [free, worded, attempts, Deed.sought?]
  | outputFailed failed => rw [idle] at failed; cases failed
  | outputReaps status running => rw [idle] at running; cases running
  | outputLeaves fault running => rw [idle] at running; cases running
  | outputFinished finished => rw [idle] at finished; cases finished

/-- A command whose start failed remembers that, and does nothing more. -/
theorem Comes.of_failed {external : External} {call : Call} {new : List Deed} {answer : Answer}
    {progress : Progress} {code : ExitCode} (comes : Comes external call new answer progress)
    (failed : external.progress = .failed code) :
    new = [] ∧ progress = .failed code ∧
      (call = .output → answer = .produced (.error (external.startFailure code))) ∧
      (call = .wait → answer = .ended (.ok code)) := by
  cases comes <;> simp_all [Call.Starts]

/-- What became of a program that was started. -/
theorem Fits.of_spawned {deeds : List Deed} {progress : Progress} {child : Child}
    (fits : Fits deeds progress) (spawned : .spawned (.ok child) ∈ deeds) :
    progress = .running child ∨
      ∃ status, progress = .finished status.code ∧ Reaped child status deeds := by
  cases fits with
  | idle => cases spawned
  | failed failing => cases failing <;> simp at spawned
  | running path child' kills =>
      obtain rfl : child = child' := by simpa [started, List.mem_replicate] using spawned
      exact .inl rfl
  | awaited path child' kills status =>
      obtain rfl : child = child' := by simpa [started, List.mem_replicate] using spawned
      exact .inr ⟨status, rfl, .inl (by simp)⟩
  | captured path child' bytes status =>
      obtain rfl : child = child' := by simpa [started] using spawned
      exact .inr ⟨status, rfl, .inr ⟨bytes, by simp⟩⟩

theorem Fits.of_reaped {deeds : List Deed} {progress : Progress} {child : Child}
    {status : ExitStatus} (fits : Fits deeds progress) (reaped : Reaped child status deeds) :
    progress = .finished status.code := by
  cases fits with
  | idle => simp [Reaped] at reaped
  | failed failing => cases failing <;> simp [Reaped] at reaped
  | running path child' kills => simp [Reaped, started, List.mem_replicate] at reaped
  | awaited path child' kills status' =>
      obtain ⟨-, rfl⟩ : child = child' ∧ status = status' := by
        simpa [Reaped, started, List.mem_replicate] using reaped
      rfl
  | captured path child' bytes status' =>
      obtain ⟨-, rfl⟩ : child = child' ∧ status = status' := by
        simpa [Reaped, started] using reaped
      rfl

/-- A program that was started is waited for by a request for the output, and the output is
elsewhere. -/
theorem Comes.of_spawned {external : External} {deeds new : List Deed} {answer : Answer}
    {progress : Progress} {child : Child} (comes : Comes external .output new answer progress)
    (fits : Fits deeds external.progress) (spawned : .spawned (.ok child) ∈ deeds)
    (waited : ∀ deed ∈ new, deed.Waited) :
    answer = .produced (.error (.stdoutBound external.program)) ∧
      ∃ status, Reaped child status (deeds ++ new) := by
  have further : ∀ status, Reaped child status deeds → Reaped child status (deeds ++ new) := by
    rintro status (awaited | ⟨bytes, captured⟩)
    · exact .inl (List.mem_append_left new awaited)
    · exact .inr ⟨bytes, List.mem_append_left new captured⟩
  rcases fits.of_spawned spawned with running | ⟨status, finished, reaped⟩
  · cases comes
    case outputReaps reaped status now =>
      rw [running] at now
      cases now
      exact ⟨rfl, status, .inl (by simp)⟩
    case outputLeaves left fault now =>
      have impossible := waited (.awaited left (.error fault)) (List.mem_singleton_self _)
      cases impossible
    all_goals simp_all [Call.Starts]
  · cases comes
    case outputFinished code now => exact ⟨rfl, status, further status reaped⟩
    all_goals simp_all [Call.Starts]

/-- A command that knows how its program ended says so to whoever waits. -/
theorem Comes.of_finished {external : External} {call : Call} {new : List Deed}
    {answer : Answer} {progress : Progress} {code : ExitCode}
    (comes : Comes external call new answer progress)
    (finished : external.progress = .finished code) : new = [] := by
  cases comes <;> simp_all

theorem Comes.of_wait {external : External} {new : List Deed} {answer : Answer}
    {code : ExitCode} (comes : Comes external .wait new answer (.finished code)) :
    answer = .ended (.ok code) := by
  generalize left : Progress.finished code = progress at comes
  cases comes with
  | aside answer other => exact absurd rfl other.2.1
  | waitIdle idle => cases left
  | waitReaps status running =>
      cases left
      rfl
  | waitLeaves fault running => cases left
  | waitOver past =>
      rw [← left] at past
      rcases past with same | other
      · cases same
        rfl
      · cases other

/-! ## Any calls -/

section Calls

variable (calls : List (Call × Context W))

/-- The command after the calls, which were made on a fresh one. -/
def afterCalls : External := after answer fresh calls

/-- What it has done by then. -/
def deeds : List Deed := (recorded answerRecording fresh calls).2

/-- The words that it has then. -/
def wordsOf : List String := (words? calls).getD []

/-- The word for its program. -/
def programOf : String := (wordsOf calls).head?.getD ""

/-- Its output was bound in one of the calls. -/
def bound : Bool := calls.any binds

/-- How the command stands after the calls. -/
structure Standing : Prop where
  words : (afterCalls calls).words = wordsOf calls
  outputBound : (afterCalls calls).outputBound = bound calls
  fits : (∀ deed ∈ deeds calls, deed.Waited) → Fits (deeds calls) (afterCalls calls).progress

theorem afterCalls_snoc (call : Call) (context : Context W) :
    afterCalls (calls ++ [(call, context)]) = ((afterCalls calls).answer call context).1.2 :=
  after_snoc calls call context

/-- What one call more comes to. -/
theorem comes_snoc (call : Call) (context : Context W) :
    ∃ new, deeds (calls ++ [(call, context)]) = deeds calls ++ new ∧
      Comes (afterCalls calls) call new ((afterCalls calls).answer call context).1.1
        (afterCalls (calls ++ [(call, context)])).progress := by
  have course := answerRecording_course (afterCalls calls) context (deeds calls) call
  have same := answerRecording_erases (afterCalls calls) call (context, deeds calls)
  obtain ⟨new, put, comes⟩ := course.comes
  refine ⟨new, ?_, ?_⟩
  · rw [deeds, recorded_snoc_snd fun call external => answerRecording_erases external call]
    exact put
  · rw [afterCalls_snoc, same]
    exact comes

variable {calls}

theorem Standing.snoc (standing : Standing calls) (call : Call) (context : Context W) :
    Standing (calls ++ [(call, context)]) := by
  have course := answerRecording_course (afterCalls calls) context (deeds calls) call
  have same := answerRecording_erases (afterCalls calls) call (context, deeds calls)
  have left := afterCalls_snoc calls call context
  rw [same] at left
  refine ⟨?_, ?_, fun waited => ?_⟩
  · rw [left, wordsOf, words?_snoc]
    refine course.words.trans ?_
    rw [standing.words, wordsOf]
    cases call.words? <;> rfl
  · rw [left, bound, List.any_append, List.any_cons, List.any_nil, Bool.or_false]
    rw [← bound, ← standing.outputBound]
    exact course.outputBound
  · obtain ⟨new, put, comes⟩ := comes_snoc calls call context
    rw [put] at waited ⊢
    obtain ⟨before, now⟩ := List.forall_mem_append.1 waited
    exact (standing.fits before).step comes now

theorem standing (calls : List (Call × Context W)) : Standing calls := by
  induction calls using List.reverseRecOn with
  | nil => exact ⟨rfl, rfl, fun _ => .idle⟩
  | append_singleton calls made ih => exact ih.snoc made.1 made.2

theorem deeds_append (before later : List (Call × Context W)) :
    deeds before <+: deeds (before ++ later) := by
  induction later using List.reverseRecOn with
  | nil => simp
  | append_singleton later made ih =>
      obtain ⟨new, put, -⟩ := comes_snoc (before ++ later) made.1 made.2
      rw [← List.append_assoc, put]
      exact ih.trans (List.prefix_append _ new)

/-- A failed start is not forgotten. -/
theorem failed_append {code : ExitCode} (failed : (afterCalls calls).progress = .failed code)
    (later : List (Call × Context W)) :
    (afterCalls (calls ++ later)).progress = .failed code ∧
      deeds (calls ++ later) = deeds calls := by
  induction later using List.reverseRecOn with
  | nil => simp [failed]
  | append_singleton later made ih =>
      obtain ⟨still, same⟩ := ih
      obtain ⟨new, put, comes⟩ := comes_snoc (calls ++ later) made.1 made.2
      obtain ⟨nothing, failed, -, -⟩ := comes.of_failed still
      rw [← List.append_assoc, put, nothing, List.append_nil]
      exact ⟨failed, same⟩

/-- The call attempts to start the program. -/
def Attempts (before : List (Call × Context W)) (call : Call) (context : Context W) : Prop :=
  attempts (deeds (before ++ [(call, context)])) ≠ attempts (deeds before)

/-- Among the calls, this one is made after those before it. -/
def Makes (calls before : List (Call × Context W)) (call : Call) (context : Context W) : Prop :=
  before ++ [(call, context)] <+: calls

/-- In one of the calls a start was attempted and failed, and this is what the caller was
told. -/
def FailedWith (calls : List (Call × Context W)) (fault : ShellError) : Prop :=
  ∃ before call context, Makes calls before call context ∧ Attempts before call context ∧
    (∀ child, .spawned (.ok child) ∉ deeds (before ++ [(call, context)])) ∧
    (((afterCalls before).answer call context).1.1 = .ran (.error fault) ∨
      ((afterCalls before).answer call context).1.1 = .produced (.error fault))

/-- What is known for good when a start has failed with an error. -/
structure Failed (calls : List (Call × Context W)) (fault : ShellError) : Prop where
  /-- The program was not found, or could not be started. -/
  cause : (∃ name, fault = .notFound name) ∧ .sought none ∈ deeds calls ∨
    (∃ name cause, fault = .spawn name cause ∧ .spawned (.error cause) ∈ deeds calls)
  code : fault.exitCode = 127 ∨ fault.exitCode = 126
  wait : ∀ context : Context W, ((afterCalls calls).wait context).1.1 = .ok fault.exitCode
  /-- The output is still refused for the same reason, under the name the program has now. -/
  output : ∀ context : Context W, ((afterCalls calls).output context).1.1 =
    .error (if fault.exitCode = 127 then .notFound (programOf calls)
      else .spawn (programOf calls) .notStarted)

/-- A program is started once, whatever the calls. -/
structure StartsOnce (calls : List (Call × Context W)) : Prop where
  /-- What is done is put on record beside the calls, which remain what they are. -/
  faithful : ∀ call (external : External),
    Carried Prod.fst id (external.answerRecording call : StateM (Context W × _) _)
      (external.answer call)
  once : (attempts (deeds calls)).length ≤ 1
  run : ∀ before context, Makes calls before .run context →
    (Attempts before .run context ↔ attempts (deeds before) = [] ∧ wordsOf before ≠ [])
  alreadyRun : ∀ before context name, Makes calls before .run context →
    (((afterCalls before).run context).1.1 = .error (.alreadyRun name) ↔
      name = programOf before ∧ attempts (deeds before) ≠ [])
  notParsed : ∀ before context name, Makes calls before .run context →
    (((afterCalls before).run context).1.1 = .error (.notParsed name) ↔
      name = "" ∧ attempts (deeds before) = [] ∧ wordsOf before = [])
  output : ∀ before context, Makes calls before .output context → attempts (deeds before) = [] →
    (Attempts before .output context ↔ bound before = false ∧ wordsOf before ≠ [])
  outputBound : ∀ before context name, Makes calls before .output context →
    attempts (deeds before) = [] →
    (((afterCalls before).output context).1.1 = .error (.stdoutBound name) ↔
      name = programOf before ∧ bound before = true)
  outputNotParsed : ∀ before context name, Makes calls before .output context →
    attempts (deeds before) = [] →
    (((afterCalls before).output context).1.1 = .error (.notParsed name) ↔
      name = "" ∧ bound before = false ∧ wordsOf before = [])
  /-- The output of a program that was started is elsewhere, but the program is reaped. -/
  started : ∀ before context child, Makes calls before .output context →
    .spawned (.ok child) ∈ deeds before →
    ((afterCalls before).output context).1.1 = .error (.stdoutBound (programOf before)) ∧
      ∃ status, Reaped child status (deeds (before ++ [(.output, context)]))
  failed : ∀ before fault, before <+: calls → FailedWith before fault → Failed before fault
  /-- A program that was reaped, in this call or before it, has its status for good. -/
  reaped : ∀ before context child status, Makes calls before .wait context →
    Reaped child status (deeds (before ++ [(.wait, context)])) →
    ((afterCalls before).wait context).1.1 = .ok status.code
  /-- There is nothing more to be done about it. -/
  past : ∀ before call context child status, Makes calls before call context →
    Reaped child status (deeds before) → deeds (before ++ [(call, context)]) = deeds before

theorem answer_run (external : External) (context : Context W) :
    (external.answer .run context).1.1 = .ran (external.run context).1.1 := rfl

theorem answer_output (external : External) (context : Context W) :
    (external.answer .output context).1.1 = .produced (external.output context).1.1 := rfl

theorem Standing.program (standing : Standing calls) :
    (afterCalls calls).program = programOf calls := by
  rw [External.program, standing.words, programOf]

theorem attempts_iff {before : List (Call × Context W)} {call : Call} {context : Context W}
    {new : List Deed} (put : deeds (before ++ [(call, context)]) = deeds before ++ new) :
    Attempts before call context ↔ attempts new ≠ [] := by
  rw [Attempts, put, attempts_append]
  simp

/-- What was remembered of the failed start tells it again. -/
theorem Fails.cause {program : String} {deeds : List Deed} {fault : ShellError}
    {code : ExitCode} (failing : Fails program deeds fault code) :
    ((∃ name, fault = .notFound name) ∧ .sought none ∈ deeds ∨
      (∃ name cause, fault = .spawn name cause ∧ .spawned (.error cause) ∈ deeds)) ∧
    (fault.exitCode = 127 ∨ fault.exitCode = 126) := by
  cases failing with
  | unknown => exact ⟨.inl ⟨⟨program, rfl⟩, List.mem_singleton_self _⟩, .inl rfl⟩
  | refused path cause => exact ⟨.inr ⟨program, cause, rfl, by simp⟩, .inr rfl⟩

/-- A call by which a start was attempted that got no program running. -/
theorem Comes.of_attempt {external : External} {call : Call} {new : List Deed}
    {answer : Answer} {progress : Progress} {fault : ShellError}
    (comes : Comes external call new answer progress) (attempted : attempts new ≠ [])
    (childless : ∀ child, .spawned (.ok child) ∉ new)
    (answered : answer = .ran (.error fault) ∨ answer = .produced (.error fault)) :
    external.progress = .idle ∧ Fails external.program new fault fault.exitCode ∧
      progress = .failed fault.exitCode := by
  cases comes with
  | runFails idle worded failing =>
      obtain rfl : _ = fault := by simpa using answered
      exact ⟨idle, failing.exitCode ▸ failing, congrArg _ failing.exitCode⟩
  | outputFails idle free worded failing =>
      obtain rfl : _ = fault := by simpa using answered
      exact ⟨idle, failing.exitCode ▸ failing, congrArg _ failing.exitCode⟩
  | runStarts path child idle worded => exact absurd (by simp) (childless child)
  | outputCollects path child bytes status idle free worded =>
      exact absurd (by simp) (childless child)
  | outputLoses path child fault idle free worded => exact absurd (by simp) (childless child)
  | _ => exact absurd rfl attempted

/-- The call that told of a failed start left a command that remembers it. -/
theorem FailedWith.fails {fault : ShellError} (told : FailedWith calls fault)
    (fits : ∀ before, before <+: calls → Fits (deeds before) (afterCalls before).progress) :
    ∃ program, Fails program (deeds calls) fault fault.exitCode ∧
      (afterCalls calls).progress = .failed fault.exitCode := by
  obtain ⟨before, call, context, ⟨later, rfl⟩, attempted, childless, answered⟩ := told
  obtain ⟨new, put, comes⟩ := comes_snoc before call context
  rw [attempts_iff put] at attempted
  have childlessNow : ∀ child, .spawned (.ok child) ∉ new := fun child member =>
    childless child (put ▸ List.mem_append_right _ member)
  obtain ⟨idle, failing, failed⟩ := comes.of_attempt attempted childlessNow answered
  have first : deeds before = [] := by
    have fitting := fits before (by simp)
    rw [idle] at fitting
    exact fitting.of_idle
  obtain ⟨still, same⟩ := failed_append failed later
  refine ⟨(afterCalls before).program, ?_, still⟩
  rw [same, put, first]
  exact failing

/-- What is remembered of a failed start. -/
theorem failed_of_fails {program : String} {fault : ShellError}
    (failing : Fails program (deeds calls) fault fault.exitCode)
    (failed : (afterCalls calls).progress = .failed fault.exitCode) : Failed calls fault := by
  obtain ⟨cause, code⟩ := failing.cause
  refine ⟨cause, code, fun context => ?_, fun context => ?_⟩
  · obtain ⟨new, -, comes⟩ := comes_snoc calls .wait context
    exact Answer.ended.inj ((comes.of_failed failed).2.2.2 rfl)
  · obtain ⟨new, -, comes⟩ := comes_snoc calls .output context
    have answered := (comes.of_failed failed).2.2.1 rfl
    rw [answer_output, Answer.produced.injEq] at answered
    rw [answered, startFailure, (standing calls).program]

/-- **A program is started once**, and what became of it is not forgotten, if only to wait
for it never fails. -/
theorem starts_once (calls : List (Call × Context W))
    (waited : ∀ deed ∈ deeds calls, deed.Waited) : StartsOnce calls := by
  have fits : ∀ before, before <+: calls → Fits (deeds before) (afterCalls before).progress := by
    rintro before ⟨later, rfl⟩
    refine (standing before).fits fun deed member => waited deed ?_
    exact (deeds_append before later).subset member
  have earlier : ∀ {before call context}, Makes calls before call context → before <+: calls :=
    fun makes => (List.prefix_append _ _).trans makes
  refine ⟨fun call external => answerRecording_erases external call, ?once, ?run, ?alreadyRun,
    ?notParsed, ?output, ?outputBound, ?outputNotParsed, ?started, ?failed, ?reaped, ?past⟩
  case once =>
    rcases (fits calls (List.prefix_refl calls)).attempts with ⟨-, none_⟩ | ⟨-, found, one⟩
    · rw [none_]
      exact Nat.zero_le 1
    · rw [one]
      exact Nat.le_refl 1
  case run =>
    intro before context makes
    obtain ⟨new, put, comes⟩ := comes_snoc before .run context
    rw [attempts_iff put, comes.of_run.1, (fits before (earlier makes)).attempts_eq_nil_iff,
      (standing before).words]
  case alreadyRun =>
    intro before context name makes
    obtain ⟨new, put, comes⟩ := comes_snoc before .run context
    have answered := comes.of_run.2.1 name
    rw [answer_run, Answer.ran.injEq, (standing before).program] at answered
    rw [answered, Ne, Ne, (fits before (earlier makes)).attempts_eq_nil_iff]
  case notParsed =>
    intro before context name makes
    obtain ⟨new, put, comes⟩ := comes_snoc before .run context
    have answered := comes.of_run.2.2 name
    rw [answer_run, Answer.ran.injEq, (standing before).words] at answered
    rw [answered, (fits before (earlier makes)).attempts_eq_nil_iff]
  case output =>
    intro before context makes first
    obtain ⟨new, put, comes⟩ := comes_snoc before .output context
    rw [(fits before (earlier makes)).attempts_eq_nil_iff] at first
    rw [attempts_iff put, (comes.of_output first).1, (standing before).words,
      (standing before).outputBound]
  case outputBound =>
    intro before context name makes first
    obtain ⟨new, put, comes⟩ := comes_snoc before .output context
    rw [(fits before (earlier makes)).attempts_eq_nil_iff] at first
    have answered := (comes.of_output first).2.1 name
    rwa [answer_output, Answer.produced.injEq, (standing before).program,
      (standing before).outputBound] at answered
  case outputNotParsed =>
    intro before context name makes first
    obtain ⟨new, put, comes⟩ := comes_snoc before .output context
    rw [(fits before (earlier makes)).attempts_eq_nil_iff] at first
    have answered := (comes.of_output first).2.2 name
    rwa [answer_output, Answer.produced.injEq, (standing before).words,
      (standing before).outputBound] at answered
  case started =>
    intro before context child makes spawned
    obtain ⟨new, put, comes⟩ := comes_snoc before .output context
    have succeeded : ∀ deed ∈ new, deed.Waited := by
      intro deed member
      obtain ⟨later, rfl⟩ := makes
      refine waited deed ((deeds_append _ later).subset ?_)
      rw [put]
      exact List.mem_append_right _ member
    obtain ⟨answered, reaped⟩ :=
      comes.of_spawned (fits before (earlier makes)) spawned succeeded
    rw [answer_output, Answer.produced.injEq, (standing before).program] at answered
    exact ⟨answered, put ▸ reaped⟩
  case failed =>
    intro before fault earlier told
    obtain ⟨program, failing, failed⟩ := told.fails fun first prefixed =>
      fits first (prefixed.trans earlier)
    exact failed_of_fails failing failed
  case reaped =>
    intro before context child status makes reaped
    obtain ⟨new, put, comes⟩ := comes_snoc before .wait context
    rw [(fits _ makes).of_reaped reaped] at comes
    exact Answer.ended.inj comes.of_wait
  case past =>
    intro before call context child status makes reaped
    obtain ⟨new, put, comes⟩ := comes_snoc before call context
    have finished := (fits before (earlier makes)).of_reaped reaped
    rw [put, comes.of_finished finished, List.append_nil]

/-- A program that is run, aborted, waited for, and then asked for its output. -/
def sortCalls : List (Call × Context Quiet) :=
  [.wait, .parseArguments ["sort", "-r"], .run, .abort, .wait, .run, .output].map
    (·, Quiet.context)

theorem starts_once_sortCalls :
    (∀ deed ∈ deeds sortCalls, deed.Waited) ∧ StartsOnce sortCalls ∧
      (attempts (deeds sortCalls)).length = 1 ∧ (deeds sortCalls).length = 4 :=
  have waited : ∀ deed ∈ deeds sortCalls, deed.Waited := by decide +kernel
  ⟨waited, starts_once sortCalls waited, by decide +kernel, by decide +kernel⟩

end Calls

end PipelineShell.External
