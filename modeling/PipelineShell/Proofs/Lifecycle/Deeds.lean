/-
# Proofs.Lifecycle.Deeds -- what the command of a program does when it is called

What a command does about its program is put on record as a list of `Deed`s, by a second
account of each call (`External.answerRecording`).  With the record left out, that is the
first account (`External.answerRecording_erases`).

`External.Comes` lists what one call can come to: the deeds, the answer, and how far the
command has come then.  That it can come to nothing else is shown call by call
(`External.answerRecording_course`).
-/
import PipelineShell.External.Basic
import PipelineShell.Proofs.Lifecycle.Calls

namespace PipelineShell.External

set_option autoImplicit false

open Lifecycle Stateful

variable {W : Type} [Host W]

/-! ## Calls on record -/

/-- Something that a command does about its program. -/
inductive Deed where
  /-- It looked for the program, which is how a start begins. -/
  | sought (found : Option Path)
  | spawned (answer : Except IoError Child)
  | captured (child : Child) (answer : Except IoError (Bytes × ExitStatus))
  | awaited (child : Child) (answer : Except IoError ExitStatus)
  | killed (child : Child)

/-- A start, with what is done in it put on record. -/
def startRecording (external : External) (output : LaunchOutput) :
    StateM (Context W × List Deed) (Except ShellError Child × External) := do
  let streams := external.streams
  let external := { external with streams := Streams.standard }
  let session ← unrecorded (Context.ask id)
  let found ← unrecorded (Context.look (external.located session))
  record (.sought found)
  match found with
  | none =>
    let fault := ShellError.notFound external.program
    unrecorded (closeLaunchOutput output)
    unrecorded streams.release
    pure (.error fault, { external with progress := .failed fault.exitCode })
  | some path =>
    let process ← unrecorded (Context.look Host.environment)
    let answer ← unrecorded
      (Context.act (Host.spawn (external.launch session process path streams output)))
    record (.spawned answer)
    match answer with
    | .ok child => pure (.ok child, external)
    | .error cause =>
      let fault := ShellError.spawn external.program cause
      pure (.error fault, { external with progress := .failed fault.exitCode })

/-- A run, with what is done in it put on record. -/
def runRecording (external : External) :
    StateM (Context W × List Deed) (Except ShellError Unit × External) := do
  match external.progress, external.words with
  | .idle, [] => pure (.error (.notParsed ""), external)
  | .idle, _ :: _ =>
    let output := external.streams.output
    let external :=
      { external with streams := { external.streams with output := .standardOutput } }
    match ← external.startRecording (.handle output) with
    | (.ok child, external) => pure (.ok (), { external with progress := .running child })
    | (.error fault, external) => pure (.error fault, external)
  | _, _ => pure (.error (.alreadyRun external.program), external)

/-- To wait, with what is done in it put on record. -/
def waitRecording (external : External) :
    StateM (Context W × List Deed) (Except ShellError ExitCode × External) := do
  match external.progress with
  | .idle => pure (.ok 0, external)
  | .running child =>
    let answer ← unrecorded (Context.act (Host.wait child))
    record (.awaited child answer)
    match answer with
    | .ok status => pure (.ok status.code, { external with progress := .finished status.code })
    | .error fault => pure (.error (.io fault), external)
  | .finished code => pure (.ok code, external)
  | .failed code => pure (.ok code, external)

/-- To collect the output, with what is done in it put on record. -/
def collectRecording (external : External) :
    StateM (Context W × List Deed) (Except ShellError Bytes × External) := do
  match ← external.startRecording .captured with
  | (.error fault, external) => pure (.error fault, external)
  | (.ok child, external) =>
    let answer ← unrecorded (Context.act (Host.capture child))
    record (.captured child answer)
    match answer with
    | .error fault => pure (.error (.io fault), external)
    | .ok (bytes, status) =>
      let external := { external with progress := .finished status.code }
      if status = .exited 0 then pure (.ok bytes, external)
      else pure (.error (.exited external.program status.code bytes), external)

/-- A request for the output, with what is done in it put on record. -/
def outputRecording (external : External) :
    StateM (Context W × List Deed) (Except ShellError Bytes × External) := do
  match external.progress with
  | .idle =>
    if external.outputBound then pure (.error (.stdoutBound external.program), external)
    else if external.words.isEmpty then pure (.error (.notParsed ""), external)
    else external.collectRecording
  | .failed code => pure (.error (external.startFailure code), external)
  | _ =>
    match ← external.waitRecording with
    | (.ok _, external) => pure (.error (.stdoutBound external.program), external)
    | (.error fault, external) => pure (.error fault, external)

/-- To abort, with what is done in it put on record. -/
def abortRecording (external : External) : StateM (Context W × List Deed) External := do
  match external.progress with
  | .running child =>
    let _ ← unrecorded (Context.act (Host.kill child))
    record (.killed child)
    pure external
  | _ => pure external

/-- What the command of a program answers to a call. -/
def answer (call : Call) (external : External) : StateM (Context W) (Answer × External) :=
  match call with
  | .parseArguments words => pure (.nothing, external.parseArguments words)
  | .setInput input => (.nothing, ·) <$> external.setInput input
  | .setOutput output => (.nothing, ·) <$> external.setOutput output
  | .setError error => (.nothing, ·) <$> external.setError error
  | .openPipe => Prod.map .pipe id <$> external.openPipe
  | .run => Prod.map .ran id <$> external.run
  | .output => Prod.map .produced id <$> external.output
  | .wait => Prod.map .ended id <$> external.wait
  | .abort => (.nothing, ·) <$> external.abort

/-- What it answers, with what it does put on record. -/
def answerRecording (call : Call) (external : External) :
    StateM (Context W × List Deed) (Answer × External) :=
  match call with
  | .run => Prod.map .ran id <$> external.runRecording
  | .output => Prod.map .produced id <$> external.outputRecording
  | .wait => Prod.map .ended id <$> external.waitRecording
  | .abort => (.nothing, ·) <$> external.abortRecording
  | other => unrecorded (external.answer other)

section Erasure

variable (external : External)

theorem startRecording_erases (output : LaunchOutput) :
    Carried Prod.fst id (external.startRecording output : StateM (Context W × _) _)
      (external.start output) := by
  refine (unrecorded_erases _).bind fun session => (unrecorded_erases _).bind fun found => ?_
  refine record_erases (Deed.sought found) ?_
  cases found with
  | none =>
      exact (unrecorded_erases _).bind fun _ => (unrecorded_erases _).bind fun _ => .pure id _
  | some path =>
      refine (unrecorded_erases _).bind fun process => (unrecorded_erases _).bind fun answer => ?_
      refine record_erases (Deed.spawned answer) ?_
      cases answer <;> exact .pure id _

theorem runRecording_erases :
    Carried Prod.fst id (external.runRecording : StateM (Context W × _) _) external.run := by
  obtain ⟨words, streams, bound, progress⟩ := external
  cases progress with
  | idle =>
      cases words with
      | nil => exact .pure id _
      | cons word rest =>
          refine (startRecording_erases _ _).bind fun (answer, started) => ?_
          cases answer <;> exact .pure id _
  | _ => exact .pure id _

theorem waitRecording_erases :
    Carried Prod.fst id (external.waitRecording : StateM (Context W × _) _) external.wait := by
  simp only [waitRecording, wait]
  cases external.progress with
  | running child =>
      refine (unrecorded_erases _).bind fun answer => record_erases (Deed.awaited child answer) ?_
      cases answer <;> exact .pure id _
  | _ => exact .pure id _

theorem collectRecording_erases :
    Carried Prod.fst id (external.collectRecording : StateM (Context W × _) _)
      external.collect := by
  refine (external.startRecording_erases .captured).bind fun (answer, started) => ?_
  cases answer with
  | error fault => exact .pure id _
  | ok child =>
      refine (unrecorded_erases _).bind fun captured => record_erases (Deed.captured child captured) ?_
      cases captured with
      | error fault => exact .pure id _
      | ok ended =>
          dsimp only [id]
          split <;> exact .pure id _

theorem outputRecording_erases :
    Carried Prod.fst id (external.outputRecording : StateM (Context W × _) _)
      external.output := by
  obtain ⟨words, streams, bound, progress⟩ := external
  cases progress with
  | idle =>
      cases bound with
      | true => exact .pure id _
      | false =>
          cases words with
          | nil => exact .pure id _
          | cons word rest => exact collectRecording_erases _
  | failed code => exact .pure id _
  | running child =>
      refine (waitRecording_erases _).bind fun (answer, waited) => ?_
      cases answer <;> exact .pure id _
  | finished code =>
      refine (waitRecording_erases _).bind fun (answer, waited) => ?_
      cases answer <;> exact .pure id _

theorem abortRecording_erases :
    Carried Prod.fst id (external.abortRecording : StateM (Context W × _) _) external.abort := by
  simp only [abortRecording, abort]
  cases external.progress with
  | running child =>
      exact (unrecorded_erases _).bind fun _ => record_erases (Deed.killed child) (.pure id _)
  | _ => exact .pure id _

/-- With the record left out, the two accounts of a command are one. -/
theorem answerRecording_erases (call : Call) :
    Carried Prod.fst id (external.answerRecording call : StateM (Context W × _) _)
      (external.answer call) := by
  cases call with
  | run => exact external.runRecording_erases.map fun _ => rfl
  | output => exact external.outputRecording_erases.map fun _ => rfl
  | wait => exact external.waitRecording_erases.map fun _ => rfl
  | abort => exact external.abortRecording_erases.map fun _ => rfl
  | _ => exact unrecorded_erases _

end Erasure

/-! ## What one call comes to -/

/-- A start that fails: what was done, the error, and the status that is remembered. -/
inductive Fails (program : String) : List Deed → ShellError → ExitCode → Prop
  | unknown : Fails program [.sought none] (.notFound program) 127
  | refused (path : Path) (cause : IoError) :
      Fails program [.sought (some path), .spawned (.error cause)] (.spawn program cause) 126

/-- What a start comes to. -/
inductive Attempt (external : External) :
    List Deed → Except ShellError Child → Progress → Prop
  | fails {deeds : List Deed} {fault : ShellError} {code : ExitCode}
      (failing : Fails external.program deeds fault code) :
      Attempt external deeds (.error fault) (.failed code)
  | starts (path : Path) (child : Child) :
      Attempt external [.sought (some path), .spawned (.ok child)] (.ok child) external.progress

/-- The answer to a request for the output, when the program has ended. -/
def collected (program : String) (bytes : Bytes) (status : ExitStatus) :
    Except ShellError Bytes :=
  if status = .exited 0 then .ok bytes else .error (.exited program status.code bytes)

/-- What a call on a command comes to: what it does, what it answers, and how far the command
has come then. -/
inductive Comes (external : External) : Call → List Deed → Answer → Progress → Prop
  | aside {call : Call} (answer : Answer)
      (other : ¬ call.Starts ∧ call ≠ .wait ∧ call ≠ .abort) :
      Comes external call [] answer external.progress
  | runAgain (busy : external.progress ≠ .idle) :
      Comes external .run [] (.ran (.error (.alreadyRun external.program))) external.progress
  | runWordless (idle : external.progress = .idle) (wordless : external.words = []) :
      Comes external .run [] (.ran (.error (.notParsed ""))) .idle
  | runFails {deeds : List Deed} {fault : ShellError} {code : ExitCode}
      (idle : external.progress = .idle) (worded : external.words ≠ [])
      (failing : Fails external.program deeds fault code) :
      Comes external .run deeds (.ran (.error fault)) (.failed code)
  | runStarts (path : Path) (child : Child) (idle : external.progress = .idle)
      (worded : external.words ≠ []) :
      Comes external .run [.sought (some path), .spawned (.ok child)] (.ran (.ok ()))
        (.running child)
  | outputBound (idle : external.progress = .idle) (bound : external.outputBound = true) :
      Comes external .output [] (.produced (.error (.stdoutBound external.program))) .idle
  | outputWordless (idle : external.progress = .idle) (free : external.outputBound = false)
      (wordless : external.words = []) :
      Comes external .output [] (.produced (.error (.notParsed ""))) .idle
  | outputFails {deeds : List Deed} {fault : ShellError} {code : ExitCode}
      (idle : external.progress = .idle) (free : external.outputBound = false)
      (worded : external.words ≠ []) (failing : Fails external.program deeds fault code) :
      Comes external .output deeds (.produced (.error fault)) (.failed code)
  | outputCollects (path : Path) (child : Child) (bytes : Bytes) (status : ExitStatus)
      (idle : external.progress = .idle) (free : external.outputBound = false)
      (worded : external.words ≠ []) :
      Comes external .output
        [.sought (some path), .spawned (.ok child), .captured child (.ok (bytes, status))]
        (.produced (collected external.program bytes status)) (.finished status.code)
  | outputLoses (path : Path) (child : Child) (fault : IoError)
      (idle : external.progress = .idle) (free : external.outputBound = false)
      (worded : external.words ≠ []) :
      Comes external .output
        [.sought (some path), .spawned (.ok child), .captured child (.error fault)]
        (.produced (.error (.io fault))) .idle
  | outputFailed {code : ExitCode} (failed : external.progress = .failed code) :
      Comes external .output [] (.produced (.error (external.startFailure code)))
        (.failed code)
  | outputReaps {child : Child} (status : ExitStatus)
      (running : external.progress = .running child) :
      Comes external .output [.awaited child (.ok status)]
        (.produced (.error (.stdoutBound external.program))) (.finished status.code)
  | outputLeaves {child : Child} (fault : IoError)
      (running : external.progress = .running child) :
      Comes external .output [.awaited child (.error fault)]
        (.produced (.error (.io fault))) (.running child)
  | outputFinished {code : ExitCode} (finished : external.progress = .finished code) :
      Comes external .output [] (.produced (.error (.stdoutBound external.program)))
        (.finished code)
  | waitIdle (idle : external.progress = .idle) : Comes external .wait [] (.ended (.ok 0)) .idle
  | waitReaps {child : Child} (status : ExitStatus)
      (running : external.progress = .running child) :
      Comes external .wait [.awaited child (.ok status)] (.ended (.ok status.code))
        (.finished status.code)
  | waitLeaves {child : Child} (fault : IoError)
      (running : external.progress = .running child) :
      Comes external .wait [.awaited child (.error fault)] (.ended (.error (.io fault)))
        (.running child)
  | waitOver {code : ExitCode}
      (past : external.progress = .finished code ∨ external.progress = .failed code) :
      Comes external .wait [] (.ended (.ok code)) external.progress
  | aborts {child : Child} (running : external.progress = .running child) :
      Comes external .abort [.killed child] .nothing (.running child)
  | abortsNothing (stopped : ∀ child, external.progress ≠ .running child) :
      Comes external .abort [] .nothing external.progress

/-- The call binds the output of the command. -/
def binds : Call × Context W → Bool
  | (.setOutput _, _) => true
  | (.openPipe, context) => (Host.openPipe context.world).1.isOk
  | _ => false

/-- What a call, of which this has come, has made of command and record. -/
structure Course (external : External) (call : Call) (context : Context W) (deeds : List Deed)
    (served : (Answer × External) × (Context W × List Deed)) : Prop where
  comes : ∃ new, served.2.2 = deeds ++ new ∧
    Comes external call new served.1.1 served.1.2.progress
  words : served.1.2.words = call.words?.getD external.words
  outputBound : served.1.2.outputBound = (external.outputBound || binds (call, context))

section OneCall

variable (external : External) (context : Context W) (deeds : List Deed)

theorem startRecording_attempt (output : LaunchOutput) :
    ∃ new answer progress left, external.startRecording output (context, deeds) =
        ((answer, { external with streams := .standard, progress }), (left, deeds ++ new)) ∧
      Attempt external new answer progress := by
  simp only [startRecording, bind_apply, unrecorded_apply, record_apply, Context.ask,
    Context.look, id]
  cases found : located { external with streams := .standard } context.session context.world with
  | none => exact ⟨_, _, _, _, rfl, .fails .unknown⟩
  | some path =>
      simp only [bind_apply, unrecorded_apply, record_apply, List.append_assoc]
      generalize (Context.act (Host.spawn _) _ : Except IoError Child × Context W) = spawned
      obtain ⟨answer, left⟩ := spawned
      cases answer with
      | ok child => exact ⟨_, _, _, _, rfl, .starts path child⟩
      | error cause => exact ⟨_, _, _, _, rfl, .fails (.refused path cause)⟩

theorem runRecording_course :
    Course external .run context deeds (external.answerRecording .run (context, deeds)) := by
  obtain ⟨words, streams, bound, progress⟩ := external
  cases progress with
  | idle =>
      cases words with
      | nil =>
          exact ⟨⟨[], (List.append_nil deeds).symm, .runWordless rfl rfl⟩, rfl,
            (Bool.or_false bound).symm⟩
      | cons word rest =>
          obtain ⟨new, answer, progress, left, started, attempt⟩ := startRecording_attempt
            ⟨word :: rest, { streams with output := .standardOutput }, bound, .idle⟩ context deeds
            (.handle streams.output)
          simp only [answerRecording, map_apply, runRecording, bind_apply, started]
          cases attempt with
          | fails failing =>
              exact ⟨⟨_, rfl, .runFails rfl nofun failing⟩, rfl, (Bool.or_false bound).symm⟩
          | starts path child =>
              exact ⟨⟨_, rfl, .runStarts path child rfl nofun⟩, rfl, (Bool.or_false bound).symm⟩
  | _ =>
      exact ⟨⟨[], (List.append_nil deeds).symm, .runAgain nofun⟩, rfl,
        (Bool.or_false bound).symm⟩

theorem waitRecording_course :
    Course external .wait context deeds (external.answerRecording .wait (context, deeds)) := by
  obtain ⟨words, streams, bound, progress⟩ := external
  have nothing : deeds = deeds ++ [] := (List.append_nil deeds).symm
  have same : bound = (bound || false) := (Bool.or_false bound).symm
  cases progress with
  | idle => exact ⟨⟨[], nothing, .waitIdle rfl⟩, rfl, same⟩
  | finished code => exact ⟨⟨[], nothing, .waitOver (.inl rfl)⟩, rfl, same⟩
  | failed code => exact ⟨⟨[], nothing, .waitOver (.inr rfl)⟩, rfl, same⟩
  | running child =>
      simp only [answerRecording, map_apply, waitRecording, bind_apply, unrecorded_apply,
        record_apply]
      rcases Context.act (Host.wait child) context with ⟨ended, left⟩
      cases ended with
      | ok status => exact ⟨⟨_, rfl, .waitReaps status rfl⟩, rfl, same⟩
      | error fault => exact ⟨⟨_, rfl, .waitLeaves fault rfl⟩, rfl, same⟩

/-- What a request for the output comes to that starts the program. -/
theorem collectRecording_comes {external : External} (idle : external.progress = .idle)
    (free : external.outputBound = false) (worded : external.words ≠ []) :
    ∃ new answer progress left, external.collectRecording (context, deeds) =
        ((answer, { external with streams := .standard, progress }), (left, deeds ++ new)) ∧
      Comes external .output new (.produced answer) progress := by
  obtain ⟨new, answer, progress, left, started, attempt⟩ :=
    startRecording_attempt external context deeds .captured
  simp only [collectRecording, bind_apply, started]
  cases attempt with
  | fails failing => exact ⟨_, _, _, _, rfl, .outputFails idle free worded failing⟩
  | starts path child =>
      simp only [bind_apply, unrecorded_apply, record_apply, List.append_assoc]
      rcases Context.act (Host.capture child) left with ⟨captured, after⟩
      cases captured with
      | error fault =>
          rw [idle]
          exact ⟨_, _, _, _, rfl, .outputLoses path child fault idle free worded⟩
      | ok ended =>
          obtain ⟨bytes, status⟩ := ended
          have comes := Comes.outputCollects path child bytes status idle free worded
          refine ⟨_, collected external.program bytes status, _, after, ?_, comes⟩
          by_cases success : status = .exited 0
          · simp only [collected, if_pos success]
            rfl
          · simp only [collected, if_neg success]
            rfl

theorem outputRecording_course :
    Course external .output context deeds
      (external.answerRecording .output (context, deeds)) := by
  obtain ⟨words, streams, bound, progress⟩ := external
  have nothing : deeds = deeds ++ [] := (List.append_nil deeds).symm
  have same : bound = (bound || false) := (Bool.or_false bound).symm
  cases progress with
  | idle =>
      cases bound with
      | true => exact ⟨⟨[], nothing, .outputBound rfl rfl⟩, rfl, rfl⟩
      | false =>
          cases words with
          | nil => exact ⟨⟨[], nothing, .outputWordless rfl rfl rfl⟩, rfl, rfl⟩
          | cons word rest =>
              let external : External := ⟨word :: rest, streams, false, .idle⟩
              have worded : external.words ≠ [] := nofun
              obtain ⟨new, answer, progress, left, collected, comes⟩ :=
                collectRecording_comes context deeds (rfl : external.progress = .idle) rfl worded
              have through : external.outputRecording (context, deeds) =
                  external.collectRecording (context, deeds) := rfl
              rw [answerRecording, map_apply, through, collected]
              exact ⟨⟨_, rfl, comes⟩, rfl, rfl⟩
  | failed code => exact ⟨⟨[], nothing, .outputFailed rfl⟩, rfl, same⟩
  | finished code => exact ⟨⟨[], nothing, .outputFinished rfl⟩, rfl, same⟩
  | running child =>
      simp only [answerRecording, map_apply, outputRecording, waitRecording, bind_apply,
        unrecorded_apply, record_apply]
      rcases Context.act (Host.wait child) context with ⟨ended, left⟩
      cases ended with
      | ok status => exact ⟨⟨_, rfl, .outputReaps status rfl⟩, rfl, same⟩
      | error fault => exact ⟨⟨_, rfl, .outputLeaves fault rfl⟩, rfl, same⟩

theorem abortRecording_course :
    Course external .abort context deeds (external.answerRecording .abort (context, deeds)) := by
  obtain ⟨words, streams, bound, progress⟩ := external
  have nothing : deeds = deeds ++ [] := (List.append_nil deeds).symm
  have same : bound = (bound || false) := (Bool.or_false bound).symm
  cases progress with
  | running child => exact ⟨⟨_, rfl, .aborts rfl⟩, rfl, same⟩
  | _ => exact ⟨⟨[], nothing, .abortsNothing nofun⟩, rfl, same⟩

/-- **What any call comes to.** -/
theorem answerRecording_course (call : Call) :
    Course external call context deeds (external.answerRecording call (context, deeds)) := by
  have nothing : deeds = deeds ++ [] := (List.append_nil deeds).symm
  have same : external.outputBound = (external.outputBound || false) := (Bool.or_false _).symm
  cases call with
  | run => exact external.runRecording_course context deeds
  | output => exact external.outputRecording_course context deeds
  | wait => exact external.waitRecording_course context deeds
  | abort => exact external.abortRecording_course context deeds
  | parseArguments words => exact ⟨⟨[], nothing, .aside _ (by simp [Call.Starts])⟩, rfl, same⟩
  | setInput input => exact ⟨⟨[], nothing, .aside _ (by simp [Call.Starts])⟩, rfl, same⟩
  | setOutput output =>
      exact ⟨⟨[], nothing, .aside _ (by simp [Call.Starts])⟩, rfl, (Bool.or_true _).symm⟩
  | setError error => exact ⟨⟨[], nothing, .aside _ (by simp [Call.Starts])⟩, rfl, same⟩
  | openPipe =>
      have bound : binds (.openPipe, context) = (Host.openPipe context.world).1.isOk := rfl
      simp only [answerRecording, unrecorded_apply, answer, map_apply, openPipe, bind_apply,
        Context.act]
      generalize Host.openPipe context.world = opened at bound ⊢
      obtain ⟨answer, world⟩ := opened
      cases answer with
      | error fault =>
          exact ⟨⟨[], nothing, .aside _ (by simp [Call.Starts])⟩, rfl, bound ▸ same⟩
      | ok pipe =>
          have now : true = (external.outputBound || true) := (Bool.or_true _).symm
          exact ⟨⟨[], nothing, .aside _ (by simp [Call.Starts])⟩, rfl, bound ▸ now⟩

/-- So it is for the command itself, of which there is no record. -/
theorem answer_comes (call : Call) :
    ∃ new, Comes external call new (external.answer call context).1.1
      (external.answer call context).1.2.progress := by
  obtain ⟨new, -, comes⟩ := (external.answerRecording_course context [] call).comes
  have same := answerRecording_erases external call (context, [])
  refine ⟨new, ?_⟩
  rw [same]
  exact comes

end OneCall

end PipelineShell.External
