/-
# Proofs.Intent -- what a builtin does before it prints

A builtin first does its work on the session and the world (`Builtin.deed`), and what it has
to say then is settled: it is an `Intent`.  Only the saying of it has to do with the streams
of the builtin (`Intent.carryOut`).  `Builtin.perform_deed` says that nothing else is done.

So builtins with different streams do the same where the same is found
(`Builtin.deed_relates`), and what becomes of their streams is a matter of one text for the
output and one for the errors.  A builtin whose streams accept these comes to an end
(`Builtin.perform_ends`).
-/
import PipelineShell.Proofs.Programs
import PipelineShell.Proofs.Running
import PipelineShell.Proofs.Writing

namespace PipelineShell.Builtin

set_option autoImplicit false

open Stateful

variable {W : Type} [Host W]

/-- What a builtin has to say, and how it ends. -/
inductive Intent where
  /-- It has this to print; not to get it through is a reason to complain. -/
  | say (pieces : List Bytes)
  /-- It was asked for this text instead. -/
  | help (text : String)
  | finish (code : ExitCode)
  | complain (text : String)

def Intent.ofAnswer : Except Complaint ExitCode → Intent
  | .ok code => .finish code
  | .error complaint => .complain complaint.message

/-- The work of a builtin. -/
def deed : Except EarlyExit Invocation → StateM (Context W) Intent
  | .error early =>
      pure (if early.success then .help (trimmed early.output) else
        .complain (trimmed early.output))
  | .ok .pwd => do
      let directory ← Context.ask (·.directory.display)
      pure (.say [Utf8.encode directory, [0x0A]])
  | .ok (.echo noNewline words) =>
      pure (.say (echoText words :: if noNewline then [] else [[0x0A]]))
  | .ok (.cd target) => .ofAnswer <$> changeDirectory target
  | .ok .ps => do
      let table ← Context.look Host.processes
      pure (.say ((listed table).flatMap processLine))
  | .ok (.kill words) => .ofAnswer <$> terminate words
  | .ok (.exit code) => .ofAnswer <$> requestExit code

/-- Says it.  Answers the bytes that the output accepted, and the status. -/
def Intent.carryOut (streams : Streams) :
    Intent → StateM (Context W) (Bytes × Except ShellError ExitCode)
  | .say pieces => do
      match ← Context.act (Output.writePieces streams.output pieces) with
      | (accepted, .ok ()) => pure (accepted, .ok 0)
      | (accepted, .error fault) =>
          let (_, result) ← report streams.error (Complaint.ofIo fault).message 1
          pure (accepted, result)
  | .help text => report streams.output text 0
  | .finish code => pure ([], .ok code)
  | .complain text => do
      let (_, result) ← report streams.error text 1
      pure ([], result)

section Perform

variable {invocation : Invocation} {streams : Streams} {context : Context W}

theorem perform_printing (pieces : List Bytes)
    (prints : invocation.execute streams.output context =
      (printed <$> Context.act (Output.writePieces streams.output pieces)) context) :
    perform streams (.ok invocation) context = (Intent.say pieces).carryOut streams context := by
  rw [map_apply] at prints
  rw [Intent.carryOut, bind_apply]
  generalize Context.act (Output.writePieces streams.output pieces) context = answered at prints ⊢
  obtain ⟨⟨accepted, fault | done⟩, written⟩ := answered
  · rw [perform_complained prints]
    simp only [reporting, bind_apply, pure_apply]
  · rw [perform_done prints]
    rfl

theorem perform_answering {work : StateM (Context W) (Except Complaint ExitCode)}
    (answers : invocation.execute streams.output context = ((([], ·)) <$> work) context) :
    perform streams (.ok invocation) context =
      (Intent.ofAnswer <$> work >>= Intent.carryOut streams) context := by
  rw [map_apply] at answers
  rw [bind_apply, map_apply]
  generalize work context = answered at answers ⊢
  obtain ⟨complaint | code, worked⟩ := answered
  · rw [perform_complained answers]
    simp only [Intent.ofAnswer, Intent.carryOut, reporting, bind_apply, pure_apply]
  · rw [perform_done answers]
    rfl

end Perform

/-- **To carry out what the arguments were read as is to do the work, and to say what there
is to say.** -/
theorem perform_deed (streams : Streams) (reading : Except EarlyExit Invocation) :
    perform streams reading =
      (deed reading >>= Intent.carryOut streams : StateM (Context W) _) := by
  funext context
  rcases reading with ⟨text, success⟩ | invocation
  · cases success with
    | true => simp only [perform_helped, deed, if_true, bind_apply, pure_apply, Intent.carryOut]
    | false =>
        simp only [perform_refused, deed, Bool.false_eq_true, if_false, bind_apply, pure_apply,
          Intent.carryOut, reporting]
  · cases invocation with
    | pwd =>
        simp only [deed, bind_apply, Context.ask, pure_apply]
        exact perform_printing _ rfl
    | echo noNewline words =>
        simp only [deed, bind_apply, pure_apply]
        exact perform_printing _ rfl
    | ps =>
        simp only [deed, bind_apply, Context.look, pure_apply]
        exact perform_printing _ rfl
    | cd target => exact perform_answering rfl
    | kill words => exact perform_answering rfl
    | exit code => exact perform_answering rfl

/-! ## The same is done where the same is found -/

/-- Worlds in the relation are the same to a builtin at work, and remain so. -/
structure Guides (relation : W → W → Prop) : Prop where
  canonicalize : ∀ path world world', relation world world' →
    Host.canonicalize path world = Host.canonicalize path world'
  environment : ∀ world world', relation world world' →
    Host.environment world = Host.environment world'
  account : ∀ world world', relation world world' → Host.account world = Host.account world'
  changeDirectory : ∀ path,
    Relates relation Eq (Host.changeDirectory path) (Host.changeDirectory path)
  terminate : ∀ pid, Relates relation Eq (Host.terminate pid) (Host.terminate pid)

section Guided

variable {α : Type} {relation : W → W → Prop}

omit [Host W] in
theorem act_relates {operation operation' : StateM W α}
    (relates : Relates relation Eq operation operation') :
    Relates (Context.Related relation) Eq (Context.act operation) (Context.act operation') :=
  fun _ _ related =>
    ⟨(relates _ _ related.world).1, related.session, related.journal,
      (relates _ _ related.world).2⟩

omit [Host W] in
theorem look_relates {view : W → α}
    (same : ∀ world world', relation world world' → view world = view world') :
    Relates (Context.Related relation) Eq (Context.look view) (Context.look view) :=
  fun _ _ related => ⟨same _ _ related.world, related⟩

omit [Host W] in
theorem ask_relates (view : Session → α) :
    Relates (Context.Related relation) Eq (Context.ask view) (Context.ask view) :=
  fun _ _ related => ⟨congrArg view related.session, related⟩

omit [Host W] in
theorem modifySession_relates (change : Session → Session) :
    Relates (Context.Related relation) Eq (Context.modifySession change)
      (Context.modifySession change) :=
  fun _ _ related =>
    ⟨rfl, congrArg change related.session, related.journal, related.world⟩

section Working

variable (guides : Guides relation)
include guides

theorem enter_relates (target : Path) :
    Relates (Context.Related relation) Eq (enter target) (enter target) := by
  refine (ask_relates _).bind_same fun path => ?_
  refine (look_relates (guides.canonicalize path)).bind_same fun answer => ?_
  cases answer with
  | error fault => exact .pure rfl
  | ok canonical =>
      refine (act_relates (guides.changeDirectory canonical)).bind_same fun answer => ?_
      cases answer with
      | error fault => exact .pure rfl
      | ok moved => exact (modifySession_relates _).bind_same fun _ => .pure rfl

theorem changeDirectory_relates (operand : Option String) :
    Relates (Context.Related relation) Eq (changeDirectory operand) (changeDirectory operand) := by
  refine (look_relates guides.environment).bind_same fun process => ?_
  refine (look_relates guides.account).bind_same fun account => ?_
  refine (ask_relates _).bind_same fun target => ?_
  cases target with
  | none => exact .pure rfl
  | some target => exact enter_relates guides target

theorem terminate_relates (words : List String) :
    Relates (Context.Related relation) Eq (terminate words) (terminate words) := by
  unfold terminate
  cases Invocation.target? words with
  | none => exact .pure rfl
  | some pid =>
      refine (act_relates (guides.terminate pid)).bind_same fun answer => ?_
      cases answer <;> exact .pure rfl

/-- **The same is done where the same is found.**  The process listing is the exception. -/
theorem deed_relates (reading : Except EarlyExit Invocation) (listless : reading ≠ .ok .ps) :
    Relates (Context.Related relation) Eq (deed reading) (deed reading) := by
  rcases reading with early | invocation
  · exact .pure rfl
  · cases invocation with
    | pwd => exact (ask_relates _).bind_same fun _ => .pure rfl
    | echo noNewline words => exact .pure rfl
    | ps => exact absurd rfl listless
    | cd target => exact (changeDirectory_relates guides target).map fun _ _ => congrArg _
    | kill words => exact (terminate_relates guides words).map fun _ _ => congrArg _
    | exit code =>
        have requested : Relates (Context.Related relation) Eq (requestExit code)
            (requestExit code) := (modifySession_relates _).bind_same fun _ => .pure rfl
        exact requested.map fun _ _ => congrArg _

end Working

/-! ## What becomes of the streams -/

theorem report_relates {output output' : OutputHandle}
    (writes : ∀ pieces, Relates relation Eq (Output.writePieces output pieces)
      (Output.writePieces output' pieces)) (text : String) (code : ExitCode) :
    Relates (Context.Related relation) Eq (report output text code) (report output' text code) :=
  (act_relates (writes _)).bind_same fun (_, result) => by cases result <;> exact .pure rfl

variable {streams streams' : Streams}

section Saying

variable
  (prints : ∀ pieces, Relates relation Eq (Output.writePieces streams.output pieces)
    (Output.writePieces streams'.output pieces))
  (reports : ∀ pieces, Relates relation Eq (Output.writePieces streams.error pieces)
    (Output.writePieces streams'.error pieces))
include prints reports

theorem Intent.carryOut_relates (intent : Intent) :
    Relates (Context.Related relation) Eq (intent.carryOut streams)
      (intent.carryOut streams') := by
  cases intent with
  | say pieces =>
      refine (act_relates (prints pieces)).bind_same fun (accepted, result) => ?_
      cases result with
      | ok done => exact .pure rfl
      | error fault => exact (report_relates reports _ 1).bind_same fun _ => .pure rfl
  | help text => exact report_relates prints text 0
  | finish code => exact .pure rfl
  | complain text => exact (report_relates reports text 1).bind_same fun _ => .pure rfl

/-- **Where the same is found, and written with the same success, a builtin does the same.** -/
theorem perform_relates (guides : Guides relation) (reading : Except EarlyExit Invocation)
    (listless : reading ≠ .ok .ps) :
    Relates (Context.Related relation) Eq (perform streams reading)
      (perform streams' reading) := by
  rw [perform_deed, perform_deed]
  exact (deed_relates guides reading listless).bind_same fun intent =>
    intent.carryOut_relates prints reports

end Saying

end Guided

section Keeping

variable {holds : W → Prop} {streams : Streams}

/-- The work of a builtin leaves this in force. -/
structure Upholds (holds : W → Prop) : Prop where
  changeDirectory : ∀ path, Keeps holds (Host.changeDirectory path)
  terminate : ∀ pid, Keeps holds (Host.terminate pid)

/-- And so does what it prints and reports. -/
structure Leaves (holds : W → Prop) (streams : Streams) : Prop extends Upholds holds where
  print : ∀ bytes, Keeps holds (Host.write streams.output bytes)
  report : ∀ bytes, Keeps holds (Host.write streams.error bytes)

theorem Upholds.guides (upholds : Upholds holds) :
    Guides fun world world' : W => world = world' ∧ holds world where
  canonicalize _ _ _ same := by rw [same.1]
  environment _ _ same := by rw [same.1]
  account _ _ same := by rw [same.1]
  changeDirectory path := keeps_iff_relates.1 (upholds.changeDirectory path)
  terminate pid := keeps_iff_relates.1 (upholds.terminate pid)

variable (reading : Except EarlyExit Invocation) (listless : reading ≠ .ok .ps)
include listless

theorem deed_keeps (upholds : Upholds holds) :
    Keeps (fun context : Context W => holds context.world) (deed reading) := by
  intro context here
  exact (deed_relates upholds.guides reading listless context context
    ⟨rfl, rfl, rfl, here⟩).2.world.2

theorem perform_keeps (leaves : Leaves holds streams) :
    Keeps (fun context : Context W => holds context.world) (perform streams reading) := by
  intro context here
  exact (perform_relates
    (fun pieces => keeps_iff_relates.1 (Output.writePieces_keeps leaves.print pieces))
    (fun pieces => keeps_iff_relates.1 (Output.writePieces_keeps leaves.report pieces))
    leaves.guides reading listless context context ⟨rfl, rfl, rfl, here⟩).2.world.2

end Keeping

/-! ## How it ends -/

/-- The answer says that the work came to an end, with some status. -/
def Done (answer : Bytes × Except ShellError ExitCode) : Prop := ∃ code, answer.2 = .ok code

section Ending

variable {holds : W → Prop}

theorem report_done {output : OutputHandle}
    (takes : ∀ pieces, Ensures holds (Output.writePieces output pieces)
      fun answer _ => answer.2 = .ok ()) (text : String) (code : ExitCode) :
    Ensures (fun context : Context W => holds context.world) (report output text code)
      fun answer _ => Done answer := by
  intro context here
  have written := takes [Utf8.encode text, [0x0A]] context.world here
  rw [report, bind_apply, Context.act_apply, Output.writeLine]
  generalize Output.writePieces output _ context.world = answered at written ⊢
  obtain ⟨⟨accepted, result⟩, world⟩ := answered
  obtain rfl : result = .ok () := written
  exact ⟨code, rfl⟩

variable {streams : Streams}
  (prints : ∀ pieces, Ensures holds (Output.writePieces streams.output pieces)
    fun answer _ => answer.2 = .ok ())
  (reports : ∀ pieces, Ensures holds (Output.writePieces streams.error pieces)
    fun answer _ => answer.2 = .ok ())
include prints reports

theorem Intent.carryOut_done (intent : Intent) :
    Ensures (fun context : Context W => holds context.world) (intent.carryOut streams)
      fun answer _ => Done answer := by
  intro context here
  cases intent with
  | say pieces =>
      have written := prints pieces context.world here
      rw [carryOut, bind_apply, Context.act_apply]
      generalize Output.writePieces streams.output pieces context.world = answered at written ⊢
      obtain ⟨⟨accepted, result⟩, world⟩ := answered
      obtain rfl : result = .ok () := written
      exact ⟨0, rfl⟩
  | help text => exact report_done prints text 0 context here
  | finish code => exact ⟨code, rfl⟩
  | complain text =>
      obtain ⟨code, ended⟩ := report_done reports text 1 context here
      simp only [carryOut, bind_apply, pure_apply]
      exact ⟨code, ended⟩

/-- **A builtin that gets through all that it has to say comes to an end.** -/
theorem perform_ends (upholds : Upholds holds) (reading : Except EarlyExit Invocation)
    (listless : reading ≠ .ok .ps) :
    Ensures (fun context : Context W => holds context.world) (perform streams reading)
      fun answer _ => Done answer := by
  rw [perform_deed]
  have kept : Ensures (fun context : Context W => holds context.world) (deed reading)
      fun _ context => holds context.world := deed_keeps reading listless upholds
  exact kept.bind fun intent => intent.carryOut_done prints reports

end Ending

/-! ## What the streams accept -/

theorem report_accepted (output : OutputHandle) (text : String) (code : ExitCode)
    (context : Context W) :
    (report output text code context).1.1 = (Output.writeLine output text context.world).1.1 := by
  simp only [report, bind_apply, Context.act_apply]
  rcases Output.writeLine output text context.world with ⟨⟨accepted, fault | done⟩, world⟩ <;> rfl

section Logging

variable {record : W → Bytes} {streams : Streams}
  (logged : Output.Logged record streams.output)
  (apart : streams.error ≠ streams.output → ∀ bytes world,
    record (Host.write streams.error bytes world).2 = record world)
include logged apart

/-- What the output accepted is what the answer says, and what was reported afterwards if
the errors go to the same stream. -/
theorem Intent.carryOut_logged (intent : Intent) (context : Context W) :
    ∃ reported, record (intent.carryOut streams context).2.world =
        record context.world ++ (intent.carryOut streams context).1.1 ++ reported ∧
      (streams.error ≠ streams.output → reported = []) := by
  -- a report on the error stream
  have reporting : ∀ text (context : Context W), ∃ reported,
      record (report streams.error text 1 context).2.world = record context.world ++ reported ∧
        (streams.error ≠ streams.output → reported = []) := by
    intro text context
    rw [report_context, Output.writeLine]
    by_cases same : streams.error = streams.output
    · rw [same]
      exact ⟨_, Output.writePieces_logged logged _ _, fun other => absurd rfl other⟩
    · have quiet : ∀ bytes, Keeps (fun world => record world = record context.world)
          (Host.write streams.error bytes) :=
        fun bytes world here => (apart same bytes world).trans here
      have kept := Output.writePieces_keeps quiet [Utf8.encode text, [0x0A]] context.world rfl
      exact ⟨[], kept.trans (List.append_nil _).symm, fun _ => rfl⟩
  cases intent with
  | say pieces =>
      have grown := Output.writePieces_logged logged pieces context.world
      simp only [carryOut, bind_apply, Context.act_apply]
      generalize Output.writePieces streams.output pieces context.world = answered at grown ⊢
      obtain ⟨⟨accepted, fault | done⟩, written⟩ := answered
      · obtain ⟨reported, more, nothing⟩ :=
          reporting (Complaint.ofIo fault).message { context with world := written }
        refine ⟨reported, ?_, nothing⟩
        simp only [bind_apply, pure_apply]
        exact more.trans (congrArg (· ++ reported) grown)
      · exact ⟨[], grown.trans (List.append_nil _).symm, fun _ => rfl⟩
  | help text =>
      refine ⟨[], ?_, fun _ => rfl⟩
      rw [List.append_nil, carryOut, report_accepted, report_context, Output.writeLine]
      exact Output.writePieces_logged logged _ _
  | finish code => exact ⟨[], by simp only [carryOut, pure_apply, List.append_nil], fun _ => rfl⟩
  | complain text =>
      obtain ⟨reported, more, nothing⟩ := reporting text context
      refine ⟨reported, ?_, nothing⟩
      simp only [carryOut, bind_apply, pure_apply, List.append_nil]
      exact more

/-- **What a builtin says that its output accepted is what it accepted.** -/
theorem perform_logged (upholds : ∀ bytes, Upholds fun world => record world = bytes)
    (reading : Except EarlyExit Invocation) (listless : reading ≠ .ok .ps)
    (context : Context W) :
    ∃ reported, record (perform streams reading context).2.world =
        record context.world ++ (perform streams reading context).1.1 ++ reported ∧
      (streams.error ≠ streams.output → reported = []) := by
  rw [perform_deed, bind_apply, ← deed_keeps reading listless (upholds _) context rfl]
  exact Intent.carryOut_logged logged apart _ _

end Logging

end PipelineShell.Builtin
