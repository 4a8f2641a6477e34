/-
# Proofs.Recording -- what gets through is on record

`pwd` and `echo` only print: what they have to say is known from the session and the words
(`Builtin.intended`), and of this a beginning gets through, as far as the output of the builtin
takes it.  What is on record afterwards is what got through, no more and no less
(`Builtin.records_delivered`).

The status tells whether that was all, and the failure is told on the error stream; only if
the builtin had been asked for help, the run itself fails.  Whether what the output holds back
can be passed on at the end makes no difference: `Output.Obeys` asks nothing of the answer to
that.
-/
import PipelineShell.Arguments.Scan
import PipelineShell.Proofs.Intent
import PipelineShell.Proofs.Invocation
import PipelineShell.Proofs.Lifecycle.Builtin
import PipelineShell.Proofs.Spigot

namespace PipelineShell.Builtin

set_option autoImplicit false

open Stateful

variable {W : Type} [Host W] {accepted : OutputHandle → W → Bytes} {streams : Streams}

/-! ## What a builtin prints -/

/-- A builtin of this kind only prints. -/
def Kind.Prints (kind : Kind) : Prop := kind = .pwd ∨ kind = .echo

/-- The text with the end of its line. -/
def lineOf (text : String) : Bytes := Utf8.encode text ++ [0x0A]

/-- What a builtin means to print in this session, if that is all it does. -/
def intended (session : Session) : Except EarlyExit Invocation → Bytes
  | .ok .pwd => lineOf session.directory.display
  | .ok (.echo noNewline words) => echoText words ++ if noNewline then [] else [0x0A]
  | .ok _ => []
  | .error early => if early.success then lineOf (trimmed early.output) else []

/-- The pieces in which it prints that. -/
def pieces (session : Session) : Except EarlyExit Invocation → List Bytes
  | .ok .pwd => [Utf8.encode session.directory.display, [0x0A]]
  | .ok (.echo noNewline words) => echoText words :: if noNewline then [] else [[0x0A]]
  | .ok _ => []
  | .error early => if early.success then [Utf8.encode (trimmed early.output), [0x0A]] else []

theorem flatten_pieces (session : Session) (reading : Except EarlyExit Invocation) :
    (pieces session reading).flatten = intended session reading := by
  rcases reading with ⟨text, success⟩ | invocation
  · cases success with
    | true => simp [pieces, intended, lineOf]
    | false => rfl
  · cases invocation with
    | pwd => simp [pieces, intended, lineOf]
    | echo noNewline words => cases noNewline <;> simp [pieces, intended]
    | cd | ps | kill | exit => rfl

/-- What is reported if printing fails like this. -/
def complaints (failure : Option IoError) : Except EarlyExit Invocation → Bytes
  | .ok _ => failure.elim [] fun fault => lineOf (Complaint.ofIo fault).message
  | .error early => if early.success then [] else lineOf (trimmed early.output)

/-- And how the work ends. -/
def ending (failure : Option IoError) : Except EarlyExit Invocation → Except ShellError ExitCode
  | .ok _ => .ok (failure.elim 0 fun _ => 1)
  | .error early =>
      if early.success then failure.elim (.ok 0) fun fault => .error (.io fault) else .ok 1

/-! ## The work -/

/-- What there is when a builtin has printed. -/
structure Printed (accepted : OutputHandle → W → Bytes) (streams : Streams)
    (reading : Except EarlyExit Invocation) (context : Context W) (failure : Option IoError)
    (done : (Bytes × Except ShellError ExitCode) × Context W) : Prop where
  delivers : ∃ left, Output.Delivers streams.output (pieces context.session reading)
    context.world done.1.1 failure left
  logged : accepted streams.output done.2.world =
    accepted streams.output context.world ++ done.1.1
  errors : accepted streams.error done.2.world =
    accepted streams.error context.world ++ complaints failure reading
  answer : done.1.2 = ending failure reading
  session : done.2.session = context.session

section Work

variable (obeys : Output.Obeys accepted streams.output)
  (reports : Output.Obeys accepted streams.error) (steadfast : Output.Steadfast W streams.error)
  (apart : streams.output ≠ streams.error)

include reports steadfast in
/-- A report gets through. -/
theorem exists_report (text : String) (code : ExitCode) (context : Context W) :
    ∃ left, report streams.error text code context =
        ((lineOf text, .ok code), { context with world := left }) ∧
      accepted streams.error left = accepted streams.error context.world ++ lineOf text ∧
      ∀ other, other ≠ streams.error → accepted other left = accepted other context.world := by
  have line : [Utf8.encode text, [0x0A]].flatten = lineOf text := by simp [lineOf]
  obtain ⟨left, wrote, arrived, elsewhere⟩ :=
    Output.writePieces_arrives reports steadfast [Utf8.encode text, [0x0A]] context.world
  rw [line] at wrote arrived
  refine ⟨left, ?_, arrived, elsewhere⟩
  rw [report, bind_apply, Context.act_apply, Output.writeLine, wrote]
  rfl

include obeys apart in
/-- What printing comes to, before a failure is told. -/
theorem writePieces_prints (pieces : List Bytes) (world : W) :
    ∃ bytes result left, Output.writePieces streams.output pieces world = ((bytes, result), left) ∧
      Output.Delivers streams.output pieces world bytes (Output.failure? result) left ∧
      accepted streams.output left = accepted streams.output world ++ bytes ∧
      accepted streams.error left = accepted streams.error world := by
  have quiet : Keeps (fun left => accepted streams.error left = accepted streams.error world)
      (Output.writePieces streams.output pieces) :=
    Output.writePieces_keeps
      (fun bytes left here => (obeys.elsewhere _ apart.symm bytes left).trans here) pieces
  exact ⟨_, _, _, rfl, Output.writePieces_delivers obeys pieces world,
    Output.writePieces_logged obeys.logged pieces world, quiet world rfl⟩

/-- It needs nothing but the session to know what. -/
theorem deed_prints {invocation : Invocation} (prints : invocation.kind.Prints)
    (context : Context W) :
    deed (.ok invocation) context = (.say (pieces context.session (.ok invocation)), context) := by
  cases invocation with
  | pwd | echo => rfl
  | cd | ps | kill | exit => rcases prints with other | other <;> cases other

include obeys reports steadfast apart

/-- **A builtin that prints answers what got through.** -/
theorem exists_printed {reading : Except EarlyExit Invocation}
    (prints : ∀ invocation, reading = .ok invocation → invocation.kind.Prints)
    (context : Context W) :
    ∃ failure, Printed accepted streams reading context failure
      (perform streams reading context) := by
  rcases reading with ⟨text, success⟩ | invocation
  · cases success with
    | false =>
        obtain ⟨left, reported, errors, elsewhere⟩ :=
          exists_report reports steadfast (trimmed text) 1 context
        refine ⟨none, ?_⟩
        rw [perform_refused, reporting, reported]
        exact ⟨⟨_, .done _⟩, (elsewhere _ apart).trans (List.append_nil _).symm, errors, rfl, rfl⟩
    | true =>
        obtain ⟨bytes, result, left, printed, delivers, logged, quiet⟩ :=
          writePieces_prints obeys apart [Utf8.encode (trimmed text), [0x0A]] context.world
        refine ⟨Output.failure? result, ?_⟩
        rw [perform_helped, report, bind_apply, Context.act_apply, Output.writeLine, printed]
        cases result <;>
          exact ⟨⟨left, delivers⟩, logged, quiet.trans (List.append_nil _).symm, rfl, rfl⟩
  · obtain ⟨bytes, result, left, printed, delivers, logged, quiet⟩ :=
      writePieces_prints obeys apart (pieces context.session (.ok invocation)) context.world
    refine ⟨Output.failure? result, ?_⟩
    rw [perform_deed, bind_apply, deed_prints (prints invocation rfl), Intent.carryOut,
      bind_apply, Context.act_apply, printed]
    cases result with
    | ok done => exact ⟨⟨left, delivers⟩, logged, quiet.trans (List.append_nil _).symm, rfl, rfl⟩
    | error fault =>
        -- the failure is told on the error stream, which takes it in
        obtain ⟨after, reported, errors, elsewhere⟩ := exists_report reports steadfast
          (Complaint.ofIo fault).message 1 { context with world := left }
        simp only [bind_apply, pure_apply, reported]
        exact ⟨⟨left, delivers⟩, (elsewhere _ apart).trans logged,
          errors.trans (congrArg (· ++ _) quiet), rfl, rfl⟩

end Work

/-! ## The run -/

/-- A builtin with its words and streams. -/
def equipped [ArgumentReader] (kind : Kind) (words : List String) (streams : Streams) : Builtin :=
  { (fresh kind).parseArguments words with streams }

/-- A builtin that has no pipe behind its output flushes it and lets go of its input. -/
theorem conclude_world {builtin : Builtin} (unpiped : builtin.pipe = none) (bytes : Bytes)
    (context : Context W) :
    (builtin.conclude bytes context).2.world =
      (Host.closeInput builtin.streams.input
        (Host.flush builtin.streams.output context.world).2).2 := by
  obtain ⟨kind, arguments, reading?, streams, pipe, delivery, recorded, status⟩ := builtin
  obtain rfl : pipe = none := unpiped
  rfl

section Run

variable (accepted streams) (reading : Except EarlyExit Invocation) (context : Context W)
  (ran : (Except ShellError Unit × Builtin) × Context W)

/-- The status is this, whenever it is asked for. -/
def HasStatus (code : ExitCode) : Prop := ∀ later : Context W, (ran.1.2.wait later).1.1 = .ok code

/-- This, and nothing else, was reported. -/
def Reports (bytes : Bytes) : Prop :=
  accepted streams.error ran.2.world = accepted streams.error context.world ++ bytes

/-- The output fared like this, with what is on record getting through. -/
def Fares (failure : Option IoError) : Prop :=
  ∃ left, Output.Delivers streams.output (pieces context.session reading) context.world
    ran.1.2.recorded failure left

/-- The record is what the output has accepted in the run, and it can be asked for. -/
structure Recorded : Prop where
  logged : accepted streams.output ran.2.world =
    accepted streams.output context.world ++ ran.1.2.recorded
  answered : ∀ later : Context W, ran.1.2.output later = ((.ok ran.1.2.recorded, ran.1.2), later)

/-- What a run comes to, told from how the output fared. -/
structure Ended (failure : Option IoError) : Prop
    extends Recorded accepted streams context ran where
  session : ran.2.session = context.session
  fares : Fares streams reading context ran failure
  answer : ran.1.1 = (ending failure reading).map fun _ => ()
  status : HasStatus ran (codeOf (ending failure reading))
  reports : Reports accepted streams context ran (complaints failure reading)

/-- What a run has delivered, and what is known of it afterwards. -/
structure Delivered : Prop extends Recorded accepted streams context ran where
  begins : ran.1.2.recorded <+: intended context.session reading
  session : ran.2.session = context.session
  /-- If the words can be read, the status tells whether all got through, and the errors why
  not. -/
  parsed : ∀ invocation, reading = .ok invocation → ran.1.1 = .ok () ∧
    (HasStatus ran 0 ∧ Reports accepted streams context ran [] ↔
      ran.1.2.recorded = intended context.session reading) ∧
    (ran.1.2.recorded ≠ intended context.session reading →
      ∃ fault, Fares streams reading context ran (some fault) ∧ HasStatus ran 1 ∧
        Reports accepted streams context ran (lineOf (Complaint.ofIo fault).message))
  /-- If they ask for help, the run itself fails. -/
  helped : ∀ text, reading = .error ⟨text, true⟩ → Reports accepted streams context ran [] ∧
    (ran.1.2.recorded = intended context.session reading → ran.1.1 = .ok () ∧ HasStatus ran 0) ∧
    (ran.1.2.recorded ≠ intended context.session reading →
      ∃ fault, Fares streams reading context ran (some fault) ∧ HasStatus ran 1 ∧
        ran.1.1 = .error (.io fault))
  /-- Otherwise there is nothing to print. -/
  refused : ∀ text, reading = .error ⟨text, false⟩ → ran.1.1 = .ok () ∧ HasStatus ran 1 ∧
    Reports accepted streams context ran (lineOf (trimmed text))

end Run

section Delivering

variable {builtin : Builtin} {reading : Except EarlyExit Invocation} {context : Context W}
  {failure : Option IoError}

/-- A run is over when everything is printed, but for what the stream holds back. -/
theorem Printed.ended (obeys : Output.Obeys accepted builtin.streams.output)
    (closes : ∀ other (world : W),
      accepted other (Host.closeInput builtin.streams.input world).2 = accepted other world)
    (parsed : builtin.parsed = some reading) (unrun : builtin.status = none)
    (unpiped : builtin.pipe = none) (unrecorded : builtin.recorded = [])
    (printed : Printed accepted builtin.streams reading context failure
      (perform builtin.streams reading context)) :
    Ended accepted builtin.streams reading context (builtin.run context) failure := by
  rw [run_unrun parsed unrun context]
  generalize perform builtin.streams reading context = done at printed ⊢
  obtain ⟨⟨bytes, result⟩, worked⟩ := done
  obtain ⟨delivers, logged, errors, rfl, session⟩ := printed
  dsimp only at delivers logged errors session ⊢
  have record : (builtin.conclude bytes worked).1.recorded = bytes := by
    have fate := congrArg (·.2.2.1) (builtin.conclude_fate bytes worked)
    rwa [unrecorded] at fate
  have kept : ∀ other, accepted other (builtin.conclude bytes worked).2.world =
      accepted other worked.world := by
    intro other
    rw [conclude_world unpiped, closes, obeys.flush]
  have same := builtin.conclude_spares Context.aloof_session bytes worked
  generalize builtin.conclude bytes worked = concluded at record kept same ⊢
  obtain ⟨after, left⟩ := concluded
  obtain rfl : after.recorded = bytes := record
  let settled : Builtin := { after with status := some (codeOf (ending failure reading)) }
  have status : settled.status = some (codeOf (ending failure reading)) := rfl
  have answers := answers_of_status (W := W) status
  exact
    { logged := (kept builtin.streams.output).trans logged
      answered := fun later => (answers later).2
      session := same.trans session
      fares := delivers
      answer := rfl
      status := fun later => (answers later).1
      reports := (kept builtin.streams.error).trans errors }

/-- The failure tells how a run has ended. -/
theorem Ended.delivered {ran : (Except ShellError Unit × Builtin) × Context W}
    (ended : Ended accepted streams reading context ran failure) :
    Delivered accepted streams reading context ran := by
  have text : ran.1.2.recorded <+: intended context.session reading ∧
      (failure = none ↔ ran.1.2.recorded = intended context.session reading) := by
    obtain ⟨left, delivers⟩ := ended.fares
    rw [← flatten_pieces]
    exact delivers.isPrefix
  obtain ⟨recorded, session, fares, answer, status, reported⟩ := ended
  refine ⟨recorded, text.1, session, ?parsed, ?helped, ?refused⟩
  case parsed =>
    rintro invocation rfl
    rw [Ne, ← text.2]
    cases failure with
    | none => exact ⟨answer, iff_of_true ⟨status, reported⟩ rfl, fun lost => absurd rfl lost⟩
    | some fault =>
        have failed : ¬ HasStatus ran 0 := by
          intro claimed
          have both := (claimed context).symm.trans (status context)
          cases both
        exact ⟨answer, iff_of_false (fun claimed => failed claimed.1) (Option.some_ne_none fault),
          fun _ => ⟨fault, fares, status, reported⟩⟩
  case helped =>
    rintro help rfl
    rw [Ne, ← text.2]
    cases failure with
    | none => exact ⟨reported, fun _ => ⟨answer, status⟩, fun lost => absurd rfl lost⟩
    | some fault =>
        exact ⟨reported, fun same => absurd same (Option.some_ne_none fault),
          fun _ => ⟨fault, fares, status, answer⟩⟩
  case refused =>
    rintro usage rfl
    exact ⟨answer, status, reported⟩

/-- **What a builtin that prints has on record is what got through,** and its status tells
whether that was all. -/
theorem records_delivered [ArgumentReader] {input : InputHandle} {sink error : OutputHandle}
    (obeys : Output.Obeys accepted sink) (reports : Output.Obeys accepted error)
    (steadfast : Output.Steadfast W error) (apart : sink ≠ error)
    (closes : ∀ other (world : W),
      accepted other (Host.closeInput input world).2 = accepted other world)
    {kind : Kind} (prints : kind.Prints) (words : List String) (context : Context W) :
    Delivered accepted ⟨input, sink, error⟩ (Invocation.parse kind [kind.name] words) context
      ((equipped kind words ⟨input, sink, error⟩).run context) := by
  have reads : ∀ invocation, Invocation.parse kind [kind.name] words = .ok invocation →
      invocation.kind.Prints := by
    intro invocation read
    rw [Invocation.kind_of_parse read]
    exact prints
  let builtin := equipped kind words ⟨input, sink, error⟩
  obtain ⟨failure, printed⟩ : ∃ failure, Printed accepted builtin.streams
      (Invocation.parse kind [kind.name] words) context failure
      (perform builtin.streams (Invocation.parse kind [kind.name] words) context) :=
    exists_printed obeys reports steadfast apart reads context
  have ended : Ended accepted builtin.streams (Invocation.parse kind [kind.name] words) context
      (builtin.run context) failure := printed.ended obeys closes rfl rfl rfl rfl
  exact ended.delivered

end Delivering

open scoped Arguments

/-- A sink, and errors that are taken as a whole. -/
def dripping : Streams := ⟨.inherited, .sink 1, .standardError⟩

/-- A run with a sink that takes these turns. -/
def dripped (kind : Kind) (words : List String) (turns : List (Except IoError Nat)) :
    (Except ShellError Unit × Builtin) × Context Spigot :=
  (equipped kind words dripping).run (Spigot.context turns)

/-- The turns of a sink that is interrupted and then breaks. -/
def breaking : List (Except IoError Nat) := [.ok 2, .error (.os 4), .ok 1, .error (.os 5)]

theorem records_delivered_breaking :
    Output.Obeys Spigot.accepted (.sink 1) ∧
    Output.Obeys Spigot.accepted .standardError ∧ Output.Steadfast Spigot .standardError ∧
    Delivered Spigot.accepted dripping (.ok (.echo false ["hello"])) (Spigot.context breaking)
      (dripped .echo ["hello"] breaking) ∧
    (dripped .echo ["hello"] breaking).1.2.recorded = Utf8.encode "hel" ∧
    Spigot.accepted .standardError (dripped .echo ["hello"] breaking).2.world =
      Utf8.encode "Input/output error (os error 5)\n" ∧
    -- without the last turn, all gets through
    (dripped .echo ["hello"] breaking.dropLast).1.2.recorded = Utf8.encode "hello\n" ∧
    -- and so it is with a text that was asked for
    Delivered Spigot.accepted dripping (.error ⟨Kind.usage .pwd "pwd", true⟩)
      (Spigot.context breaking) (dripped .pwd ["--help"] breaking) := by
  have delivers : ∀ {kind : Kind}, kind.Prints → ∀ words,
      Delivered Spigot.accepted dripping (Invocation.parse kind [kind.name] words)
        (Spigot.context breaking) (dripped kind words breaking) := fun prints words =>
    records_delivered (Spigot.obeys (.sink 1)) (Spigot.obeys .standardError) Spigot.steadfast
      (by decide) (fun _ _ => rfl) prints words (Spigot.context breaking)
  exact ⟨Spigot.obeys _, Spigot.obeys _, Spigot.steadfast, delivers (.inr rfl) ["hello"],
    by decide +kernel, by decide +kernel, by decide +kernel, delivers (.inl rfl) ["--help"]⟩

end PipelineShell.Builtin
