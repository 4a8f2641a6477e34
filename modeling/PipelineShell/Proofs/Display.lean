/-
# Proofs.Display -- what is shown of a line

A line is first run and then shown.  While it runs nothing gets to standard output: the output
of every command goes into a pipe or is collected.  Afterwards the output of the last stage is
printed there, as a whole, and one line for each failure on standard error, in the order of the
stages.  Of a line that fails only the failure is told, and of an empty line nothing.

`Interpreter.evaluateAndPrint_displays` says this of every line, for a system whose two
standard streams take in what they are offered (`Host.Shows`).  What standard error has got
by the time the line has run is the affair of its commands.
-/
import PipelineShell.Arguments.Scan
import PipelineShell.Proofs.Atlas
import PipelineShell.Proofs.Discretion
import PipelineShell.Proofs.Pipeline.Answers
import PipelineShell.Proofs.Recording

namespace PipelineShell

set_option autoImplicit false

open Stateful

section Standard

variable {W : Type} [Host W] {accepted : OutputHandle → W → Bytes} {calm : W → Prop}

/-- The standard streams of the shell take in everything, and `accepted` is what they have
got.  The world is `calm` when no program is left that writes to standard output; then
nothing gets there but what is offered to it. -/
structure Host.Shows (accepted : OutputHandle → W → Bytes) (calm : W → Prop) : Prop where
  discreet : ∀ shown, Host.Sheltered fun world =>
    calm world ∧ accepted .standardOutput world = shown
  output : Output.Obeys accepted .standardOutput
  error : Output.Obeys accepted .standardError
  printable : Output.Steadfast W .standardOutput
  reportable : Output.Steadfast W .standardError

/-! ## How a run ends -/

namespace Pipeline

variable {S R E C : Type} {contract : Contract S R E C} {freshError : StateM C E}
  {stages : List S} {context : C}

/-- The failures that a run tells of stand in the order of their stages. -/
theorem ordered_of_execute {outcome : Outcome}
    (ran : (execute contract freshError stages context).1 = .ok outcome) :
    Ordered outcome.errors := by
  rw [← watch_forget] at ran
  rcases watch_cases contract freshError stages context with
    ⟨-, watched⟩ | ⟨run, _, _, _, -, watched⟩ | ⟨run, _, _, _, -, watched⟩
  · rw [watched] at ran
    cases ran
  · rw [watched] at ran
    cases ran
    exact ordered_inOrder _
  · rw [watched] at ran
    cases ran

/-- Only a pipeline without stages is refused as an empty line. -/
theorem execute_of_emptyLine
    (empty : (execute contract freshError stages context).1 = .error .emptyLine) :
    execute contract freshError stages context = (.error .emptyLine, context) := by
  rw [← watch_forget] at empty
  rcases watch_cases contract freshError stages context with
    ⟨rfl, -⟩ | ⟨run, _, _, _, -, watched⟩ | ⟨run, _, _, _, -, watched⟩
  · rfl
  · rw [watched] at empty
    cases empty
  · rw [watched] at empty
    cases empty

end Pipeline

namespace Interpreter

variable {registry : Registry} {line : String} {context : Context W}

theorem ordered_of_runLine [ArgumentReader] {outcome : Pipeline.Outcome}
    (ran : (runLine registry line context).1 = .ok outcome) :
    Pipeline.Ordered outcome.errors := by
  unfold runLine at ran
  cases constructed : Pipeline.construct registry line with
  | error fault =>
      rw [constructed] at ran
      cases ran
  | ok stages =>
      rw [constructed] at ran
      exact Pipeline.ordered_of_execute ran

/-- An empty line is not run. -/
theorem runLine_of_emptyLine [ArgumentReader]
    (empty : (runLine registry line context).1 = .error .emptyLine) :
    runLine registry line context = (.error .emptyLine, context) := by
  unfold runLine at empty ⊢
  cases constructed : Pipeline.construct registry line with
  | error fault =>
      rw [constructed] at empty
      cases empty
      rfl
  | ok stages =>
      rw [constructed] at empty
      exact Pipeline.execute_of_emptyLine empty

/-! ## What is printed -/

/-- One line for each failure. -/
def errorLines (errors : List Pipeline.StageError) : Bytes :=
  errors.flatMap fun failure => Builtin.lineOf failure.error.message

/-- What the standard streams have got from one world to the other. -/
structure Gained (accepted : OutputHandle → W → Bytes) (before after : W)
    (output error : Bytes) : Prop where
  output : accepted .standardOutput after = accepted .standardOutput before ++ output
  error : accepted .standardError after = accepted .standardError before ++ error

omit [Host W] in
theorem Gained.nothing (world : W) : Gained accepted world world [] [] :=
  ⟨(List.append_nil _).symm, (List.append_nil _).symm⟩

omit [Host W] in
theorem Gained.trans {before between after : W} {output error output' error' : Bytes}
    (first : Gained accepted before between output error)
    (second : Gained accepted between after output' error') :
    Gained accepted before after (output ++ output') (error ++ error') where
  output := by rw [second.output, first.output, List.append_assoc]
  error := by rw [second.error, first.error, List.append_assoc]

section Shown

variable (shows : Host.Shows accepted calm)
include shows

theorem print_gained (bytes : Bytes) (world : W) :
    Gained accepted world (print bytes world).2 bytes [] := by
  obtain ⟨ended, arrived, elsewhere⟩ :=
    Output.writeAll_arrives shows.output shows.printable bytes world
  have quiet := elsewhere .standardError nofun
  rw [print, bind_apply]
  generalize Output.writeAll .standardOutput bytes world = answered at ended arrived quiet ⊢
  obtain ⟨⟨count, result⟩, written⟩ := answered
  obtain rfl : result = .ok () := ended
  exact
    { output := (shows.output.flush .standardOutput written).trans arrived
      error := ((shows.output.flush .standardError written).trans quiet).trans
        (List.append_nil _).symm }

/-- A report gets through, as a line of its own. -/
theorem complain_told (text : String) (context : Context W) :
    ∃ left, complain text context = (.ok (), { context with world := left }) ∧
      Gained accepted context.world left [] (Builtin.lineOf text) := by
  obtain ⟨left, wrote, arrived, elsewhere⟩ :=
    Output.writePieces_arrives shows.error shows.reportable [Utf8.encode text, [0x0A]] context.world
  have line : [Utf8.encode text, [0x0A]].flatten = Builtin.lineOf text := by simp [Builtin.lineOf]
  refine ⟨left, ?_, (elsewhere .standardOutput (by decide)).trans (List.append_nil _).symm,
    line ▸ arrived⟩
  simp only [complain, bind_apply, Context.act_apply, Output.writeLine, wrote]
  rfl

theorem complainAll_told (errors : List Pipeline.StageError) (context : Context W) :
    ∃ left, complainAll errors context = (.ok (), { context with world := left }) ∧
      Gained accepted context.world left [] (errorLines errors) := by
  induction errors generalizing context with
  | nil => exact ⟨context.world, rfl, .nothing _⟩
  | cons failure rest ih =>
      obtain ⟨between, told, first⟩ := complain_told shows failure.error.message context
      obtain ⟨left, others, second⟩ := ih { context with world := between }
      refine ⟨left, ?_, first.trans second⟩
      rw [complainAll, bind_apply, told]
      exact others

end Shown

/-! ## What is shown of a line -/

variable [ArgumentReader]

/-- To show an outcome is to print its output, and then to complain of its failures. -/
theorem evaluateAndPrint_ok {outcome : Pipeline.Outcome} {ran after : Context W}
    (came : runLine registry line context = (.ok outcome, ran))
    (told : complainAll outcome.errors { ran with world := (print outcome.stdout ran.world).2 } =
      (.ok (), after)) :
    evaluateAndPrint registry line context = (.ok outcome.status, after) := by
  simp only [evaluateAndPrint, bind_apply, came, Context.act_apply, told]
  rfl

theorem evaluateAndPrint_error {fault : ShellError} {ran after : Context W}
    (other : fault ≠ .emptyLine) (came : runLine registry line context = (.error fault, ran))
    (told : complain fault.message ran = (.ok (), after)) :
    evaluateAndPrint registry line context = (.ok fault.exitCode, after) := by
  rw [evaluateAndPrint, bind_apply, came]
  cases fault with
  | emptyLine => exact absurd rfl other
  | _ =>
      simp only [bind_apply, told]
      rfl

/-- What a line is shown to come to. -/
structure Displays (accepted : OutputHandle → W → Bytes) (registry : Registry) (line : String)
    (context : Context W) : Prop where
  /-- No call is made in running the line of which anything could be seen on standard
  output. -/
  discreet : ∀ holds : W → Prop, Host.Sheltered holds → holds context.world →
    holds (runLine registry line context).2.world
  /-- And so nothing is. -/
  silent : accepted .standardOutput (runLine registry line context).2.world =
    accepted .standardOutput context.world
  outcome : ∀ outcome, (runLine registry line context).1 = .ok outcome →
    (evaluateAndPrint registry line context).1 = .ok outcome.status ∧
    accepted .standardOutput (evaluateAndPrint registry line context).2.world =
      accepted .standardOutput context.world ++ outcome.stdout ∧
    accepted .standardError (evaluateAndPrint registry line context).2.world =
      accepted .standardError (runLine registry line context).2.world ++
        errorLines outcome.errors ∧
    Pipeline.Ordered outcome.errors
  emptyLine : (runLine registry line context).1 = .error .emptyLine →
    evaluateAndPrint registry line context = (.ok 0, context)
  fault : ∀ fault, fault ≠ .emptyLine → (runLine registry line context).1 = .error fault →
    (evaluateAndPrint registry line context).1 = .ok fault.exitCode ∧
    accepted .standardOutput (evaluateAndPrint registry line context).2.world =
      accepted .standardOutput context.world ∧
    accepted .standardError (evaluateAndPrint registry line context).2.world =
      accepted .standardError (runLine registry line context).2.world ++
        Builtin.lineOf fault.message

/-- **What is shown of a line is what came of it.**  While a line is run nothing gets to
standard output; then its output is printed there, and its failures on standard error. -/
theorem evaluateAndPrint_displays (shows : Host.Shows accepted calm) (registry : Registry)
    (line : String) (context : Context W) (quiet : calm context.world) :
    Displays accepted registry line context := by
  have silent : accepted .standardOutput (runLine registry line context).2.world =
      accepted .standardOutput context.world :=
    (runLine_keeps (shows.discreet _) registry line context ⟨quiet, rfl⟩).2
  refine
    { discreet := fun holds sheltered here => runLine_keeps sheltered registry line context here
      silent
      outcome := fun outcome succeeded => ?_
      emptyLine := fun empty => ?_
      fault := fun fault other failed => ?_ }
  · have ordered := ordered_of_runLine succeeded
    rw [← silent]
    generalize came : runLine registry line context = answered at succeeded
    obtain ⟨answer, ran⟩ := answered
    obtain rfl : answer = .ok outcome := succeeded
    obtain ⟨left, told, later⟩ := complainAll_told shows outcome.errors
      { ran with world := (print outcome.stdout ran.world).2 }
    have gained := (print_gained shows outcome.stdout ran.world).trans later
    rw [List.append_nil, List.nil_append] at gained
    rw [evaluateAndPrint_ok came told]
    exact ⟨rfl, gained.output, gained.error, ordered⟩
  · rw [evaluateAndPrint, bind_apply, runLine_of_emptyLine empty]
    rfl
  · rw [← silent]
    generalize came : runLine registry line context = answered at failed
    obtain ⟨answer, ran⟩ := answered
    obtain rfl : answer = .error fault := failed
    obtain ⟨left, told, gained⟩ := complain_told shows fault.message ran
    rw [evaluateAndPrint_error other came told]
    exact ⟨rfl, gained.output.trans (List.append_nil _), gained.error⟩

end Interpreter

end Standard

/-! ## A world with a screen -/

/-- The world with a map, in which what is written to standard output is kept. -/
structure Billboard where
  shown : Bytes
  atlas : Atlas
  deriving DecidableEq, Repr

namespace Billboard

variable {α : Type}

/-- Does to the world with the map what is done. -/
def lift (operation : StateM Atlas α) : StateM Billboard α := fun world =>
  ((operation world.atlas).1, { world with atlas := (operation world.atlas).2 })

/-- Takes in what is written to a stream. -/
def write (output : OutputHandle) (bytes : Bytes) : StateM Billboard (Except IoError Nat) :=
  match output with
  | .standardOutput => fun world => (.ok bytes.length, { world with shown := world.shown ++ bytes })
  | output => lift (Host.write output bytes)

end Billboard

open Billboard in
instance : Host Billboard where
  canonicalize path world := Host.canonicalize path world.atlas
  isFile path world := Host.isFile path world.atlas
  currentDirectory world := Host.currentDirectory world.atlas
  changeDirectory path := lift (Host.changeDirectory path)
  environment world := Host.environment world.atlas
  account world := Host.account world.atlas
  processes world := Host.processes world.atlas
  terminate pid := lift (Host.terminate pid)
  openPipe := lift Host.openPipe
  read input most := lift (Host.read input most)
  readToEnd input := lift (Host.readToEnd input)
  write := Billboard.write
  interruptionsLeft _ _ := 0
  flush output := lift (Host.flush output)
  closeInput input := lift (Host.closeInput input)
  closeOutput output := lift (Host.closeOutput output)
  deliver pipe bytes := lift (Host.deliver pipe bytes)
  finishDelivery delivery := lift (Host.finishDelivery delivery)
  spawn launch := lift (Host.spawn launch)
  capture child := lift (Host.capture child)
  wait child := lift (Host.wait child)
  kill child := lift (Host.kill child)

namespace Billboard

/-- The start of a run in which so many pipes can be opened, and in which there are no
programs. -/
def context (pipes : Nat) : Context Billboard :=
  ⟨(Atlas.context [] pipes).session, ⟨[], (Atlas.context [] pipes).world⟩, []⟩

/-- What the standard streams have got. -/
def accepted : OutputHandle → Billboard → Bytes
  | .standardOutput, world => world.shown
  | .standardError, world => world.atlas.errorText
  | _, _ => []

theorem obeys {output : OutputHandle}
    (standard : output = .standardOutput ∨ output = .standardError) :
    Output.Obeys accepted output where
  logged bytes world := by
    rcases standard with rfl | rfl <;> exact congrArg _ List.take_length.symm
  elsewhere other apart bytes world := by
    rcases standard with rfl | rfl
    · cases other with
      | standardOutput => exact absurd rfl apart
      | _ => rfl
    · cases other with
      | standardError => exact absurd rfl apart
      | _ => rfl
  interrupted bytes world fault failed := by
    rcases standard with rfl | rfl <;> cases failed
  patient bytes world := Nat.le_refl _
  flush other world := by cases other <;> rfl

theorem steadfast (output : OutputHandle) : Output.Steadfast Billboard output := by
  intro bytes world nonempty
  obtain ⟨b, rest, rfl⟩ := List.exists_cons_of_ne_nil nonempty
  cases output <;> exact .inl ⟨rest.length, rfl⟩

/-- There are no programs, so the world is always calm. -/
theorem shows : Host.Shows accepted fun _ => True where
  discreet shown := by
    intro α operation discreet world here
    cases discreet with
    | write aside bytes => cases aside <;> exact here
    | _ => exact here
  output := obeys (.inl rfl)
  error := obeys (.inr rfl)
  printable := steadfast .standardOutput
  reportable := steadfast .standardError

end Billboard

namespace Interpreter

open scoped Arguments

/-- What comes of a line whose second stage names no program. -/
def missingOutcome : Pipeline.Outcome := ⟨Utf8.encode "hi\n", 0, [⟨1, .notFound "nope"⟩]⟩

/-- The first stage reports in the course of the run, and the failure of the second is told
afterwards.  Where no second pipe can be opened, the line comes to nothing. -/
theorem evaluateAndPrint_displays_nope :
    Host.Shows Billboard.accepted (fun _ => True) ∧
      ((runLine .withBuiltins "cd a b | nope | echo hi" (Billboard.context 2)).1 =
          .ok missingOutcome ∧
        (evaluateAndPrint .withBuiltins "cd a b | nope | echo hi" (Billboard.context 2)).1 =
          .ok 0 ∧
        Billboard.accepted .standardOutput (evaluateAndPrint .withBuiltins
          "cd a b | nope | echo hi" (Billboard.context 2)).2.world = Utf8.encode "hi\n" ∧
        Billboard.accepted .standardError (evaluateAndPrint .withBuiltins
          "cd a b | nope | echo hi" (Billboard.context 2)).2.world =
            Utf8.encode "cd: too many arguments: b\nnope: command not found\n") ∧
      ((runLine .withBuiltins "cd a b | nope | echo hi" (Billboard.context 1)).1 =
          .error (.pipe "nope" (.os 24)) ∧
        (evaluateAndPrint .withBuiltins "cd a b | nope | echo hi" (Billboard.context 1)).1 =
          .ok 1 ∧
        Billboard.accepted .standardOutput (evaluateAndPrint .withBuiltins
          "cd a b | nope | echo hi" (Billboard.context 1)).2.world = []) ∧
      evaluateAndPrint .withBuiltins " " (Billboard.context 1) = (.ok 0, Billboard.context 1) := by
  have ran : (runLine .withBuiltins "cd a b | nope | echo hi" (Billboard.context 2)).1 =
      .ok missingOutcome := by decide +kernel
  have failed : (runLine .withBuiltins "cd a b | nope | echo hi" (Billboard.context 1)).1 =
      .error (.pipe "nope" (.os 24)) := by decide +kernel
  have empty : (runLine .withBuiltins " " (Billboard.context 1)).1 = .error .emptyLine := by
    decide +kernel
  obtain ⟨status, output, error, -⟩ := (evaluateAndPrint_displays Billboard.shows .withBuiltins
    "cd a b | nope | echo hi" (Billboard.context 2) trivial).outcome _ ran
  obtain ⟨code, silent, -⟩ := (evaluateAndPrint_displays Billboard.shows .withBuiltins
    "cd a b | nope | echo hi" (Billboard.context 1) trivial).fault (.pipe "nope" (.os 24)) nofun
    failed
  refine ⟨Billboard.shows, ⟨ran, status, output, error.trans ?_⟩, ⟨failed, code, silent⟩, ?_⟩
  · decide +kernel
  · exact (evaluateAndPrint_displays Billboard.shows .withBuiltins " " (Billboard.context 1)
      trivial).emptyLine empty

end Interpreter

end PipelineShell
