/-
# Proofs.Programs -- what a shell does is put together from calls

Whatever a shell does to carry out a line is put together from a few kinds of steps: a call
on the world (`Host.Work`), a look at it (`Host.View`) or at the session, an entry in the
journal, and then what only two builtins do, to move the process and to change the session.
`Built` says so of an action.  It is shown here once for every call on a command
(`Command.run_built` and its like), for runs of pipelines (`Pipeline.execute_built`) and for
lines (`Interpreter.evaluateAndPrint_built`).

What is known of each kind of step, and goes through binding, is then known of every such
action by induction on `Built`.  Here it is that worlds which no step can tell apart, no
action can tell apart (`Built.relates`).
-/
import PipelineShell.Interpreter
import PipelineShell.Proofs.Stateful

namespace PipelineShell

set_option autoImplicit false

open Stateful

variable {W α β : Type} [Host W]

/-- To act on the world, opened at a context. -/
theorem Context.act_apply {W α : Type} (operation : StateM W α) (context : Context W) :
    Context.act operation context =
      ((operation context.world).1, { context with world := (operation context.world).2 }) := rfl

/-- The calls by which commands act on the world.  What moves the process is not one of
them, and neither is to read the standard input of the shell. -/
inductive Host.Work : {α : Type} → StateM W α → Prop
  | terminate (pid : Nat) : Work (Host.terminate pid)
  | openPipe : Work Host.openPipe
  | readToEnd (input : InputHandle) (other : input ≠ .inherited) : Work (Host.readToEnd input)
  | write (output : OutputHandle) (bytes : Bytes) : Work (Host.write output bytes)
  | flush (output : OutputHandle) : Work (Host.flush output)
  | closeInput (input : InputHandle) : Work (Host.closeInput input)
  | closeOutput (output : OutputHandle) : Work (Host.closeOutput output)
  | deliver (pipe : Nat) (bytes : Bytes) : Work (Host.deliver pipe bytes)
  | finishDelivery (delivery : Nat) : Work (Host.finishDelivery delivery)
  | spawn (launch : Launch) : Work (Host.spawn launch)
  | capture (child : Child) : Work (Host.capture child)
  | wait (child : Child) : Work (Host.wait child)
  | kill (child : Child) : Work (Host.kill child)

/-- What commands look at in the world, and what can be made of it. -/
inductive Host.View : {α : Type} → (W → α) → Prop
  | canonicalize (path : Path) : View (Host.canonicalize path)
  | isFile : View fun world path => Host.isFile path world
  | environment : View Host.environment
  | account : View Host.account
  | processes : View Host.processes
  | interruptionsLeft (output : OutputHandle) : View (Host.interruptionsLeft output)
  | map {α β : Type} {view : W → α} (seen : View view) (read : α → β) :
      View fun world => read (view world)
  | pair {α β : Type} {left : W → α} {right : W → β} (first : View left) (second : View right) :
      View fun world => (left world, right world)

/-- The action is put together from calls and looks.  If it is `free`, it may also move the
process and change the session. -/
inductive Built (free : Prop) : {α : Type} → StateM (Context W) α → Prop
  | pure {α : Type} (answer : α) : Built free (Pure.pure answer)
  | bind {α β : Type} {first : StateM (Context W) α} {next : α → StateM (Context W) β}
      (now : Built free first) (later : ∀ answer, Built free (next answer)) :
      Built free (first >>= next)
  | act {α : Type} {operation : StateM W α} (work : Host.Work operation) :
      Built free (Context.act operation)
  | look {α : Type} {view : W → α} (seen : Host.View view) : Built free (Context.look view)
  | ask {α : Type} (view : Session → α) : Built free (Context.ask view)
  | note (entry : String) : Built free (Context.note entry)
  | move (may : free) (path : Path) : Built free (Context.act (Host.changeDirectory path))
  | modifySession (may : free) (change : Session → Session) :
      Built free (Context.modifySession change)

namespace Built

variable {free : Prop}

theorem map {action : StateM (Context W) α} (built : Built free action) (f : α → β) :
    Built free (f <$> action) := built.bind fun answer => .pure (f answer)

/-- To act on the world in two steps. -/
theorem act_bind {first : StateM W α} {next : α → StateM W β}
    (now : Built free (Context.act first))
    (later : ∀ answer, Built free (Context.act (next answer))) :
    Built free (Context.act (first >>= next)) := now.bind later

theorem act_pure (answer : α) : Built free (Context.act (Pure.pure answer : StateM W α)) :=
  .pure answer

/-- To act on the world and go on with something that is settled. -/
theorem act_map {operation : StateM W α} (work : Host.Work operation) (f : α → β) :
    Built free (Context.act operation >>= fun answer => Pure.pure (f answer)) :=
  (act work).bind fun _ => pure _

end Built

/-! ## Worlds that cannot be told apart -/

/-- Every step gives the same answers in worlds of the relation, and leaves it in force. -/
structure Host.Respects (relation : W → W → Prop) : Prop where
  work : ∀ {α : Type} {operation : StateM W α}, Host.Work operation →
    Relates relation Eq operation operation
  move : ∀ path, Relates relation Eq (Host.changeDirectory path) (Host.changeDirectory path)
  view : ∀ {α : Type} {view : W → α}, Host.View view →
    ∀ world world', relation world world' → view world = view world'

/-- The contexts are the same, but for their worlds. -/
structure Context.Related (relation : W → W → Prop) (context context' : Context W) : Prop where
  session : context.session = context'.session
  journal : context.journal = context'.journal
  world : relation context.world context'.world

variable {free : Prop}

/-- **Worlds that no step can tell apart, no action can.** -/
theorem Built.relates {relation : W → W → Prop} (respects : Host.Respects relation)
    {action : StateM (Context W) α} (built : Built free action) :
    Relates (Context.Related relation) Eq action action := by
  have acts : ∀ {α : Type} {operation : StateM W α}, Relates relation Eq operation operation →
      Relates (Context.Related relation) Eq (Context.act operation) (Context.act operation) := by
    intro α operation respected context context' related
    obtain ⟨same, holds⟩ := respected context.world context'.world related.world
    exact ⟨same, related.session, related.journal, holds⟩
  induction built with
  | pure answer => exact .pure rfl
  | bind _ _ ihFirst ihNext => exact ihFirst.bind_same ihNext
  | act work => exact acts (respects.work work)
  | move _ path => exact acts (respects.move path)
  | look seen =>
      exact fun context context' related => ⟨respects.view seen _ _ related.world, related⟩
  | ask view => exact fun context context' related => ⟨congrArg view related.session, related⟩
  | note entry =>
      exact fun context context' related =>
        ⟨rfl, related.session, congrArg (· ++ [entry]) related.journal, related.world⟩
  | modifySession _ change =>
      exact fun context context' related =>
        ⟨rfl, congrArg change related.session, related.journal, related.world⟩

/-! ## Writing -/

namespace Output

theorem writeFrom_built (output : OutputHandle) (calls accepted : Nat) (bytes : Bytes) :
    Built free (Context.act (writeFrom output calls accepted bytes : StateM W _)) := by
  induction calls generalizing accepted bytes with
  | zero => cases bytes <;> exact .act_pure _
  | succ calls ih =>
      cases bytes with
      | nil => exact .act_pure _
      | cons b rest =>
          refine .act_bind (.act (.write output (b :: rest))) fun answer => ?_
          cases answer with
          | error fault =>
              dsimp only
              split
              · exact ih accepted (b :: rest)
              · exact .act_pure _
          | ok n =>
              cases n with
              | zero => exact .act_pure _
              | succ n => exact ih _ _

theorem writeAll_built (output : OutputHandle) (bytes : Bytes) :
    Built free (Context.act (writeAll output bytes : StateM W _)) :=
  (Built.look (.interruptionsLeft output)).bind fun interruptions =>
    writeFrom_built output (bytes.length + interruptions + 1) 0 bytes

theorem writePieces_built (output : OutputHandle) (pieces : List Bytes) :
    Built free (Context.act (writePieces output pieces : StateM W _)) := by
  induction pieces with
  | nil => exact .act_pure _
  | cons piece rest ih =>
      refine .act_bind (writeAll_built output piece) fun (accepted, result) => ?_
      cases result with
      | ok done => exact .act_bind ih fun _ => .act_pure _
      | error fault => exact .act_pure _

theorem writeLine_built (output : OutputHandle) (text : String) :
    Built free (Context.act (writeLine output text : StateM W _)) := writePieces_built output _

end Output

/-! ## Streams -/

namespace Streams

variable (streams : Streams)

theorem bindInput_built (input : InputHandle) :
    Built free (streams.bindInput input : StateM (Context W) _) := .act_map (.closeInput _) _

theorem bindOutput_built (output : OutputHandle) :
    Built free (streams.bindOutput output : StateM (Context W) _) := .act_map (.closeOutput _) _

theorem bindError_built (error : OutputHandle) :
    Built free (streams.bindError error : StateM (Context W) _) := .act_map (.closeOutput _) _

theorem release_built : Built free (streams.release : StateM (Context W) _) :=
  (Built.act (.closeInput _)).bind fun _ =>
    (Built.act (.closeOutput _)).bind fun _ => .act (.closeOutput _)

end Streams

/-! ## Builtins -/

namespace Builtin

theorem report_built (output : OutputHandle) (text : String) (code : ExitCode) :
    Built free (report output text code : StateM (Context W) _) := by
  refine (Output.writeLine_built output text).bind fun (accepted, result) => ?_
  cases result <;> exact .pure _

theorem terminate_built (words : List String) :
    Built free (terminate words : StateM (Context W) _) := by
  unfold terminate
  cases Invocation.target? words with
  | none => exact .pure _
  | some pid =>
      refine (Built.act (.terminate pid)).bind fun answer => ?_
      cases answer <;> exact .pure _

theorem enter_built (target : Path) : Built True (enter target : StateM (Context W) _) := by
  refine (Built.ask _).bind fun path => (Built.look (.canonicalize path)).bind fun answer => ?_
  cases answer with
  | error fault => exact .pure _
  | ok canonical =>
      refine (Built.move trivial canonical).bind fun answer => ?_
      cases answer with
      | error fault => exact .pure _
      | ok moved => exact (Built.modifySession trivial _).bind fun _ => .pure _

theorem changeDirectory_built (operand : Option String) :
    Built True (changeDirectory operand : StateM (Context W) _) := by
  refine (Built.look .environment).bind fun process => (Built.look .account).bind fun account => ?_
  refine (Built.ask _).bind fun target => ?_
  cases target with
  | none => exact .pure _
  | some target => exact enter_built target

/-- The work of a builtin that only prints. -/
theorem print_built (output : OutputHandle) (pieces : List Bytes) :
    Built free (printed <$> Context.act (Output.writePieces output pieces) :
      StateM (Context W) _) := (Output.writePieces_built output pieces).map _

/-- There is one builtin that moves the process, and one that asks for an exit. -/
theorem execute_built (invocation : Invocation) (output : OutputHandle) :
    Built True (invocation.execute output : StateM (Context W) _) := by
  cases invocation with
  | pwd => exact (Built.ask _).bind fun directory => print_built output _
  | echo noNewline words => exact print_built output _
  | cd target => exact (changeDirectory_built target).map _
  | ps => exact (Built.look .processes).bind fun table => print_built output _
  | kill words => exact (terminate_built words).map _
  | exit code => exact ((Built.modifySession trivial _).bind fun _ => .pure _).map _

theorem perform_built (streams : Streams) (reading : Except EarlyExit Invocation) :
    Built True (perform streams reading : StateM (Context W) _) := by
  cases reading with
  | error early =>
      simp only [perform]
      split
      · exact report_built _ _ _
      · exact (report_built _ _ _).bind fun _ => .pure _
  | ok invocation =>
      refine (execute_built invocation streams.output).bind fun (accepted, result) => ?_
      cases result with
      | ok code => exact .pure _
      | error complaint => exact (report_built _ _ _).bind fun _ => .pure _

variable (builtin : Builtin)

theorem closePipe_built : Built free (builtin.closePipe : StateM (Context W) _) := by
  unfold closePipe
  cases builtin.pipe with
  | none => exact .pure _
  | some pipe => exact .act_map (.closeOutput _) _

theorem setInput_built (input : InputHandle) :
    Built free (builtin.setInput input : StateM (Context W) _) :=
  (builtin.streams.bindInput_built input).bind fun _ => .pure _

theorem setOutput_built (output : OutputHandle) :
    Built free (builtin.setOutput output : StateM (Context W) _) :=
  (builtin.streams.bindOutput_built output).bind fun _ => closePipe_built _

theorem setError_built (error : OutputHandle) :
    Built free (builtin.setError error : StateM (Context W) _) :=
  (builtin.streams.bindError_built error).bind fun _ => .pure _

theorem openPipe_built : Built free (builtin.openPipe : StateM (Context W) _) := by
  refine (Built.act .openPipe).bind fun answer => ?_
  cases answer with
  | error fault => exact .pure _
  | ok pipe => exact (builtin.setOutput_built _).bind fun _ => .pure _

theorem startDelivery_built : Built free (builtin.startDelivery : StateM (Context W) _) := by
  unfold startDelivery
  cases builtin.pipe with
  | none => exact .pure _
  | some pipe =>
      exact (builtin.streams.bindOutput_built _).bind fun streams =>
        .act_map (.deliver pipe builtin.recorded) _

theorem run_built : Built True (builtin.run : StateM (Context W) _) := by
  unfold run
  split
  · exact .pure _
  · exact .pure _
  · refine (perform_built _ _).bind fun (accepted, result) => ?_
    refine (Built.act (.flush _)).bind fun _ => ?_
    refine (builtin.streams.bindInput_built _).bind fun streams => ?_
    refine (startDelivery_built _).bind fun concluded => ?_
    cases result <;> exact .pure _

theorem output_built : Built True (builtin.output : StateM (Context W) _) := by
  unfold output
  cases builtin.status with
  | some code => exact .pure _
  | none =>
      refine (builtin.setOutput_built _).bind fun bound => ?_
      refine bound.run_built.bind fun (answer, after) => ?_
      cases answer <;> exact .pure _

theorem wait_built : Built free (builtin.wait : StateM (Context W) _) := by
  unfold wait
  cases builtin.delivery with
  | none => exact .pure _
  | some delivery => exact .act_map (.finishDelivery _) _

theorem release_built : Built free (builtin.release : StateM (Context W) _) :=
  builtin.streams.release_built.bind fun _ => builtin.closePipe_built.bind fun _ => .pure _

end Builtin

/-! ## Programs -/

namespace External

variable (external : External)

theorem setInput_built (input : InputHandle) :
    Built free (external.setInput input : StateM (Context W) _) :=
  (external.streams.bindInput_built input).bind fun _ => .pure _

theorem setOutput_built (output : OutputHandle) :
    Built free (external.setOutput output : StateM (Context W) _) :=
  (external.streams.bindOutput_built output).bind fun _ => .pure _

theorem setError_built (error : OutputHandle) :
    Built free (external.setError error : StateM (Context W) _) :=
  (external.streams.bindError_built error).bind fun _ => .pure _

theorem openPipe_built : Built free (external.openPipe : StateM (Context W) _) := by
  refine (Built.act .openPipe).bind fun answer => ?_
  cases answer with
  | error fault => exact .pure _
  | ok pipe => exact (external.setOutput_built _).bind fun _ => .pure _

theorem closeLaunchOutput_built (output : LaunchOutput) :
    Built free (closeLaunchOutput output : StateM (Context W) _) := by
  cases output with
  | handle handle => exact .act (.closeOutput _)
  | captured => exact .pure _

/-- Where a program is found depends on the environment and on what files there are. -/
theorem located_view (session : Session) : Host.View (W := W) (external.located session) :=
  (Host.View.environment.pair .isFile).map fun (process, isFile) =>
    resolve isFile (Utf8.encode ((session.value? process "PATH").getD "")) session.directory
      (Path.ofString external.program)

theorem start_built (output : LaunchOutput) :
    Built free (external.start output : StateM (Context W) _) := by
  refine (Built.ask id).bind fun session => ?_
  refine (Built.look (External.located_view _ session)).bind fun path => ?_
  cases path with
  | none =>
      exact (closeLaunchOutput_built output).bind fun _ =>
        (Streams.release_built _).bind fun _ => .pure _
  | some path =>
      refine (Built.look .environment).bind fun process => ?_
      refine (Built.act (.spawn _)).bind fun answer => ?_
      cases answer <;> exact .pure _

theorem run_built : Built free (external.run : StateM (Context W) _) := by
  unfold run
  split
  · exact .pure _
  · refine (start_built _ _).bind fun (answer, started) => ?_
    cases answer <;> exact .pure _
  · exact .pure _

theorem wait_built : Built free (external.wait : StateM (Context W) _) := by
  unfold wait
  cases external.progress with
  | running child =>
      refine (Built.act (.wait _)).bind fun answer => ?_
      cases answer <;> exact .pure _
  | _ => exact .pure _

theorem collect_built : Built free (external.collect : StateM (Context W) _) := by
  refine (external.start_built .captured).bind fun (answer, started) => ?_
  cases answer with
  | error fault => exact .pure _
  | ok child =>
      refine (Built.act (.capture _)).bind fun captured => ?_
      cases captured with
      | error fault => exact .pure _
      | ok ended =>
          dsimp only
          split <;> exact .pure _

theorem output_built : Built free (external.output : StateM (Context W) _) := by
  unfold output
  split
  · split
    · exact .pure _
    · split
      · exact .pure _
      · exact external.collect_built
  · exact .pure _
  · refine external.wait_built.bind fun (answer, waited) => ?_
    cases answer <;> exact .pure _

theorem abort_built : Built free (external.abort : StateM (Context W) _) := by
  unfold abort
  cases external.progress with
  | running child => exact .act_map (.kill _) _
  | _ => exact .pure _

end External

/-! ## Scripted commands -/

namespace Scripted

variable (scripted : Scripted)

theorem note_built (call : String) : Built free (scripted.note call : StateM (Context W) _) :=
  .note _

theorem setInput_built (input : InputHandle) :
    Built free (scripted.setInput input : StateM (Context W) _) :=
  (scripted.note_built _).bind fun _ => (Streams.bindInput_built _ _).bind fun _ => .pure _

theorem setOutput_built (output : OutputHandle) :
    Built free (scripted.setOutput output : StateM (Context W) _) :=
  (scripted.note_built _).bind fun _ => (Streams.bindOutput_built _ _).bind fun _ => .pure _

theorem setError_built (error : OutputHandle) :
    Built free (scripted.setError error : StateM (Context W) _) :=
  (scripted.note_built _).bind fun _ => (Streams.bindError_built _ _).bind fun _ => .pure _

theorem openPipe_built : Built free (scripted.openPipe : StateM (Context W) _) := by
  refine (scripted.note_built _).bind fun _ => ?_
  cases scripted.script.pipeFailure with
  | some fault => exact .pure _
  | none =>
      refine (Built.act .openPipe).bind fun answer => ?_
      cases answer with
      | error fault => exact .pure _
      | ok pipe => exact (scripted.setOutput_built _).bind fun _ => .pure _

theorem text_built : Built free (scripted.text : StateM (Context W) _) := by
  have received : Built free (scripted.received : StateM (Context W) _) := by
    unfold received
    split
    · next reads =>
      have other : scripted.streams.input ≠ .inherited := by
        simp only [Bool.and_eq_true, bne_iff_ne] at reads
        exact reads.2
      refine (Built.act (.readToEnd _ other)).bind fun answer => ?_
      cases answer <;> exact .pure _
    · exact .pure _
  exact received.bind fun _ => .pure _

theorem run_built : Built free (scripted.run : StateM (Context W) _) := by
  refine (scripted.note_built _).bind fun _ => ?_
  refine scripted.text_built.bind fun text => ?_
  dsimp only
  split
  · refine (Output.writeAll_built _ _).bind fun _ => ?_
    refine (Streams.bindOutput_built _ _).bind fun _ => ?_
    refine (Streams.bindInput_built _ _).bind fun _ => ?_
    refine (Output.writeAll_built _ _).bind fun _ => ?_
    cases scripted.script.runFailure <;> exact .pure _
  · refine (Streams.bindOutput_built _ _).bind fun _ => ?_
    refine (Streams.bindInput_built _ _).bind fun _ => ?_
    refine (Output.writeAll_built _ _).bind fun _ => ?_
    cases scripted.script.runFailure <;> exact .pure _

theorem output_built : Built free (scripted.output : StateM (Context W) _) := by
  refine (scripted.note_built _).bind fun _ => ?_
  refine scripted.text_built.bind fun text => ?_
  refine (Streams.bindInput_built _ _).bind fun streams => ?_
  refine (Output.writeAll_built _ _).bind fun _ => ?_
  dsimp only
  cases scripted.script.outputFailure <;> exact .pure _

theorem wait_built : Built free (scripted.wait : StateM (Context W) _) :=
  (scripted.note_built _).bind fun _ => .pure _

theorem abort_built : Built free (scripted.abort : StateM (Context W) _) := by
  unfold abort
  split
  · exact (scripted.note_built _).bind fun _ => .pure _
  · exact .pure _

end Scripted

/-! ## Commands -/

namespace Command

variable (command : Command)

theorem setInput_built (input : InputHandle) :
    Built free (command.setInput input : StateM (Context W) _) := by
  cases command with
  | builtin b => exact (b.setInput_built input).map _
  | external e => exact (e.setInput_built input).map _
  | scripted s => exact (s.setInput_built input).map _

theorem openPipe_built : Built free (command.openPipe : StateM (Context W) _) := by
  cases command with
  | builtin b => exact b.openPipe_built.map _
  | external e => exact e.openPipe_built.map _
  | scripted s => exact s.openPipe_built.map _

theorem setError_built (error : OutputHandle) :
    Built free (command.setError error : StateM (Context W) _) := by
  cases command with
  | builtin b => exact (b.setError_built error).map _
  | external e => exact (e.setError_built error).map _
  | scripted s => exact (s.setError_built error).map _

theorem run_built : Built True (command.run : StateM (Context W) _) := by
  cases command with
  | builtin b => exact b.run_built.map _
  | external e => exact e.run_built.map _
  | scripted s => exact s.run_built.map _

theorem output_built : Built True (command.output : StateM (Context W) _) := by
  cases command with
  | builtin b => exact b.output_built.map _
  | external e => exact e.output_built.map _
  | scripted s => exact s.output_built.map _

theorem wait_built : Built free (command.wait : StateM (Context W) _) := by
  cases command with
  | builtin b => exact b.wait_built.map _
  | external e => exact e.wait_built.map _
  | scripted s => exact s.wait_built.map _

theorem abort_built : Built free (command.abort : StateM (Context W) _) := by
  cases command with
  | builtin b => exact .pure _
  | external e => exact e.abort_built.map _
  | scripted s => exact s.abort_built.map _

theorem release_built : Built free (command.release : StateM (Context W) _) := by
  cases command with
  | builtin b => exact b.release_built
  | external e => exact e.streams.release_built
  | scripted s => exact s.streams.release_built

end Command

/-! ## Pipelines -/

namespace Pipeline

theorem connect_built (stage : Command) (pending : Option InputHandle) :
    Built free (connect Command.contract stage pending : StateM (Context W) _) := by
  cases pending with
  | none => exact .pure _
  | some input => exact stage.setInput_built input

theorem abortAll_built (stages : List Command) :
    Built free (abortAll Command.contract stages : StateM (Context W) _) := by
  induction stages with
  | nil => exact .pure _
  | cons stage rest ih =>
      exact stage.abort_built.bind fun aborted => aborted.wait_built.bind fun _ =>
        ih.bind fun _ => .pure _

theorem releaseAll_built (stages : List Command) :
    Built free (releaseAll Command.contract stages : StateM (Context W) _) := by
  induction stages with
  | nil => exact .pure _
  | cons stage rest ih => exact stage.release_built.bind fun _ => ih

theorem waitAll_built (index : Nat) (stages : List Command) :
    Built free (waitAll Command.contract index stages : StateM (Context W) _) := by
  induction stages generalizing index with
  | nil => exact .pure _
  | cons stage rest ih =>
      exact stage.wait_built.bind fun _ => (ih (index + 1)).bind fun _ => .pure _

variable (error : OutputHandle)

theorem startStage_built (stage : Command) (progress : Progress Command InputHandle) :
    Built True (startStage Command.contract (pure error) stage progress :
      StateM (Context W) _) := by
  refine (connect_built stage _).bind fun connected => ?_
  refine connected.openPipe_built.bind fun (answer, opened) => ?_
  cases answer with
  | error cause =>
      exact opened.release_built.bind fun _ => (abortAll_built _).bind fun _ => .pure _
  | ok reader =>
      refine (Built.pure error).bind fun error => ?_
      exact (opened.setError_built error).bind fun bound =>
        bound.run_built.bind fun _ => .pure _

theorem startAll_built (stages : List Command) (progress : Progress Command InputHandle) :
    Built True (startAll Command.contract (pure error) stages progress :
      StateM (Context W) _) := by
  induction stages generalizing progress with
  | nil => exact .pure _
  | cons stage rest ih =>
      refine (startStage_built error stage progress).bind fun answer => ?_
      cases answer with
      | error refusal =>
          exact (releaseAll_built _).bind fun _ => (releaseAll_built _).bind fun _ => .pure _
      | ok progress => exact ih progress

theorem finish_built (last : Command) (progress : Progress Command InputHandle) :
    Built True (finish Command.contract (pure error) last progress : StateM (Context W) _) := by
  refine (connect_built last _).bind fun connected => (Built.pure error).bind fun error => ?_
  refine (connected.setError_built error).bind fun bound => ?_
  refine bound.output_built.bind fun (produced, collected) => ?_
  refine collected.wait_built.bind fun (ended, waited) => ?_
  refine (waitAll_built _ _).bind fun (errors, started) => ?_
  exact (releaseAll_built _).bind fun _ => waited.release_built.bind fun _ => .pure _

/-- **A pipeline is run in steps of these kinds.** -/
theorem execute_built (stages : List Command) :
    Built True (execute Command.contract (pure error) stages : StateM (Context W) _) := by
  unfold execute
  cases stages.getLast? with
  | none => exact .pure _
  | some last =>
      refine (startAll_built error _ _).bind fun answer => ?_
      cases answer with
      | error fault => exact last.release_built.bind fun _ => .pure _
      | ok progress => exact (finish_built error last progress).map _

end Pipeline

/-! ## Lines -/

namespace Interpreter

theorem runLine_built [ArgumentReader] (registry : Registry) (line : String) :
    Built True (runLine registry line : StateM (Context W) _) := by
  unfold runLine
  cases Pipeline.construct registry line with
  | error fault => exact .pure _
  | ok stages => exact Pipeline.execute_built _ stages

theorem complain_built (text : String) : Built free (complain text : StateM (Context W) _) :=
  (Output.writeLine_built _ _).bind fun _ => .pure _

theorem complainAll_built (failures : List Pipeline.StageError) :
    Built free (complainAll failures : StateM (Context W) _) := by
  induction failures with
  | nil => exact .pure _
  | cons failure rest ih =>
      refine (complain_built _).bind fun told => ?_
      cases told with
      | ok done => exact ih
      | error panic => exact .pure _

theorem print_built (bytes : Bytes) :
    Built free (Context.act (print bytes : StateM W _)) := by
  refine .act_bind (Output.writeAll_built .standardOutput bytes) fun (accepted, result) => ?_
  cases result with
  | ok done => exact .act (.flush .standardOutput)
  | error fault => exact .act_pure _

/-- **A line is evaluated, and its outcome shown, in steps of these kinds.** -/
theorem evaluateAndPrint_built [ArgumentReader] (registry : Registry) (line : String) :
    Built True (evaluateAndPrint registry line : StateM (Context W) _) := by
  refine (runLine_built registry line).bind fun answer => ?_
  split
  · exact (print_built _).bind fun _ => (complainAll_built _).bind fun _ => .pure _
  · exact .pure _
  · exact (complain_built _).bind fun _ => .pure _

end Interpreter

end PipelineShell
