/-
# Proofs.Starts -- which calls start programs, and what these are given

Of all the calls on commands only two start programs, `run` and `output`, and only when it is
a program that the command stands for; either starts no more than one (`Command.run_launches`,
`Command.output_launches`).  All other calls do the same in a world in which no program can
be started (`Host.inert`), and there nothing is ever put on record as started.

What a program that is started is given is said by `External.Inherits`: the words after the
first, as they are, the directory of the session, and the variables that the session sees.
-/
import PipelineShell.Proofs.Discretion
import PipelineShell.Proofs.Observed
import PipelineShell.Proofs.Variables

namespace PipelineShell

set_option autoImplicit false

open Stateful
open Host (Act OnRecord Scene)

variable {W : Type} [Host W]

/-- The programs that were started so far, each amid what. -/
def Context.started (past : W → List Act) (context : Context W) : List (Launch × Scene) :=
  (past context.world).filterMap Act.start?

/-- A record that grows by other acts shows no more starts. -/
theorem Host.filterMap_start?_append {past acts : List Act}
    (others : ∀ act ∈ acts, act.start? = none) :
    (past ++ acts).filterMap Act.start? = past.filterMap Act.start? := by
  rw [List.filterMap_append, List.filterMap_eq_nil_iff.2 others, List.append_nil]

/-- A record that grows by one other act shows no more starts. -/
theorem Host.filterMap_start?_concat {past : List Act} {act : Act} (other : act.start? = none) :
    (past ++ [act]).filterMap Act.start? = past.filterMap Act.start? :=
  filterMap_start?_append (List.forall_mem_singleton.2 other)

/-! ## Where nothing can be started -/

/-- The same host, but no program can be started. -/
abbrev Host.inert (W : Type) [host : Host W] : Host W :=
  { host with spawn := fun _ => pure (.error .notStarted) }

section Silence

variable {past : W → List Act} (onRecord : OnRecord past)
include onRecord

/-- There, no call adds to the starts on record. -/
theorem Host.inert_respects (launches : List (Launch × Scene)) :
    @Host.Respects W (Host.inert W) fun world world' =>
      world = world' ∧ (past world).filterMap Act.start? = launches := by
  refine @Host.Respects.mk W (Host.inert W) _ ?work ?move ?view
  case work =>
    intro α operation work
    refine keeps_iff_relates.1 fun world here => Eq.trans ?_ here
    cases work with
    | terminate pid =>
        exact (congrArg _ (onRecord.terminate pid world)).trans (filterMap_start?_concat rfl)
    | openPipe => exact congrArg _ (onRecord.silent .openPipe world)
    | readToEnd input => exact congrArg _ (onRecord.silent (.readToEnd input) world)
    | write output bytes =>
        exact (congrArg _ (onRecord.write output bytes world)).trans (filterMap_start?_concat rfl)
    | flush output => exact congrArg _ (onRecord.silent (.flush output) world)
    | closeInput input => exact congrArg _ (onRecord.silent (.closeInput input) world)
    | closeOutput output => exact congrArg _ (onRecord.silent (.closeOutput output) world)
    | deliver pipe bytes =>
        exact (congrArg _ (onRecord.deliver pipe bytes world)).trans (filterMap_start?_concat rfl)
    | finishDelivery delivery => exact congrArg _ (onRecord.silent (.finishDelivery delivery) world)
    | spawn launch => rfl
    | capture child => exact congrArg _ (onRecord.silent (.capture child) world)
    | wait child => exact congrArg _ (onRecord.silent (.wait child) world)
    | kill child =>
        exact (congrArg _ (onRecord.kill child world)).trans (filterMap_start?_concat rfl)
  case move =>
    exact fun path => keeps_iff_relates.1 fun world here =>
      (congrArg _ (onRecord.silent (.changeDirectory path) world)).trans here
  case view => exact fun seen world world' same => congrArg _ same.1

/-- What is put together from calls of that host starts nothing. -/
theorem spares_of_inert {α : Type} {free : Prop} {action : StateM (Context W) α}
    (built : @Built W (Host.inert W) free α action) : Spares (Context.started past) action :=
  fun context =>
    (@Built.relates W α (Host.inert W) free _ (Host.inert_respects onRecord _) action built
      context context ⟨rfl, rfl, rfl, rfl⟩).2.world.2

/-! ## Calls that start nothing -/

namespace Command

variable (command : Command)

theorem setInput_unstarted (input : InputHandle) :
    Spares (Context.started past) (command.setInput input : StateM (Context W) _) :=
  spares_of_inert onRecord (@setInput_built W (Host.inert W) False command input)

theorem openPipe_unstarted :
    Spares (Context.started past) (command.openPipe : StateM (Context W) _) :=
  spares_of_inert onRecord (@openPipe_built W (Host.inert W) False command)

theorem setError_unstarted (error : OutputHandle) :
    Spares (Context.started past) (command.setError error : StateM (Context W) _) :=
  spares_of_inert onRecord (@setError_built W (Host.inert W) False command error)

theorem wait_unstarted : Spares (Context.started past) (command.wait : StateM (Context W) _) :=
  spares_of_inert onRecord (@wait_built W (Host.inert W) False command)

theorem abort_unstarted : Spares (Context.started past) (command.abort : StateM (Context W) _) :=
  spares_of_inert onRecord (@abort_built W (Host.inert W) False command)

theorem release_unstarted :
    Spares (Context.started past) (command.release : StateM (Context W) _) :=
  spares_of_inert onRecord (@release_built W (Host.inert W) False command)

end Command

/-- To write is to start nothing. -/
theorem Output.write_unstarted (launches : List (Launch × Scene)) (output : OutputHandle)
    (bytes : Bytes) : Keeps (fun world => (past world).filterMap Act.start? = launches)
      (Host.write output bytes) := fun world here =>
  (congrArg _ (onRecord.write output bytes world)).trans
    ((Host.filterMap_start?_concat rfl).trans here)

theorem Output.writeAll_unstarted (output : OutputHandle) (bytes : Bytes) :
    Spares (Context.started past) (Context.act (writeAll output bytes)) := fun context =>
  writeAll_keeps (write_unstarted onRecord _ output) bytes context.world rfl

/-! ## Builtins and scripted commands -/

namespace Builtin

variable (builtin : Builtin)

theorem deed_unstarted (reading : Except EarlyExit Invocation) :
    Spares (Context.started past) (deed reading) := by
  intro context
  by_cases lists : reading = .ok .ps
  · rw [lists]
    rfl
  · have upholds : Upholds fun world : W =>
        (past world).filterMap Act.start? = context.started past :=
      { changeDirectory := fun path world here =>
          (congrArg _ (onRecord.silent (.changeDirectory path) world)).trans here
        terminate := fun pid world here =>
          (congrArg _ (onRecord.terminate pid world)).trans
            ((Host.filterMap_start?_concat rfl).trans here) }
    exact deed_keeps reading lists upholds context rfl

theorem perform_unstarted (streams : Streams) (reading : Except EarlyExit Invocation) :
    Spares (Context.started past) (perform streams reading) := by
  rw [perform_deed]
  refine (deed_unstarted onRecord reading).bind fun intent context => ?_
  exact (intent.carryOut_relates
    (fun pieces => keeps_iff_relates.1
      (Output.writePieces_keeps (Output.write_unstarted onRecord _ streams.output) pieces))
    (fun pieces => keeps_iff_relates.1
      (Output.writePieces_keeps (Output.write_unstarted onRecord _ streams.error) pieces))
    context context ⟨rfl, rfl, rfl, rfl⟩).2.world.2

theorem conclude_unstarted (accepted : Bytes) :
    Spares (Context.started past) (builtin.conclude accepted : StateM (Context W) _) := by
  intro context
  refine (congrArg _ (conclude_past onRecord builtin accepted context)).trans ?_
  refine Host.filterMap_start?_append fun act member => ?_
  obtain ⟨pipe, -, rfl⟩ := List.mem_map.1 member
  rfl

/-- A builtin starts no program when it runs. -/
theorem run_unstarted : Spares (Context.started past) (builtin.run : StateM (Context W) _) :=
  run_spares (perform_unstarted onRecord builtin.streams) (conclude_unstarted onRecord builtin)

theorem output_unstarted :
    Spares (Context.started past) (builtin.output : StateM (Context W) _) :=
  output_spares (fun context =>
      congrArg (List.filterMap Act.start?) (setOutput_past onRecord builtin .scratch context))
    (run_unstarted onRecord _)

end Builtin

namespace Scripted

variable (scripted : Scripted)

theorem bindInput_unstarted (streams : Streams) (input : InputHandle) :
    Spares (Context.started past) (streams.bindInput input : StateM (Context W) _) :=
  spares_of_inert onRecord (@Streams.bindInput_built W (Host.inert W) False streams input)

theorem bindOutput_unstarted (streams : Streams) (output : OutputHandle) :
    Spares (Context.started past) (streams.bindOutput output : StateM (Context W) _) :=
  spares_of_inert onRecord (@Streams.bindOutput_built W (Host.inert W) False streams output)

theorem text_unstarted : Spares (Context.started past) (scripted.text : StateM (Context W) _) :=
  spares_of_inert onRecord (@text_built W (Host.inert W) False scripted)

theorem conclude_unstarted :
    Spares (Context.started past) (scripted.conclude : StateM (Context W) _) := by
  refine (bindOutput_unstarted onRecord _ _).bind fun streams => ?_
  refine (bindInput_unstarted onRecord streams _).bind fun streams => ?_
  refine (Output.writeAll_unstarted onRecord _ _).bind fun _ => ?_
  dsimp only
  cases scripted.script.runFailure <;> exact .pure _

theorem run_unstarted : Spares (Context.started past) (scripted.run : StateM (Context W) _) := by
  refine Spares.bind (fun _ => rfl) fun _ => ?_
  refine (text_unstarted onRecord scripted).bind fun text => ?_
  dsimp only
  split
  · exact (Output.writeAll_unstarted onRecord _ text).bind fun _ =>
      conclude_unstarted onRecord scripted
  · exact conclude_unstarted onRecord scripted

theorem output_unstarted :
    Spares (Context.started past) (scripted.output : StateM (Context W) _) := by
  refine Spares.bind (fun _ => rfl) fun _ => ?_
  refine (text_unstarted onRecord scripted).bind fun text => ?_
  refine (bindInput_unstarted onRecord _ _).bind fun streams => ?_
  refine (Output.writeAll_unstarted onRecord _ _).bind fun _ => ?_
  dsimp only
  cases scripted.script.outputFailure <;> exact .pure _

end Scripted

end Silence

/-! ## Programs -/

/-- A program that is started amid a scene has from a session what it is to have, with these
words. -/
structure External.Inherits (words : List String) (session : Session) (scene : Scene)
    (launch : Launch) : Prop where
  /-- The first word stands for the program, as the search list of the session has it, and the
  others are its arguments. -/
  argued : ∃ word, words = word :: launch.arguments ∧
    External.resolve scene.isFile
      (Utf8.encode ((session.value? scene.environment "PATH").getD "")) session.directory
      (Path.ofString word) = some launch.program
  directory : launch.directory = session.directory
  /-- Every name has the value that it has in the session, or none. -/
  environment : ∀ name, launch.environment.get? name = session.value? scene.environment name
  /-- No name is there twice. -/
  single : session.bindings.names.Nodup → scene.environment.names.Nodup →
    launch.environment.names.Nodup

/-- The words of the program that the command stands for. -/
def Command.words? : Command → Option (List String)
  | .external e => some e.words
  | _ => none

/-- From one context to the other a command starts one program at most, as its words have it,
and in the session that was there before. -/
structure Command.Launches (past : W → List Act) (command : Command) (before after : Context W)
    (launched : Option (Launch × Scene)) : Prop where
  grown : after.started past = before.started past ++ launched.toList
  inherits : ∀ launch scene, launched = some (launch, scene) →
    ∃ words, command.words? = some words ∧
      External.Inherits words before.session scene launch

namespace External

variable (external : External)

/-- What a start puts on record, if the program is found. -/
def begun (output : LaunchOutput) (context : Context W) : Option (Launch × Scene) :=
  (external.located context.session context.world).map fun path =>
    (external.launch context.session (Host.environment context.world) path external.streams output,
      Host.scene context.world)

variable {external} in
/-- What it puts there inherits from the session. -/
theorem inherits_of_begun {output : LaunchOutput} {context : Context W} {launch : Launch}
    {scene : Scene} (worded : external.words ≠ [])
    (starts : external.begun output context = some (launch, scene)) :
    Inherits external.words context.session scene launch := by
  obtain ⟨path, located, same⟩ := Option.map_eq_some_iff.1 starts
  obtain ⟨rfl, rfl⟩ := Prod.mk.inj same
  obtain ⟨words, streams, bound, progress⟩ := external
  obtain ⟨word, rest, rfl⟩ := List.exists_cons_of_ne_nil worded
  exact
    { argued := ⟨word, rfl, located⟩
      directory := rfl
      environment := context.session.get?_childEnvironment _
      single := Environment.nodup_overlay }

section Starting

variable {past : W → List Act} (onRecord : OnRecord past)
include onRecord

/-- **A start puts one program on record, or none if none is found.** -/
theorem start_started (output : LaunchOutput) (context : Context W) :
    (external.start output context).2.started past =
      context.started past ++ (external.begun output context).toList := by
  have same : located { external with streams := .standard } context.session context.world =
      external.located context.session context.world := rfl
  simp only [start, begun, bind_apply, Context.ask, Context.look, id, same]
  cases external.located context.session context.world with
  | none =>
      have closed : Spares (Context.started past) (closeLaunchOutput output) :=
        spares_of_inert onRecord (@closeLaunchOutput_built W (Host.inert W) False output)
      have released : Spares (Context.started past) (external.streams.release : StateM _ _) :=
        spares_of_inert onRecord (@Streams.release_built W (Host.inert W) False external.streams)
      exact ((closed.bind fun _ => released.bind fun _ => .pure _) context).trans
        (List.append_nil _).symm
  | some path =>
      have same : launch { external with streams := .standard } context.session
          (Host.environment context.world) path external.streams output =
          external.launch context.session (Host.environment context.world) path external.streams
            output := rfl
      simp only [bind_apply, Context.act_apply, Context.look, same]
      have spawned := congrArg (List.filterMap Act.start?) (onRecord.spawn (external.launch
        context.session (Host.environment context.world) path external.streams output)
        context.world)
      rw [List.filterMap_append] at spawned
      generalize Host.spawn _ context.world = answered at spawned ⊢
      obtain ⟨cause | child, left⟩ := answered <;> exact spawned

/-- So does a request for the output of a program that is to be started. -/
theorem collect_started (context : Context W) :
    (external.collect context).2.started past =
      context.started past ++ (external.begun .captured context).toList := by
  refine Eq.trans (Spares.bind_after (fun (answer, started) => ?_) context)
    (external.start_started onRecord .captured context)
  cases answer with
  | error fault => exact .pure _
  | ok child =>
      refine Spares.bind (fun context => congrArg (List.filterMap Act.start?)
        (onRecord.silent (.capture child) context.world)) fun collected => ?_
      cases collected with
      | error fault => exact .pure _
      | ok ended =>
          dsimp only
          split <;> exact .pure _

/-- And so does a run; the output that is handed over is not among the streams any more. -/
theorem run_started (idle : external.progress = .idle) (worded : external.words ≠ [])
    (context : Context W) :
    (external.run context).2.started past = context.started past ++
      (begun { external with streams := { external.streams with output := .standardOutput } }
        (.handle external.streams.output) context).toList := by
  obtain ⟨words, streams, bound, progress⟩ := external
  obtain rfl : progress = .idle := idle
  obtain ⟨word, rest, rfl⟩ := List.exists_cons_of_ne_nil worded
  refine Eq.trans ?_ (start_started _ onRecord (.handle streams.output) context)
  simp only [run, bind_apply]
  rcases start _ (.handle streams.output) context with ⟨⟨fault | child, started⟩, left⟩ <;> rfl

omit onRecord in
/-- A command that cannot be run, or was run before, starts nothing. -/
theorem run_unstarted (settled : ¬ (external.progress = .idle ∧ external.words ≠ [])) :
    Spares (Context.started past) (external.run : StateM (Context W) _) := by
  unfold run
  split
  · exact .pure _
  · rename_i idle words
    exact absurd ⟨idle, by rw [words]; exact List.cons_ne_nil _ _⟩ settled
  · exact .pure _

/-- Nor does one whose output is elsewhere. -/
theorem output_unstarted (settled : ¬ (external.progress = .idle ∧ external.words ≠ [] ∧
    external.outputBound = false)) :
    Spares (Context.started past) (external.output : StateM (Context W) _) := by
  unfold output
  split
  · rename_i idle
    split
    · exact .pure _
    · rename_i unbound
      split
      · exact .pure _
      · rename_i worded
        exact absurd ⟨idle, by simpa using worded, by simpa using unbound⟩ settled
  · exact .pure _
  · have waits : Spares (Context.started past) (external.wait : StateM (Context W) _) :=
      spares_of_inert onRecord (@wait_built W (Host.inert W) False external)
    refine waits.bind fun (answer, waited) => ?_
    cases answer <;> exact .pure _

end Starting

end External

/-! ## What a call on a command starts -/

namespace Command

variable {past : W → List Act} (onRecord : OnRecord past) (command : Command)

omit [Host W] in
theorem Launches.nothing {command : Command} {before after : Context W}
    (same : after.started past = before.started past) : Launches past command before after none :=
  ⟨same.trans (List.append_nil _).symm, nofun⟩

include onRecord

/-- **A run starts one program at most**, and that only of a command that stands for it. -/
theorem run_launches (context : Context W) :
    ∃ launched, Launches past command context (command.run context).2 launched := by
  cases command with
  | builtin b => exact ⟨none, .nothing (b.run_unstarted onRecord context)⟩
  | scripted s => exact ⟨none, .nothing (s.run_unstarted onRecord context)⟩
  | external e =>
      by_cases ready : e.progress = .idle ∧ e.words ≠ []
      · exact ⟨_, e.run_started onRecord ready.1 ready.2 context, fun launch scene starts =>
          ⟨_, rfl, External.inherits_of_begun ready.2 starts⟩⟩
      · exact ⟨none, .nothing (e.run_unstarted ready context)⟩

/-- **And so does a request for the output.** -/
theorem output_launches (context : Context W) :
    ∃ launched, Launches past command context (command.output context).2 launched := by
  cases command with
  | builtin b => exact ⟨none, .nothing (b.output_unstarted onRecord context)⟩
  | scripted s => exact ⟨none, .nothing (s.output_unstarted onRecord context)⟩
  | external e =>
      by_cases ready : e.progress = .idle ∧ e.words ≠ [] ∧ e.outputBound = false
      · obtain ⟨idle, worded, unbound⟩ := ready
        refine ⟨e.begun .captured context, ?_, fun launch scene starts =>
          ⟨_, rfl, External.inherits_of_begun worded starts⟩⟩
        have collects := congrArg Prod.snd (e.output_idle context idle worded unbound)
        exact (congrArg _ collects).trans (e.collect_started onRecord context)
      · exact ⟨none, .nothing (e.output_unstarted onRecord ready context)⟩

end Command

end PipelineShell
