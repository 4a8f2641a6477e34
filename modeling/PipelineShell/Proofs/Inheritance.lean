/-
# Proofs.Inheritance -- what programs have from the session

The stages of a pipeline are started from left to right, and each finds the session as those
to its left have left it (`Pipeline.leftTo`).  What a program has from the session, it has from
that one: nothing that is done to start a stage touches the session before the program is
started (`Command.Launches.prepared`), and no stage starts more than one program, or one for
another stage (`Pipeline.run_starting`).

Between its lines a shell may be told to set and to remove variables (`Interpreter.Turn`).
Lines do neither, so what a program sees of a variable is what it was told last, and the
environment of the shell's process if it was told nothing, or told to remove it
(`Interpreter.programs_inherit`).
-/
import Mathlib.Data.List.ReduceOption
import PipelineShell.Arguments.Scan
import PipelineShell.Proofs.Service
import PipelineShell.Proofs.Starts

namespace PipelineShell

set_option autoImplicit false

open Stateful
open Host (Act OnRecord Scene)

variable {W : Type} [Host W]

/-! ## One stage -/

namespace Command

/-- Calls have led from one command and context to the others, and what matters to the start
of a program is as it was. -/
structure Prepared (past : W → List Act) (command : Command) (context : Context W)
    (command' : Command) (context' : Context W) : Prop where
  words : command'.words? = command.words?
  session : context'.session = context.session
  started : context'.started past = context.started past

namespace Prepared

variable {past : W → List Act} {command command' command'' : Command}
  {context context' context'' : Context W}

omit [Host W] in
theorem trans (first : Prepared past command context command' context')
    (second : Prepared past command' context' command'' context'') :
    Prepared past command context command'' context'' :=
  ⟨second.words.trans first.words, second.session.trans first.session,
    second.started.trans first.started⟩

variable (onRecord : OnRecord past) (command : Command) (context : Context W)
include onRecord

theorem setInput (input : InputHandle) :
    Prepared past command context (command.setInput input context).1
      (command.setInput input context).2 where
  words := by cases command <;> rfl
  session := Context.aloof_session.spares (command.setInput_built input) context
  started := command.setInput_unstarted onRecord input context

theorem connect (input : Option InputHandle) :
    Prepared past command context (Pipeline.connect contract command input context).1
      (Pipeline.connect contract command input context).2 := by
  cases input with
  | none => exact ⟨rfl, rfl, rfl⟩
  | some input => exact setInput onRecord command context input

theorem setError (error : OutputHandle) :
    Prepared past command context (command.setError error context).1
      (command.setError error context).2 where
  words := by cases command <;> rfl
  session := Context.aloof_session.spares (command.setError_built error) context
  started := command.setError_unstarted onRecord error context

theorem openPipe :
    Prepared past command context (command.openPipe context).1.2 (command.openPipe context).2 where
  words := by
    cases command with
    | external e =>
        have opened : (e.openPipe context).1.2.words = e.words := by
          simp only [External.openPipe, bind_apply]
          rcases Context.act Host.openPipe context with ⟨fault | pipe, opened⟩ <;> rfl
        exact congrArg some opened
    | _ => rfl
  session := Context.aloof_session.spares command.openPipe_built context
  started := command.openPipe_unstarted onRecord context

end Prepared

namespace Launches

variable {past : W → List Act} {command command' : Command}
  {before before' after after' : Context W}
  {launched : Option (Launch × Scene)}

omit [Host W] in
/-- What is started after preparations is started as if they had not been made. -/
theorem prepared (prepared : Prepared past command before command' before')
    (launches : Launches past command' before' after launched) :
    Launches past command before after launched where
  grown := launches.grown.trans (congrArg (· ++ _) prepared.started)
  inherits launch scene here := by
    obtain ⟨words, stand, inherits⟩ := launches.inherits launch scene here
    exact ⟨words, prepared.words.symm.trans stand, prepared.session ▸ inherits⟩

omit [Host W] in
theorem followed (launches : Launches past command before after launched)
    (same : after'.started past = after.started past) :
    Launches past command before after' launched :=
  ⟨same.trans launches.grown, launches.inherits⟩

end Launches

end Command

namespace Pipeline

open Command (contract)

section Stages

variable {past : W → List Act} (onRecord : OnRecord past)
include onRecord

theorem abortAll_unstarted (stages : List Command) :
    Spares (Context.started past) (abortAll contract stages) := by
  induction stages with
  | nil => exact .pure _
  | cons stage rest ih =>
      exact (stage.abort_unstarted onRecord).bind fun aborted =>
        (aborted.wait_unstarted onRecord).bind fun _ => ih.bind fun _ => .pure _

theorem releaseAll_unstarted (stages : List Command) :
    Spares (Context.started past) (releaseAll contract stages) := by
  induction stages with
  | nil => exact .pure _
  | cons stage rest ih => exact (stage.release_unstarted onRecord).bind fun _ => ih

theorem waitAll_unstarted (index : Nat) (stages : List Command) :
    Spares (Context.started past) (waitAll contract index stages) := by
  induction stages generalizing index with
  | nil => exact .pure _
  | cons stage rest ih =>
      exact (stage.wait_unstarted onRecord).bind fun _ => (ih (index + 1)).bind fun _ => .pure _

/-- To start a stage that is not the last is to start its program, or none. -/
theorem startStage_launches (error : OutputHandle) (stage : Command)
    (progress : Progress Command InputHandle) (context : Context W) :
    ∃ launched, stage.Launches past context
      (startStage contract (pure error) stage progress context).2 launched := by
  have connected := Command.Prepared.connect onRecord stage context progress.pending
  have opened := connected.trans (Command.Prepared.openPipe onRecord _ _)
  simp only [startStage, bind_apply]
  generalize connect contract stage progress.pending context = connecting at opened ⊢
  obtain ⟨stage', context'⟩ := connecting
  simp only [contract] at opened ⊢
  generalize stage'.openPipe context' = opening at opened ⊢
  obtain ⟨⟨cause | reader, stage''⟩, context''⟩ := opening
  · refine ⟨none, .nothing (Eq.trans ?_ opened.started)⟩
    exact ((stage''.release_unstarted onRecord).bind fun _ =>
      (abortAll_unstarted onRecord _).bind fun _ => .pure _) context''
  · have bound := opened.trans (Command.Prepared.setError onRecord stage'' context'' error)
    obtain ⟨launched, launches⟩ := Command.run_launches onRecord
      (stage''.setError error context'').1 (stage''.setError error context'').2
    exact ⟨launched, launches.prepared bound⟩

/-- And so it is with the last. -/
theorem finish_launches (error : OutputHandle) (last : Command)
    (progress : Progress Command InputHandle) (context : Context W) :
    ∃ launched, last.Launches past context
      (finish contract (pure error) last progress context).2 launched := by
  have connected := Command.Prepared.connect onRecord last context progress.pending
  have bound := connected.trans (Command.Prepared.setError onRecord _ _ error)
  obtain ⟨launched, launches⟩ := Command.output_launches onRecord _ _
  refine ⟨launched, (launches.prepared bound).followed ?_⟩
  rw [finish, bind_apply, bind_apply, bind_apply]
  refine Spares.bind_after (fun produced => ?_) _
  exact (produced.2.wait_unstarted onRecord).bind fun ended =>
    (waitAll_unstarted onRecord _ _).bind fun _ =>
      (releaseAll_unstarted onRecord _).bind fun _ =>
        (ended.2.release_unstarted onRecord).bind fun _ => .pure _

end Stages

/-! ## All stages -/

/-- Each stage starts what stands at its position, if anything does, in the session that is
left to it; and nothing else is started. -/
structure Starting (past : W → List Act) (stages : List Command) (left : Nat → Session)
    (before after : Context W) (each : List (Option (Launch × Scene))) : Prop where
  length : each.length = stages.length
  grown : after.started past = before.started past ++ each.reduceOption
  inherits : ∀ i launch scene, each[i]? = some (some (launch, scene)) →
    ∃ external, stages[i]? = some (.external external) ∧
      External.Inherits external.words (left i) scene launch

namespace Starting

variable {past : W → List Act} {stages : List Command} {left left' : Nat → Session}
  {before between after : Context W} {each : List (Option (Launch × Scene))}
  {launched : Option (Launch × Scene)}

omit [Host W] in
theorem nothing (same : after.started past = before.started past) :
    Starting past stages left before after (List.replicate stages.length none) where
  length := List.length_replicate
  grown := by rw [List.reduceOption_replicate_none, List.append_nil, same]
  inherits i launch scene here := by
    have missing := List.eq_of_mem_replicate (List.mem_of_getElem? here)
    cases missing

omit [Host W] in
theorem cons {stage : Command} (launches : stage.Launches past before between launched)
    (first : left 0 = before.session)
    (later : Starting past stages (fun i => left (i + 1)) between after each) :
    Starting past (stage :: stages) left before after (launched :: each) where
  length := congrArg (· + 1) later.length
  grown := by
    rw [later.grown, launches.grown]
    cases launched with
    | none => rw [List.reduceOption_cons_of_none, Option.toList_none, List.append_nil]
    | some start => rw [List.reduceOption_cons_of_some, Option.toList_some, List.append_assoc]; rfl
  inherits i launch scene here := by
    cases i with
    | zero =>
        obtain ⟨words, stand, inherits⟩ := launches.inherits launch scene (Option.some.inj here)
        cases stage with
        | external e =>
            obtain rfl := Option.some.inj stand
            exact ⟨e, rfl, first ▸ inherits⟩
        | _ => cases stand
    | succ i => exact later.inherits i launch scene here

omit [Host W] in
/-- What all but the last start, and the last as well, is what all start. -/
theorem append {stages' : List Command} {each' : List (Option (Launch × Scene))}
    (first : Starting past stages left before between each)
    (second : Starting past stages' (fun i => left (stages.length + i)) between after each') :
    Starting past (stages ++ stages') left before after (each ++ each') where
  length := by rw [List.length_append, List.length_append, first.length, second.length]
  grown := by rw [second.grown, first.grown, List.reduceOption_append, List.append_assoc]
  inherits i launch scene here := by
    by_cases inside : i < stages.length
    · rw [List.getElem?_append_left (first.length ▸ inside)] at here
      rw [List.getElem?_append_left inside]
      exact first.inherits i launch scene here
    · have beyond := Nat.le_of_not_lt inside
      rw [List.getElem?_append_right (first.length ▸ beyond), first.length] at here
      rw [List.getElem?_append_right beyond]
      have inherits := second.inherits _ launch scene here
      rwa [Nat.add_sub_cancel' beyond] at inherits

omit [Host W] in
/-- Only the sessions that are left to stages count. -/
theorem congr (starting : Starting past stages left before after each)
    (same : ∀ i < stages.length, left' i = left i) :
    Starting past stages left' before after each where
  length := starting.length
  grown := starting.grown
  inherits i launch scene here := by
    obtain ⟨inside, -⟩ := List.getElem?_eq_some_iff.1 here
    exact same i (starting.length ▸ inside) ▸ starting.inherits i launch scene here

end Starting

/-- The session as it is left to a stage by those to the left of it. -/
def leftTo (error : OutputHandle) (stages : List Command) (context : Context W) (i : Nat) :
    Session :=
  (startAll contract (pure error) (stages.take i) ⟨[], [], none⟩ context).2.session

section Stages

variable {past : W → List Act} (onRecord : OnRecord past) (error : OutputHandle)
include onRecord

/-- By induction on the stages: when one is started, those to its left have been. -/
theorem startAll_starting (stages : List Command) (progress : Progress Command InputHandle)
    (context : Context W) :
    ∃ each, Starting past stages
      (fun i => (startAll contract (pure error) (stages.take i) progress context).2.session)
      context (startAll contract (pure error) stages progress context).2 each := by
  induction stages generalizing progress context with
  | nil => exact ⟨_, .nothing rfl⟩
  | cons stage rest ih =>
      obtain ⟨launched, launches⟩ := startStage_launches onRecord error stage progress context
      simp only [startAll, bind_apply]
      rcases step : startStage contract (pure error) stage progress context with
        ⟨⟨fault, stopped⟩ | progress, next⟩
      · rw [step] at launches
        refine ⟨_, .cons launches rfl (.nothing ?_)⟩
        exact ((releaseAll_unstarted onRecord rest).bind fun _ =>
          (releaseAll_unstarted onRecord stopped).bind fun _ => .pure _) next
      · rw [step] at launches
        obtain ⟨each, later⟩ := ih progress next
        refine ⟨_, .cons launches rfl (later.congr fun i _ => ?_)⟩
        simp only [List.take_succ_cons, startAll, bind_apply, step]

/-- **Every program of a pipeline is started by its own stage, in the session that is left to
it.** -/
theorem run_starting (stages : List Command) (context : Context W) :
    ∃ each, Starting past stages (leftTo error stages context) context
      (run error stages context).2 each := by
  rw [run, execute]
  cases last? : stages.getLast? with
  | none =>
      obtain rfl := List.getLast?_eq_none_iff.1 last?
      exact ⟨_, .nothing rfl⟩
  | some last =>
      obtain ⟨before, rfl⟩ := List.getLast?_eq_some_iff.1 last?
      obtain ⟨each, starting⟩ := startAll_starting onRecord error before ⟨[], [], none⟩ context
      have first : Starting past before (leftTo error (before ++ [last]) context) context
          (startAll contract (pure error) before ⟨[], [], none⟩ context).2 each := by
        refine starting.congr fun i inside => ?_
        rw [leftTo, List.take_append_of_le_length (Nat.le_of_lt inside)]
      have there : leftTo error (before ++ [last]) context before.length =
          (startAll contract (pure error) before ⟨[], [], none⟩ context).2.session := by
        rw [leftTo, List.take_left]
      simp only [bind_apply, List.dropLast_concat]
      generalize startAll contract (pure error) before ⟨[], [], none⟩ context = started
        at first there ⊢
      obtain ⟨fault | progress, between⟩ := started
      · have released : Spares (Context.started past) (contract.release last *>
            pure (.error fault) : StateM (Context W) (Except ShellError Outcome)) :=
          (last.release_unstarted onRecord).bind fun _ => .pure _
        have second : Starting past [last]
            (fun i => leftTo error (before ++ [last]) context (before.length + i)) between _ _ :=
          .nothing (released between)
        exact ⟨_, first.append second⟩
      · obtain ⟨launched, launches⟩ := finish_launches onRecord error last progress between
        exact ⟨_, first.append (.cons launches there (.nothing rfl))⟩

end Stages

end Pipeline

/-! ## The variables -/

/-- The variables that the session holds. -/
def Context.bindings (context : Context W) : Environment := context.session.bindings

/-- To act on the world is to leave the variables alone. -/
theorem Context.aloof_bindings : Aloof (Context.bindings : Context W → Environment) :=
  Context.aloof_session.of_shown Session.bindings

namespace Builtin

variable (builtin : Builtin)

theorem run_bindings : Spares Context.bindings (builtin.run : StateM (Context W) _) :=
  run_spares (fun reading context => (perform_touched builtin.streams reading context).bindings)
    (conclude_spares Context.aloof_bindings)

theorem output_bindings : Spares Context.bindings (builtin.output : StateM (Context W) _) :=
  output_spares (builtin.setOutput_spares Context.aloof_bindings .scratch) (run_bindings _)

end Builtin

/-- No call on a command changes a variable. -/
theorem Command.keeps_bindings (error : OutputHandle) (bindings : Environment) :
    (Command.contract (W := W)).Keeps (pure error) (fun _ => True) (fun _ => True)
      fun context => context.bindings = bindings := by
  have aloof := Context.aloof_bindings (W := W)
  have keeps : ∀ {α : Type} {action : StateM (Context W) α}, Spares Context.bindings action →
      Ensures (fun context => context.bindings = bindings) action fun _ context =>
        True ∧ context.bindings = bindings :=
    fun spares context here => ⟨trivial, (spares context).trans here⟩
  refine ⟨?setInput, ?openPipe, ?setError, ?run, ?output, ?wait, ?abort, ?release⟩
  case setInput => exact fun s input _ => keeps (aloof.spares (s.setInput_built input))
  case openPipe => exact fun s _ => keeps (aloof.spares s.openPipe_built)
  case setError => exact fun s _ => keeps (aloof.spares (s.setError_built error))
  case run =>
    intro s _
    cases s with
    | builtin b => exact keeps b.run_bindings
    | external e => exact keeps (aloof.spares (e.run_built.map _))
    | scripted s => exact keeps (aloof.spares (s.run_built.map _))
  case output =>
    intro s _
    cases s with
    | builtin b => exact keeps b.output_bindings
    | external e => exact keeps (aloof.spares (e.output_built.map _))
    | scripted s => exact keeps (aloof.spares (s.output_built.map _))
  case wait => exact fun s _ => keeps (aloof.spares s.wait_built)
  case abort => exact fun s _ => keeps (aloof.spares s.abort_built)
  case release => exact fun s _ context here => (aloof.spares s.release_built context).trans here

/-- Every stage finds the variables that all found. -/
theorem Pipeline.leftTo_bindings (error : OutputHandle) (stages : List Command)
    (context : Context W) (i : Nat) :
    (leftTo error stages context i).bindings = context.session.bindings :=
  ((Command.keeps_bindings error context.bindings).maintains.startAll (stages.take i)
    (fun _ _ => trivial) ⟨[], [], none⟩ (List.forall_mem_nil _) context rfl).2

namespace Interpreter

/-- A line changes no variable. -/
theorem runLine_bindings [ArgumentReader] (registry : Registry) (line : String)
    (context : Context W) :
    (sessionAfter registry line context).bindings = context.session.bindings := by
  rw [sessionAfter, runLine]
  cases Pipeline.construct registry line with
  | error fault => rfl
  | ok stages =>
      exact (Command.keeps_bindings .standardError context.bindings).maintains.execute stages
        (fun _ _ => trivial) context rfl

/-- What may be done with a shell: variables are set and removed, and lines are run. -/
inductive Turn where
  | set (name value : String)
  | remove (name : String)
  | serve (registry : Registry) (request : Request)

/-- Does what it says. -/
def Turn.take [ArgumentReader] [LineEditor W] : Turn → StateM (Context W) Unit
  | .set name value => Context.modifySession (·.setVariable name value)
  | .remove name => Context.modifySession (·.removeVariable name)
  | .serve registry request => request.serve registry

/-- Does one thing after the other. -/
def takeTurns [ArgumentReader] [LineEditor W] : List Turn → StateM (Context W) Unit
  | [] => pure ()
  | turn :: rest => do
      turn.take
      takeTurns rest

/-- What a session is told of the value of a variable. -/
def Turn.tell (name : String) (value : Option String) : Turn → Option String
  | .set other text => if other = name then some text else value
  | .remove other => if other = name then none else value
  | .serve _ _ => value

/-- The value of a variable is the one that was told last. -/
def told (turns : List Turn) (context : Context W) (name : String) : Option String :=
  turns.foldl (Turn.tell name) (context.session.bindings.get? name)

theorem Turn.take_bindings [ArgumentReader] [LineEditor W] (turn : Turn) (context : Context W) :
    (∀ name, (turn.take context).2.session.bindings.get? name =
      turn.tell name (context.session.bindings.get? name)) ∧
    (context.session.bindings.names.Nodup →
      (turn.take context).2.session.bindings.names.Nodup) := by
  cases turn with
  | set name value =>
      exact ⟨Environment.get?_insert _ name value, (Environment.nodup_insert · name value)⟩
  | remove name => exact ⟨Environment.get?_erase _ name, (Environment.nodup_erase · name)⟩
  | serve registry request =>
      have same : (request.serve registry context).2.session.bindings =
          context.session.bindings :=
        (request.linked_lines registry context).relates (fun s s' => s'.bindings = s.bindings)
          (fun _ => rfl) (fun first second => second.trans first)
          fun entry _ => runLine_bindings registry entry.1 entry.2
      exact ⟨fun name => congrArg (·.get? name) same, fun single => same ▸ single⟩

theorem takeTurns_bindings [ArgumentReader] [LineEditor W] (turns : List Turn)
    (context : Context W) :
    (∀ name, (takeTurns turns context).2.session.bindings.get? name = told turns context name) ∧
    (context.session.bindings.names.Nodup →
      (takeTurns turns context).2.session.bindings.names.Nodup) := by
  induction turns generalizing context with
  | nil => exact ⟨fun _ => rfl, id⟩
  | cons turn rest ih =>
      obtain ⟨values, single⟩ := turn.take_bindings context
      obtain ⟨values', single'⟩ := ih (turn.take context).2
      refine ⟨fun name => (values' name).trans ?_, single' ∘ single⟩
      rw [told, values, told, List.foldl_cons]

/-- **A program sees what the shell sees.**  After variables were set and removed and lines
were run, in any order, whatever a pipeline or a line starts is started by the stage at its
position, with the words of the stage as they are, and has its directory and its variables
from the session as the stages to its left have left it.  There, every variable has the value
that was told last, and the one it had at first if none was told. -/
theorem programs_inherit [ArgumentReader] [LineEditor W] {past : W → List Act}
    (onRecord : OnRecord past) (turns : List Turn) (context : Context W) :
    let begun := (takeTurns turns context).2
    (∀ error stages, ∃ each, Pipeline.Starting past stages
      (Pipeline.leftTo error stages begun) begun (Pipeline.run error stages begun).2 each) ∧
    (∀ registry line, ∃ each,
      let stages := (stagesOf line).map (Pipeline.commandOf registry)
      Pipeline.Starting past stages (Pipeline.leftTo .standardError stages begun) begun
        (runLine registry line begun).2 each) ∧
    ∀ error stages i,
      (∀ name, (Pipeline.leftTo error stages begun i).bindings.get? name =
        told turns context name) ∧
      (context.session.bindings.names.Nodup →
        (Pipeline.leftTo error stages begun i).bindings.names.Nodup) := by
  intro begun
  refine ⟨fun error stages => ?pipeline, fun registry line => ?line, fun error stages i => ?told⟩
  case pipeline => exact Pipeline.run_starting onRecord error stages begun
  case line =>
    rcases runLine_cases registry line begun with ⟨none_, fault, unread⟩ | run
    · rw [unread, none_]
      exact ⟨_, .nothing rfl⟩
    · rw [run]
      exact Pipeline.run_starting onRecord .standardError _ begun
  case told =>
    rw [Pipeline.leftTo_bindings]
    exact takeTurns_bindings turns context

instance : LineEditor (Chronicle Setting) := .atEnd (Chronicle Setting)

/-- A world with two programs of one name. -/
def twofold : Setting where
  environment := [("PATH", "/usr/bin"), ("LANG", "C")]
  files := [.ofString "/bin/tool", .ofString "/usr/bin/tool"]
  processes := []
  mortal := []

open scoped Arguments

/-- The search list is set, another variable is set and removed, and the directory changed. -/
def preparations : List Turn :=
  [.set "PATH" "/bin", .set "LANG" "de", .remove "LANG", .set "EMPTY" "",
    .serve .withBuiltins (.run "cd /srv")]

/-- What is seen of the programs that are started. -/
def sightings (starts : List (Launch × Scene)) :
    List (Path × List String × Path × List (Option String)) :=
  starts.map fun start => (start.1.program, start.1.arguments, start.1.directory,
    ["PATH", "LANG", "HOME", "EMPTY"].map start.1.environment.get?)

/-- Each of two programs is started in the directory that is left to it, and nothing is made
of its words. -/
theorem programs_inherit_preparations :
    OnRecord (Chronicle.past : Chronicle Setting → List Act) ∧
    (let begun := (takeTurns preparations twofold.context).2
    (∀ error stages, ∃ each, Pipeline.Starting Chronicle.past stages
      (Pipeline.leftTo error stages begun) begun (Pipeline.run error stages begun).2 each) ∧
    (∀ registry line, ∃ each,
      let stages := (stagesOf line).map (Pipeline.commandOf registry)
      Pipeline.Starting Chronicle.past stages (Pipeline.leftTo .standardError stages begun) begun
        (runLine registry line begun).2 each) ∧
    ∀ error stages i,
      (∀ name, (Pipeline.leftTo error stages begun i).bindings.get? name =
        told preparations twofold.context name) ∧
      (twofold.context.session.bindings.names.Nodup →
        (Pipeline.leftTo error stages begun i).bindings.names.Nodup)) ∧
    sightings ((runLine .withBuiltins "tool $HOME | cd /tmp | tool * ~"
        (takeTurns preparations twofold.context).2).2.started Chronicle.past) =
      [(.ofString "/bin/tool", ["$HOME"], .ofString "/srv",
          [some "/bin", some "C", none, some ""]),
        (.ofString "/bin/tool", ["*", "~"], .ofString "/tmp",
          [some "/bin", some "C", none, some ""])] :=
  ⟨Chronicle.onRecord, programs_inherit Chronicle.onRecord preparations twofold.context,
    by decide +kernel⟩

end Interpreter

end PipelineShell
