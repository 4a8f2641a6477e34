/-
# Proofs.Authority -- who may change the session

The session belongs to all commands, and yet there is little that they may do to it.  The
variables, the user and the group are never changed.  The directory is changed by a `cd`
that succeeds, and the exit code by an `exit` whose arguments can be read: it is then the
code that the rightmost of these asks for.  Programs change nothing, whatever they do.

`Builtin.perform_touched` says this of the work of one builtin, and `Pipeline.run_account`
of a pipeline, in terms of the builtins that have done their work in it.
-/
import PipelineShell.Proofs.Invocation
import PipelineShell.Proofs.Pipeline.Upkeep
import PipelineShell.Proofs.Pipeline.Work
import PipelineShell.Proofs.Sparing
import PipelineShell.Proofs.Streams

namespace PipelineShell

set_option autoImplicit false

open Stateful

variable {W : Type} [Host W]

/-! ## The work of one builtin -/

namespace Builtin

/-- What the work of a builtin may have made of a session. -/
structure Touched (reading : Except EarlyExit Invocation) (succeeded : Prop)
    (before after : Session) : Prop where
  bindings : after.bindings = before.bindings
  user : after.user = before.user
  group : after.group = before.group
  directory : after.directory ≠ before.directory →
    (∃ target, reading = .ok (.cd target)) ∧ succeeded
  exitCode : after.exitCode = (Invocation.request reading).or before.exitCode

theorem Touched.of_same {reading : Except EarlyExit Invocation} {succeeded : Prop}
    {before after : Session} (none_ : Invocation.request reading = none) (same : after = before) :
    Touched reading succeeded before after := by
  subst same
  exact ⟨rfl, rfl, rfl, fun moved => absurd rfl moved, by rw [none_]; rfl⟩

/-- `cd` leaves the session alone, unless it succeeds; then it sets the directory. -/
theorem enter_session (target : Path) (context : Context W) :
    (enter target context).2.session = context.session ∨
      ∃ directory, (enter target context).1 = .ok 0 ∧
        (enter target context).2.session = { context.session with directory } := by
  simp only [enter, bind_apply, Context.ask, Context.look]
  cases Host.canonicalize (context.session.directory.join target) context.world with
  | error fault => exact Or.inl rfl
  | ok canonical =>
      simp only [bind_apply, Context.act]
      rcases Host.changeDirectory canonical context.world with ⟨answer, world⟩
      cases answer with
      | error fault => exact Or.inl rfl
      | ok moved => exact Or.inr ⟨canonical, rfl, rfl⟩

theorem changeDirectory_session (operand : Option String) (context : Context W) :
    (changeDirectory operand context).2.session = context.session ∨
      ∃ directory, (changeDirectory operand context).1 = .ok 0 ∧
        (changeDirectory operand context).2.session = { context.session with directory } := by
  simp only [changeDirectory, bind_apply, Context.ask, Context.look]
  cases destination context.session (Host.environment context.world)
      (Host.account context.world).home operand with
  | none => exact Or.inl rfl
  | some target => exact enter_session target context

/-- What comes after the work is a report, which leaves the session alone. -/
theorem perform_eq (streams : Streams) (invocation : Invocation) (context : Context W) :
    (perform streams (.ok invocation) context).2.session =
        (invocation.execute streams.output context).2.session ∧
      ∀ code, (invocation.execute streams.output context).1.2 = .ok code →
        (perform streams (.ok invocation) context).1.2 = .ok code := by
  simp only [perform, bind_apply]
  rcases invocation.execute streams.output context with ⟨⟨accepted, result⟩, worked⟩
  cases result with
  | ok code =>
      refine ⟨rfl, fun other same => ?_⟩
      cases same
      rfl
  | error complaint =>
      refine ⟨Context.aloof_session.spares (report_built _ _ _) _, fun other impossible => ?_⟩
      cases impossible

/-- **What the work of one builtin makes of the session.** -/
theorem perform_touched (streams : Streams) (reading : Except EarlyExit Invocation)
    (context : Context W) :
    Touched reading ((perform streams reading context).1.2 = .ok 0) context.session
      (perform streams reading context).2.session := by
  cases reading with
  | error early =>
      refine .of_same rfl ?_
      simp only [perform]
      split
      · exact Context.aloof_session.spares (report_built _ _ _) _
      · exact Context.aloof_session.spares ((report_built _ _ _).bind fun _ => .pure _) context
  | ok invocation =>
      obtain ⟨session, status⟩ := perform_eq streams invocation context
      rw [session]
      cases invocation with
      | cd target =>
          rcases changeDirectory_session target context with same | ⟨directory, answer, same⟩
          · exact .of_same rfl same
          · have changed : (Invocation.execute (.cd target) streams.output context).2.session =
                { context.session with directory } := same
            rw [changed]
            exact ⟨rfl, rfl, rfl, fun _ => ⟨⟨target, rfl⟩, status 0 answer⟩, rfl⟩
      | exit operand => exact ⟨rfl, rfl, rfl, fun moved => absurd rfl moved, rfl⟩
      | kill words =>
          exact .of_same rfl (Context.aloof_session.spares ((terminate_built words).map _) context)
      | pwd => exact .of_same rfl rfl
      | echo noNewline words => exact .of_same rfl rfl
      | ps => exact .of_same rfl rfl

/-! ## What builtins account for -/

/-- The builtin that it is, and its arguments. -/
def call (builtin : Builtin) : Kind × List String := (builtin.kind, builtin.arguments)

/-- The code that a builtin with these arguments is understood to ask for. -/
def requested [ArgumentReader] (call : Kind × List String) : Option ExitCode :=
  Invocation.request (Invocation.parse call.1 [call.1.name] call.2)

/-- The code that a builtin with these arguments asks for: `exit` asks for one, if its
arguments can be read. -/
def asked (call : Kind × List String) : Option ExitCode :=
  if call.1 = .exit then Invocation.exitRequest call.2 else none

/-- Only `exit` is understood so. -/
theorem kind_of_requested [ArgumentReader] {call : Kind × List String}
    (asks : (requested call).isSome) : call.1 = .exit := by
  rw [requested] at asks
  cases read : Invocation.parse call.1 [call.1.name] call.2 with
  | error early =>
      rw [read] at asks
      cases asks
  | ok invocation =>
      rw [← Invocation.kind_of_parse read]
      rw [read] at asks
      cases invocation with
      | exit operand => rfl
      | _ => cases asks

theorem requested_eq_asked [ArgumentReader] (inOrder : InOrder) : requested = asked :=
  funext fun call => Invocation.request_parse inOrder call.1 [call.1.name] call.2

/-- What the work of builtins, one after the other, may have made of a session. -/
structure Account [ArgumentReader] (worked : List Builtin) (before after : Session) : Prop where
  bindings : after.bindings = before.bindings
  user : after.user = before.user
  group : after.group = before.group
  directory : after.directory ≠ before.directory →
    ∃ b ∈ worked, b.kind = .cd ∧ b.status = some 0
  /-- The rightmost request counts. -/
  exitCode : after.exitCode =
    ((worked.map call).filterMap requested).getLast?.or before.exitCode

namespace Account

variable [ArgumentReader]

theorem of_same {before after : Session} (same : after = before) : Account [] before after := by
  subst same
  exact ⟨rfl, rfl, rfl, fun moved => absurd rfl moved, rfl⟩

theorem append {worked worked' : List Builtin} {before between after : Session}
    (first : Account worked before between) (second : Account worked' between after) :
    Account (worked ++ worked') before after where
  bindings := second.bindings.trans first.bindings
  user := second.user.trans first.user
  group := second.group.trans first.group
  directory moved := by
    by_cases still : after.directory = between.directory
    · obtain ⟨b, member, succeeded⟩ := first.directory (still ▸ moved)
      exact ⟨b, List.mem_append_left _ member, succeeded⟩
    · obtain ⟨b, member, succeeded⟩ := second.directory still
      exact ⟨b, List.mem_append_right _ member, succeeded⟩
  exitCode := by
    rw [second.exitCode, first.exitCode, List.map_append, List.filterMap_append,
      List.getLast?_append, Option.or_assoc]

/-- The exit code is changed only where a builtin asks for it. -/
theorem requested_of_changed {worked : List Builtin} {before after : Session}
    (account : Account worked before after) (changed : after.exitCode ≠ before.exitCode) :
    ∃ b ∈ worked, (requested b.call).isSome := by
  cases last : ((worked.map call).filterMap requested).getLast? with
  | none =>
      have unchanged := account.exitCode
      rw [last, Option.none_or] at unchanged
      exact absurd unchanged changed
  | some code =>
      obtain ⟨called, member, asks⟩ := List.mem_filterMap.1 (List.mem_of_getLast? last)
      obtain ⟨b, worked, rfl⟩ := List.mem_map.1 member
      exact ⟨b, worked, Option.isSome_iff_exists.2 ⟨code, asks⟩⟩

/-- An exit code is never taken back. -/
theorem isSome_exitCode {worked : List Builtin} {before after : Session}
    (account : Account worked before after) (present : before.exitCode.isSome) :
    after.exitCode.isSome := by
  rw [account.exitCode, Option.isSome_or, present, Bool.or_true]

end Account

/-- The builtin has arguments, and has not run. -/
structure Able [ArgumentReader] (builtin : Builtin) : Prop where
  parsed : builtin.parsed =
    some (Invocation.parse builtin.kind [builtin.kind.name] builtin.arguments)
  status : builtin.status = none

theorem able_parseArguments [ArgumentReader] (kind : Kind) (words : List String) :
    ((fresh kind).parseArguments words).Able := ⟨rfl, rfl⟩

/-- What was made of a session by a builtin that has the status it ended with. -/
theorem Touched.account [ArgumentReader] {kind : Kind} {words : List String} {succeeded : Prop}
    {before after : Session}
    (touched : Touched (Invocation.parse kind [kind.name] words) succeeded before after)
    {builtin : Builtin} (called : builtin.call = (kind, words))
    (status : succeeded → builtin.status = some 0) : Account [builtin] before after where
  bindings := touched.bindings
  user := touched.user
  group := touched.group
  directory moved := by
    obtain ⟨⟨target, read⟩, done⟩ := touched.directory moved
    have changes : builtin.kind = kind := congrArg Prod.fst called
    exact ⟨builtin, List.mem_singleton_self _,
      changes.trans (Invocation.kind_of_parse read).symm, status done⟩
  exitCode := by
    have request : requested builtin.call =
        Invocation.request (Invocation.parse kind [kind.name] words) := by
      rw [called]
      rfl
    rw [touched.exitCode, ← request, List.map_singleton]
    cases asks : requested builtin.call <;> simp [asks]

/-! ## The calls on a builtin -/

section Calls

variable (builtin : Builtin) (context : Context W)

/-- All that the calls before its work leave alone. -/
def plan : (Kind × List String) × Option (Except EarlyExit Invocation) × Option ExitCode :=
  (builtin.call, builtin.parsed, builtin.status)

theorem Able.of_plan [ArgumentReader] {builtin builtin' : Builtin} (able : builtin.Able)
    (same : builtin'.plan = builtin.plan) : builtin'.Able := by
  obtain ⟨kind, arguments, parsed, streams, pipe, delivery, recorded, status⟩ := builtin
  obtain ⟨kind', arguments', parsed', streams', pipe', delivery', recorded', status'⟩ := builtin'
  cases same
  exact ⟨able.parsed, able.status⟩

theorem setInput_plan (input : InputHandle) :
    (builtin.setInput input context).1.plan = builtin.plan := rfl

theorem setOutput_plan (output : OutputHandle) :
    (builtin.setOutput output context).1.plan = builtin.plan := by
  rw [setOutput_eq]
  rfl

theorem setError_plan (error : OutputHandle) :
    (builtin.setError error context).1.plan = builtin.plan := rfl

theorem openPipe_plan : (builtin.openPipe context).1.2.plan = builtin.plan := by
  simp only [openPipe, bind_apply]
  rcases Context.act Host.openPipe context with ⟨answer, opened⟩
  cases answer with
  | error fault => rfl
  | ok pipe => exact builtin.setOutput_plan opened .scratch

theorem run_call : (builtin.run context).1.2.call = builtin.call := by
  obtain ⟨kind, arguments, reading?, streams, pipe, delivery, recorded, status⟩ := builtin
  cases status with
  | some code => rfl
  | none =>
      cases reading? with
      | none => rfl
      | some reading =>
          simp only [run, bind_apply]
          rcases perform streams reading context with ⟨⟨accepted, result⟩, performed⟩
          cases pipe <;> cases result <;> rfl

theorem output_call : (builtin.output context).1.2.call = builtin.call := by
  cases status : builtin.status with
  | some code => simp only [output, status, pure_apply]
  | none =>
      rw [output_unrun builtin context status, run_call]
      rfl

theorem wait_call : (builtin.wait context).1.2.call = builtin.call := by
  obtain ⟨kind, arguments, reading?, streams, pipe, delivery, recorded, status⟩ := builtin
  cases delivery <;> rfl

/-- **What the run of one builtin makes of the session.** -/
theorem run_account [ArgumentReader] {builtin : Builtin} (able : builtin.Able)
    (context : Context W) :
    Account [(builtin.run context).1.2] context.session (builtin.run context).2.session := by
  obtain ⟨kind, arguments, reading?, streams, pipe, delivery, recorded, status⟩ := builtin
  obtain ⟨parsed, unrun⟩ := able
  obtain rfl : reading? = some (Invocation.parse kind [kind.name] arguments) := parsed
  obtain rfl : status = none := unrun
  have touched := perform_touched streams (Invocation.parse kind [kind.name] arguments) context
  simp only [run, bind_apply]
  rcases work : perform streams (Invocation.parse kind [kind.name] arguments) context with
    ⟨⟨accepted, result⟩, performed⟩
  rw [work] at touched
  -- What comes after the work only lets go of streams.
  cases result with
  | ok code =>
      have status : (.ok code : Except ShellError ExitCode) = .ok 0 → some code = some 0 :=
        fun succeeded => congrArg some (Except.ok.inj succeeded)
      cases pipe <;> exact touched.account rfl status
  | error fault =>
      have failed : (.error fault : Except ShellError ExitCode) ≠ .ok 0 := by simp
      cases pipe <;> exact touched.account rfl fun succeeded => absurd succeeded failed

theorem output_account [ArgumentReader] {builtin : Builtin} (able : builtin.Able)
    (context : Context W) :
    Account [(builtin.output context).1.2] context.session
      (builtin.output context).2.session := by
  have buffered : ((builtin.setOutput .scratch context).1).Able :=
    able.of_plan (builtin.setOutput_plan context .scratch)
  have ran := run_account buffered (builtin.setOutput .scratch context).2
  have same : (builtin.setOutput .scratch context).2.session = context.session :=
    builtin.setOutput_spares Context.aloof_session .scratch context
  rw [same] at ran
  simp only [output, able.status, bind_apply]
  generalize (Builtin.run _ _ : (Except ShellError Unit × Builtin) × Context W) = answer at ran ⊢
  obtain ⟨⟨result, after⟩, context'⟩ := answer
  cases result <;> exact ran

end Calls

end Builtin

/-! ## Pipelines -/

namespace Command

/-- The builtin, if the command is one. -/
def builtin? : Command → Option Builtin
  | .builtin b => some b
  | _ => none

/-- The builtin that the command is, and its arguments. -/
def call? (command : Command) : Option (Builtin.Kind × List String) :=
  command.builtin?.map Builtin.call

/-- If the command is a builtin, it has arguments and has not run. -/
def Able [ArgumentReader] : Command → Prop
  | .builtin b => b.Able
  | _ => True

variable (command : Command) (context : Context W)

/-- The calls on a command leave alone which builtin it is. -/
theorem contract_preserves_call? : (contract (W := W)).Preserves call? where
  setInput command input context := by cases command <;> rfl
  openPipe command context := by
    cases command with
    | builtin b => exact congrArg (fun plan => some plan.1) (b.openPipe_plan context)
    | _ => rfl
  setError command error context := by cases command <;> rfl
  run command context := by
    cases command with
    | builtin b => exact congrArg some (b.run_call context)
    | _ => rfl
  output command context := by
    cases command with
    | builtin b => exact congrArg some (b.output_call context)
    | _ => rfl
  wait command context := by
    cases command with
    | builtin b => exact congrArg some (b.wait_call context)
    | _ => rfl
  abort command context := by cases command <;> rfl

theorem run_account [ArgumentReader] {command : Command} (able : command.Able)
    (context : Context W) :
    Builtin.Account ((command.run context).1.2.builtin?.toList) context.session
      (command.run context).2.session := by
  cases command with
  | builtin b => exact Builtin.run_account able context
  | external e => exact .of_same (Context.aloof_session.spares e.run_built context)
  | scripted s => exact .of_same (Context.aloof_session.spares s.run_built context)

theorem output_account [ArgumentReader] {command : Command} (able : command.Able)
    (context : Context W) :
    Builtin.Account ((command.output context).1.2.builtin?.toList) context.session
      (command.output context).2.session := by
  cases command with
  | builtin b => exact Builtin.output_account able context
  | external e => exact .of_same (Context.aloof_session.spares e.output_built context)
  | scripted s => exact .of_same (Context.aloof_session.spares s.output_built context)

theorem Able.setInput [ArgumentReader] {command : Command} (able : command.Able)
    (input : InputHandle) (context : Context W) : (command.setInput input context).1.Able := by
  cases command with
  | builtin b => exact Builtin.Able.of_plan able (b.setInput_plan context input)
  | _ => trivial

theorem Able.openPipe [ArgumentReader] {command : Command} (able : command.Able)
    (context : Context W) :
    (command.openPipe context).1.2.Able := by
  cases command with
  | builtin b => exact Builtin.Able.of_plan able (b.openPipe_plan context)
  | _ => trivial

theorem Able.setError [ArgumentReader] {command : Command} (able : command.Able)
    (error : OutputHandle) (context : Context W) : (command.setError error context).1.Able := by
  cases command with
  | builtin b => exact Builtin.Able.of_plan able (b.setError_plan context error)
  | _ => trivial

end Command

namespace Pipeline

/-- The builtins that have done their work, in the order in which they did. -/
def workedBuiltins (events : List (Event Command InputHandle OutputHandle)) : List Builtin :=
  (worked events).filterMap Command.builtin?

theorem workedBuiltins_run (position : Nat) (answer : Except ShellError Unit) (command : Command) :
    workedBuiltins [⟨position, .run answer, command⟩] = command.builtin?.toList := by
  cases command <;> rfl

theorem workedBuiltins_output (position : Nat) (answer : Except ShellError Bytes)
    (command : Command) :
    workedBuiltins [⟨position, .output answer, command⟩] = command.builtin?.toList := by
  cases command <;> rfl

variable [ArgumentReader]

/-- So far, the builtins that have worked account for the session. -/
def Accounted (before : Session)
    (context : Context W × List (Event Command InputHandle OutputHandle)) : Prop :=
  Builtin.Account (workedBuiltins context.2) before context.1.session

omit [Host W] in
theorem Accounted.snoc {before : Session} {context context' : Context W}
    {events : List (Event Command InputHandle OutputHandle)}
    (accounted : Accounted before (context, events))
    (event : Event Command InputHandle OutputHandle)
    (account : Builtin.Account (workedBuiltins [event]) context.session context'.session) :
    Accounted before (context', events ++ [event]) := by
  have appended : workedBuiltins (events ++ [event]) =
      workedBuiltins events ++ workedBuiltins [event] := by
    rw [workedBuiltins, worked, List.filterMap_append, List.filterMap_append]
    rfl
  rw [Accounted, appended]
  exact accounted.append account

/-- Every call on a command keeps the account. -/
theorem keeps_account (error : OutputHandle) (before : Session) :
    (Command.contract (W := W)).watched.Keeps (unnoted (pure error)) (fun stage => stage.1.Able)
      (fun _ => True) (Accounted before) where
  setInput := fun (s, _) input able (context, _) accounted =>
    ⟨able.setInput input context,
      accounted.snoc _ (.of_same (Context.aloof_session.spares (s.setInput_built input) context))⟩
  openPipe := fun (s, _) able (context, _) accounted =>
    ⟨able.openPipe context,
      accounted.snoc _ (.of_same (Context.aloof_session.spares s.openPipe_built context))⟩
  setError := fun (s, _) able (context, _) accounted =>
    ⟨able.setError error context,
      accounted.snoc _ (.of_same (Context.aloof_session.spares (s.setError_built error) context))⟩
  run := fun (_, _) able (context, _) accounted =>
    ⟨trivial, accounted.snoc _ (workedBuiltins_run _ _ _ ▸ Command.run_account able context)⟩
  output := fun (_, _) able (context, _) accounted =>
    ⟨trivial, accounted.snoc _ (workedBuiltins_output _ _ _ ▸ Command.output_account able context)⟩
  wait := fun (s, _) _ (context, _) accounted =>
    ⟨trivial, accounted.snoc _ (.of_same (Context.aloof_session.spares s.wait_built context))⟩
  abort := fun (s, _) _ (context, _) accounted =>
    ⟨trivial, accounted.snoc _ (.of_same (Context.aloof_session.spares s.abort_built context))⟩
  release := fun (s, _) _ (context, _) accounted =>
    accounted.snoc _ (.of_same (Context.aloof_session.spares s.release_built context))

/-- **What a pipeline makes of the session** is what the builtins account for that have
worked in it, however it ended. -/
theorem run_account (error : OutputHandle) (stages : List Command)
    (able : ∀ s ∈ stages, s.Able) (context : Context W) :
    Builtin.Account
      (workedBuiltins (transcript Command.contract (pure error) stages context))
      context.session (run error stages context).2.session := by
  have positioned : ∀ s ∈ stages.zipIdx, s.1.Able := fun s member =>
    able s.1 (List.fst_mem_of_mem_zipIdx member)
  have accounted := (keeps_account error context.session).maintains.execute stages.zipIdx positioned
    (context, []) (.of_same rfl)
  have forgotten := congrArg (·.2.session)
    (watch_forget Command.contract (pure error) stages context)
  rw [run, ← forgotten]
  exact accounted

end Pipeline

end PipelineShell
