/-
# Proofs.Service -- what a shell makes of its session, line after line

A shell is asked to run a line, to run it and show what came of it, or to read lines and
do so with each (`Request`).  However long this goes on, the session is changed by nothing
but the builtins of the lines that are run: `Interpreter.runLine_rightful` says what a
line may do to it, and `Interpreter.serve_rightful` that nothing else happens to it.

The registry may hold the builtins of the shell under any names.
-/
import PipelineShell.Arguments.Scan
import PipelineShell.Proofs.Authority
import PipelineShell.Proofs.Quiet

namespace PipelineShell

set_option autoImplicit false

open Stateful

/-! ## Registries of builtins -/

namespace Registry

/-- Every name stands for a fresh builtin. -/
def Shipped (registry : Registry) : Prop :=
  ∀ entry ∈ registry.entries, ∃ kind, entry.2 = .ofKind kind

theorem shipped_empty : empty.Shipped := fun _ member => nomatch member

theorem Shipped.registerAs {registry : Registry} (shipped : registry.Shipped) (name : String)
    (kind : Builtin.Kind) : (registry.registerAs name (.ofKind kind)).Shipped := by
  intro entry member
  rcases List.mem_append.1 member with before | new
  · exact shipped entry (List.mem_filter.1 before).1
  · obtain rfl := List.mem_singleton.1 new
    exact ⟨kind, rfl⟩

theorem Shipped.register {registry : Registry} (shipped : registry.Shipped)
    (kind : Builtin.Kind) : (registry.register kind).Shipped := shipped.registerAs _ kind

theorem shipped_withBuiltins : withBuiltins.Shipped :=
  ((((shipped_empty.register .pwd).register .echo).register .cd).register .ps).register .kill

theorem Shipped.of_create {registry : Registry} (shipped : registry.Shipped) {name : String}
    {command : Command} (found : registry.create name = some command) :
    ∃ kind, command = .ofKind kind := by
  obtain ⟨before, after, entries, -⟩ := List.lookup_eq_some_iff.1 found
  exact shipped (name, command) (entries ▸ List.mem_append_right _ (List.mem_cons_self ..))

/-- The builtin that the words of a stage call for, and its arguments. -/
def call? (registry : Registry) : List String → Option (Builtin.Kind × List String)
  | [] => none
  | name :: arguments =>
      match registry.create name with
      | some (.builtin b) => some (b.kind, arguments)
      | _ => none

theorem commandOf_call? [ArgumentReader] (registry : Registry) (words : List String) :
    (Pipeline.commandOf registry words).call? = registry.call? words := by
  cases words with
  | nil => rfl
  | cons name arguments =>
      simp only [Pipeline.commandOf, call?]
      cases registry.create name with
      | none => rfl
      | some command => cases command <;> rfl

theorem Shipped.able_commandOf [ArgumentReader] {registry : Registry} (shipped : registry.Shipped)
    (words : List String) : (Pipeline.commandOf registry words).Able := by
  cases words with
  | nil => trivial
  | cons name arguments =>
      simp only [Pipeline.commandOf]
      cases found : registry.create name with
      | none => trivial
      | some command =>
          obtain ⟨kind, rfl⟩ := shipped.of_create found
          exact Builtin.able_parseArguments kind arguments

end Registry

namespace Interpreter

section Standard

variable {W : Type} [Host W] [ArgumentReader]

/-! ## One line -/

/-- The stages of a line; a line that cannot be read has none. -/
def stagesOf (line : String) : List (List String) := (Line.stages line).toOption.getD []

/-- The builtins that a line calls for, from left to right, each with its arguments. -/
def called (registry : Registry) (line : String) : List (Builtin.Kind × List String) :=
  (stagesOf line).filterMap registry.call?

/-- The builtins that do their work when a line is run, in the order in which they do.
Each is as its work left it, so it has the status it ended with. -/
def workedBuiltins (registry : Registry) (line : String) (context : Context W) : List Builtin :=
  Pipeline.workedBuiltins (Pipeline.transcript Command.contract (pure .standardError)
    ((stagesOf line).map (Pipeline.commandOf registry)) context)

/-- The session that a line leaves behind. -/
def sessionAfter (registry : Registry) (line : String) (context : Context W) : Session :=
  (runLine registry line context).2.session

/-- A line does to the session only what it may. -/
structure Rightful (registry : Registry) (line : String) (context : Context W) : Prop where
  bindings : (sessionAfter registry line context).bindings = context.session.bindings
  user : (sessionAfter registry line context).user = context.session.user
  group : (sessionAfter registry line context).group = context.session.group
  /-- No builtin works that the line does not call for, and none of them out of turn. -/
  worked : (workedBuiltins registry line context).map Builtin.call <+: called registry line
  /-- The directory is changed only if a `cd` works, and succeeds. -/
  directory : (sessionAfter registry line context).directory ≠ context.session.directory →
    ∃ b ∈ workedBuiltins registry line context, b.kind = .cd ∧ b.status = some 0
  /-- The exit code is changed only if an `exit` works whose arguments can be read. -/
  exitCode : (sessionAfter registry line context).exitCode ≠ context.session.exitCode →
    ∃ b ∈ workedBuiltins registry line context, b.kind = .exit ∧
      (Builtin.Invocation.exitRequest b.arguments).isSome
  /-- When the line has run to its end, however it ended, the rightmost request counts. -/
  rightmost : ∀ outcome, (runLine registry line context).1 = .ok outcome →
    (sessionAfter registry line context).exitCode =
      ((called registry line).filterMap Builtin.asked).getLast?.or context.session.exitCode
  /-- An exit code is never taken back. -/
  kept : context.session.exitCode.isSome → (sessionAfter registry line context).exitCode.isSome

variable {registry : Registry}

/-- A line that cannot be read is not run; any other is run as the pipeline of its stages. -/
theorem runLine_cases (registry : Registry) (line : String) (context : Context W) :
    (stagesOf line = [] ∧ ∃ fault, runLine registry line context = (.error fault, context)) ∨
      runLine registry line context = Pipeline.run .standardError
        ((stagesOf line).map (Pipeline.commandOf registry)) context := by
  rw [runLine, Pipeline.construct, stagesOf]
  cases Line.stages line with
  | error fault => exact Or.inl ⟨rfl, fault, rfl⟩
  | ok stages => exact Or.inr rfl

theorem runLine_account (shipped : registry.Shipped) (line : String) (context : Context W) :
    Builtin.Account (workedBuiltins registry line context) context.session
      (sessionAfter registry line context) := by
  have able : ∀ command ∈ (stagesOf line).map (Pipeline.commandOf registry), command.Able := by
    intro command member
    obtain ⟨words, -, rfl⟩ := List.mem_map.1 member
    exact shipped.able_commandOf words
  rw [workedBuiltins, sessionAfter]
  rcases runLine_cases registry line context with ⟨empty, fault, unread⟩ | run
  · rw [empty, unread]
    exact .of_same rfl
  · rw [run]
    exact Pipeline.run_account .standardError _ able context

/-- What is called for, told from the commands. -/
theorem called_eq (registry : Registry) (line : String) :
    called registry line =
      (((stagesOf line).map (Pipeline.commandOf registry)).map Command.call?).filterMap id := by
  rw [List.map_map, List.filterMap_map, called]
  congr 1
  funext words
  exact (registry.commandOf_call? words).symm

omit [Host W] [ArgumentReader] in
theorem map_call_workedBuiltins (events : List (Pipeline.Event Command InputHandle OutputHandle)) :
    (Pipeline.workedBuiltins events).map Builtin.call =
      ((Pipeline.worked events).map Command.call?).filterMap id := by
  rw [Pipeline.workedBuiltins, List.map_filterMap, List.filterMap_map]
  rfl

/-- No builtin works that the line does not call for, and none of them out of turn. -/
theorem workedBuiltins_called (registry : Registry) (line : String) (context : Context W) :
    (workedBuiltins registry line context).map Builtin.call <+: called registry line := by
  rw [workedBuiltins, map_call_workedBuiltins, called_eq]
  exact (Pipeline.worked_prefix Command.contract_preserves_call? _ _ context).filterMap id

/-- **What a line may do to the session.** -/
theorem runLine_rightful (inOrder : Builtin.InOrder) (shipped : registry.Shipped) (line : String)
    (context : Context W) : Rightful registry line context := by
  have account := runLine_account shipped line context
  refine
    { bindings := account.bindings, user := account.user, group := account.group,
      directory := account.directory, kept := account.isSome_exitCode,
      worked := workedBuiltins_called registry line context, exitCode := ?_, rightmost := ?_ }
  · intro changed
    obtain ⟨b, member, asks⟩ := account.requested_of_changed changed
    rw [Builtin.requested_eq_asked inOrder, Builtin.asked] at asks
    by_cases leaves : b.call.1 = .exit
    · rw [if_pos leaves] at asks
      exact ⟨b, member, leaves, asks⟩
    · rw [if_neg leaves] at asks
      cases asks
  · intro outcome succeeds
    rw [account.exitCode, Builtin.requested_eq_asked inOrder, workedBuiltins,
      map_call_workedBuiltins, called_eq]
    rcases runLine_cases registry line context with ⟨-, fault, unread⟩ | run
    · rw [unread] at succeeds
      cases succeeds
    · rw [run] at succeeds
      rw [Pipeline.worked_of_ok Command.contract_preserves_call? succeeds]

/-! ## Line after line -/

/-- What a shell may be asked for. -/
inductive Request where
  /-- To run a line. -/
  | run (line : String)
  /-- To run a line and show what came of it. -/
  | evaluate (line : String)
  /-- To evaluate the lines that the line editor gives. -/
  | read
  deriving DecidableEq, Repr

section Requests

variable [LineEditor W]

/-- Does what is asked for; nothing is kept of the answer. -/
def Request.serve (registry : Registry) : Request → StateM (Context W) Unit
  | .run line => (fun _ => ()) <$> runLine registry line
  | .evaluate line => (fun _ => ()) <$> evaluateAndPrint registry line
  | .read => (fun _ => ()) <$> repl registry

/-- Does one thing after the other. -/
def serve (registry : Registry) : List Request → StateM (Context W) Unit
  | [] => pure ()
  | request :: rest => do
      request.serve registry
      serve registry rest

/-- The lines that are run when a line is asked for at most so many times, each with the
context in which it is run. -/
def linesEvaluated (registry : Registry) : Nat → Context W → List (String × Context W)
  | 0, _ => []
  | reads + 1, context =>
      match Context.act (LineEditor.readLine context.session.prompt) context with
      | (.error .interrupted, read) => linesEvaluated registry reads read
      | (.error _, _) => []
      | (.ok line, read) =>
        match remember line read with
        | (.error _, _) => []
        | (.ok (), kept) =>
          (line, kept) ::
            match evaluateAndPrint registry line kept with
            | (.error _, _) => []
            | (.ok _, next) =>
              if next.session.exitCode.isSome then [] else linesEvaluated registry reads next

/-- The lines that are run for a request, each with the context in which it is run. -/
def Request.lines (registry : Registry) (context : Context W) :
    Request → List (String × Context W)
  | .run line => [(line, context)]
  | .evaluate line => [(line, context)]
  | .read =>
      match Context.act LineEditor.start context with
      | (.error _, _) => []
      | (.ok (), ready) => linesEvaluated registry (LineEditor.readsLeft ready.world + 1) ready

/-- The lines that are run for requests, each with the context in which it is run. -/
def linesServed (registry : Registry) : List Request → Context W → List (String × Context W)
  | [], _ => []
  | request :: rest, context =>
      request.lines registry context ++
        linesServed registry rest (request.serve registry context).2

end Requests

/-- Beginning with `before`, each line is run in the session that the one before it left
behind, and `after` is what the last of them left. -/
def Linked (registry : Registry) (before : Session) :
    List (String × Context W) → Session → Prop
  | [], after => after = before
  | (line, context) :: rest, after =>
      context.session = before ∧ Linked registry (sessionAfter registry line context) rest after

theorem Linked.append {before between after : Session} {lines lines' : List (String × Context W)}
    (first : Linked registry before lines between) (second : Linked registry between lines' after) :
    Linked registry before (lines ++ lines') after := by
  induction lines generalizing before with
  | nil =>
      obtain rfl : between = before := first
      exact second
  | cons entry rest ih => exact ⟨first.1, ih first.2⟩

/-- What holds between the sessions before and after every line holds between the first
session and the last. -/
theorem Linked.relates (relation : Session → Session → Prop) (refl : ∀ s, relation s s)
    (trans_ : ∀ {s s' s''}, relation s s' → relation s' s'' → relation s s'')
    {lines : List (String × Context W)}
    (each : ∀ entry ∈ lines,
      relation entry.2.session (sessionAfter registry entry.1 entry.2))
    {before after : Session} (linked : Linked registry before lines after) :
    relation before after := by
  induction lines generalizing before with
  | nil =>
      obtain rfl : after = before := linked
      exact refl _
  | cons entry rest ih =>
      obtain ⟨here, later⟩ := List.forall_mem_cons.1 each
      obtain ⟨rfl, linked⟩ := linked
      exact trans_ here (ih later linked)

/-- To show what came of a line leaves the session as the line left it. -/
theorem evaluateAndPrint_session (registry : Registry) (line : String) (context : Context W) :
    (evaluateAndPrint registry line context).2.session = sessionAfter registry line context := by
  have aloof := Context.aloof_session (W := W)
  refine Spares.bind_after (fun answer => ?_) context
  split
  · exact aloof.spares ((print_built _).bind fun _ => (complainAll_built _).bind fun _ => .pure _)
  · exact .pure _
  · exact aloof.spares ((complain_built _).bind fun _ => .pure _)

omit [Host W] [ArgumentReader] in
/-- To act on the world leaves the session alone. -/
theorem session_of_act {A : Type} {operation : StateM W A} {context after : Context W} {answer : A}
    (acts : Context.act operation context = (answer, after)) : after.session = context.session :=
  congrArg (fun done : A × Context W => done.2.session) acts.symm

variable [LineEditor W]

omit [Host W] [ArgumentReader] in
theorem session_of_remember {line : String} {context after : Context W}
    {answer : Except IoError Unit} (remembers : remember line context = (answer, after)) :
    after.session = context.session := by
  unfold remember at remembers
  split at remembers
  · exact congrArg (fun done : Except IoError Unit × Context W => done.2.session) remembers.symm
  · exact session_of_act remembers

theorem linked_linesEvaluated (registry : Registry) (reads : Nat) (context : Context W) :
    Linked registry context.session (linesEvaluated registry reads context)
      (evaluateLines registry reads context).2.session := by
  induction reads generalizing context with
  | zero => rfl
  | succ reads ih =>
      simp only [linesEvaluated, evaluateLines, bind_apply, Context.ask]
      rcases asks : Context.act (LineEditor.readLine context.session.prompt) context with
        ⟨answer, read⟩
      have same := session_of_act asks
      rcases answer with fault | line
      · cases fault with
        | interrupted => exact same ▸ ih read
        | _ => exact same
      · simp only [bind_apply]
        rcases remembers : remember line read with ⟨result, kept⟩
        have same := (session_of_remember remembers).trans same
        rcases result with cause | done
        · exact same
        · have evaluated := evaluateAndPrint_session registry line kept
          refine ⟨same, ?_⟩
          rw [← evaluated]
          simp only [bind_apply]
          rcases evaluateAndPrint registry line kept with ⟨told, next⟩
          rcases told with panic | status
          · rfl
          · simp only [bind_apply, Context.ask]
            cases next.session.exitCode with
            | some code => rfl
            | none => exact ih next

theorem Request.linked_lines (registry : Registry) (request : Request) (context : Context W) :
    Linked registry context.session (request.lines registry context)
      (request.serve registry context).2.session := by
  cases request with
  | run line => exact ⟨rfl, rfl⟩
  | evaluate line => exact ⟨rfl, evaluateAndPrint_session registry line context⟩
  | read =>
      simp only [lines, serve, map_apply, repl, bind_apply]
      rcases starts : Context.act LineEditor.start context with ⟨answer, ready⟩
      have same := session_of_act starts
      rcases answer with cause | done
      · exact same
      · exact same ▸ linked_linesEvaluated registry _ ready

theorem linked_linesServed (registry : Registry) (requests : List Request) (context : Context W) :
    Linked registry context.session (linesServed registry requests context)
      (serve registry requests context).2.session := by
  induction requests generalizing context with
  | nil => rfl
  | cons request rest ih => exact (request.linked_lines registry context).append (ih _)

/-- **Who may change the session.**  Whatever a shell of builtins is asked for, one thing
after the other, its session is changed by nothing but the lines that are run, and by
each of them only as it may be.  The variables, the user and the group stay, and an exit
code is never taken back. -/
theorem serve_rightful (inOrder : Builtin.InOrder) (registry : Registry)
    (shipped : registry.Shipped) (requests : List Request) (context : Context W) :
    let lines := linesServed registry requests context
    let after := (serve registry requests context).2.session
    Linked registry context.session lines after ∧
      (∀ entry ∈ lines, Rightful registry entry.1 entry.2) ∧
      after.bindings = context.session.bindings ∧
      after.user = context.session.user ∧
      after.group = context.session.group ∧
      (context.session.exitCode.isSome → after.exitCode.isSome) := by
  intro lines after
  have linked : Linked registry context.session lines after :=
    linked_linesServed registry requests context
  have rightful : ∀ entry ∈ lines, Rightful registry entry.1 entry.2 := fun entry _ =>
    runLine_rightful inOrder shipped entry.1 entry.2
  refine ⟨linked, rightful, ?_, ?_, ?_, ?_⟩
  · exact linked.relates (fun s s' => s'.bindings = s.bindings) (fun _ => rfl)
      (fun first second => second.trans first) fun entry member => (rightful entry member).bindings
  · exact linked.relates (fun s s' => s'.user = s.user) (fun _ => rfl)
      (fun first second => second.trans first) fun entry member => (rightful entry member).user
  · exact linked.relates (fun s s' => s'.group = s.group) (fun _ => rfl)
      (fun first second => second.trans first) fun entry member => (rightful entry member).group
  · exact linked.relates (fun s s' => s.exitCode.isSome → s'.exitCode.isSome)
      (fun _ => id) (fun first second present => second (first present))
      fun entry member => (rightful entry member).kept

end Standard

open scoped Arguments

/-- The builtins of the shell, with `exit` under two names. -/
def quitting : Registry := (Registry.withBuiltins.register .exit).registerAs "quit" (.ofKind .exit)

/-- Requests with several `exit`s on a line, some of which cannot be read. -/
def farewells : List Request :=
  [.run "exit 3 | cd / | quit 4 | quit -5 | pwd", .evaluate "quit 6 7 | cd a b", .read]

theorem serve_rightful_farewells :
    Builtin.InOrder ∧ quitting.Shipped ∧
    (let lines := linesServed quitting farewells Quiet.context
    let after := (serve quitting farewells Quiet.context).2.session
    Linked quitting Quiet.context.session lines after ∧
      (∀ entry ∈ lines, Rightful quitting entry.1 entry.2) ∧
      after.bindings = Quiet.context.session.bindings ∧
      after.user = Quiet.context.session.user ∧
      after.group = Quiet.context.session.group ∧
      (Quiet.context.session.exitCode.isSome → after.exitCode.isSome)) ∧
    (serve quitting farewells Quiet.context).2.session.exitCode = some 4 := by
  have shipped : quitting.Shipped :=
    (Registry.shipped_withBuiltins.register .exit).registerAs "quit" .exit
  exact ⟨Builtin.inOrder_scan, shipped,
    serve_rightful Builtin.inOrder_scan quitting shipped farewells Quiet.context,
    by decide +kernel⟩

end Interpreter

end PipelineShell
