/-
# Proofs.Dispatch -- which command a stage becomes

A registry is what was registered with it, call after call (`Registry.enterAll`).  A name
stands for the command of the last registration under exactly that name, and for nothing at
all if there never was one (`Registered`).  So each stage of a line has one `Route`: to a
registered command with the words after the name, or to a program with all of the words.

The registered commands of this shell are data, and to make one is nothing but to copy it.
A `Workshop` makes them in whatever way it likes, with a state of its own to act on, one
stage after the other and with a check of its own for stages without words
(`Workshop.build`).  The commands come by the same routes, whatever the workshop does, and
its check is never needed (`build_eq_mapM`); each stage gets a command of its own
(`numbered_build`); and where to make is to copy, nothing is acted on (`copying_build`).

All this stands together in `construct_dispatches`, with what follows for a line that cannot
be read: it is answered with the fault, and leaves everything as it was.
-/
import Mathlib.Data.List.Forall2
import PipelineShell.Interpreter
import PipelineShell.Proofs.Line
import PipelineShell.Proofs.Stateful

namespace PipelineShell

set_option autoImplicit false

open Stateful

/-! ## What a name stands for -/

/-- A call that registers a command. -/
inductive Registration where
  /-- Under its own name. -/
  | builtin (kind : Builtin.Kind)
  | command (name : String) (command : Command)

namespace Registration

def name : Registration → String
  | .builtin kind => kind.name
  | .command name _ => name

/-- The command that a look-up makes. -/
def made : Registration → Command
  | .builtin kind => .ofKind kind
  | .command _ made => made

end Registration

namespace Registry

/-- Makes the call. -/
def enter (registry : Registry) : Registration → Registry
  | .builtin kind => registry.register kind
  | .command name command => registry.registerAs name command

def enterAll (start : Registry) (history : List Registration) : Registry :=
  history.foldl enter start

/-- What a name stands for after some registrations: the command of the last one under this
name, or what it stood for before. -/
inductive Registered (start : Registry) (history : List Registration) (name : String) :
    Option Command → Prop
  | recent {earlier later : List Registration} {registration : Registration}
      (split : history = earlier ++ registration :: later) (named : registration.name = name)
      (last : ∀ other ∈ later, other.name ≠ name) :
      Registered start history name (some registration.made)
  | never (absent : ∀ other ∈ history, other.name ≠ name) :
      Registered start history name (start.create name)

theorem enter_eq (registry : Registry) (registration : Registration) :
    registry.enter registration = registry.registerAs registration.name registration.made := by
  cases registration <;> rfl

/-- A registration changes what its own name stands for, and no other. -/
theorem create_registerAs (registry : Registry) (name other : String) (command : Command) :
    (registry.registerAs name command).create other =
      if other = name then some command else registry.create other := by
  have kept : ∀ entries : List (String × Command), other ≠ name →
      (entries.filter (·.1 != name)).lookup other = entries.lookup other := by
    intro entries different
    induction entries with
    | nil => rfl
    | cons entry entries ih =>
        obtain ⟨key, value⟩ := entry
        by_cases same : key = name
        · have passed : (other == key) = false := beq_eq_false_iff_ne.2 (same ▸ different)
          rw [List.filter_cons_of_neg (by simp [same]), List.lookup_cons, passed, ih]
        · simp [List.lookup_cons, ih, same]
  have gone : (registry.entries.filter (·.1 != name)).lookup name = none := by
    refine List.lookup_eq_none_iff.2 fun entry member => bne_iff_ne.2 fun same => ?_
    exact bne_iff_ne.1 (List.mem_filter.1 member).2 same.symm
  rw [create, registerAs, List.lookup_append]
  split
  · rename_i same
    rw [same, gone, Option.none_or, List.lookup_cons_self]
  · rename_i different
    rw [kept _ different, List.lookup_cons, beq_eq_false_iff_ne.2 different, List.lookup_nil,
      Option.or_none, create]

theorem create_enterAll {registry : Registry} {later : List Registration} {name : String}
    (absent : ∀ other ∈ later, other.name ≠ name) :
    (registry.enterAll later).create name = registry.create name := by
  induction later generalizing registry with
  | nil => rfl
  | cons registration later ih =>
      obtain ⟨here, later⟩ := List.forall_mem_cons.1 absent
      rw [enterAll, List.foldl_cons, ← enterAll, ih later, enter_eq, create_registerAs,
        if_neg here.symm]

theorem Registered.create_eq {start : Registry} {history : List Registration} {name : String}
    {answer : Option Command} (registered : Registered start history name answer) :
    (start.enterAll history).create name = answer := by
  cases registered with
  | recent split named last =>
      rw [split, enterAll, List.foldl_append, List.foldl_cons, ← enterAll, create_enterAll last,
        enter_eq, create_registerAs, if_pos named.symm]
  | never absent => exact create_enterAll absent

theorem exists_registered (start : Registry) (history : List Registration) (name : String) :
    ∃ answer, Registered start history name answer := by
  induction history with
  | nil => exact ⟨_, .never fun _ => (nomatch ·)⟩
  | cons registration later ih =>
      obtain ⟨answer, registered⟩ := ih
      cases registered with
      | recent split named last => exact ⟨_, .recent (by rw [split, List.cons_append]) named last⟩
      | never absent =>
          by_cases here : registration.name = name
          · exact ⟨_, .recent (List.nil_append _).symm here absent⟩
          · exact ⟨_, .never (List.forall_mem_cons.2 ⟨here, absent⟩)⟩

/-- **What a name stands for is what a look-up finds.** -/
theorem registered_iff {start : Registry} {history : List Registration} {name : String}
    {answer : Option Command} :
    Registered start history name answer ↔ (start.enterAll history).create name = answer := by
  refine ⟨Registered.create_eq, ?_⟩
  rintro rfl
  obtain ⟨answer, registered⟩ := exists_registered start history name
  exact registered.create_eq ▸ registered

end Registry

namespace Pipeline

/-! ## Routes -/

/-- Where the words of a stage go: to the command that its first word stands for go the
others, and all of them go to a program if it stands for none. -/
inductive Route (start : Registry) (history : List Registration) :
    List String → Option Command × List String → Prop
  | registered {name : String} {arguments : List String} {command : Command}
      (found : start.Registered history name (some command)) :
      Route start history (name :: arguments) (some command, arguments)
  | program {name : String} {arguments : List String}
      (missing : start.Registered history name none) :
      Route start history (name :: arguments) (none, name :: arguments)

/-- The command at the end of a route. -/
def supplied [ArgumentReader] : Option Command × List String → Command
  | (some command, words) => command.parseArguments words
  | (none, words) => Command.ofProgram.parseArguments words

/-- The route of a stage, as a registry finds it. -/
def routeOf (registry : Registry) : List String → Option Command × List String
  | [] => (none, [])
  | name :: arguments =>
      match registry.create name with
      | some command => (some command, arguments)
      | none => (none, name :: arguments)

variable {start : Registry} {history : List Registration}

/-- A stage with words has one route. -/
theorem route_iff {words : List String} (worded : words ≠ [])
    {route : Option Command × List String} :
    Route start history words route ↔ route = routeOf (start.enterAll history) words := by
  cases words with
  | nil => exact absurd rfl worded
  | cons name arguments =>
      rw [routeOf]
      constructor
      · intro found
        cases found with
        | registered found => rw [found.create_eq]
        | program missing => rw [missing.create_eq]
      · rintro rfl
        cases found : (start.enterAll history).create name with
        | some command => exact .registered (Registry.registered_iff.2 found)
        | none => exact .program (Registry.registered_iff.2 found)

theorem routes_iff {stages : List (List String)} (worded : ∀ words ∈ stages, words ≠ [])
    {routes : List (Option Command × List String)} :
    List.Forall₂ (Route start history) stages routes ↔
      routes = stages.map (routeOf (start.enterAll history)) := by
  constructor
  · intro found
    induction found with
    | nil => rfl
    | cons here _ ih =>
        obtain ⟨first, later⟩ := List.forall_mem_cons.1 worded
        rw [(route_iff first).1 here, ih later, List.map_cons]
  · rintro rfl
    exact List.forall₂_map_right_iff.2
      (List.forall₂_same.2 fun words member => (route_iff (worded words member)).2 rfl)

theorem commandOf_eq [ArgumentReader] (registry : Registry) (words : List String) :
    commandOf registry words = supplied (routeOf registry words) := by
  cases words with
  | nil => rfl
  | cons name arguments =>
      rw [commandOf, routeOf]
      cases registry.create name <;> rfl

/-- A command has the words after the first for its arguments.  Only a program that was
registered under a name takes the first of these for the name of the program. -/
theorem Route.arguments_supplied [ArgumentReader] {words : List String}
    {route : Option Command × List String} (found : Route start history words route)
    (own : ∀ program, route.1 ≠ some (.external program)) :
    (supplied route).arguments = words.tail := by
  cases found with
  | program => rfl
  | @registered name arguments command =>
      cases command with
      | builtin => rfl
      | scripted => rfl
      | external program => exact absurd rfl (own program)

/-! ## Workshops -/

/-- A way to make commands of any kind, in which making one may act on a state. -/
structure Workshop (S C : Type) where
  /-- Makes a command where the registry holds this one. -/
  make : Command → StateM S C
  /-- Makes a command for a program. -/
  program : StateM S C
  parseArguments : C → List String → StateM S C

namespace Workshop

variable {S C : Type}

/-- Makes the command at the end of a route. -/
def supply (workshop : Workshop S C) : Option Command × List String → StateM S C
  | (some command, words) => do workshop.parseArguments (← workshop.make command) words
  | (none, words) => do workshop.parseArguments (← workshop.program) words

/-- Makes the command of a stage. -/
def ofStage (workshop : Workshop S C) (registry : Registry) (name : String)
    (arguments : List String) : StateM S C :=
  match registry.create name with
  | some command => workshop.supply (some command, arguments)
  | none => workshop.supply (none, name :: arguments)

/-- Makes the commands of the stages, one after the other; a stage without words is refused
where it stands. -/
def assemble (workshop : Workshop S C) (registry : Registry) :
    Nat → List (List String) → StateM S (Except ShellError (List C))
  | _, [] => pure (.ok [])
  | index, [] :: _ => pure (.error (.emptyStage index))
  | index, (name :: arguments) :: rest => do
      let command ← workshop.ofStage registry name arguments
      match ← workshop.assemble registry (index + 1) rest with
      | .ok commands => pure (.ok (command :: commands))
      | .error fault => pure (.error fault)

/-- Makes the commands of a line. -/
def build (workshop : Workshop S C) (registry : Registry) (line : String) :
    StateM S (Except ShellError (List C)) :=
  match Line.stages line with
  | .error fault => pure (.error fault)
  | .ok stages => workshop.assemble registry 0 stages

/-- To make is to copy. -/
def copying [ArgumentReader] (S : Type) : Workshop S Command where
  make command := pure command
  program := pure .ofProgram
  parseArguments command words := pure (command.parseArguments words)

/-- Every command that is made has a number of its own. -/
def numbered [ArgumentReader] : Workshop Nat (Command × Nat) where
  make command next := ((command, next), next + 1)
  program next := ((.ofProgram, next), next + 1)
  parseArguments made words := pure (made.1.parseArguments words, made.2)

theorem assemble_eq_mapM (workshop : Workshop S C) (registry : Registry) (index : Nat)
    {stages : List (List String)} (worded : ∀ words ∈ stages, words ≠ []) :
    workshop.assemble registry index stages =
      .ok <$> (stages.map (routeOf registry)).mapM workshop.supply := by
  induction stages generalizing index with
  | nil => rfl
  | cons words rest ih =>
      obtain ⟨here, later⟩ := List.forall_mem_cons.1 worded
      cases words with
      | nil => exact absurd rfl here
      | cons name arguments =>
          have first : workshop.ofStage registry name arguments =
              workshop.supply (routeOf registry (name :: arguments)) := by
            rw [ofStage, routeOf]
            cases registry.create name <;> rfl
          rw [assemble, first, ih (index + 1) later, List.map_cons, List.mapM_cons]
          rfl

/-- **The commands come one by one, by the routes of their stages,** and none is refused. -/
theorem build_eq_mapM (workshop : Workshop S C) (registry : Registry) {line : String}
    {stages : List (List String)} (reads : Line.stages line = .ok stages) :
    workshop.build registry line =
      .ok <$> (stages.map (routeOf registry)).mapM workshop.supply := by
  rw [build, reads]
  exact workshop.assemble_eq_mapM registry 0 (Line.stages_worded reads)

theorem mapM_copying [ArgumentReader] (routes : List (Option Command × List String)) :
    routes.mapM (copying S).supply = pure (routes.map supplied) := by
  induction routes with
  | nil => rfl
  | cons route rest ih =>
      have here : (copying S).supply route = pure (supplied route) := by
        obtain ⟨command, words⟩ := route
        cases command <;> rfl
      rw [List.mapM_cons, here, ih]
      rfl

theorem mapM_numbered [ArgumentReader] (routes : List (Option Command × List String))
    (first : Nat) : routes.mapM numbered.supply first =
      ((routes.map supplied).zipIdx first, first + routes.length) := by
  induction routes generalizing first with
  | nil => rfl
  | cons route rest ih =>
      have here : numbered.supply route first = ((supplied route, first), first + 1) := by
        obtain ⟨command, words⟩ := route
        cases command <;> rfl
      rw [List.mapM_cons, bind_apply, here]
      simp only [bind_apply, ih (first + 1)]
      rw [List.map_cons, List.zipIdx_cons, List.length_cons, Nat.add_right_comm, Nat.add_assoc]
      rfl

end Workshop

variable [ArgumentReader] {registry : Registry} {line : String} {stages : List (List String)}

theorem construct_eq (reads : Line.stages line = .ok stages) :
    construct registry line = .ok ((stages.map (routeOf registry)).map supplied) := by
  rw [construct, reads, List.map_map]
  exact congrArg Except.ok (List.map_congr_left fun words _ => commandOf_eq registry words)

/-- Where to make is to copy, the commands of a line are made without a trace. -/
theorem copying_build {S : Type} (state : S) :
    (Workshop.copying S).build registry line state = (construct registry line, state) := by
  cases reads : Line.stages line with
  | error fault =>
      rw [Workshop.build, construct, reads]
      rfl
  | ok stages =>
      rw [Workshop.build_eq_mapM _ _ reads, Workshop.mapM_copying, construct_eq reads]
      rfl

/-- Each stage gets a command of its own. -/
theorem numbered_build (reads : Line.stages line = .ok stages) (first : Nat) :
    Workshop.numbered.build registry line first =
      (.ok (((stages.map (routeOf registry)).map supplied).zipIdx first),
        first + (stages.map (routeOf registry)).length) := by
  rw [Workshop.build_eq_mapM _ _ reads, map_apply, Workshop.mapM_numbered]

/-- **Each stage of a line becomes the command that its first word stands for.**  After any
registrations, a line that cannot be read is answered with its fault, by the making of its
commands as by its run, and nothing else happens.  The stages of a line that can be read have
one list of routes, and by these come their commands: in any workshop one is made for each
stage and in order, all are distinct, and their arguments are the words after the first.
Where to make is to copy, as it is for the commands of this shell, nothing is acted on. -/
theorem construct_dispatches {W S C : Type} [Host W] (workshop : Workshop S C) (start : Registry)
    (history : List Registration) (line : String) (context : Context W) :
    (∀ fault, Line.stages line = .error fault →
      workshop.build (start.enterAll history) line = pure (.error fault) ∧
      construct (start.enterAll history) line = .error fault ∧
      Interpreter.runLine (start.enterAll history) line context = (.error fault, context)) ∧
    (∀ stages, Line.stages line = .ok stages → ∃ routes,
      (∀ others, List.Forall₂ (Route start history) stages others ↔ others = routes) ∧
      workshop.build (start.enterAll history) line = .ok <$> routes.mapM workshop.supply ∧
      construct (start.enterAll history) line = .ok (routes.map supplied) ∧
      List.Forall₂ (fun words route => (∀ program, route.1 ≠ some (.external program)) →
        (supplied route).arguments = words.tail) stages routes ∧
      ∀ first, Workshop.numbered.build (start.enterAll history) line first =
        (.ok ((routes.map supplied).zipIdx first), first + routes.length)) ∧
    (Workshop.copying (Context W)).build (start.enterAll history) line context =
      (construct (start.enterAll history) line, context) := by
  refine ⟨fun fault reads => ?_, fun stages reads => ?_, copying_build context⟩
  · have refused : construct (start.enterAll history) line = .error fault := by
      rw [construct, reads]
      rfl
    refine ⟨?_, refused, ?_⟩
    · rw [Workshop.build, reads]
    · rw [Interpreter.runLine, refused]
      rfl
  · have routes : ∀ others, List.Forall₂ (Route start history) stages others ↔
        others = stages.map (routeOf (start.enterAll history)) := fun others =>
      routes_iff (Line.stages_worded reads)
    refine ⟨_, routes, workshop.build_eq_mapM _ reads, construct_eq reads, ?_,
      numbered_build reads⟩
    exact ((routes _).2 rfl).imp fun _ _ found => found.arguments_supplied

-- the stage before the fault is in order, and nothing comes of it all the same
example : Line.stages "cd /tmp | | x" = .error (.emptyStage 1) := by decide +kernel

end Pipeline

end PipelineShell
