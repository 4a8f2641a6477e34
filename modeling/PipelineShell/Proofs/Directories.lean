/-
# Proofs.Directories -- the session and the process stay together

There are two notions of where the shell is.  The session keeps a directory, which `pwd`
shows and programs are started in, and the process of the shell has one of its own.  Only
`cd` changes either of them, and it changes them one after the other, by steps that may
fail.

`Builtin.Travels` says what a `cd` comes to: it arrives, and then both are the canonical
form of where it was sent; or an `Obstacle` is in its way, and then it says so and both are
what they were.  From this and from what other calls leave alone (`Aloof`) it follows that
the two stay together through line after line (`Interpreter.directories_together`).
-/
import PipelineShell.Arguments.Scan
import PipelineShell.Proofs.Atlas
import PipelineShell.Proofs.Authority
import PipelineShell.Proofs.Running
import PipelineShell.Proofs.Sequence

namespace PipelineShell

set_option autoImplicit false

open Stateful

variable {W : Type} [Host W]

/-! ## Where the shell is -/

/-- What is documented of the calls that find and change the directory of the process.
`direct` says of a path that it is absolute and free of links. -/
structure Host.Orderly (direct : W → Path → Prop) : Prop where
  canonicalize : ∀ path target (world : W),
    Host.canonicalize path world = .ok target → direct world target
  /-- A process that is moved is where it was sent. -/
  moved : ∀ target (world after : W), direct world target →
    Host.changeDirectory target world = (.ok (), after) →
    Host.currentDirectory after = .ok target
  /-- A process that cannot be moved stays where it is. -/
  stayed : ∀ target fault (world after : W),
    Host.changeDirectory target world = (.error fault, after) →
    Host.currentDirectory after = Host.currentDirectory world
  /-- No other call moves it. -/
  aloof : Aloof fun context : Context W => Host.currentDirectory context.world

namespace Context

/-- The directory of the session, and that of the process. -/
def place (context : Context W) : Path × Except IoError Path :=
  (context.session.directory, Host.currentDirectory context.world)

/-- The session and the process are in the same directory. -/
def Together (context : Context W) : Prop :=
  Host.currentDirectory context.world = .ok context.session.directory

theorem Together.of_place {context context' : Context W} (together : context.Together)
    (same : context'.place = context.place) : context'.Together := by
  obtain ⟨session, process⟩ := Prod.mk.inj same
  rw [Together, session, process]
  exact together

end Context

theorem Spares.together {α : Type} {action : StateM (Context W) α}
    (spares : Spares Context.place action) :
    Ensures Context.Together action fun _ => Context.Together :=
  fun context together => together.of_place (spares context)

variable {direct : W → Path → Prop}

/-- The place is changed only where the process is moved. -/
theorem Host.Orderly.aloof_place (orderly : Host.Orderly direct) :
    Aloof fun context : Context W => context.place :=
  (Context.aloof_session.pair orderly.aloof).of_shown fun shown => (shown.1.directory, shown.2)

/-! ## What a `cd` comes to -/

namespace Builtin

/-- `cd` with these words is sent to `goal`; it is sent nowhere if there is no home. -/
structure Sent (words : List String) (context : Context W) (goal : Option Path) : Prop where
  atMostOne : words.length ≤ 1
  goal : destination context.session (Host.environment context.world)
    (Host.account context.world).home words.head? = goal

/-- What keeps a `cd` with these words where it is, the text that says so, and the world
after the attempt. -/
inductive Obstacle (words : List String) (context : Context W) : String → W → Prop
  | tooMany {first extra : String} {rest : List String} (given : words = first :: extra :: rest) :
      Obstacle words context (trimmed ("cd: too many arguments: " ++ extra)) context.world
  | homeless (sent : Sent words context none) :
      Obstacle words context "cd: no target and HOME not set" context.world
  | lost {target : Path} {fault : IoError} (sent : Sent words context (some target))
      (unknown : Host.canonicalize (context.session.directory.join target) context.world =
        .error fault) :
      Obstacle words context ("cd: can't canonicalize " ++
        (context.session.directory.join target).display ++ ": " ++ fault.message) context.world
  | barred {target canonical : Path} {fault : IoError} {world : W}
      (sent : Sent words context (some target))
      (found : Host.canonicalize (context.session.directory.join target) context.world =
        .ok canonical)
      (refused : Host.changeDirectory canonical context.world = (.error fault, world)) :
      Obstacle words context
        ("cd: can't chdir to " ++ canonical.display ++ ": " ++ fault.message) world

/-- What the work of a `cd` with these words comes to, in the context it leaves: its code,
and what has become of its context. -/
inductive Journey (words : List String) (error : OutputHandle) (context : Context W) :
    ExitCode → Context W → Prop
  | arrives {target canonical : Path} {world : W} (sent : Sent words context (some target))
      (found : Host.canonicalize (context.session.directory.join target) context.world =
        .ok canonical)
      (moved : Host.changeDirectory canonical context.world = (.ok (), world)) :
      Journey words error context 0
        { context with session := { context.session with directory := canonical }, world }
  | stays {text : String} {world : W} (obstacle : Obstacle words context text world) :
      Journey words error context 1
        { context with world := (Output.writeLine error text world).2 }

/-- What is shown of the work of a `cd`: that it prints nothing, and that it is a journey. -/
structure Journeys (words : List String) (error : OutputHandle) (context : Context W)
    (work : (Bytes × Except ShellError ExitCode) × Context W) : Prop where
  printed : work.1.1 = []
  journey : Journey words error context (codeOf work.1.2) work.2

/-- To report what is in the way is to stay. -/
theorem Obstacle.journeys {words : List String} {context : Context W} {text : String} {world : W}
    (obstacle : Obstacle words context text world) (error : OutputHandle) :
    Journeys words error context (reporting [] error text { context with world }) where
  printed := rfl
  journey := by
    rw [reporting, report_context, codeOf_report]
    exact .stays obstacle

theorem message_cdComplaint (what : String) (path : Path) (cause : IoError) :
    (cdComplaint what path cause).message =
      "cd: can't " ++ what ++ " " ++ path.display ++ ": " ++ cause.message := by
  rw [cdComplaint, Complaint.message, String.intercalate_cons_cons, String.intercalate_singleton]

/-- What a `cd` does that can read its words. -/
theorem perform_changeDirectory {words : List String} (atMostOne : words.length ≤ 1)
    (streams : Streams) (context : Context W) :
    Journeys words streams.error context (perform streams (.ok (.cd words.head?)) context) := by
  cases goal : destination context.session (Host.environment context.world)
      (Host.account context.world).home words.head? with
  | none =>
      have worked : (Invocation.cd words.head?).execute streams.output context =
          (([], .error ⟨["cd: no target and HOME not set"]⟩), context) := by
        simp only [Invocation.execute, changeDirectory, bind_apply, map_apply, Context.ask,
          Context.look, goal, pure_apply]
      rw [perform_complained worked, Complaint.message, String.intercalate_singleton]
      exact (Obstacle.homeless ⟨atMostOne, goal⟩).journeys streams.error
  | some target =>
      have sent : Sent words context (some target) := ⟨atMostOne, goal⟩
      have enters : (Invocation.cd words.head?).execute streams.output context =
          (([], (enter target context).1), (enter target context).2) := by
        simp only [Invocation.execute, changeDirectory, bind_apply, map_apply, Context.ask,
          Context.look, goal]
      cases found : Host.canonicalize (context.session.directory.join target) context.world with
      | error fault =>
          have worked := enters
          simp only [enter, bind_apply, Context.ask, Context.look, found, pure_apply] at worked
          rw [perform_complained worked, message_cdComplaint]
          exact (Obstacle.lost sent found).journeys streams.error
      | ok canonical =>
          rcases moved : Host.changeDirectory canonical context.world with ⟨answer, world⟩
          have worked := enters
          simp only [enter, bind_apply, Context.ask, Context.look, Context.act, found, moved] at worked
          cases answer with
          | error fault =>
              rw [perform_complained worked, message_cdComplaint]
              exact (Obstacle.barred sent found moved).journeys streams.error
          | ok done =>
              simp only [perform, bind_apply, worked]
              exact ⟨rfl, .arrives sent found moved⟩

/-- **The work of a `cd`.** -/
theorem perform_cd [ArgumentReader] (words : List String) (streams : Streams)
    (context : Context W) :
    Journeys words streams.error context
      (perform streams (Invocation.parse .cd [Kind.cd.name] words) context) := by
  match words with
  | [] => exact perform_changeDirectory (by decide) streams context
  | [target] => exact perform_changeDirectory (by simp) streams context
  | first :: extra :: rest =>
      have text : " ".intercalate [Kind.cd.name] ++ ": too many arguments: " =
          "cd: too many arguments: " := by decide
      have refused : Invocation.parse .cd [Kind.cd.name] (first :: extra :: rest) =
          .error ⟨"cd: too many arguments: " ++ extra, false⟩ := by
        rw [Invocation.parse, text]
      rw [refused, perform_refused]
      exact (Obstacle.tooMany rfl).journeys streams.error

/-- What the run, or the collection, of a `cd` comes to that began in the context `began`. -/
inductive Travels (builtin : Builtin) (began : Context W) (after : Builtin) (ended : Context W) :
    Prop
  /-- Session and process are where it was sent, as seen from the session. -/
  | moved {target canonical : Path} (sent : Sent builtin.arguments began (some target))
      (found : Host.canonicalize (began.session.directory.join target) began.world =
        .ok canonical)
      (status : after.status = some 0)
      (session : ended.session = { began.session with directory := canonical })
      (process : Host.currentDirectory ended.world = .ok canonical)
  /-- Session and process are as they were, and the obstacle was reported. -/
  | stayed {text : String} {world : W} (obstacle : Obstacle builtin.arguments began text world)
      (status : after.status = some 1)
      (session : ended.session = began.session)
      (process : Host.currentDirectory ended.world = Host.currentDirectory began.world)
      (reported : ended = (builtin.conclude []
        { began with world := (Output.writeLine builtin.streams.error text world).2 }).2)

section Orderly

variable (orderly : Host.Orderly direct)
include orderly

/-- No obstacle moves the process. -/
theorem Obstacle.process {words : List String} {context : Context W} {text : String} {world : W}
    (obstacle : Obstacle words context text world) :
    Host.currentDirectory world = Host.currentDirectory context.world := by
  cases obstacle with
  | barred sent found refused => exact orderly.stayed _ _ _ _ refused
  | _ => rfl

/-- Nor does the report of it. -/
theorem Obstacle.reported {words : List String} {context : Context W} {text : String} {world : W}
    (obstacle : Obstacle words context text world) (error : OutputHandle) (report : String) :
    Host.currentDirectory (Output.writeLine error report world).2 =
      Host.currentDirectory context.world := by
  have spared := orderly.aloof.spares (Output.writeLine_built error report) { context with world }
  exact spared.trans (obstacle.process orderly)

theorem run_travels [ArgumentReader] {builtin : Builtin} (changes : builtin.kind = .cd)
    (able : builtin.Able) (context : Context W) :
    builtin.Travels context (builtin.run context).1.2 (builtin.run context).2 := by
  have parsed : builtin.parsed =
      some (Invocation.parse .cd [Kind.cd.name] builtin.arguments) := changes ▸ able.parsed
  have work := perform_cd builtin.arguments builtin.streams context
  rw [run_unrun parsed able.status context]
  generalize perform builtin.streams (Invocation.parse .cd [Kind.cd.name] builtin.arguments)
    context = done at work ⊢
  obtain ⟨⟨accepted, result⟩, left⟩ := done
  obtain ⟨printed, journey⟩ := work
  obtain rfl : accepted = [] := printed
  have session : (builtin.conclude [] left).2.session = left.session :=
    conclude_spares Context.aloof_session [] left
  have process : Host.currentDirectory (builtin.conclude [] left).2.world =
      Host.currentDirectory left.world := conclude_spares orderly.aloof [] left
  generalize code : codeOf result = ended at journey
  cases journey with
  | arrives sent found moved =>
      have arrived := orderly.moved _ _ _ (orderly.canonicalize _ _ _ found) moved
      exact .moved sent found (congrArg some code) session (process.trans arrived)
  | stays obstacle =>
      have still := obstacle.reported orderly builtin.streams.error
      exact .stayed obstacle (congrArg some code) session (process.trans (still _)) rfl

theorem output_travels [ArgumentReader] {builtin : Builtin} (changes : builtin.kind = .cd)
    (able : builtin.Able) (context : Context W) :
    (builtin.withOutput .scratch).Travels (builtin.setOutput .scratch context).2
      (builtin.output context).1.2 (builtin.output context).2 := by
  have bound : (builtin.withOutput .scratch).Able := able.of_plan rfl
  have stillChanges : (builtin.withOutput .scratch).kind = .cd := changes
  rw [output_apply able.status context]
  exact run_travels orderly stillChanges bound _

/-! ## Calls that leave the two together -/

/-- A journey ends with session and process together, if it began so. -/
theorem Journey.together {words : List String} {error : OutputHandle} {code : ExitCode}
    {context left : Context W} (journey : Journey words error context code left)
    (together : context.Together) : left.Together := by
  cases journey with
  | arrives sent found moved =>
      exact orderly.moved _ _ _ (orderly.canonicalize _ _ _ found) moved
  | stays obstacle => exact (obstacle.reported orderly error _).trans together

/-- All work but that of `cd` leaves the place as it is. -/
theorem execute_spares {invocation : Invocation} (unmoving : ∀ target, invocation ≠ .cd target)
    (output : OutputHandle) :
    Spares Context.place (invocation.execute output : StateM (Context W) _) := by
  have aloof := orderly.aloof_place
  cases invocation with
  | pwd =>
      exact (Spares.ask _).bind fun directory =>
        aloof.spares ((Output.writeLine_built output directory).map _)
  | echo noNewline words => exact aloof.spares ((Output.writePieces_built output _).map _)
  | cd target => exact absurd rfl (unmoving target)
  | ps =>
      exact (Spares.look _).bind fun table =>
        aloof.spares ((Output.writePieces_built output _).map _)
  | kill words => exact aloof.spares ((terminate_built words).map _)
  | exit code => exact fun _ => rfl

/-- The work of a builtin leaves session and process together, whatever its arguments were
read as. -/
theorem perform_together (streams : Streams) (reading : Except EarlyExit Invocation) :
    Ensures Context.Together (perform streams reading : StateM (Context W) _)
      fun _ => Context.Together := by
  have aloof := orderly.aloof_place
  intro context together
  rcases reading with early | invocation
  · refine together.of_place ?_
    simp only [perform]
    split
    · exact aloof.spares (report_built _ _ _) _
    · exact aloof.spares ((report_built _ _ _).bind fun _ => .pure _) context
  · by_cases moving : ∃ target, invocation = .cd target
    · obtain ⟨target, rfl⟩ := moving
      have work : Journeys target.toList streams.error context
          (perform streams (.ok (.cd target.toList.head?)) context) :=
        perform_changeDirectory (by cases target <;> simp) streams context
      rw [Option.head?_toList] at work
      exact work.journey.together orderly together
    · refine together.of_place ?_
      refine ((execute_spares orderly (not_exists.1 moving) streams.output).bind
        fun answer => ?_) context
      obtain ⟨accepted, result⟩ := answer
      cases result with
      | ok code => exact .pure _
      | error complaint => exact aloof.spares ((report_built _ _ _).bind fun _ => .pure _)

theorem run_together (builtin : Builtin) :
    Ensures Context.Together (builtin.run : StateM (Context W) _) fun _ => Context.Together := by
  intro context together
  cases status : builtin.status with
  | some code => simpa only [run, status, pure_apply] using together
  | none =>
      cases parsed : builtin.parsed with
      | none => simpa only [run, status, parsed, pure_apply] using together
      | some reading =>
          rw [run_unrun parsed status context]
          have worked := perform_together orderly builtin.streams reading context together
          exact worked.of_place (conclude_spares orderly.aloof_place _ _)

theorem output_together (builtin : Builtin) :
    Ensures Context.Together (builtin.output : StateM (Context W) _)
      fun _ => Context.Together := by
  intro context together
  cases status : builtin.status with
  | some code => simpa only [output, status, pure_apply] using together
  | none =>
      rw [output_apply status context]
      have bound := builtin.setOutput_spares orderly.aloof_place .scratch context
      exact run_together orderly _ _ (together.of_place bound)

end Orderly

end Builtin

/-! ## Lines -/

/-- Every call on a command leaves session and process together. -/
theorem Command.keeps_together (orderly : Host.Orderly direct) (error : OutputHandle) :
    (Command.contract (W := W)).Keeps (pure error) (fun _ => True) (fun _ => True)
      Context.Together := by
  have aloof := orderly.aloof_place
  have keeps : ∀ {α : Type} {action : StateM (Context W) α},
      Ensures Context.Together action (fun _ => Context.Together) →
      Ensures Context.Together action (fun _ context => True ∧ context.Together) :=
    fun ensures context together => ⟨trivial, ensures context together⟩
  refine ⟨?setInput, ?openPipe, ?setError, ?run, ?output, ?wait, ?abort, ?release⟩
  case setInput => exact fun s input _ => keeps (aloof.spares (s.setInput_built input)).together
  case openPipe => exact fun s _ => keeps (aloof.spares s.openPipe_built).together
  case setError => exact fun s _ => keeps (aloof.spares (s.setError_built error)).together
  case run =>
    intro s _
    refine keeps ?_
    cases s with
    | builtin b => exact (b.run_together orderly).map
    | external e => exact (aloof.spares (e.run_built.map _)).together
    | scripted s => exact (aloof.spares (s.run_built.map _)).together
  case output =>
    intro s _
    refine keeps ?_
    cases s with
    | builtin b => exact (b.output_together orderly).map
    | external e => exact (aloof.spares (e.output_built.map _)).together
    | scripted s => exact (aloof.spares (s.output_built.map _)).together
  case wait => exact fun s _ => keeps (aloof.spares s.wait_built).together
  case abort => exact fun s _ => keeps (aloof.spares s.abort_built).together
  case release => exact fun s _ => (aloof.spares s.release_built).together

namespace Interpreter

/-- One line leaves session and process together, however it ends. -/
theorem runLine_together [ArgumentReader] (orderly : Host.Orderly direct) (registry : Registry)
    (line : String) : Ensures Context.Together (runLine registry line : StateM (Context W) _)
      fun _ => Context.Together := by
  unfold runLine
  cases Pipeline.construct registry line with
  | error fault => exact .pure fun _ together => together
  | ok stages =>
      exact (Command.keeps_together orderly .standardError).maintains.execute stages
        fun _ _ => trivial

theorem runLines_together [ArgumentReader] (orderly : Host.Orderly direct) (registry : Registry)
    (lines : List String) :
    Ensures Context.Together (runLines registry lines : StateM (Context W) _)
      fun _ => Context.Together := by
  induction lines with
  | nil => exact .pure fun _ together => together
  | cons line rest ih => exact (runLine_together orderly registry line).bind fun _ => ih

/-- **The session and the process stay together**, after however many lines, whatever the
commands in them come to.  A `cd` moves both of them or neither of them. -/
theorem directories_together [ArgumentReader] (orderly : Host.Orderly direct) :
    (∀ (registry : Registry) (lines : List String) (context : Context W), context.Together →
      (runLines registry lines context).2.Together) ∧
    ∀ builtin : Builtin, builtin.kind = .cd → builtin.Able → ∀ context : Context W,
      builtin.Travels context (builtin.run context).1.2 (builtin.run context).2 ∧
      (let began := (builtin.setOutput .scratch context).2
       began.session = context.session ∧ began.place = context.place ∧
       (builtin.withOutput .scratch).Travels began
         (builtin.output context).1.2 (builtin.output context).2) := by
  refine ⟨fun registry lines => runLines_together orderly registry lines, ?_⟩
  intro builtin changes able context
  have session := builtin.setOutput_spares Context.aloof_session .scratch context
  have place := builtin.setOutput_spares orderly.aloof_place .scratch context
  exact ⟨Builtin.run_travels orderly changes able context, session, place,
    Builtin.output_travels orderly changes able context⟩

end Interpreter

/-! ### In a world with a map -/

theorem Atlas.orderly : Host.Orderly fun (world : Atlas) path => world.isDirect path = true where
  canonicalize path target world found := by
    simp only [Host.canonicalize] at found
    split at found
    · next direct => exact Except.ok.inj found ▸ direct
    · cases found
  moved target world after _ moved := by
    simp only [Host.changeDirectory, Atlas.move] at moved
    split at moved <;> cases moved
    rfl
  stayed target fault world after refused := by
    simp only [Host.changeDirectory, Atlas.move] at refused
    split at refused <;> cases refused <;> rfl
  aloof :=
    { note := fun _ _ => rfl
      act := by
        intro α operation work context
        cases work with
        | openPipe =>
            simp only [Context.act, Host.openPipe]
            cases context.world.pipes <;> rfl
        | write output bytes =>
            simp only [Context.act, Host.write]
            split <;> rfl
        | _ => rfl }

/-- A small map, with one pipe to be had. -/
def Atlas.village : Context Atlas :=
  Atlas.context [("/", .directory), ("/srv", .directory), ("/srv/web", .link (.ofString "/www")),
    ("/www", .directory), ("/www/page", .file), ("/www/vault", .locked)] 1

/-- Two errands that succeed, five that fail each in its own way, and a line that is cut
short when its `cd` has run already. -/
def Atlas.errands : List String :=
  ["cd srv", "cd web", "cd page", "cd vault", "cd pond", "cd", "cd a b", "cd /srv | pwd | pwd"]

open scoped Arguments

theorem Interpreter.directories_together_village :
    Atlas.village.Together ∧
    (runLines Registry.withBuiltins Atlas.errands Atlas.village).2.Together ∧
    (runLines Registry.withBuiltins Atlas.errands Atlas.village).2.session.directory =
      .ofString "/srv" ∧
    (let cd := (Builtin.fresh .cd).parseArguments ["pond"]
     cd.Travels Atlas.village (cd.run Atlas.village).1.2 (cd.run Atlas.village).2 ∧
     (cd.run Atlas.village).2.world.errorText = Utf8.encode
       "cd: can't canonicalize /pond: No such file or directory (os error 2)\n") :=
  have together : Atlas.village.Together := rfl
  ⟨together, (directories_together Atlas.orderly).1 _ _ _ together, by decide +kernel,
    ((directories_together Atlas.orderly).2 _ rfl (Builtin.able_parseArguments .cd _) _).1,
    by decide +kernel⟩

end PipelineShell
