/-
# Proofs.Pipeline.Filters -- a pipeline of filters is their composition

A filter reads its input to the end, writes what it makes of it, and is done.  What
stages, their inputs and the pipes between them have to be like for this to make sense
is laid down in `Plumbing.Lawful`: a stage that is given the read end of a pipe reads
what the pipe holds, a pipe that is opened is a new one and empty, a stage that is run
adds its text to the pipe behind it and closes it, and the last one answers its text.

Of such stages, `execute_composes` says that the output of the run is the composition of
what they do, applied to what the first stage finds on its own input.  It says as well how
they are wired: each pipe has one stage that writes to it and one that reads from it, the
next one; nothing is given to the first stage and no pipe is opened for the last; and each
stage has an error stream of its own.
-/
import PipelineShell.Proofs.Ledger
import PipelineShell.Proofs.Pipeline.Links

namespace PipelineShell.Pipeline

set_option autoImplicit false

open Stateful

variable {S R E C : Type}

/-- A view of stages as filters, and of the pipes between them.  Pipes are named by their
read ends. -/
structure Plumbing (S R C : Type) where
  /-- The stage is a filter whose output can be bound to a pipe. -/
  inner : S → Prop
  /-- The stage is a filter whose output goes into this pipe, or is there to be collected. -/
  outlet : Option R → S → Prop
  /-- What the filter makes of what it reads. -/
  work : S → Bytes → Bytes
  /-- The stage, when it reads its input to the end, reads this. -/
  reads : C → S → Bytes → Prop
  /-- The pipe, if it was opened. -/
  pipe : C → R → Option Pipe

/-- The answer hands over these bytes, with success or with a status other than 0. -/
def Yields (answer : Except ShellError Bytes) (bytes : Bytes) : Prop :=
  answer = .ok bytes ∨ ∃ name code, answer = .error (.exited name code bytes)

theorem Yields.outputResult {answer : Except ShellError Bytes} {bytes : Bytes}
    (yields : Yields answer bytes) (position : Nat) :
    (outputResult position answer).1 = bytes := by
  rcases yields with rfl | ⟨name, code, rfl⟩
  · rfl
  · rfl

namespace Plumbing

variable (plumbing : Plumbing S R C)

/-- No pipe is lost from one context to the other. -/
def Lasts (before after : C) : Prop :=
  ∀ reader, plumbing.pipe before reader ≠ none → plumbing.pipe after reader ≠ none

/-- What the calls on filters do. -/
structure Lawful (contract : Contract S R E C) (freshError : StateM C E) : Prop where
  /-- A stage that is given the read end of a pipe reads what the pipe holds. -/
  setInput : ∀ able, able = plumbing.inner ∨ able = plumbing.outlet none →
    ∀ s reader text c, able s → plumbing.pipe c reader = some ⟨text, false⟩ →
    let bound := contract.setInput s reader c
    able bound.1 ∧ plumbing.work bound.1 = plumbing.work s ∧
    plumbing.reads bound.2 bound.1 text ∧
    plumbing.Lasts c bound.2
  /-- Every pipe can be opened.  It is a new one, it is empty, and the stage writes to it. -/
  openPipe : ∀ s c, plumbing.inner s → ∃ reader after c',
    contract.openPipe s c = ((.ok reader, after), c') ∧
    plumbing.outlet (some reader) after ∧ plumbing.work after = plumbing.work s ∧
    (∀ text, plumbing.reads c s text → plumbing.reads c' after text) ∧
    plumbing.pipe c reader = none ∧ plumbing.pipe c' reader = some ⟨[], true⟩ ∧
    plumbing.Lasts c c'
  /-- To make an error stream and bind it changes nothing of this. -/
  setError : ∀ s c target, plumbing.outlet target s →
    let error := freshError c
    let bound := contract.setError s error.1 error.2
    plumbing.outlet target bound.1 ∧ plumbing.work bound.1 = plumbing.work s ∧
    (∀ text, plumbing.reads c s text → plumbing.reads bound.2 bound.1 text) ∧
    (∀ reader ∈ target, plumbing.pipe bound.2 reader = plumbing.pipe c reader) ∧
    plumbing.Lasts c bound.2
  /-- A stage that is run reads, writes and is done; what it answers does not matter. -/
  run : ∀ s c text reader content, plumbing.outlet (some reader) s → plumbing.reads c s text →
    plumbing.pipe c reader = some ⟨content, true⟩ →
    plumbing.pipe (contract.run s c).2 reader = some ⟨content ++ plumbing.work s text, false⟩ ∧
    plumbing.Lasts c (contract.run s c).2
  /-- A stage that is asked for its output reads, and answers what it makes of that. -/
  output : ∀ s c text, plumbing.outlet none s → plumbing.reads c s text →
    Yields (contract.output s c).1.1 (plumbing.work s text)

end Plumbing

/-! ## A filter between its calls -/

/-- The read ends that were handed out. -/
def readers (events : List (Event S R E)) : List R :=
  (events.filterMap Event.opened?).map Prod.fst

theorem readers_append (front rest : List (Event S R E)) :
    readers (front ++ rest) = readers front ++ readers rest := by
  rw [readers, List.filterMap_append, List.map_append]
  rfl

/-- A call that is no attempt to open a pipe hands out no read end. -/
theorem readers_append_silent {event : Event S R E} (silent : event.opened? = none)
    (events : List (Event S R E)) : readers (events ++ [event]) = readers events := by
  have nothing : readers [event] = [] := by
    rw [readers, List.filterMap_cons_none silent]
    rfl
  rw [readers_append, nothing, List.append_nil]

theorem nodup_append_silent {event : Event S R E} (silent : event.opened? = none)
    {events : List (Event S R E)} (distinct : (readers events).Nodup) :
    (readers (events ++ [event])).Nodup := by
  rwa [readers_append_silent silent]

namespace Plumbing

variable {plumbing : Plumbing S R C} {contract : Contract S R E C} {freshError : StateM C E}

/-- The pipes that were handed out are there, and no two of them are the same. -/
structure Apart (plumbing : Plumbing S R C) (context : C × List (Event S R E)) : Prop where
  distinct : (readers context.2).Nodup
  there : ∀ reader ∈ readers context.2, plumbing.pipe context.1 reader ≠ none

/-- A call that opens no pipe and loses none keeps pipes apart. -/
theorem Apart.silent {c c' : C} {events : List (Event S R E)} {event : Event S R E}
    (apart : plumbing.Apart (c, events)) (lasts : plumbing.Lasts c c')
    (silent : event.opened? = none) : plumbing.Apart (c', events ++ [event]) where
  distinct := nodup_append_silent silent apart.distinct
  there reader member := by
    rw [readers_append_silent silent] at member
    exact lasts reader (apart.there reader member)

/-- A new pipe is none of those before it. -/
theorem Apart.opened {c c' : C} {events : List (Event S R E)} {reader : R} {content : Pipe}
    (apart : plumbing.Apart (c, events)) (lasts : plumbing.Lasts c c')
    (new : plumbing.pipe c reader = none) (made : plumbing.pipe c' reader = some content)
    (i : Nat) (s : S) : plumbing.Apart (c', events ++ [⟨i, .openPipe (.ok reader), s⟩]) := by
  have readers_eq : readers (events ++ [(⟨i, .openPipe (.ok reader), s⟩ : Event S R E)]) =
      readers events ++ [reader] := readers_append ..
  refine ⟨?_, fun other member => ?_⟩
  · rw [readers_eq, List.nodup_append]
    refine ⟨apart.distinct, by simp, fun one before other here same => ?_⟩
    obtain rfl := List.mem_singleton.1 here
    exact apart.there one before (same ▸ new)
  · rw [readers_eq, List.mem_append, List.mem_singleton] at member
    rcases member with before | rfl
    · exact lasts other (apart.there other before)
    · rw [made]
      exact Option.some_ne_none _

/-- A filter that does this work and reads this text, in the course of a run.  `able` is
what the stage can be expected to do with its output. -/
structure Poised (plumbing : Plumbing S R C) (able : S → Prop) (work : Bytes → Bytes)
    (text : Bytes) (stage : S × Nat) (context : C × List (Event S R E)) : Prop where
  able : able stage.1
  work_eq : plumbing.work stage.1 = work
  reads : plumbing.reads context.1 stage.1 text
  apart : plumbing.Apart context

/-- There is nothing yet in the pipe that the output goes into. -/
def Empty (plumbing : Plumbing S R C) (target : Option R) (c : C) : Prop :=
  ∀ reader ∈ target, plumbing.pipe c reader = some ⟨[], true⟩

/-- The text that a stage is to read: it stands in the pipe whose read end awaits the
stage, or else on the stage's own input. -/
def Awaits (plumbing : Plumbing S R C) (stage : S) (text : Bytes) (c : C) : Option R → Prop
  | some reader => plumbing.pipe c reader = some ⟨text, false⟩
  | none => plumbing.reads c stage text

/-! ## What the calls of a run do to a filter -/

section Calls

variable (lawful : plumbing.Lawful contract freshError) (stage : S × Nat)
  {work : Bytes → Bytes} {text : Bytes} {target : Option R}
include lawful

theorem Lawful.connect {able : S → Prop}
    (initial : able = plumbing.inner ∨ able = plumbing.outlet none) (ready : able stage.1)
    (pending : Option R) :
    Ensures (fun context => plumbing.Awaits stage.1 text context.1 pending ∧ plumbing.Apart context)
      (Pipeline.connect contract.watched stage pending)
      (plumbing.Poised (E := E) able (plumbing.work stage.1) text) := by
  intro (c, events) ⟨awaits, apart⟩
  cases pending with
  | none => exact ⟨ready, rfl, awaits, apart⟩
  | some reader =>
      obtain ⟨still, work_eq, reads, lasts⟩ :=
        lawful.setInput able initial stage.1 reader text c ready awaits
      exact ⟨still, work_eq, reads, apart.silent lasts rfl⟩

theorem Lawful.opens :
    Ensures (plumbing.Poised plumbing.inner work text stage) (contract.watched.openPipe stage)
      fun answer context => match answer.1 with
        | .ok reader =>
            plumbing.Poised (E := E) (plumbing.outlet (some reader)) work text answer.2 context ∧
              plumbing.Empty (some reader) context.1
        | .error _ => False := by
  intro (c, events) poised
  obtain ⟨s, i⟩ := stage
  obtain ⟨reader, after, c', opened, outlet, work_eq, reads, new, made, lasts⟩ :=
    lawful.openPipe s c poised.able
  have empty : plumbing.Empty (some reader) c' := by
    intro end_ same
    obtain rfl := Option.mem_some.1 same
    exact made
  rw [watched_openPipe, opened]
  exact ⟨⟨outlet, work_eq.trans poised.work_eq, reads text poised.reads,
    poised.apart.opened lasts new made i after⟩, empty⟩

/-- To make an error stream and bind it, and then to go on. -/
theorem Lawful.bindError {A : Type} {next : S × Nat → StateM (C × List (Event S R E)) A}
    {after : A → C × List (Event S R E) → Prop}
    (then_ : ∀ bound, Ensures (fun context =>
      plumbing.Poised (plumbing.outlet target) work text bound context ∧
        plumbing.Empty target context.1) (next bound) after) :
    Ensures (fun context => plumbing.Poised (plumbing.outlet target) work text stage context ∧
        plumbing.Empty target context.1)
      (unnoted freshError >>= fun error => contract.watched.setError stage error >>= next) after := by
  intro (c, events) ⟨poised, empty⟩
  obtain ⟨s, i⟩ := stage
  obtain ⟨outlet, work_eq, reads, same, lasts⟩ := lawful.setError s c target poised.able
  refine then_ _ _ ⟨⟨outlet, work_eq.trans poised.work_eq, reads text poised.reads,
    poised.apart.silent lasts rfl⟩, fun reader member => ?_⟩
  exact (same reader member).trans (empty reader member)

theorem Lawful.runs {reader : R} :
    Ensures (fun context => plumbing.Poised (plumbing.outlet (some reader)) work text stage context ∧
        plumbing.Empty (some reader) context.1)
      (contract.watched.run stage)
      fun _ context => plumbing.pipe context.1 reader = some ⟨work text, false⟩ ∧
        plumbing.Apart (E := E) context := by
  intro (c, events) ⟨poised, empty⟩
  obtain ⟨s, i⟩ := stage
  obtain ⟨written, lasts⟩ :=
    lawful.run s c text reader [] poised.able poised.reads (empty reader rfl)
  rw [poised.work_eq] at written
  exact ⟨written, poised.apart.silent lasts rfl⟩

theorem Lawful.collects :
    Ensures (plumbing.Poised (E := E) (plumbing.outlet none) work text stage)
      (contract.watched.output stage) fun answer context =>
        Yields answer.1 (work text) ∧ (readers context.2).Nodup := by
  intro (c, events) poised
  obtain ⟨s, i⟩ := stage
  have yields := lawful.output s c text poised.able poised.reads
  rw [poised.work_eq] at yields
  exact ⟨yields, nodup_append_silent rfl poised.apart.distinct⟩

/-- **One stage passes its text on**: it is started, and what it makes of its input awaits
the next one. -/
theorem Lawful.startStage (inner : plumbing.inner stage.1) (progress : Progress (S × Nat) R) :
    Ensures (fun context => plumbing.Awaits stage.1 text context.1 progress.pending ∧
        plumbing.Apart context)
      (Pipeline.startStage contract.watched (unnoted freshError) stage progress)
      fun answer context => match answer with
        | .ok next =>
            (∀ s, plumbing.Awaits s (plumbing.work stage.1 text) context.1 next.pending) ∧
              plumbing.Apart (E := E) context
        | .error _ => False := by
  refine (lawful.connect stage (Or.inl rfl) inner progress.pending).bind fun connected => ?_
  refine (lawful.opens connected).bind fun (answer, opened) => ?_
  cases answer with
  | error cause => exact fun _ impossible => impossible.elim
  | ok reader =>
      refine lawful.bindError opened fun bound => ?_
      refine (lawful.runs bound).bind fun (result, ran) => ?_
      exact .pure fun _ ⟨written, apart⟩ => ⟨fun _ => written, apart⟩

/-- **Started stages pass the text on**, each to the next: what they make of it, one after
the other, awaits the stage behind them. -/
theorem Lawful.startAll (rest : List (S × Nat))
    (inner : ∀ s ∈ stage :: rest, plumbing.inner s.1) (progress : Progress (S × Nat) R) :
    Ensures (fun context => plumbing.Awaits stage.1 text context.1 progress.pending ∧
        plumbing.Apart context)
      (Pipeline.startAll contract.watched (unnoted freshError) (stage :: rest) progress)
      fun answer context => match answer with
        | .ok next =>
            (∀ s, plumbing.Awaits s ((stage :: rest).foldl (fun text s => plumbing.work s.1 text) text)
              context.1 next.pending) ∧ plumbing.Apart (E := E) context
        | .error _ => False := by
  induction rest generalizing stage progress text with
  | nil =>
      refine (lawful.startStage stage (inner stage (List.mem_cons_self ..)) progress).bind
        fun answer => ?_
      cases answer with
      | error refused => exact fun _ impossible => impossible.elim
      | ok next => exact .pure fun _ held => held
  | cons s rest ih =>
      obtain ⟨here, later⟩ := List.forall_mem_cons.1 inner
      refine (lawful.startStage stage here progress).bind fun answer => ?_
      cases answer with
      | error refused => exact fun _ impossible => impossible.elim
      | ok next => exact (ih s later next).weaken fun _ ⟨awaits, apart⟩ => ⟨awaits s.1, apart⟩

/-- The last stage answers what it makes of the text that awaits it. -/
theorem Lawful.finish (outlet : plumbing.outlet none stage.1)
    (progress : Progress (S × Nat) R) :
    Ensures (fun context => plumbing.Awaits stage.1 text context.1 progress.pending ∧
        plumbing.Apart context)
      (Pipeline.finish contract.watched (unnoted freshError) stage progress)
      fun outcome context => outcome.stdout = plumbing.work stage.1 text ∧
        (readers (E := E) context.2).Nodup := by
  -- No call after the output opens a pipe.
  have silent : contract.watched.Keeps (unnoted freshError) (fun _ => False) (fun _ => True)
      fun context => (readers (E := E) context.2).Nodup :=
    { setInput := fun _ _ impossible => impossible.elim
      openPipe := fun _ impossible => impossible.elim
      setError := fun _ impossible => impossible.elim
      run := fun _ impossible => impossible.elim
      output := fun _ impossible => impossible.elim
      wait := fun _ _ _ distinct => ⟨trivial, nodup_append_silent rfl distinct⟩
      abort := fun _ _ _ distinct => ⟨trivial, nodup_append_silent rfl distinct⟩
      release := fun _ _ _ distinct => nodup_append_silent rfl distinct }
  have nowhere : ∀ c, plumbing.Empty none c := fun c _ impossible => nomatch impossible
  refine (lawful.connect stage (Or.inr rfl) outlet progress.pending).bind fun connected => ?_
  refine (lawful.bindError connected fun bound => ?_).weaken
    fun context poised => ⟨poised, nowhere context.1⟩
  refine ((lawful.collects bound).weaken fun _ held => held.1).bind
    fun (produced, collected) => .of_and fun yields => ?_
  refine (silent.wait collected trivial).bind fun (ended, last) => .of_and fun _ => ?_
  refine (silent.maintains.waitAll 0 progress.started fun _ _ => trivial).bind fun (errors, reaped) =>
    .of_and fun _ => ?_
  refine (silent.maintains.releaseAll reaped fun _ _ => Or.inr trivial).bind fun _ => ?_
  refine (silent.release last (Or.inr trivial)).bind fun _ => ?_
  exact .pure fun _ distinct => ⟨yields.outputResult _, distinct⟩

end Calls

/-- A run of filters succeeds, and its output is what they make of the text, one after the
other. -/
theorem Lawful.execute (lawful : plumbing.Lawful contract freshError) (before : List (S × Nat))
    (last : S × Nat) (inner : ∀ s ∈ before, plumbing.inner s.1)
    (outlet : plumbing.outlet none last.1) (text : Bytes) :
    Ensures (fun context => (∀ first ∈ (before ++ [last]).head?,
          plumbing.reads context.1 first.1 text) ∧ plumbing.Apart context)
      (Pipeline.execute contract.watched (unnoted freshError) (before ++ [last]))
      fun answer context => (∃ outcome, answer = .ok outcome ∧
          outcome.stdout = (before ++ [last]).foldl (fun text s => plumbing.work s.1 text) text) ∧
        (readers (E := E) context.2).Nodup := by
  rw [Pipeline.execute, List.getLast?_concat, List.dropLast_concat, List.foldl_append]
  cases before with
  | nil =>
      intro context held
      have finished := lawful.finish last outlet ⟨[], [], none⟩ context ⟨held.1 last rfl, held.2⟩
      exact ⟨⟨_, rfl, finished.1⟩, finished.2⟩
  | cons first middle =>
      refine Ensures.bind ((lawful.startAll first middle inner ⟨[], [], none⟩).weaken
        fun _ held => ⟨held.1 first rfl, held.2⟩) fun answer => ?_
      cases answer with
      | error fault => exact fun _ impossible => impossible.elim
      | ok progress =>
          refine Ensures.map fun context held => ?_
          have finished := lawful.finish last outlet progress context ⟨held.1 last.1, held.2⟩
          exact ⟨⟨_, rfl, finished.1⟩, finished.2⟩

end Plumbing

/-! ## Scripted commands as filters -/

/-- The command reads all of its input, has nothing to complain about, and can be given a
pipe. -/
structure Willing (s : Scripted) : Prop where
  pipeFailure : s.script.pipeFailure = none
  outputFailure : s.script.outputFailure = none
  complains : s.script.complains = []
  deaf : s.script.deaf = false
  error : s.streams.error = .standardError

/-- Scripted commands in the ledger world: each of them adds its own text to what it
reads. -/
def scribes : Plumbing Command InputHandle (Context Ledger) where
  inner
    | .scripted s => Willing s ∧ s.streams.output = .standardOutput
    | _ => False
  outlet
    | none, .scripted s => Willing s
    | some (.pipe id), .scripted s =>
        Willing s ∧ s.outputBound = true ∧ s.streams.output = .pipe id
    | _, _ => False
  work
    | .scripted s, text => text ++ s.script.emits
    | _, text => text
  reads c
    | .scripted s, text =>
        (s.inputBound = false ∧ text = []) ∨
          ∃ id, s.inputBound = true ∧ s.streams.input = .pipe id ∧
            c.world.pipes[id]? = some ⟨text, false⟩
    | _, _ => False
  pipe c
    | .pipe id => c.world.pipes[id]?
    | _ => none

theorem scribes_lasts {c c' : Context Ledger}
    (grows : c.world.pipes.length ≤ c'.world.pipes.length) : scribes.Lasts c c' := by
  intro reader there
  cases reader with
  | pipe id =>
      have inside : id < c.world.pipes.length := by
        simpa [scribes] using there
      simpa [scribes] using Nat.lt_of_lt_of_le inside grows
  | _ => exact absurd rfl there

theorem scribes_willing {target : Option InputHandle} {s : Scripted}
    (outlet : scribes.outlet target (.scripted s)) : Willing s := by
  cases target with
  | none => exact outlet
  | some reader =>
      cases reader with
      | pipe id => exact outlet.1
      | _ => exact outlet.elim

/-- The command gets to read what it is to read, and other pipes stay as they are. -/
theorem scribes_received {s : Scripted} {c : Context Ledger} {text : Bytes}
    (hears : s.script.deaf = false) (reads : scribes.reads c (.scripted s) text) :
    ∃ c', s.received c = (text, c') ∧ c'.world.pipes.length = c.world.pipes.length ∧
      ∀ (id : Nat) (content : Bytes), c.world.pipes[id]? = some ⟨content, true⟩ →
        c'.world.pipes[id]? = some ⟨content, true⟩ := by
  rcases reads with ⟨unbound, rfl⟩ | ⟨source, bound, from_, full⟩
  · refine ⟨c, ?_, rfl, fun _ _ open_ => open_⟩
    simp [Scripted.received, unbound, pure_apply]
  · refine ⟨{ c with world := c.world.onPipe Pipe.drain source }, ?_, List.length_modify .., ?_⟩
    · simp [Scripted.received, bound, hears, from_, bind_apply, Context.act, Host.readToEnd, full,
        pure_apply]
    · intro id content open_
      have other : source ≠ id := by
        rintro rfl
        cases full.symm.trans open_
      rw [← open_]
      exact List.getElem?_modify_ne _ _ other

/-- A command that is run writes its text into the pipe behind it and closes that. -/
theorem scribes_run {s : Scripted} {c c' : Context Ledger} {text : Bytes} {id : Nat}
    (willing : Willing s) (bound : s.outputBound = true) (output : s.streams.output = .pipe id)
    (received : s.received (s.note "run" c).2 = (text, c')) :
    (Command.contract.run (.scripted s) c).2.world.pipes =
      c'.world.pipes.modify id fun pipe => (pipe.append (text ++ s.script.emits)).close := by
  have world : (Command.contract.run (.scripted s) c).2.world =
      (c'.world.accept (text ++ s.script.emits) (.pipe id)).onPipe Pipe.close id := by
    simp only [Command.contract, Command.run, map_apply, Scripted.run, Scripted.text, bind_apply,
      received, bound, if_true, pure_apply, willing.complains, output, Context.act,
      Ledger.writeAll_eq, Ledger.accept_nil, Streams.bindOutput, Streams.bindInput]
    cases s.script.runFailure <;> rfl
  rw [world, Ledger.pipes_close_accept]

theorem scribes_lawful :
    scribes.Lawful Command.contract (pure .standardError : StateM (Context Ledger) OutputHandle) where
  setInput able initial command reader text c ready full := by
    cases reader with
    | pipe id =>
        have lasts : scribes.Lasts c (Command.contract.setInput command (.pipe id) c).2 :=
          scribes_lasts (by cases command <;> exact Nat.le_refl _)
        cases command with
        | scripted s =>
            have reads : scribes.reads (Command.contract.setInput (.scripted s) (.pipe id) c).2
                (Command.contract.setInput (.scripted s) (.pipe id) c).1 text :=
              Or.inr ⟨id, rfl, rfl, full⟩
            rcases initial with rfl | rfl
            · obtain ⟨⟨pipes, outputs, silent, hears, error⟩, output⟩ := ready
              exact ⟨⟨⟨pipes, outputs, silent, hears, error⟩, output⟩, rfl, reads, lasts⟩
            · obtain ⟨pipes, outputs, silent, hears, error⟩ := ready
              exact ⟨⟨pipes, outputs, silent, hears, error⟩, rfl, reads, lasts⟩
        | _ => rcases initial with rfl | rfl <;> exact ready.elim
    | _ => cases full
  openPipe command c inner := by
    cases command with
    | scripted s =>
        obtain ⟨⟨label, emits, complains, runFailure, outputFailure, wait, pipeFailure, deaf, rest⟩,
          arguments, ⟨input, output, error⟩, inputBound, outputBound⟩ := s
        obtain ⟨⟨rfl, rfl, rfl, rfl, rfl⟩, rfl⟩ := inner
        refine ⟨.pipe c.world.pipes.length, _, _, rfl, ⟨⟨rfl, rfl, rfl, rfl, rfl⟩, rfl, rfl⟩, rfl,
          ?_, ?_, ?_, ?_⟩
        · rintro text (unread | ⟨id, bound, from_, full⟩)
          · exact Or.inl unread
          · have inside : id < c.world.pipes.length := (List.getElem?_eq_some_iff.1 full).1
            refine Or.inr ⟨id, bound, from_, ?_⟩
            exact (List.getElem?_append_left inside).trans full
        · exact List.getElem?_eq_none (Nat.le_refl _)
        · exact List.getElem?_concat_length
        · refine scribes_lasts ?_
          exact List.length_append.symm ▸ Nat.le_add_right _ _
    | _ => exact inner.elim
  setError command c target outlet := by
    cases command with
    | scripted s =>
        obtain ⟨script, arguments, ⟨input, output, error⟩, inputBound, outputBound⟩ := s
        obtain rfl : error = .standardError := (scribes_willing outlet).error
        exact ⟨outlet, rfl, fun _ reads => reads, fun _ _ => rfl, fun _ there => there⟩
    | _ => cases target with
      | none => exact outlet.elim
      | some reader => cases reader <;> exact outlet.elim
  run command c text reader content outlet reads writable := by
    cases command with
    | scripted s =>
        cases reader with
        | pipe id =>
            obtain ⟨willing, bound, output⟩ := outlet
            obtain ⟨c', received, length, others⟩ :=
              scribes_received (c := (s.note "run" c).2) willing.deaf reads
            have before : c'.world.pipes[id]? = some ⟨content, true⟩ := others id content writable
            have pipes := scribes_run willing bound output received
            refine ⟨?_, scribes_lasts ?_⟩
            · change (Command.contract.run (.scripted s) c).2.world.pipes[id]? = _
              rw [pipes, List.getElem?_modify_eq, before]
              rfl
            · rw [pipes, List.length_modify, length]
              exact Nat.le_refl _
        | _ => exact outlet.elim
    | _ => cases reader <;> exact outlet.elim
  output command c text outlet reads := by
    cases command with
    | scripted s =>
        obtain ⟨c', received, -, -⟩ := scribes_received (c := (s.note "output" c).2) outlet.deaf reads
        refine Or.inl ?_
        simp only [Command.contract, Command.output, map_apply, Scripted.output, Scripted.text,
          bind_apply, received, outlet.outputFailure]
        rfl
    | _ => exact outlet.elim

/-! ## The composition of filters -/

/-- **A pipeline of filters is their composition.**  The run succeeds, and its output is
what the filters make, one after the other, of what the first of them finds on its own
input.  The pipes, named by their read ends, are all different; the one at position `i` is
opened for the output of stage `i` and given to stage `i + 1`, and no other end changes
hands; and every stage is given an error stream that was made for it. -/
theorem execute_composes (plumbing : Plumbing S R C) (contract : Contract S R E C)
    (freshError : StateM C E) (lawful : plumbing.Lawful contract freshError) (stages : List S)
    (context : C) (x : Bytes) (nonempty : stages ≠ [])
    (inner : ∀ s ∈ stages.dropLast, plumbing.inner s)
    (outlet : ∀ last ∈ stages.getLast?, plumbing.outlet none last)
    (reads : ∀ first ∈ stages.head?, plumbing.reads context first x) :
    (∃ outcome, (execute contract freshError stages context).1 = .ok outcome ∧
      outcome.stdout = stages.foldl (fun text s => plumbing.work s text) x) ∧
    ∃ ends : List R, ends.Nodup ∧ ends.length + 1 = stages.length ∧
      Wired (transcript contract freshError stages context) ends
        (errorsMade contract freshError stages context) ∧
      (errorsMade contract freshError stages context).length = stages.length := by
  obtain ⟨before, last, rfl⟩ : ∃ before last, stages = before ++ [last] :=
    ⟨stages.dropLast, stages.getLast nonempty, (List.dropLast_concat_getLast nonempty).symm⟩
  have numbered : (before ++ [last]).zipIdx = before.zipIdx ++ [(last, before.length)] := by
    simp [List.zipIdx_append]
  have early : ∀ s ∈ before.zipIdx, plumbing.inner s.1 := by
    rw [List.dropLast_concat] at inner
    exact fun s member => inner s.1 (List.fst_mem_of_mem_zipIdx member)
  have start : (∀ first ∈ ((before ++ [last]).zipIdx).head?, plumbing.reads context first.1 x) ∧
      plumbing.Apart (E := E) (context, []) := by
    refine ⟨fun first member => reads first.1 ?_, ⟨List.nodup_nil, by simp [readers]⟩⟩
    rw [← List.zipIdx_map_fst 0 (before ++ [last]), List.head?_map]
    exact Option.mem_map_of_mem _ member
  rw [numbered] at start
  have run := lawful.execute before.zipIdx (last, before.length) early
    (outlet last List.getLast?_concat) x (context, []) start
  rw [← numbered] at run
  obtain ⟨⟨outcome, succeeds, stdout⟩, distinct⟩ := run
  have answer : (execute contract freshError (before ++ [last]) context).1 = .ok outcome := by
    rw [← watch_forget]
    exact succeeds
  have through : (before ++ [last]).foldl (fun text s => plumbing.work s text) x =
      ((before ++ [last]).zipIdx).foldl (fun text s => plumbing.work s.1 text) x := by
    rw [← List.foldl_map (f := Prod.fst) (g := fun text s => plumbing.work s text),
      List.zipIdx_map_fst]
  obtain ⟨ends, wired, between, errors⟩ :=
    wired_of_opened contract freshError (before ++ [last]) context nonempty (opened_of_ok answer)
  refine ⟨⟨outcome, answer, stdout.trans through.symm⟩, ends, ?_, between, wired, errors⟩
  have ends_eq : readers (transcript contract freshError (before ++ [last]) context) = ends := by
    rw [readers, wired.opened, List.zipIdx_map_fst]
  rw [← ends_eq]
  exact distinct

/-- Three commands that add a letter each to what they read. -/
def relay : List Command :=
  [.scripted (.fresh { Quiet.script "first" with emits := Utf8.encode "a" }),
    .scripted (.fresh { Quiet.script "second" with emits := Utf8.encode "b" }),
    .scripted (.fresh { Quiet.script "third" with emits := Utf8.encode "c" })]

theorem execute_composes_relay :
    relay ≠ [] ∧ (∀ s ∈ relay.dropLast, scribes.inner s) ∧
      (∀ last ∈ relay.getLast?, scribes.outlet none last) ∧
      (∀ first ∈ relay.head?, scribes.reads Ledger.context first []) ∧
      (∃ outcome, (execute Command.contract (pure .standardError) relay Ledger.context).1 =
        .ok outcome ∧ outcome.stdout = Utf8.encode "abc") ∧
      ∃ ends : List InputHandle, ends.Nodup ∧ ends.length = 2 ∧
        Wired (transcript Command.contract (pure .standardError) relay Ledger.context) ends
          (errorsMade Command.contract (pure .standardError) relay Ledger.context) := by
  have nonempty : relay ≠ [] := List.cons_ne_nil _ _
  have willing : ∀ label emits, Willing (.fresh { Quiet.script label with emits }) := fun _ _ =>
    ⟨rfl, rfl, rfl, rfl, rfl⟩
  have inner : ∀ s ∈ relay.dropLast, scribes.inner s := by
    intro s member
    rcases List.mem_cons.1 member with rfl | member
    · exact ⟨willing _ _, rfl⟩
    · obtain rfl := List.mem_singleton.1 member
      exact ⟨willing _ _, rfl⟩
  have outlet : ∀ last ∈ relay.getLast?, scribes.outlet none last := by
    intro last member
    obtain rfl := Option.some.inj member
    exact willing _ _
  have reads : ∀ first ∈ relay.head?, scribes.reads Ledger.context first [] := by
    intro first member
    obtain rfl := Option.some.inj member
    exact Or.inl ⟨rfl, rfl⟩
  obtain ⟨⟨outcome, answer, stdout⟩, ends, distinct, between, wired, -⟩ :=
    execute_composes scribes Command.contract (pure .standardError) scribes_lawful relay
      Ledger.context [] nonempty inner outlet reads
  exact ⟨nonempty, inner, outlet, reads, ⟨outcome, answer, stdout⟩, ends, distinct,
    Nat.succ.inj between, wired⟩

end PipelineShell.Pipeline
