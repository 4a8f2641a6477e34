/-
# Proofs.Rebinding -- where the output of a builtin goes

Before a builtin runs, its output may be bound to one stream after the other, pipes may be
opened for it, and the readers of those may go away (`Builtin.Preparation`).  Of all these
bindings only the last one counts.  Every pipe that was opened before it is closed without a
byte in it, so that its reader is at the end of the file at once; no other stream is written
to; and when the builtin has run, the stream that was bound last has accepted what is on
record, or a background writer has it to write into the pipe that was opened last.  It has
no reader to wait for, however much there is to write.

`Prepared` says how it stands before the run, whatever was done, and is kept up by each
preparation.
-/
import PipelineShell.Arguments.Scan
import PipelineShell.Proofs.Cistern
import PipelineShell.Proofs.Lifecycle.Builtin

namespace PipelineShell.Builtin

set_option autoImplicit false

open Stateful

variable {W F α : Type} [Host W]

/-! ## Preparations -/

/-- What may be done before a builtin runs. -/
inductive Preparation where
  /-- Its output is bound to a stream. -/
  | bind (output : OutputHandle)
  /-- A pipe is opened for its output. -/
  | tap
  /-- Someone lets go of a read end. -/
  | drop (input : InputHandle)
  deriving DecidableEq, Repr

/-- Where the output of a builtin goes. -/
inductive Target where
  | stream (output : OutputHandle)
  | pipe (id : Nat)
  deriving DecidableEq, Repr

/-- The stream that the builtin itself writes to. -/
def Target.output : Target → OutputHandle
  | .stream output => output
  | .pipe _ => .scratch

/-- Does what is to be done before a run; answers what the output is bound to by it. -/
def prepare (builtin : Builtin) : Preparation → StateM (Context W) (Option Target × Builtin)
  | .bind output => do
      let bound ← builtin.setOutput output
      pure (some (.stream output), bound)
  | .tap => do
      match ← builtin.openPipe with
      | (.ok (.pipe pipe), bound) => pure (some (.pipe pipe), bound)
      | (_, bound) => pure (none, bound)
  | .drop input => do
      Context.act (Host.closeInput input)
      pure (none, builtin)

/-- Does one thing after the other; answers all that the output was bound to. -/
def prepareAll (builtin : Builtin) :
    List Preparation → StateM (Context W) (List Target × Builtin)
  | [] => pure ([], builtin)
  | preparation :: rest => do
      let (target, prepared) ← builtin.prepare preparation
      let (targets, prepared) ← prepared.prepareAll rest
      pure (target.toList ++ targets, prepared)

/-- A builtin with words, whose errors go to this stream. -/
def worded [ArgumentReader] (kind : Kind) (words : List String) (error : OutputHandle) : Builtin :=
  { (fresh kind).parseArguments words with streams := ⟨.inherited, .standardOutput, error⟩ }

/-- The builtin with its output bound, if there is something to bind it to. -/
def directed (builtin : Builtin) : Option Target → Builtin
  | none => builtin
  | some (.stream output) => builtin.withOutput output
  | some (.pipe pipe) => { builtin.withOutput .scratch with pipe := some pipe }

theorem withOutput_directed (builtin : Builtin) (target : Option Target)
    (output : OutputHandle) :
    (builtin.directed target).withOutput output = builtin.withOutput output := by
  rcases target with _ | ⟨_ | _⟩ <;> rfl

theorem prepare_drop (builtin : Builtin) (input : InputHandle) (context : Context W) :
    builtin.prepare (.drop input) context =
      ((none, builtin), (Context.act (Host.closeInput input) context).2) := rfl

theorem prepare_bind (builtin : Builtin) (output : OutputHandle) (context : Context W) :
    builtin.prepare (.bind output) context =
      ((some (.stream output), builtin.withOutput output),
        (builtin.setOutput output context).2) := by
  simp only [prepare, bind_apply, setOutput_eq, pure_apply]

theorem prepare_tap (builtin : Builtin) (context : Context W) :
    builtin.prepare .tap context =
      let opened := Context.act Host.openPipe context
      match opened.1 with
      | .error _ => ((none, builtin), opened.2)
      | .ok pipe =>
          ((some (.pipe pipe), { builtin.withOutput .scratch with pipe := some pipe }),
            (builtin.setOutput .scratch opened.2).2) := by
  simp only [prepare, openPipe, bind_apply]
  rcases Context.act Host.openPipe context with ⟨fault | pipe, opened⟩
  · rfl
  · simp only [bind_apply, setOutput_eq, pure_apply]

/-! ## What is not touched -/

variable {outlets : Outlets W F} {error : OutputHandle}

/-- To bind the output is to close what it was bound to. -/
theorem setOutput_keeps {builtin : Builtin} {holds : W → Prop}
    (closes : Keeps holds (Host.closeOutput builtin.streams.output))
    (drops : ∀ pipe, builtin.pipe = some pipe → Keeps holds (Host.closeOutput (.pipe pipe)))
    (output : OutputHandle) :
    Keeps (fun context : Context W => holds context.world) (builtin.setOutput output) := by
  intro context here
  obtain ⟨kind, arguments, reading?, streams, pipe, delivery, recorded, status⟩ := builtin
  cases pipe with
  | none => exact closes _ here
  | some pipe => exact drops pipe rfl _ (closes _ here)

variable (outlets) in
/-- Nothing has happened since the first of these contexts, except to pipes. -/
structure Untouched (begun now : Context W) : Prop where
  session : now.session = begun.session
  journal : now.journal = begun.journal
  rest : outlets.SameRest now.world begun.world
  accepted : ∀ output, outlets.accepted output now.world = outlets.accepted output begun.world
  /-- Pipes that were opened do not vanish. -/
  lasting : ∀ pipe, outlets.Known pipe begun.world → outlets.Known pipe now.world

omit [Host W] in
theorem Untouched.refl (context : Context W) : Untouched outlets context context :=
  ⟨rfl, rfl, rfl, fun _ => rfl, fun _ => id⟩

omit [Host W] in
theorem untouched_act {change : Nat → Conduit → Conduit} {operation : StateM W α}
    (plumbs : outlets.Plumbs change operation) (begun : Context W) :
    Keeps (Untouched outlets begun) (Context.act operation) := by
  intro now ⟨session, journal, rest, accepted, lasting⟩
  exact ⟨session, journal, (plumbs.hidden now.world).trans rest,
    fun output => (plumbs.silent output now.world).trans (accepted output),
    fun pipe known => (plumbs.turns pipe).keeps_known _ (lasting pipe known)⟩

theorem untouched_setOutput (lawful : outlets.Lawful error) (builtin : Builtin)
    (output : OutputHandle) (begun : Context W) :
    Keeps (Untouched outlets begun) (builtin.setOutput output) := by
  refine ((untouched_act (lawful.closeOutput _) begun).bind fun _ => .pure _).bind fun _ => ?_
  unfold closePipe
  dsimp only
  cases builtin.pipe with
  | none => exact .pure _
  | some pipe => exact (untouched_act (lawful.closeOutput _) begun).bind fun _ => .pure _

theorem setOutput_stands (lawful : outlets.Lawful error) {builtin : Builtin} {pipe : Nat}
    {good : Conduit → Prop} (steady : Conduit.Steady good) (output : OutputHandle) :
    Keeps (fun context : Context W => outlets.Stands pipe good context.world)
      (builtin.setOutput output) :=
  setOutput_keeps (lawful.closeOutput_stands steady _)
    (fun _ _ => lawful.closeOutput_stands steady _) output

/-! ## How it stands before the run -/

/-- Only the pipe that was opened last, if nothing was bound after it, is held. -/
def writerOf (targets : List Target) (pipe : Nat) : Writer :=
  if targets.getLast? = some (.pipe pipe) then .held else .gone

theorem writerOf_calm (targets : List Target) (pipe : Nat) : (writerOf targets pipe).Calm := by
  unfold writerOf
  split
  · exact Writer.calm_held
  · exact Writer.calm_gone

theorem writerOf_concat_of_ne {target : Target} {pipe : Nat} (other : target ≠ .pipe pipe)
    (targets : List Target) : writerOf (targets ++ [target]) pipe = .gone := by
  simp [writerOf, other]

theorem writerOf_concat_self (targets : List Target) (pipe : Nat) :
    writerOf (targets ++ [.pipe pipe]) pipe = .held := by
  simp [writerOf]

variable (outlets) in
/-- A builtin whose output was bound to these targets, one after the other.  The readers of
some pipes were spared. -/
structure Prepared (spared : Nat → Prop) (start : Builtin) (begun : Context W)
    (targets : List Target) (bound : Builtin) (now : Context W) : Prop where
  same : bound = start.directed targets.getLast?
  untouched : Untouched outlets begun now
  /-- A pipe that the builtin writes to as to any stream was there before, -/
  own : ∀ pipe, bound.streams.output = .pipe pipe → outlets.Known pipe begun.world
  /-- and is none of those that were opened for it. -/
  fresh : ∀ pipe, .pipe pipe ∈ targets → ¬ outlets.Known pipe begun.world
  behind : ∀ pipe, bound.pipe = some pipe → .pipe pipe ∈ targets
  /-- The pipe that was opened last was not opened before. -/
  once : ∀ pipe, targets.getLast? = some (.pipe pipe) → .pipe pipe ∉ targets.dropLast
  rests : ∀ pipe, .pipe pipe ∈ targets →
    outlets.Rests pipe (writerOf targets pipe) now.world
  attended : ∀ pipe, .pipe pipe ∈ targets → spared pipe → outlets.Attended pipe now.world

variable {spared : Nat → Prop} {start bound : Builtin} {begun now : Context W}
  {targets : List Target}

omit [Host W] in
theorem prepared_nil (outlets : Outlets W F) (spared : Nat → Prop) {start : Builtin}
    (unpiped : start.pipe = none) (begun : Context W)
    (own : ∀ pipe, start.streams.output = .pipe pipe → outlets.Known pipe begun.world) :
    Prepared outlets spared start begun [] start begun where
  same := rfl
  untouched := .refl begun
  own := own
  fresh _ member := absurd member List.not_mem_nil
  behind pipe here := by
    rw [unpiped] at here
    cases here
  once _ here := by cases here
  rests _ member := absurd member List.not_mem_nil
  attended _ member := absurd member List.not_mem_nil

namespace Prepared

variable (prepared : Prepared outlets spared start begun targets bound now)
include prepared

omit [Host W] in
/-- A call on pipes that lets them lie still. -/
theorem act {change : Nat → Conduit → Conduit} {operation : StateM W α}
    (plumbs : outlets.Plumbs change operation)
    (still : ∀ pipe writer, writer.Calm → Keeps (outlets.Rests pipe writer) operation)
    (attends : ∀ pipe, spared pipe → Keeps (outlets.Attended pipe) operation) :
    Prepared outlets spared start begun targets bound (Context.act operation now).2 where
  same := prepared.same
  untouched := untouched_act plumbs begun now prepared.untouched
  own := prepared.own
  fresh := prepared.fresh
  behind := prepared.behind
  once := prepared.once
  rests pipe member :=
    still pipe _ (writerOf_calm targets pipe) _ (prepared.rests pipe member)
  attended pipe member keeps := attends pipe keeps _ (prepared.attended pipe member keeps)

variable (lawful : outlets.Lawful error)
include lawful

theorem act_openPipe :
    Prepared outlets spared start begun targets bound (Context.act Host.openPipe now).2 :=
  prepared.act lawful.openPipe
    (fun _ _ calm => lawful.openPipe.keeps_stands (Conduit.stable_unused calm) rfl)
    (fun _ _ => lawful.openPipe.keeps_stands Conduit.steady_reading.stable rfl)

/-- When the output is bound anew, every pipe that was opened for it is closed. -/
theorem closes (output : OutputHandle) (pipe : Nat) (member : .pipe pipe ∈ targets) :
    outlets.Rests pipe .gone (bound.setOutput output now).2.world := by
  have rests := prepared.rests pipe member
  by_cases latest : targets.getLast? = some (.pipe pipe)
  · rw [writerOf, if_pos latest] at rests
    -- the scratch buffer is let go of first, and then the pipe
    have scratch : OutputHandle.scratch ≠ .pipe pipe := nofun
    have kept := (lawful.closeOutput .scratch).keeps_stands
      (Conduit.stable_unused Writer.calm_held) (Outlets.ofOutput_of_ne scratch _) _ rests
    rw [prepared.same, latest]
    exact lawful.closeOutput_closes kept
  · rw [writerOf, if_neg latest] at rests
    exact setOutput_stands lawful Conduit.steady_gone output now rests

theorem bind (output : OutputHandle)
    (own : ∀ pipe, output = .pipe pipe → outlets.Known pipe begun.world) :
    Prepared outlets spared start begun (targets ++ [.stream output]) (bound.withOutput output)
      (bound.setOutput output now).2 where
  same := by
    rw [prepared.same, withOutput_directed, List.getLast?_concat]
    rfl
  untouched := untouched_setOutput lawful bound output begun now prepared.untouched
  own := own
  fresh pipe member := by
    rcases List.mem_append.1 member with before | here
    · exact prepared.fresh pipe before
    · cases List.mem_singleton.1 here
  behind pipe here := by cases here
  once pipe here := by
    rw [List.getLast?_concat] at here
    cases here
  rests pipe member := by
    have other : Target.stream output ≠ .pipe pipe := nofun
    rcases List.mem_append.1 member with before | here
    · rw [writerOf_concat_of_ne other]
      exact prepared.closes lawful output pipe before
    · exact absurd (List.mem_singleton.1 here).symm other
  attended pipe member keeps := by
    rcases List.mem_append.1 member with before | here
    · exact setOutput_stands lawful Conduit.steady_reading output now
        (prepared.attended pipe before keeps)
    · cases List.mem_singleton.1 here

/-- A pipe that is opened is held, and everything that the builtin had before is closed. -/
theorem tap {pipe : Nat} (opened : (Host.openPipe now.world).1 = .ok pipe) :
    Prepared outlets spared start begun (targets ++ [.pipe pipe])
      { bound.withOutput .scratch with pipe := some pipe }
      (bound.setOutput .scratch (Context.act Host.openPipe now).2).2 := by
  obtain ⟨new, held⟩ := lawful.opened pipe now.world opened
  have unknown : ¬ outlets.Known pipe now.world := by
    intro known
    rw [Outlets.Known, new] at known
    cases known
  have after : Prepared outlets spared start begun targets bound
      (Context.act Host.openPipe now).2 := prepared.act_openPipe lawful
  have other : ∀ old, .pipe old ∈ targets → old ≠ pipe := by
    rintro _ member rfl
    exact unknown (prepared.rests _ member).known
  -- neither the stream nor the pipe that is given up is the new one
  have kept : outlets.Rests pipe .held
      (bound.setOutput .scratch (Context.act Host.openPipe now).2).2.world := by
    refine setOutput_keeps ?_ (fun old behind => ?_) .scratch _ ⟨_, held, true, rfl⟩
    all_goals
      refine (lawful.closeOutput _).keeps_stands (Conduit.stable_unused Writer.calm_held)
        (Outlets.ofOutput_of_ne ?_ _)
    · exact fun same => unknown (prepared.untouched.lasting pipe (prepared.own pipe same))
    · exact fun same => other old (prepared.behind old behind) (OutputHandle.pipe.inj same)
  constructor
  case same =>
    rw [prepared.same, withOutput_directed, List.getLast?_concat]
    rfl
  case untouched => exact untouched_setOutput lawful bound .scratch begun _ after.untouched
  case own =>
    intro old here
    cases here
  case fresh =>
    intro old member
    rcases List.mem_append.1 member with before | here
    · exact prepared.fresh old before
    · cases List.mem_singleton.1 here
      exact mt (prepared.untouched.lasting pipe) unknown
  case behind =>
    rintro _ ⟨⟩
    exact List.mem_append_right _ (List.mem_singleton_self _)
  case once =>
    intro old here member
    rw [List.getLast?_concat] at here
    rw [List.dropLast_concat] at member
    cases here
    exact other pipe member rfl
  case rests =>
    intro old member
    rcases List.mem_append.1 member with before | here
    · have apart : Target.pipe pipe ≠ .pipe old :=
        fun same => other old before (Target.pipe.inj same).symm
      rw [writerOf_concat_of_ne apart]
      exact after.closes lawful .scratch old before
    · cases List.mem_singleton.1 here
      rw [writerOf_concat_self]
      exact kept
  case attended =>
    intro old member keeps
    refine setOutput_stands lawful Conduit.steady_reading .scratch _ ?_
    rcases List.mem_append.1 member with before | here
    · exact after.attended old before keeps
    · cases List.mem_singleton.1 here
      exact ⟨_, held, rfl⟩

/-- **However a builtin is prepared, it is known how it stands.** -/
theorem prepareAll (preparations : List Preparation)
    (own : ∀ pipe, .bind (.pipe pipe) ∈ preparations → outlets.Known pipe begun.world)
    (spares : ∀ pipe, spared pipe → .drop (.pipe pipe) ∉ preparations) :
    Prepared outlets spared start begun (targets ++ (bound.prepareAll preparations now).1.1)
      (bound.prepareAll preparations now).1.2 (bound.prepareAll preparations now).2 := by
  induction preparations generalizing targets bound now with
  | nil =>
      simpa only [Builtin.prepareAll, pure_apply, List.append_nil] using prepared
  | cons preparation rest ih =>
      have step : Prepared outlets spared start begun
          (targets ++ (bound.prepare preparation now).1.1.toList)
          (bound.prepare preparation now).1.2 (bound.prepare preparation now).2 := by
        cases preparation with
        | drop input =>
            rw [prepare_drop, Option.toList_none, List.append_nil]
            refine prepared.act (lawful.closeInput input)
              (fun _ _ calm => lawful.closeInput_rests calm input) fun pipe keeps => ?_
            have apart : input ≠ .pipe pipe := by
              rintro rfl
              exact spares pipe keeps List.mem_cons_self
            exact (lawful.closeInput input).keeps_stands Conduit.steady_reading.stable
              (Outlets.ofInput_of_ne apart _)
        | bind output =>
            rw [prepare_bind]
            exact prepared.bind lawful output fun pipe same =>
              own pipe (same ▸ List.mem_cons_self)
        | tap =>
            have failed : Prepared outlets spared start begun targets bound
                (Context.act Host.openPipe now).2 :=
              prepared.act_openPipe lawful
            rw [prepare_tap]
            dsimp only
            cases opened : (Context.act Host.openPipe now).1 with
            | error fault => simpa only [Option.toList_none, List.append_nil] using failed
            | ok pipe => exact prepared.tap lawful opened
      have later := ih step (fun pipe member => own pipe (List.mem_cons_of_mem _ member))
        fun pipe keeps member => spares pipe keeps (List.mem_cons_of_mem _ member)
      simpa only [Builtin.prepareAll, bind_apply, pure_apply, List.append_assoc] using later

end Prepared

/-! ## After the work -/

section Concluding

variable {builtin : Builtin} (lawful : outlets.Lawful error)
include lawful

theorem untouched_conclude (accepted : Bytes) (begun : Context W) :
    Keeps (Untouched outlets begun) (builtin.conclude accepted) := by
  refine (untouched_act (lawful.flush _) begun).bind fun _ => ?_
  refine ((untouched_act (lawful.closeInput _) begun).bind fun _ => .pure _).bind fun streams => ?_
  unfold startDelivery
  dsimp only
  cases builtin.pipe with
  | none => exact .pure _
  | some pipe =>
      refine ((untouched_act (lawful.closeOutput _) begun).bind fun _ => .pure _).bind fun _ => ?_
      exact (untouched_act (lawful.deliver _ _) begun).bind fun _ => .pure _

theorem conclude_stands {good : Conduit → Prop} {pipe : Nat} (steady : Conduit.Steady good)
    (apart : builtin.streams.input ≠ .pipe pipe) (accepted : Bytes) :
    Keeps (fun context : Context W => outlets.Stands pipe good context.world)
      (builtin.conclude accepted) := by
  intro context stands
  obtain ⟨kind, arguments, reading?, streams, behind, delivery, recorded, status⟩ := builtin
  have passed := (lawful.closeInput streams.input).keeps_stands steady.stable
    (Outlets.ofInput_of_ne apart _) _
    ((lawful.flush streams.output).keeps_stands steady.stable rfl _ stands)
  cases behind with
  | none => exact passed
  | some other =>
      exact lawful.deliver_stands steady _ _ _ (lawful.closeOutput_stands steady _ _ passed)

/-- The record is on its way into the pipe behind the output, and nothing of it was read. -/
theorem conclude_serves {pipe : Nat} (behind : builtin.pipe = some pipe)
    (scratch : builtin.streams.output = .scratch) (accepted : Bytes) {context : Context W}
    (rests : outlets.Rests pipe .held context.world) :
    outlets.Serves pipe (builtin.recorded ++ accepted)
      (builtin.conclude accepted context).2.world := by
  obtain ⟨kind, arguments, reading?, ⟨input, output, errors⟩, _, delivery, recorded, status⟩ :=
    builtin
  obtain rfl : _ = some pipe := behind
  obtain rfl : output = .scratch := scratch
  have elsewhere : OutputHandle.scratch ≠ .pipe pipe := nofun
  have stable := Conduit.stable_unused Writer.calm_held
  have passed := (lawful.closeOutput .scratch).keeps_stands stable
    (Outlets.ofOutput_of_ne elsewhere _) _ (lawful.closeInput_rests Writer.calm_held input _
      ((lawful.flush .scratch).keeps_stands stable rfl _ rests))
  obtain ⟨_, here, reading, rfl⟩ := passed
  obtain ⟨after, there, drains⟩ :=
    (lawful.deliver pipe (recorded ++ accepted)).turns pipe _ _ here
  rw [Outlets.ofOutput, if_pos rfl] at drains
  exact lawful.serves there ((Conduit.carries_feed _ reading).steps drains.steps) drains.taken_eq

end Concluding

/-! ## The run -/

/-- What a builtin does that has these words and whose output is bound to this target. -/
def work [ArgumentReader] (kind : Kind) (words : List String) (error : OutputHandle)
    (target : Target) : StateM (Context W) (Bytes × Except ShellError ExitCode) :=
  perform ⟨.inherited, target.output, error⟩ (Invocation.parse kind [kind.name] words)

variable (outlets) in
/-- What a run comes to whose work came to this. -/
structure Ends (target : Target) (done : (Bytes × Except ShellError ExitCode) × Context W)
    (ran : (Except ShellError Unit × Builtin) × Context W) : Prop where
  answer : ran.1.1 = done.1.2.map fun _ => ()
  recorded : ran.1.2.recorded = done.1.1
  status : ran.1.2.status = some (codeOf done.1.2)
  untouched : Untouched outlets done.2 ran.2
  stands : ∀ (pipe : Nat) {good : Conduit → Prop}, Conduit.Steady good →
    outlets.Stands pipe good done.2.world → outlets.Stands pipe good ran.2.world
  serves : ∀ pipe, target = .pipe pipe → outlets.Rests pipe .held done.2.world →
    outlets.Serves pipe done.1.1 ran.2.world

/-- A run is the work, and then the conclusion. -/
theorem run_ends [ArgumentReader] (lawful : outlets.Lawful error) (kind : Kind)
    (words : List String) (target : Target) (context : Context W) :
    Ends outlets target (work kind words error target context)
      (((worded kind words error).directed (some target)).run context) := by
  generalize same : (worded kind words error).directed (some target) = bound
  have streams : bound.streams = ⟨.inherited, target.output, error⟩ := by
    cases target <;> exact same ▸ rfl
  have parsed : bound.parsed = some (Invocation.parse kind [kind.name] words) := by
    cases target <;> exact same ▸ rfl
  have unrun : bound.status = none := by cases target <;> exact same ▸ rfl
  have recorded : bound.recorded = [] := by cases target <;> exact same ▸ rfl
  have ran := run_unrun parsed unrun context
  rw [streams] at ran
  have record : ∀ accepted : Bytes, bound.recorded ++ accepted = accepted := fun accepted => by
    rw [recorded, List.nil_append]
  generalize worked : work kind words error target context = done
  rw [work] at worked
  rw [ran, worked]
  constructor
  case answer => rfl
  case recorded =>
    have fate := bound.conclude_fate done.1.1 done.2
    rw [record] at fate
    exact congrArg (·.2.2.1) fate
  case status => rfl
  case untouched => exact untouched_conclude lawful done.1.1 done.2 done.2 (.refl done.2)
  case stands =>
    have apart : ∀ pipe, bound.streams.input ≠ .pipe pipe := by
      rw [streams]
      exact nofun
    exact fun pipe _ steady => conclude_stands lawful steady (apart pipe) done.1.1 done.2
  case serves =>
    rintro pipe rfl rests
    have behind : bound.pipe = some pipe := same ▸ rfl
    have scratch : bound.streams.output = .scratch := same ▸ rfl
    have served := conclude_serves lawful behind scratch done.1.1 rests
    rwa [record] at served

variable {kind : Kind} {words : List String}

/-- The listing is asked for by its own name only. -/
theorem parse_ne_ps [ArgumentReader] (listless : kind ≠ .ps) (words : List String) :
    Invocation.parse kind [kind.name] words ≠ .ok .ps :=
  fun read => listless (Invocation.kind_of_parse read).symm

/-! ## Three ways -/

variable (outlets error) in
/-- Two runs come to the same. -/
structure Agrees (ran ran' : (Except ShellError Unit × Builtin) × Context W) : Prop where
  answer : ran.1.1 = ran'.1.1
  recorded : ran.1.2.recorded = ran'.1.2.recorded
  status : ran.1.2.status = ran'.1.2.status
  session : ran.2.session = ran'.2.session
  /-- The same errors were reported, and the rest of the world is the same. -/
  alike : outlets.Alike error ran.2.world ran'.2.world

/-- **With its output in a buffer or a pipe, a builtin does the same, whatever the output was
bound to before.** -/
theorem run_agrees [ArgumentReader] (lawful : outlets.Lawful error) (listless : kind ≠ .ps)
    {targets targets' : List Target} {target target' : Target} {bound bound' : Builtin}
    {now now' : Context W}
    (prepared : Prepared outlets spared (worded kind words error) begun targets bound now)
    (latest : targets.getLast? = some target) (buffered : outlets.buffers target.output)
    (apart : target.output ≠ error)
    (prepared' : Prepared outlets spared (worded kind words error) begun targets' bound' now')
    (latest' : targets'.getLast? = some target') (buffered' : outlets.buffers target'.output)
    (apart' : target'.output ≠ error) :
    Agrees outlets error (bound.run now) (bound'.run now') := by
  have untouched := prepared.untouched
  have untouched' := prepared'.untouched
  have related : Context.Related (outlets.Alike error) now now' :=
    ⟨untouched.session.trans untouched'.session.symm,
      untouched.journal.trans untouched'.journal.symm,
      untouched.rest.trans untouched'.rest.symm,
      (untouched.accepted error).trans (untouched'.accepted error).symm⟩
  obtain ⟨same, after⟩ := lawful.perform_alike buffered apart buffered' apart' .inherited
    .inherited _ (parse_ne_ps listless words) now now' related
  have ends := run_ends lawful kind words target now
  have ends' := run_ends lawful kind words target' now'
  rw [prepared.same, latest, prepared'.same, latest']
  have done : (work kind words error target now).1 = (work kind words error target' now').1 := same
  constructor
  case answer => rw [ends.answer, ends'.answer, done]
  case recorded => rw [ends.recorded, ends'.recorded, done]
  case status => rw [ends.status, ends'.status, done]
  case session =>
    exact ends.untouched.session.trans (after.session.trans ends'.untouched.session.symm)
  case alike =>
    exact ⟨ends.untouched.rest.trans (after.world.rest.trans ends'.untouched.rest.symm),
      (ends.untouched.accepted error).trans
        (after.world.reported.trans (ends'.untouched.accepted error).symm)⟩

/-- The two ways of running a builtin come to the same: to collect its output, and to run
it. -/
structure Collects (outlets : Outlets W F) (error : OutputHandle)
    (collected : (Except ShellError Bytes × Builtin) × Context W)
    (ran : (Except ShellError Unit × Builtin) × Context W) : Prop where
  /-- The same bytes, unless a report was lost. -/
  answer : collected.1.1 = ran.1.1.map fun _ => ran.1.2.recorded
  recorded : collected.1.2.recorded = ran.1.2.recorded
  wait : ∀ context context' : Context W,
    (collected.1.2.wait context).1.1 = (ran.1.2.wait context').1.1
  session : collected.2.session = ran.2.session
  alike : outlets.Alike error collected.2.world ran.2.world

/-- All of the bytes went to this target: the stream accepted them, and after them only what
was reported if errors go to the same stream; or they wait for the reader of the pipe. -/
def Target.Receives (outlets : Outlets W F) (error : OutputHandle) (bytes : Bytes)
    (before after : W) : Target → Prop
  | .stream output => ∃ reported,
      outlets.accepted output after = outlets.accepted output before ++ bytes ++ reported ∧
        (error ≠ output → reported = [])
  | .pipe id => outlets.Serves id bytes after

/-- What a run comes to whose output was bound to `last` in the end. -/
structure Rebound (outlets : Outlets W F) (spared : Nat → Prop) (start : Builtin)
    (begun : Context W) (earlier : List Target) (last : Target) (now : Context W)
    (ran : (Except ShellError Unit × Builtin) × Context W) : Prop where
  receives : last.Receives outlets start.streams.error ran.1.2.recorded begun.world ran.2.world
  /-- No other stream accepted anything, from the first binding on. -/
  elsewhere : ∀ output, output ≠ last.output → output ≠ start.streams.error →
    outlets.accepted output ran.2.world = outlets.accepted output begun.world
  /-- The readers of earlier pipes are at the end of the file, before the run and after. -/
  exhausted : ∀ pipe, .pipe pipe ∈ earlier →
    outlets.Exhausted pipe now.world ∧ outlets.Exhausted pipe ran.2.world
  /-- Readers that were spared are still there. -/
  attended : ∀ pipe, .pipe pipe ∈ earlier ++ [last] → spared pipe →
    outlets.Attended pipe now.world ∧ outlets.Attended pipe ran.2.world
  /-- The record can be asked for afterwards. -/
  again : ∀ context : Context W, ran.1.2.output context = ((.ok ran.1.2.recorded, ran.1.2), context)
  /-- The status is the same, whatever has become of the world in between. -/
  status : ∃ code, ∀ context : Context W, (ran.1.2.wait context).1.1 = .ok code
  agrees : outlets.buffers last.output → last.output ≠ start.streams.error →
    start.streams.error ≠ .scratch → Collects outlets start.streams.error (start.output begun) ran

/-- What a run comes to, told from how it stood before. -/
theorem Prepared.rebound [ArgumentReader] (lawful : outlets.Lawful error) (listless : kind ≠ .ps)
    (reported : ∀ pipe, error = .pipe pipe → outlets.Known pipe begun.world)
    {earlier : List Target} {last : Target}
    (stands : Prepared outlets spared (worded kind words error) begun (earlier ++ [last]) bound
      now) :
    Rebound outlets spared (worded kind words error) begun earlier last now (bound.run now) := by
  have latest : (earlier ++ [last]).getLast? = some last := List.getLast?_concat
  have same : bound = (worded kind words error).directed (some last) := latest ▸ stands.same
  have writes : bound.streams.output = last.output := by
    rw [same]
    cases last <;> rfl
  have ends := run_ends lawful kind words last now
  rw [← same] at ends
  have readable := parse_ne_ps listless words
  -- the pipes lie still while the builtin works
  have kept : ∀ pipe, .pipe pipe ∈ earlier ++ [last] → ∀ {good : Conduit → Prop},
      Conduit.Stable good → outlets.Stands pipe good now.world →
      outlets.Stands pipe good (work kind words error last now).2.world := by
    intro pipe member good stable here
    have unknown := stands.fresh pipe member
    exact perform_keeps _ readable (lawful.leaves_stands stable
      (fun own => unknown (stands.own pipe (writes.trans own)))
      (fun own => unknown (reported pipe own))) now here
  constructor
  case receives =>
    rw [ends.recorded]
    cases last with
    | stream output =>
        have logged : Output.Logged (outlets.accepted output)
            (⟨.inherited, output, error⟩ : Streams).output := lawful.logged output
        obtain ⟨text, grown, nothing⟩ := perform_logged logged
          (fun other bytes world => lawful.elsewhere error output bytes world other.symm)
          (lawful.upholds_accepted output) _ readable now
        refine ⟨text, ?_, nothing⟩
        rw [ends.untouched.accepted output, ← stands.untouched.accepted output]
        exact grown
    | pipe id =>
        have member : Target.pipe id ∈ earlier ++ [.pipe id] :=
          List.mem_append_right _ (List.mem_singleton_self _)
        have rests := stands.rests id member
        rw [writerOf_concat_self] at rests
        exact ends.serves id rfl (kept id member (Conduit.stable_unused Writer.calm_held) rests)
  case elsewhere =>
    intro other apart (quiet : other ≠ error)
    have leaves : Leaves (fun world => outlets.accepted other world =
        outlets.accepted other begun.world) ⟨.inherited, last.output, error⟩ :=
      lawful.leaves_accepted apart quiet _
    rw [ends.untouched.accepted other]
    exact perform_keeps _ readable leaves now (stands.untouched.accepted other)
  case exhausted =>
    intro pipe member
    have among : Target.pipe pipe ∈ earlier ++ [last] := List.mem_append_left _ member
    have rests := stands.rests pipe among
    have other : last ≠ .pipe pipe := by
      rintro rfl
      have again := stands.once pipe latest
      rw [List.dropLast_concat] at again
      exact again member
    rw [writerOf_concat_of_ne other] at rests
    exact ⟨lawful.exhausted rests, lawful.exhausted
      (ends.stands pipe Conduit.steady_gone (kept pipe among Conduit.steady_gone.stable rests))⟩
  case attended =>
    intro pipe member keeps
    have here := stands.attended pipe member keeps
    exact ⟨here, ends.stands pipe Conduit.steady_reading
      (kept pipe member Conduit.steady_reading.stable here)⟩
  case again => exact fun context => (answers_of_status ends.status context).2
  case status => exact ⟨_, fun context => (answers_of_status ends.status context).1⟩
  case agrees =>
    intro buffered apart unscratched
    -- to collect the output is to bind a scratch buffer and to run
    have start := prepared_nil outlets spared (rfl : (worded kind words error).pipe = none)
      begun nofun
    have bare := start.bind lawful .scratch nofun
    have agrees := run_agrees lawful listless bare List.getLast?_concat lawful.scratch
      (fun same => unscratched same.symm) stands latest buffered apart
    rw [output_apply rfl begun]
    exact
      { answer := by
          dsimp only
          rw [agrees.recorded, ← agrees.answer]
        recorded := agrees.recorded
        wait := fun context context' => by
          rw [(answers_of_status ends.status context').1]
          exact (answers_of_status (agrees.status.trans ends.status) context).1
        session := agrees.session
        alike := agrees.alike }

/-- **The last binding counts.**  Whatever the output of a builtin was bound to before the
run, in whatever order, all of it goes where it was bound last, with the status that it has
wherever it goes. -/
theorem last_binding_counts [ArgumentReader] (lawful : outlets.Lawful error) (listless : kind ≠ .ps)
    (words : List String) (preparations : List Preparation) (begun : Context W)
    (given : ∀ pipe, .bind (.pipe pipe) ∈ preparations → outlets.Known pipe begun.world)
    (reported : ∀ pipe, error = .pipe pipe → outlets.Known pipe begun.world)
    {earlier : List Target} {last : Target} {bound : Builtin} {now : Context W}
    (prepared : (worded kind words error).prepareAll preparations begun =
      ((earlier ++ [last], bound), now)) :
    Rebound outlets (fun pipe => .drop (.pipe pipe) ∉ preparations) (worded kind words error)
      begun earlier last now (bound.run now) := by
  have start := prepared_nil outlets (fun pipe => .drop (.pipe pipe) ∉ preparations)
    (rfl : (worded kind words error).pipe = none) begun nofun
  have stands := start.prepareAll lawful preparations given fun _ => id
  rw [prepared] at stands
  exact stands.rebound lawful listless reported

open scoped Arguments

/-- A pipe is opened, given up for a buffer, and its reader goes away; in the end there is
another pipe. -/
def rebindings : List Preparation := [.tap, .bind (.sink 1), .drop (.pipe 0), .tap]

/-- A builtin that prints three times as much as a pipe holds. -/
def greeting : Builtin := worded .echo ["hello", "world"] .standardError

/-- The builtin and the world just before the run. -/
def greetingPrepared : (List Target × Builtin) × Context Cistern :=
  greeting.prepareAll rebindings Cistern.context

/-- And after it. -/
def greeted : (Except ShellError Unit × Builtin) × Context Cistern :=
  greetingPrepared.1.2.run greetingPrepared.2

theorem last_binding_counts_greeting :
    Cistern.outlets.Lawful .standardError ∧
    greetingPrepared.1.1 = [.pipe 0, .stream (.sink 1)] ++ [.pipe 1] ∧
    Rebound Cistern.outlets (fun pipe => .drop (.pipe pipe) ∉ rebindings) greeting
      Cistern.context [.pipe 0, .stream (.sink 1)] (.pipe 1) greetingPrepared.2 greeted ∧
    greeted.1.2.recorded = Utf8.encode "hello world\n" ∧
    greeted.2.world.conduits.map Conduit.inside = [[], Utf8.encode "hell"] ∧
    (Outlets.drink 1 [.some 3, .some 100] greeted.2.world).1 = Utf8.encode "hello w" ∧
    (Outlets.drink 1 [.some 3, .rest] greeted.2.world).1 = Utf8.encode "hello world\n" := by
  have targets : greetingPrepared.1.1 = [.pipe 0, .stream (.sink 1)] ++ [.pipe 1] := by
    decide +kernel
  refine ⟨Cistern.outlets_lawful, targets, ?_, by decide +kernel, by decide +kernel,
    by decide +kernel, by decide +kernel⟩
  refine last_binding_counts Cistern.outlets_lawful (by decide) ["hello", "world"] rebindings
    Cistern.context ?_ nofun (Prod.ext (Prod.ext targets rfl) rfl)
  intro pipe bound
  simp [rebindings] at bound

end PipelineShell.Builtin
