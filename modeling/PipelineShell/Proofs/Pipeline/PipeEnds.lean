/-
# Proofs.Pipeline.PipeEnds -- which stages keep the pipes they were given

In a run every stage but the first is given the read end of a pipe, and every stage but
the last holds the write end of another.  Once a stage has done its work it should hold
neither, or its neighbours wait for an end that never comes.

`released_iff` says exactly when this is so: when the stage was ready to do that work
before the run began.  A stage that could not be run at all, because it had no words or
had run already, or a last stage whose output had been bound elsewhere, keeps its pipes
until the whole run is over.
-/
import PipelineShell.Arguments.Scan
import PipelineShell.Proofs.Pipeline.Wiring
import PipelineShell.Proofs.Quiet
import PipelineShell.Proofs.Streams

namespace PipelineShell.Pipeline

set_option autoImplicit false

variable {W : Type} [Host W]

/-- What happens in a run of commands. -/
abbrev CommandEvent : Type := Event Command InputHandle OutputHandle

/-- The stage at a position was given the read end of a pipe. -/
def Given (events : List CommandEvent) (position pipe : Nat) : Prop :=
  ∃ event ∈ events, event.position = position ∧ event.call.input? = some (.pipe pipe)

/-- A pipe was made for the output of the stage at a position. -/
def Made (events : List CommandEvent) (position pipe : Nat) : Prop :=
  ∃ event ∈ events, event.position = position ∧ event.call.reader? = some (.pipe pipe)

/-- After the event its stage holds no pipe end that the run gave it. -/
def Released (events : List CommandEvent) (event : CommandEvent) : Prop :=
  ∀ pipe, (Given events event.position pipe → ¬ event.stage.Reads pipe) ∧
    (Made events event.position pipe → ¬ event.stage.Writes pipe)

/-! ## The wiring of a stage decides -/

theorem given_iff_wiringOn (events : List CommandEvent) (position pipe : Nat) :
    Given events position pipe ↔ Given (wiringOn position events) position pipe := by
  refine exists_wiringOn_iff (fun call input given => ?_) position (InputHandle.pipe pipe)
    events
  cases call <;> first | rfl | cases given

theorem made_iff_wiringOn (events : List CommandEvent) (position pipe : Nat) :
    Made events position pipe ↔ Made (wiringOn position events) position pipe := by
  refine exists_wiringOn_iff (fun call reader made => ?_) position (InputHandle.pipe pipe)
    events
  cases call <;> first | rfl | cases made

theorem released_iff_wiringOn (events : List CommandEvent) (event : CommandEvent) :
    Released events event ↔ Released (wiringOn event.position events) event := by
  refine forall_congr' fun pipe => ?_
  rw [given_iff_wiringOn, made_iff_wiringOn]

variable {position pipe : Nat} {given : Option InputHandle}

theorem given_start_iff {start : Start Command InputHandle OutputHandle} :
    Given (start.events position given) position pipe ↔ given = some (.pipe pipe) := by
  simp only [Given, Start.mem_events]
  constructor
  · rintro ⟨event, ⟨input, rfl, rfl⟩ | rfl | rfl | rfl, -, same⟩
    · exact same
    all_goals cases same
  · rintro rfl
    exact ⟨_, Or.inl ⟨_, rfl, rfl⟩, rfl, rfl⟩

theorem made_start_iff {start : Start Command InputHandle OutputHandle} :
    Made (start.events position given) position pipe ↔ start.reader = .pipe pipe := by
  simp only [Made, Start.mem_events]
  constructor
  · rintro ⟨event, ⟨input, -, rfl⟩ | rfl | rfl | rfl, -, same⟩
    · cases same
    · exact Option.some.inj same
    all_goals cases same
  · intro same
    exact ⟨_, Or.inr (Or.inl rfl), rfl, congrArg some same⟩

theorem given_finale_iff {finale : Finale Command OutputHandle} :
    Given (finale.wiring position given) position pipe ↔ given = some (.pipe pipe) := by
  simp only [Given, Finale.mem_wiring]
  constructor
  · rintro ⟨event, ⟨input, rfl, rfl⟩ | rfl | rfl, -, same⟩
    · exact same
    all_goals cases same
  · rintro rfl
    exact ⟨_, Or.inl ⟨_, rfl, rfl⟩, rfl, rfl⟩

theorem not_made_finale {finale : Finale Command OutputHandle} :
    ¬ Made (finale.wiring position given) position pipe := by
  simp only [Made, Finale.mem_wiring]
  rintro ⟨event, ⟨input, rfl, rfl⟩ | rfl | rfl, -, same⟩ <;> cases same

/-! ## Along the wiring -/

/-- A stage is connected: what it was given to read is its input, and whether it can do
its work is as before. -/
theorem connected_of_leads {stage connected : Command} {rest : List CommandEvent}
    (leads : (Command.contract (W := W)).Leads stage
      (connectEvents position connected given ++ rest)) :
    ∃ before : Command, (∀ input, given = some input → before.streams.input = input) ∧
      (before.Ready ↔ stage.Ready) ∧ (before.OutputBound ↔ stage.OutputBound) ∧
      (Command.contract (W := W)).Leads before rest := by
  cases given with
  | none => exact ⟨stage, fun _ => nofun, Iff.rfl, Iff.rfl, leads⟩
  | some input =>
      obtain ⟨⟨context, after⟩, leads⟩ := leads
      obtain ⟨bound, ready, output⟩ := stage.setInput_keeps input context
      obtain rfl : (stage.setInput input context).1 = connected := after
      exact ⟨_, fun _ same => Option.some.inj same ▸ bound, ready, output, leads⟩

/-- A stage that is started ends up without pipes if it was ready, and otherwise keeps
the one its output goes into. -/
theorem started_of_leads {stage : Command} {start : Start Command InputHandle OutputHandle}
    (leads : (Command.contract (W := W)).Leads stage (start.events position given)) :
    (stage.Ready → start.ran.streams.input = .inherited ∧ ∀ pipe, ¬ start.ran.Writes pipe) ∧
    (¬ stage.Ready → ∃ pipe, start.reader = .pipe pipe ∧ start.ran.Writes pipe) := by
  obtain ⟨before, -, ready, -, leads⟩ := connected_of_leads leads
  obtain ⟨⟨context₁, opened⟩, ⟨context₂, bound⟩, ⟨context₃, ran⟩, -⟩ := leads
  obtain ⟨pipe, reader, piped, -, opened⟩ := Command.openPipe_opened opened
  have bound : (start.piped.setError start.error context₂).1 = start.bound := bound
  obtain ⟨-, kept, unchanged, -⟩ := start.piped.setError_keeps start.error context₂
  rw [bound] at kept unchanged
  have ran : (start.bound.run context₃).1.2 = start.ran := congrArg Prod.snd ran
  have piped : start.bound.Piped pipe := (kept pipe).2 piped
  have same : start.bound.Ready ↔ stage.Ready := unchanged.trans (opened.trans ready)
  rw [← same, ← ran]
  refine ⟨fun ready => Command.run_of_ready ready piped context₃, fun unready => ?_⟩
  refine ⟨pipe, reader, ?_⟩
  rw [Command.run_of_not_ready unready]
  exact (piped.writes_iff pipe).2 rfl

/-- The last stage ends up without its input if it was ready and its output was not
bound elsewhere, and otherwise keeps it. -/
theorem collected_of_leads {stage : Command} {finale : Finale Command OutputHandle}
    (leads : (Command.contract (W := W)).Leads stage (finale.wiring position given)) :
    (stage.Ready ∧ ¬ stage.OutputBound → finale.collected.streams.input = .inherited) ∧
    (¬ (stage.Ready ∧ ¬ stage.OutputBound) →
      ∀ input, given = some input → finale.collected.streams.input = input) := by
  obtain ⟨before, connected, ready, output, leads⟩ := connected_of_leads leads
  obtain ⟨⟨context₁, bound⟩, ⟨context₂, collected⟩, -⟩ := leads
  have bound : (before.setError finale.error context₁).1 = finale.bound := bound
  obtain ⟨input, -, ready₁, output₁⟩ := before.setError_keeps finale.error context₁
  rw [bound] at input ready₁ output₁
  have collected : (finale.bound.output context₂).1.2 = finale.collected :=
    congrArg Prod.snd collected
  rw [← ready, ← output, ← ready₁, ← output₁, ← collected]
  refine ⟨fun able => Command.output_of_ready able.1 able.2 context₂, fun unable given' same => ?_⟩
  rw [Command.output_of_not_ready unable, input]
  exact connected given' same

/-! ## Which stages let go -/

theorem released_start_iff {stage : Command} {start : Start Command InputHandle OutputHandle}
    (leads : (Command.contract (W := W)).Leads stage (start.events position given)) :
    Released (start.events position given) ⟨position, .run start.result, start.ran⟩ ↔
      stage.Ready := by
  obtain ⟨released, kept⟩ := started_of_leads leads
  simp only [Released, given_start_iff, made_start_iff]
  constructor
  · intro free
    refine Classical.not_not.1 fun unready => ?_
    obtain ⟨pipe, reader, writes⟩ := kept unready
    exact (free pipe).2 reader writes
  · intro ready pipe
    obtain ⟨input, writes⟩ := released ready
    refine ⟨fun _ reads => ?_, fun _ => writes pipe⟩
    cases input.symm.trans reads

/-- A last stage that was given nothing to read has nothing to let go of. -/
theorem released_finale_iff {stage : Command} {finale : Finale Command OutputHandle}
    (leads : (Command.contract (W := W)).Leads stage (finale.wiring position given))
    (opened : ∀ reader, given = some reader → ∃ pipe, reader = .pipe pipe) :
    Released (finale.wiring position given) ⟨position, .output finale.produced, finale.collected⟩ ↔
      given = none ∨ (stage.Ready ∧ ¬ stage.OutputBound) := by
  obtain ⟨released, kept⟩ := collected_of_leads leads
  simp only [Released, given_finale_iff, not_made_finale, false_implies, and_true]
  cases given with
  | none => exact ⟨fun _ => Or.inl rfl, fun _ _ => nofun⟩
  | some input =>
      obtain ⟨pipe, rfl⟩ := opened input rfl
      constructor
      · intro free
        refine Or.inr (Classical.not_not.1 fun unable => ?_)
        exact free pipe rfl (kept unable _ rfl)
      · rintro (impossible | able) other - reads
        · cases impossible
        · cases (released able).symm.trans reads

/-- **Which stages let go of their pipes.**  After `run` has been called on a stage, or
`output` on the last one, the stage holds neither the read end it was given nor the
write end made for it just when the command was ready for that call before the run
began, or when it is the only stage and has no pipes. -/
theorem released_iff (freshError : StateM (Context W) OutputHandle) (stages : List Command)
    (context : Context W) :
    ∀ event ∈ transcript Command.contract freshError stages context,
      event.call.kind = .run ∨ event.call.kind = .output →
        (Released (transcript Command.contract freshError stages context) event ↔
          stages.length = 1 ∨
          ∃ stage, stages[event.position]? = some stage ∧ stage.Ready ∧
            (event.call.kind = .output → ¬ stage.OutputBound)) := by
  intro event member work
  have wires : event ∈ wiringOn event.position
      (transcript Command.contract freshError stages context) := by
    refine mem_wiringOn.2 ⟨member, rfl, ?_⟩
    rcases work with kind | kind <;> rw [kind] <;> rfl
  rw [released_iff_wiringOn]
  rcases wiringOn_cases Command.contract freshError stages context event.position with
    nothing | ⟨stage, given, found, ⟨start, inside, leads, wired⟩ |
      ⟨finale, last, first, opened, leads, wired⟩ | ⟨refusal, wired⟩⟩
  · rw [nothing] at wires
    cases wires
  · rw [wired] at wires ⊢
    have several : stages.length ≠ 1 := by omega
    rw [Start.work wires work, released_start_iff leads]
    simp [found, several, Call.kind]
  · rw [wired] at wires ⊢
    have alone : stages.length = 1 ↔ given = none := by rw [first]; omega
    have pipes : ∀ reader, given = some reader → ∃ pipe, reader = .pipe pipe := by
      intro reader awaits
      obtain ⟨before, after, context', answered⟩ := opened reader awaits
      obtain ⟨pipe, same, -⟩ := Command.openPipe_opened answered
      exact ⟨pipe, same⟩
    rw [Finale.work wires work, released_finale_iff leads pipes]
    simp [found, alone, Call.kind]
  · rw [wired] at wires
    exact absurd work (Refusal.no_work wires)

/-! ## Poles, in the quiet world -/

open scoped Arguments

/-- A `pwd` that was never given its words, and an `echo` that was. -/
def wordlessStages : List Command :=
  [.ofKind .pwd, (Command.ofKind .echo).parseArguments ["done"]]

/-- The `echo` lets go of the read end it was given. -/
theorem released_iff_wordlessStages :
    ∃ event ∈ transcript Command.contract (pure .standardError) wordlessStages Quiet.context,
      event.call.kind = .output ∧
        Given (transcript Command.contract (pure .standardError) wordlessStages Quiet.context)
          event.position 0 ∧
        Released (transcript Command.contract (pure .standardError) wordlessStages Quiet.context)
          event := by
  have collected : ∃ event ∈ transcript Command.contract (pure .standardError) wordlessStages
      Quiet.context, event.position = 1 ∧ event.call.kind = .output ∧
        Given (transcript Command.contract (pure .standardError) wordlessStages Quiet.context)
          event.position 0 := by
    unfold Given
    decide +kernel
  obtain ⟨event, member, second, kind, given⟩ := collected
  refine ⟨event, member, kind, given, ?_⟩
  refine (released_iff (pure .standardError) wordlessStages Quiet.context event member
    (Or.inr kind)).2 (Or.inr ⟨(Command.ofKind .echo).parseArguments ["done"], ?_, ?_, ?_⟩)
  · rw [second]
    rfl
  · exact ⟨rfl, rfl⟩
  · exact fun _ => id

/-- The `pwd` keeps the write end that was made for it. -/
theorem wordless_keeps_pipe :
    ∃ event ∈ transcript Command.contract (pure .standardError) wordlessStages Quiet.context,
      event.call.kind = .run ∧
        ¬ Released (transcript Command.contract (pure .standardError) wordlessStages Quiet.context)
          event := by
  have kept : ∃ event ∈ transcript Command.contract (pure .standardError) wordlessStages
      Quiet.context, event.call.kind = .run ∧
        Made (transcript Command.contract (pure .standardError) wordlessStages Quiet.context)
          event.position 0 ∧ event.stage.Writes 0 := by
    unfold Made
    decide +kernel
  obtain ⟨event, member, kind, made, writes⟩ := kept
  exact ⟨event, member, kind, fun released => (released 0).2 made writes⟩

end PipelineShell.Pipeline
