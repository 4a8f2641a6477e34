/-
# Proofs.Cistern -- a world with pipes that fill up

`Cistern` is the world of the ledger with pipes that hold four bytes each.  A background
writer writes as much as there is room for, and goes on when something was read.  What is
written to other streams is kept in a log.  The concrete runs in which it matters who waits
for whom take place here.
-/
import PipelineShell.Proofs.Ledger
import PipelineShell.Proofs.Outlets

namespace PipelineShell

set_option autoImplicit false

open Stateful

namespace Conduit

/-- Lets the background writer write what there is room for. -/
def pump (capacity : Nat) (conduit : Conduit) : Conduit :=
  match conduit with
  | ⟨.busy left, inside, taken, true⟩ =>
      let room := capacity - inside.length
      ⟨if left.drop room = [] then .gone else .busy (left.drop room), inside ++ left.take room,
        taken, true⟩
  | ⟨.busy _, inside, taken, false⟩ => ⟨.gone, inside, taken, false⟩
  | conduit => conduit

/-- Reads some of what stands in the pipe, when the writer has done what it can. -/
def sip (capacity most : Nat) (conduit : Conduit) : Bytes × Conduit :=
  let full := conduit.pump capacity
  (full.inside.take most, { full with
    inside := full.inside.drop most, taken := full.taken ++ full.inside.take most })

/-- Reads all there is, and waits for what is still to be written. -/
def exhaust (conduit : Conduit) : Bytes × Conduit :=
  match conduit.writer with
  | .busy left =>
      (conduit.inside ++ left,
        ⟨.gone, [], conduit.taken ++ (conduit.inside ++ left), conduit.reading⟩)
  | writer => (conduit.inside, ⟨writer, [], conduit.taken ++ conduit.inside, conduit.reading⟩)

theorem drains_pump (capacity : Nat) (conduit : Conduit) :
    Drains capacity conduit (conduit.pump capacity) := by
  obtain ⟨writer, inside, taken, reading⟩ := conduit
  cases writer with
  | held => exact .refl
  | gone => exact .refl
  | busy left =>
      cases reading with
      | false => exact .single .fail
      | true =>
          simp only [pump]
          generalize room : capacity - inside.length = free
          -- first what fits is written, and then the pipe is closed if that was all
          have filled : Drains capacity ⟨.busy left, inside, taken, true⟩
              ⟨.busy (left.drop free), inside ++ left.take free, taken, true⟩ := by
            by_cases nothing : left.take free = []
            · rw [nothing, List.append_nil]
              have same : left.drop free = left := by
                simpa only [nothing, List.nil_append] using List.take_append_drop free left
              rw [same]
            · have fits : inside.length + (left.take free).length ≤ capacity := by
                have some_ := List.length_pos_iff.2 nothing
                rw [List.length_take] at some_ ⊢
                omega
              have fill : Drain capacity
                  ⟨.busy (left.take free ++ left.drop free), inside, taken, true⟩ _ :=
                .fill nothing fits
              rw [List.take_append_drop] at fill
              exact .single fill
          split
          case isTrue done =>
            rw [done] at filled
            exact filled.tail .finish
          case isFalse => exact filled

theorem reading_pump (capacity : Nat) (conduit : Conduit) :
    (conduit.pump capacity).reading = conduit.reading := by
  obtain ⟨_ | _ | _, inside, taken, _ | _⟩ := conduit <;> rfl

/-- To read some is a step of the reader, with the writer at work before. -/
theorem steps_sip (capacity most : Nat) {conduit : Conduit} (reading : conduit.reading = true) :
    Steps capacity conduit (conduit.sip capacity most).2 ∧
      (conduit.sip capacity most).2.reading = true ∧
      (conduit.sip capacity most).2.taken = conduit.taken ++ (conduit.sip capacity most).1 := by
  have drains := drains_pump capacity conduit
  have still := (reading_pump capacity conduit).trans reading
  have taken := drains.taken_eq
  simp only [sip]
  generalize conduit.pump capacity = full at drains still taken ⊢
  refine ⟨drains.steps.trans ?_, still, congrArg (· ++ _) taken⟩
  obtain ⟨writer, inside, before, reading⟩ := full
  obtain rfl : reading = true := still
  by_cases nothing : inside.take most = []
  · have same : inside.drop most = inside := by
      simpa only [nothing, List.nil_append] using List.take_append_drop most inside
    simp only [nothing, same, List.append_nil]
    exact .refl
  · have take : Step capacity ⟨writer, inside.take most ++ inside.drop most, before, true⟩ _ :=
      .take nothing
    rw [List.take_append_drop] at take
    exact .single take

/-- To read all there is takes a reader to the end of the file. -/
theorem steps_exhaust {capacity : Nat} (roomy : 0 < capacity) {conduit : Conduit}
    (reading : conduit.reading = true) (unheld : conduit.writer ≠ .held) :
    Steps capacity conduit conduit.exhaust.2 ∧ conduit.exhaust.2.AtEnd ∧
      conduit.exhaust.2.taken = conduit.taken ++ conduit.exhaust.1 := by
  -- whatever way leads to the end, there is only one end to come to
  have ends : ∀ {bytes : Bytes}, conduit.Carries bytes →
      Steps capacity conduit ⟨.gone, [], bytes, true⟩ := by
    intro bytes carries
    obtain ⟨⟨writer, inside, taken, still⟩, steps, atEnd⟩ := carries.reaches_end roomy reading
    obtain rfl : taken = bytes := (carries.steps steps).taken_eq atEnd
    obtain ⟨rfl, rfl, rfl⟩ := atEnd
    exact steps
  obtain ⟨writer, inside, taken, still⟩ := conduit
  obtain rfl : still = true := reading
  cases writer with
  | held => exact absurd rfl unheld
  | busy left =>
      exact ⟨ends (.busy (List.append_assoc _ _ _)), ⟨rfl, rfl, rfl⟩, rfl⟩
  | gone => exact ⟨ends (.gone rfl), ⟨rfl, rfl, rfl⟩, rfl⟩

end Conduit

/-- The state of a world with pipes that fill up. -/
structure Cistern where
  conduits : List Conduit
  /-- What was written to streams, in order. -/
  log : List (OutputHandle × Bytes)
  ledger : Ledger
  deriving DecidableEq, Repr

namespace Cistern

variable {α : Type}

/-- How much a pipe holds. -/
def capacity : Nat := 4

/-- Does to the ledger what is done. -/
def lift (operation : StateM Ledger α) : StateM Cistern α := fun world =>
  ((operation world.ledger).1, { world with ledger := (operation world.ledger).2 })

/-- Does something to one pipe. -/
def alter (id : Nat) (change : Conduit → Conduit) : StateM Cistern Unit := fun world =>
  ((), { world with conduits := world.conduits.modify id change })

/-- Reads from one pipe. -/
def draw (id : Nat) (reads : Conduit → Bytes × Conduit) :
    StateM Cistern (Except IoError Bytes) := fun world =>
  (.ok ((world.conduits[id]?.map fun conduit => (reads conduit).1).getD []),
    { world with conduits := world.conduits.modify id fun conduit => (reads conduit).2 })

end Cistern

open Cistern in
instance : Host Cistern where
  canonicalize path world := Host.canonicalize path world.ledger
  isFile path world := Host.isFile path world.ledger
  currentDirectory world := Host.currentDirectory world.ledger
  changeDirectory path := lift (Host.changeDirectory path)
  environment world := Host.environment world.ledger
  account world := Host.account world.ledger
  processes world := Host.processes world.ledger
  terminate pid := lift (Host.terminate pid)
  openPipe world :=
    (.ok world.conduits.length, { world with conduits := world.conduits ++ [.unused .held true] })
  read
    | .pipe id, most => draw id (Conduit.sip capacity most)
    | input, most => lift (Host.read input most)
  readToEnd
    | .pipe id => draw id Conduit.exhaust
    | input => lift (Host.readToEnd input)
  write output bytes world := (.ok bytes.length, { world with
    log := world.log ++ [(output, bytes)]
    conduits := match output with
      | .pipe id => world.conduits.modify id fun conduit =>
          { conduit with inside := conduit.inside ++ bytes }
      | _ => world.conduits })
  interruptionsLeft _ _ := 0
  flush _ := pure (.ok ())
  closeInput
    | .pipe id => alter id Conduit.abandon
    | _ => pure ()
  closeOutput
    | .pipe id => alter id Conduit.close
    | _ => pure ()
  deliver id bytes := do
    alter id fun conduit => (conduit.feed bytes).pump capacity
    pure id
  finishDelivery _ := pure (.ok ())
  spawn launch := lift (Host.spawn launch)
  capture child := lift (Host.capture child)
  wait child := lift (Host.wait child)
  kill child := lift (Host.kill child)

namespace Cistern

/-- The start of every run: nothing was written, and no pipe is open. -/
def context : Context Cistern :=
  ⟨Ledger.context.session, ⟨[], [], Ledger.context.world⟩, []⟩

/-- What is written where, apart from the ledger. -/
def outlets : Outlets Cistern Ledger where
  accepted output world := (world.log.filter (·.1 = output)).flatMap (·.2)
  conduit pipe world := world.conduits[pipe]?
  capacity := capacity
  buffers
    | .scratch => True
    | .sink _ => True
    | _ => False
  rest := Cistern.ledger

variable {α : Type}

/-- What is done to one pipe is done to no other. -/
theorem plumbs_alter {own : Nat} {changes : Nat → Conduit → Conduit} {turned : Conduit → Conduit}
    (turns : ∀ conduit, Conduit.Drains capacity (changes own conduit) (turned conduit))
    (apart : ∀ pipe, own ≠ pipe → changes pipe = id) :
    outlets.Plumbs changes (alter own turned) where
  silent _ _ := rfl
  hidden _ := rfl
  turns pipe world conduit here := by
    have after : (alter own turned world).2.conduits[pipe]? =
        some (if own = pipe then turned conduit else conduit) := by
      simp only [alter, List.getElem?_modify]
      rw [show world.conduits[pipe]? = some conduit from here]
      rfl
    refine ⟨_, after, ?_⟩
    by_cases same : own = pipe
    · subst same
      rw [if_pos rfl]
      exact turns conduit
    · rw [if_neg same, apart pipe same]
      exact .refl

theorem plumbs_write_end {own : Nat} {change turned : Conduit → Conduit}
    (turns : ∀ conduit, Conduit.Drains capacity (change conduit) (turned conduit)) :
    outlets.Plumbs (Outlets.ofOutput (.pipe own) change) (alter own turned) := by
  refine plumbs_alter (fun conduit => ?_) fun pipe other =>
    Outlets.ofOutput_of_ne (fun same => other (OutputHandle.pipe.inj same)) _
  rw [Outlets.ofOutput, if_pos rfl]
  exact turns conduit

theorem answer_draw {pipe : Nat} {conduit : Conduit} {world : Cistern}
    (here : outlets.conduit pipe world = some conduit) (reads : Conduit → Bytes × Conduit) :
    (draw pipe reads world).1 = .ok (reads conduit).1 := by
  rw [draw, show world.conduits[pipe]? = some conduit from here]
  rfl

theorem conduit_draw {pipe : Nat} {conduit : Conduit} {world : Cistern}
    (here : outlets.conduit pipe world = some conduit) (reads : Conduit → Bytes × Conduit) :
    outlets.conduit pipe (draw pipe reads world).2 = some (reads conduit).2 := by
  have after : (draw pipe reads world).2.conduits[pipe]? = some (reads conduit).2 := by
    rw [draw, List.getElem?_modify_eq, show world.conduits[pipe]? = some conduit from here]
    rfl
  exact after

/-- What leaves the world as it is does nothing to pipes. -/
theorem plumbs_pure {change : Nat → Conduit → Conduit} (still : ∀ pipe, change pipe = id)
    (a : α) : outlets.Plumbs change (pure a : StateM Cistern α) where
  silent _ _ := rfl
  hidden _ := rfl
  turns pipe _ conduit here := by
    rw [still pipe]
    exact ⟨conduit, here, .refl⟩

theorem apart_lift (operation : StateM Ledger α) : outlets.Apart (lift operation) where
  silent _ _ := rfl
  steady world world' same := by
    have ledger : world.ledger = world'.ledger := same
    exact ⟨congrArg (fun ledger => (operation ledger).1) ledger,
      congrArg (fun ledger => (operation ledger).2) ledger⟩
  turns _ _ conduit here := ⟨conduit, here, .refl⟩

theorem outlets_lawful : outlets.Lawful .standardError where
  canonicalize path _ _ same := congrArg (fun ledger : Ledger => Host.canonicalize path ledger) same
  environment _ _ _ := rfl
  account _ _ _ := rfl
  patient _ _ _ := rfl
  changeDirectory path := apart_lift _
  terminate pid := apart_lift _
  logged output bytes world := by
    have here : [(output, bytes)].filter (·.1 = output) = [(output, bytes)] := by simp
    simp only [outlets, Host.write, List.filter_append, here, List.flatMap_append,
      List.flatMap_singleton, List.take_length]
  elsewhere output other bytes world apart := by
    have nothing : [(output, bytes)].filter (·.1 = other) = [] := by simp [apart.symm]
    simp only [outlets, Host.write, List.filter_append, nothing, List.append_nil]
  beside output pipe bytes apart world conduit here := by
    refine ⟨conduit, ?_, .refl⟩
    cases output with
    | pipe id =>
        have other : id ≠ pipe := fun same => apart (congrArg _ same)
        exact (List.getElem?_modify_ne _ _ other).trans here
    | _ => exact here
  report bytes _ _ same := ⟨rfl, same⟩
  whole _ _ _ _ := rfl
  inward _ _ _ _ := rfl
  scratch := trivial
  flush _ := plumbs_pure (fun _ => rfl) _
  openPipe :=
    { silent := fun _ _ => rfl
      hidden := fun _ => rfl
      turns := fun pipe world conduit here => by
        have known : pipe < world.conduits.length := (List.getElem?_eq_some_iff.1 here).1
        exact ⟨conduit, (List.getElem?_append_left known).trans here, .refl⟩ }
  opened pipe world answer := by
    obtain rfl : world.conduits.length = pipe := Except.ok.inj answer
    exact ⟨List.getElem?_eq_none (Nat.le_refl _), List.getElem?_concat_length⟩
  closeInput input := by
    cases input with
    | pipe own =>
        refine plumbs_alter (fun conduit => ?_) fun pipe other =>
          Outlets.ofInput_of_ne (fun same => other (InputHandle.pipe.inj same)) _
        rw [Outlets.ofInput, if_pos rfl]
    | _ => exact plumbs_pure (fun _ => rfl) _
  closeOutput output := by
    cases output with
    | pipe own => exact plumbs_write_end fun _ => .refl
    | _ => exact plumbs_pure (fun _ => rfl) _
  deliver pipe bytes :=
    have plumbs := plumbs_write_end fun conduit => Conduit.drains_pump capacity (conduit.feed bytes)
    ⟨plumbs.silent, plumbs.hidden, plumbs.turns⟩
  roomy := by decide
  read pipe most world conduit here reading unheld := by
    obtain ⟨steps, still, taken⟩ := Conduit.steps_sip capacity most reading
    exact ⟨_, _, answer_draw here _, conduit_draw here _, steps, still, taken, trivial⟩
  readToEnd pipe world conduit here reading unheld := by
    obtain ⟨steps, atEnd, taken⟩ := Conduit.steps_exhaust (by decide : 0 < capacity) reading unheld
    exact ⟨_, _, answer_draw here _, conduit_draw here _, steps, atEnd.reading, taken, atEnd⟩

end Cistern

end PipelineShell
