/-
# Proofs.Spigot -- a world with streams that do not take everything

`Spigot` is the world of the ledger with sinks that take what they are offered as they are
told: each offer is answered by the next of a list of turns, and when there are no more turns,
everything is taken.  What a sink holds back can never be passed on.  Other streams take
everything.  The concrete runs in which it matters what gets through take place here.
-/
import PipelineShell.Proofs.Delivery
import PipelineShell.Proofs.Ledger

namespace PipelineShell

set_option autoImplicit false

open Stateful

/-- The state of a world with sinks that take turns. -/
structure Spigot where
  /-- How many bytes at most are taken of the next offers, or how these fail. -/
  turns : List (Except IoError Nat)
  /-- What was taken by streams, in order. -/
  log : List (OutputHandle × Bytes)
  ledger : Ledger

namespace Spigot

variable {α : Type}

/-- Does to the ledger what is done. -/
def lift (operation : StateM Ledger α) : StateM Spigot α := fun world =>
  ((operation world.ledger).1, { world with ledger := (operation world.ledger).2 })

/-- The turns of a stream. -/
def turnsOf (world : Spigot) : OutputHandle → List (Except IoError Nat)
  | .sink _ => world.turns
  | _ => []

def isInterruption : Except IoError Nat → Bool
  | .ok _ => false
  | .error fault => fault.isInterruption

/-- What is answered to an offer. -/
def answer (turns : List (Except IoError Nat)) (bytes : Bytes) : Except IoError Nat :=
  match turns with
  | [] => .ok bytes.length
  | .ok most :: _ => .ok (min most bytes.length)
  | .error fault :: _ => .error fault

/-- Takes a part of what is offered. -/
def write (output : OutputHandle) (bytes : Bytes) : StateM Spigot (Except IoError Nat) :=
  fun world =>
    (answer (world.turnsOf output) bytes,
      { world with
        turns := match output with
          | .sink _ => world.turns.tail
          | _ => world.turns
        log := match answer (world.turnsOf output) bytes with
          | .ok n => world.log ++ [(output, bytes.take n)]
          | .error _ => world.log })

end Spigot

open Spigot in
instance : Host Spigot where
  canonicalize path world := Host.canonicalize path world.ledger
  isFile path world := Host.isFile path world.ledger
  currentDirectory world := Host.currentDirectory world.ledger
  changeDirectory path := lift (Host.changeDirectory path)
  environment world := Host.environment world.ledger
  account world := Host.account world.ledger
  processes world := Host.processes world.ledger
  terminate pid := lift (Host.terminate pid)
  openPipe := lift Host.openPipe
  read input most := lift (Host.read input most)
  readToEnd input := lift (Host.readToEnd input)
  write := Spigot.write
  interruptionsLeft output world := (world.turnsOf output).countP isInterruption
  flush
    | .sink _ => pure (.error (.os 28))
    | _ => pure (.ok ())
  closeInput input := lift (Host.closeInput input)
  closeOutput output := lift (Host.closeOutput output)
  deliver pipe bytes := lift (Host.deliver pipe bytes)
  finishDelivery delivery := lift (Host.finishDelivery delivery)
  spawn launch := lift (Host.spawn launch)
  capture child := lift (Host.capture child)
  wait child := lift (Host.wait child)
  kill child := lift (Host.kill child)

namespace Spigot

/-- The start of a run with these turns. -/
def context (turns : List (Except IoError Nat)) : Context Spigot :=
  ⟨Ledger.context.session, ⟨turns, [], Ledger.context.world⟩, []⟩

/-- What a stream has taken. -/
def accepted (output : OutputHandle) (world : Spigot) : Bytes :=
  (world.log.filter (·.1 = output)).flatMap (·.2)

theorem turnsOf_write (output : OutputHandle) (bytes : Bytes) (world : Spigot) :
    (write output bytes world).2.turnsOf output = (world.turnsOf output).tail := by
  cases output <;> rfl

/-- To take a turn is to be interrupted once less, if that was an interruption. -/
theorem countP_tail {turns : List (Except IoError Nat)} :
    turns.tail.countP isInterruption ≤ turns.countP isInterruption ∧
      ∀ {bytes fault}, answer turns bytes = .error fault → fault.isInterruption = true →
        turns.tail.countP isInterruption < turns.countP isInterruption := by
  cases turns with
  | nil => exact ⟨Nat.le_refl _, nofun⟩
  | cons turn rest =>
      rw [List.tail_cons, List.countP_cons]
      refine ⟨Nat.le_add_right _ _, fun answered again => ?_⟩
      cases turn with
      | ok most => cases answered
      | error other =>
          obtain rfl := Except.error.inj answered
          rw [isInterruption, if_pos again]
          exact Nat.lt_succ_self _

theorem obeys (output : OutputHandle) : Output.Obeys accepted output where
  logged bytes world := by
    simp only [Host.write, write, accepted]
    cases answer (world.turnsOf output) bytes with
    | error fault => rfl
    | ok n => simp
  elsewhere other apart bytes world := by
    simp only [Host.write, write, accepted]
    cases answer (world.turnsOf output) bytes with
    | error fault => rfl
    | ok n => simp [apart.symm]
  interrupted bytes world fault answered again := by
    simp only [Host.interruptionsLeft, Host.write, turnsOf_write]
    exact countP_tail.2 answered again
  patient bytes world := by
    simp only [Host.interruptionsLeft, Host.write, turnsOf_write]
    exact countP_tail.1
  flush other world := by cases output <;> rfl

theorem steadfast : Output.Steadfast Spigot .standardError := by
  intro bytes world nonempty
  obtain ⟨b, rest, rfl⟩ := List.exists_cons_of_ne_nil nonempty
  exact .inl ⟨rest.length, rfl⟩

end Spigot

end PipelineShell
