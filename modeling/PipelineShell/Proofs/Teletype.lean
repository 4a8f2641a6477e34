/-
# Proofs.Teletype -- a world with a terminal

`Teletype` is the world of the ledger with a terminal in front of it: what is typed is read
line by line, with the prompt shown each time, and what is written to standard output is kept.
Whatever else a shell does, it does to the ledger.  The concrete runs in which lines are read
take place here.
-/
import PipelineShell.Proofs.Ledger
import PipelineShell.Proofs.Terminal

namespace PipelineShell

set_option autoImplicit false

open Stateful

/-- The state of a world with a terminal. -/
structure Teletype where
  awaiting : List Typed
  shown : Bytes
  ledger : Ledger
  deriving DecidableEq, Repr

namespace Teletype

variable {α : Type}

/-- Does to the ledger what is done. -/
def lift (operation : StateM Ledger α) : StateM Teletype α := fun world =>
  ((operation world.ledger).1, { world with ledger := (operation world.ledger).2 })

/-- Takes in what is written to a stream. -/
def write (output : OutputHandle) (bytes : Bytes) : StateM Teletype (Except IoError Nat) :=
  match output with
  | .standardOutput => fun world => (.ok bytes.length, { world with shown := world.shown ++ bytes })
  | output => lift (Host.write output bytes)

end Teletype

open Teletype in
instance : Host Teletype where
  canonicalize path world := Host.canonicalize path world.ledger
  isFile path world := Host.isFile path world.ledger
  currentDirectory world := Host.currentDirectory world.ledger
  changeDirectory path := lift (Host.changeDirectory path)
  environment world := Host.environment world.ledger
  account world := Host.account world.ledger
  processes world := Host.processes world.ledger
  terminate pid := lift (Host.terminate pid)
  openPipe := lift Host.openPipe
  read input count := lift (Host.read input count)
  readToEnd input := lift (Host.readToEnd input)
  write := Teletype.write
  interruptionsLeft _ _ := 0
  flush output := lift (Host.flush output)
  closeInput input := lift (Host.closeInput input)
  closeOutput output := lift (Host.closeOutput output)
  deliver pipe bytes := lift (Host.deliver pipe bytes)
  finishDelivery delivery := lift (Host.finishDelivery delivery)
  spawn launch := lift (Host.spawn launch)
  capture child := lift (Host.capture child)
  wait child := lift (Host.wait child)
  kill child := lift (Host.kill child)

instance : LineEditor Teletype where
  start := pure (.ok ())
  readLine prompt world :=
    (Typed.answer world.awaiting,
      { world with
        awaiting := world.awaiting.tail, shown := world.shown ++ Utf8.encode prompt })
  remember _ := pure (.ok ())
  readsLeft world := world.awaiting.length

namespace Teletype

/-- The start of a run, with this going to be typed. -/
def context (typed : List Typed) : Context Teletype :=
  ⟨Ledger.context.session, ⟨typed, [], Ledger.context.world⟩, []⟩

/-- What is typed and shown, apart from the ledger. -/
def terminal : Terminal Teletype Ledger where
  awaiting := Teletype.awaiting
  shown := Teletype.shown
  display := Utf8.encode
  sight :=
    { calm := fun _ => True
      view := fun world => ⟨.ok world.ledger.directory, world.ledger.errorText,
        world.ledger.signals, world.ledger⟩ }

/-- Worlds that look alike have the same ledger. -/
theorem same_ledger {world world' : Teletype} (alike : terminal.sight.Alike world world') :
    world.ledger = world'.ledger := (Outlook.mk.inj alike.same).2.2.2

variable {α : Type}

theorem steady_lift (operation : StateM Ledger α) : terminal.Steady (lift operation) := by
  intro world world' alike
  refine ⟨?_, ⟨trivial, trivial, ?_⟩, rfl, [], (List.append_nil _).symm, (List.append_nil _).symm⟩
  · simp only [lift, same_ledger alike]
  · simp only [lift, terminal, same_ledger alike]

theorem steady_write (output : OutputHandle) (bytes : Bytes) :
    terminal.Steady (Teletype.write output bytes) := by
  cases output with
  | standardOutput =>
      exact fun world world' alike => ⟨rfl, ⟨trivial, trivial, alike.same⟩, rfl, bytes, rfl, rfl⟩
  | _ => exact steady_lift _

theorem terminal_lawful : terminal.Lawful where
  directory _ _ := rfl
  errorText bytes world _ := congrArg _ List.take_length.symm
  outputText bytes world _ := congrArg _ List.take_length.symm
  work work := by
    cases work with
    | write output bytes => exact steady_write output bytes
    | _ => exact steady_lift _
  move path := steady_lift _
  view seen := by
    intro world world' alike
    have ledger := same_ledger alike
    induction seen with
    | canonicalize path =>
        exact congrArg (fun ledger : Ledger => Host.canonicalize path ledger) ledger
    | isFile => exact congrArg (fun (ledger : Ledger) path => Host.isFile path ledger) ledger
    | account => exact congrArg (fun ledger : Ledger => Host.account ledger) ledger
    | processes => exact congrArg (fun ledger : Ledger => Host.processes ledger) ledger
    | environment => rfl
    | interruptionsLeft output => rfl
    | map _ read ih => exact congrArg read ih
    | pair _ _ first second => exact Prod.ext first second
  start world _ := ⟨rfl, rfl, (List.append_nil _).symm, .refl trivial⟩
  readLine prompt world _ := ⟨rfl, rfl, rfl, trivial, trivial, rfl⟩
  remember _ world _ := ⟨rfl, rfl, (List.append_nil _).symm, .refl trivial⟩
  readsLeft _ _ := Nat.le_refl _

/-- Standard error takes whatever is written to it. -/
theorem terminal_willing : terminal.Willing := by
  intro bytes world _
  have taken : ∀ bytes, Ensures (fun _ : Teletype => True) (Host.write .standardError bytes)
      fun answer _ => answer = .ok bytes.length ∧ True := fun _ _ _ => ⟨rfl, trivial⟩
  exact congrArg Prod.snd (Output.writeAll_absorbed taken bytes world trivial).1

end Teletype

end PipelineShell
