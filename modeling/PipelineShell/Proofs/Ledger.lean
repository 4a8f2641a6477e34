/-
# Proofs.Ledger -- a world that keeps account of what happens

`Ledger` is a `Host` in which nothing gets lost.  Pipes hold what was written into them
until it is read, and it is known of each whether it is still open for writing.  The text
on the standard error of the shell is kept, the signals that were sent are kept, and so is
the working directory.  Every call succeeds, and a path leads where it says.  The concrete
runs in which the contents of pipes matter, or what is seen from outside, take place here.
-/
import PipelineShell.Command
import PipelineShell.Proofs.Outlook

namespace PipelineShell

set_option autoImplicit false

open Stateful

/-- What stands in a pipe, and whether there is still someone to write to it. -/
structure Pipe where
  content : Bytes
  writable : Bool
  deriving DecidableEq, Repr

namespace Pipe

def empty : Pipe := ⟨[], true⟩

def append (pipe : Pipe) (bytes : Bytes) : Pipe := { pipe with content := pipe.content ++ bytes }

def close (pipe : Pipe) : Pipe := { pipe with writable := false }

def drain (pipe : Pipe) : Pipe := { pipe with content := [] }

end Pipe

/-- The state of the ledger world. -/
structure Ledger where
  directory : Path
  pipes : List Pipe
  /-- The text on the standard error of the shell. -/
  errorText : Bytes
  /-- The processes that were killed, in order. -/
  signals : List Nat
  deriving DecidableEq, Repr

namespace Ledger

/-- Does something to one pipe. -/
def onPipe (change : Pipe → Pipe) (id : Nat) (world : Ledger) : Ledger :=
  { world with pipes := world.pipes.modify id change }

/-- Takes in what is written to a stream. -/
def accept (bytes : Bytes) (world : Ledger) : OutputHandle → Ledger
  | .pipe id => world.onPipe (·.append bytes) id
  | .standardError => { world with errorText := world.errorText ++ bytes }
  | _ => world

end Ledger

instance : Host Ledger where
  canonicalize path _ := .ok path
  isFile _ _ := true
  currentDirectory world := .ok world.directory
  changeDirectory path world := (.ok (), { world with directory := path })
  environment _ := []
  account _ := ⟨"user", "group", none⟩
  processes _ := []
  terminate pid world := (.ok (), { world with signals := world.signals ++ [pid] })
  openPipe world := (.ok world.pipes.length, { world with pipes := world.pipes ++ [.empty] })
  read _ _ := pure (.ok [])
  readToEnd
    | .pipe id, world =>
        (.ok ((world.pipes[id]?.map Pipe.content).getD []), world.onPipe Pipe.drain id)
    | _, world => (.ok [], world)
  write output bytes world := (.ok bytes.length, world.accept bytes output)
  interruptionsLeft _ _ := 0
  flush _ := pure (.ok ())
  closeInput _ := pure ()
  closeOutput
    | .pipe id, world => ((), world.onPipe Pipe.close id)
    | _, world => ((), world)
  deliver id bytes world := (id, world.onPipe (fun pipe => (pipe.append bytes).close) id)
  finishDelivery _ := pure (.ok ())
  spawn _ := pure (.ok ⟨1, none⟩)
  capture _ := pure (.ok ([], .exited 0))
  wait _ := pure (.ok (.exited 0))
  kill _ := pure (.ok ())

namespace Ledger

/-- The start of every run in the ledger world. -/
def context : Context Ledger := ⟨⟨[], .root, "user", "group", none⟩, ⟨.root, [], [], []⟩, []⟩

theorem accept_nil (world : Ledger) (output : OutputHandle) : world.accept [] output = world := by
  cases output with
  | pipe number =>
      have same : (fun pipe : Pipe => pipe.append []) = id := by
        funext pipe
        simp [Pipe.append]
      simp [accept, onPipe, same]
  | standardError => simp [accept]
  | _ => rfl

/-- To write into a pipe and close it. -/
theorem pipes_close_accept (world : Ledger) (bytes : Bytes) (id : Nat) :
    ((world.accept bytes (.pipe id)).onPipe Pipe.close id).pipes =
      world.pipes.modify id fun pipe => (pipe.append bytes).close := by
  rw [onPipe, accept, onPipe, List.modify_modify_eq]
  rfl

/-- A write is taken in as a whole. -/
theorem writeAll_eq (output : OutputHandle) (bytes : Bytes) (world : Ledger) :
    Output.writeAll output bytes world = ((bytes.length, .ok ()), world.accept bytes output) := by
  cases bytes with
  | nil => rw [accept_nil]; rfl
  | cons b rest =>
      have nothingLeft : rest.drop rest.length = [] := List.drop_length
      have written : Output.writeAll output (b :: rest) world =
          Output.writeFrom output ((b :: rest).length) (0 + (rest.length + 1))
            (rest.drop rest.length) (world.accept (b :: rest) output) := rfl
      rw [written, nothingLeft, Nat.zero_add]
      rfl

/-! ## What is seen of it -/

/-- All of the ledger world is seen, but for its pipes. -/
def sight : Sight Ledger (Outlook Unit) where
  calm _ := True
  view world := ⟨.ok world.directory, world.errorText, world.signals, ()⟩

theorem sight_faithful : Outlook.Faithful sight where
  currentDirectory _ _ := rfl
  canonicalize _ _ _ _ := rfl
  environment _ _ _ := rfl
  account _ _ _ := rfl
  interruptionsLeft _ _ _ := rfl
  changeDirectory path := by
    intro world world' ⟨_, _, same⟩
    obtain ⟨-, errors, signals, -⟩ := Outlook.mk.inj same
    exact ⟨rfl, trivial, trivial, by simp [sight, Host.changeDirectory, errors, signals]⟩
  terminate pid := by
    intro world world' ⟨_, _, same⟩
    obtain ⟨place, errors, signals, -⟩ := Outlook.mk.inj same
    exact ⟨rfl, trivial, trivial, by simp [sight, Host.terminate, place, errors, signals]⟩
  write bytes := by
    intro world world' ⟨_, _, same⟩
    obtain ⟨place, errors, signals, -⟩ := Outlook.mk.inj same
    exact ⟨rfl, trivial, trivial,
      by simp [sight, Host.write, Ledger.accept, place, errors, signals]⟩
  signals _ _ _ := rfl
  errorText bytes world _ := by
    exact congrArg _ (List.take_length).symm
  accepts bytes world _ := by
    rw [Ledger.writeAll_eq]
    rfl
  scratch _ _ _ := ⟨rfl, .refl trivial⟩
  openPipe _ _ := ⟨⟨_, rfl⟩, trivial, trivial, rfl⟩
  closeInput _ _ _ := ⟨trivial, .refl trivial⟩
  closeOutput output _ _ := by
    cases output <;> exact ⟨trivial, trivial, trivial, rfl⟩
  flush _ _ _ := ⟨trivial, .refl trivial⟩
  deliver _ _ _ _ := ⟨trivial, trivial, trivial, rfl⟩
  finishDelivery _ _ _ := ⟨trivial, .refl trivial⟩

end Ledger

end PipelineShell
