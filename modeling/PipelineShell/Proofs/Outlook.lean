/-
# Proofs.Outlook -- what is seen of the world from outside

The pipes and buffers of a shell are its own affair.  From outside one sees the working
directory of its process, the text on its standard error and the signals that it sent;
that is an `Outlook`, together with whatever else the answers of the system depend on, its
files and processes for instance.

`Outlook.Faithful` says what a way of looking at a world has to get right: the answers to
the calls that builtins make on the world depend on nothing that is not seen, and what the
shell does with pipes and buffers is not seen.  It also says that pipes can be opened and
that standard error takes in what is written to it.  All this is asked of calm worlds only,
in which no program is at work beside the shell, and the calls leave them calm.
-/
import PipelineShell.Builtin.Basic
import PipelineShell.Proofs.Writing

namespace PipelineShell

set_option autoImplicit false

open Stateful

variable {W F : Type}

/-- What is seen of a world. -/
structure Outlook (F : Type) where
  /-- The working directory of the process. -/
  directory : Except IoError Path
  /-- The text on standard error. -/
  errorText : Bytes
  /-- The processes that were sent a signal, in order. -/
  signals : List Nat
  /-- Everything else that answers depend on. -/
  rest : F

/-- The answer says that all of a text was written. -/
def Written {A : Type} (answer : A × Except IoError Unit) : Prop := answer.2 = .ok ()

/-- What a way of looking at worlds gets right, as far as they are calm. -/
structure Outlook.Faithful [Host W] (sight : Sight W (Outlook F)) : Prop where
  currentDirectory : ∀ world, sight.calm world →
    Host.currentDirectory world = (sight.view world).directory
  canonicalize : ∀ path world world', sight.Alike world world' →
    Host.canonicalize path world = Host.canonicalize path world'
  environment : ∀ world world' : W, sight.Alike world world' →
    Host.environment world = Host.environment world'
  account : ∀ world world' : W, sight.Alike world world' →
    Host.account world = Host.account world'
  interruptionsLeft : ∀ world world' : W, sight.Alike world world' →
    Host.interruptionsLeft .standardError world = Host.interruptionsLeft .standardError world'
  changeDirectory : ∀ path,
    Matches sight Eq (Host.changeDirectory path : StateM W _) (Host.changeDirectory path)
  terminate : ∀ pid, Matches sight Eq (Host.terminate pid : StateM W _) (Host.terminate pid)
  write : ∀ bytes,
    Matches sight Eq (Host.write .standardError bytes : StateM W _) (Host.write .standardError bytes)
  /-- A signal that was sent is seen. -/
  signals : ∀ pid world, sight.calm world → (sight.view (Host.terminate pid world).2).signals =
    match (Host.terminate pid world).1 with
    | .ok () => (sight.view world).signals ++ [pid]
    | .error _ => (sight.view world).signals
  /-- Text that standard error accepted is seen. -/
  errorText : ∀ bytes world, sight.calm world →
    (sight.view (Host.write .standardError bytes world).2).errorText =
      match (Host.write .standardError bytes world).1 with
      | .ok n => (sight.view world).errorText ++ bytes.take n
      | .error _ => (sight.view world).errorText
  /-- Standard error accepts every text in the end. -/
  accepts : ∀ bytes world, sight.calm world →
    Written (Output.writeAll .standardError bytes world).1
  /-- A scratch buffer accepts every text at once. -/
  scratch : ∀ bytes, Unseen sight (· = .ok bytes.length) (Host.write .scratch bytes : StateM W _)
  /-- Every pipe can be opened. -/
  openPipe : Unseen sight (fun answer => ∃ pipe, answer = .ok pipe) (Host.openPipe : StateM W _)
  closeInput : ∀ input, Unseen sight (fun _ => True) (Host.closeInput input : StateM W _)
  closeOutput : ∀ output, Unseen sight (fun _ => True) (Host.closeOutput output : StateM W _)
  flush : ∀ output, Unseen sight (fun _ => True) (Host.flush output : StateM W _)
  deliver : ∀ pipe bytes, Unseen sight (fun _ => True) (Host.deliver pipe bytes : StateM W _)
  finishDelivery : ∀ delivery, Unseen sight (fun _ => True)
    (Host.finishDelivery delivery : StateM W _)

/-- A context is seen as a whole, with its world seen from outside. -/
def Context.seen (sight : Sight W (Outlook F)) :
    Sight (Context W) (Session × List String × Outlook F) where
  calm context := sight.calm context.world
  view context := (context.session, context.journal, sight.view context.world)

theorem Context.act_unseen {α : Type} {sight : Sight W (Outlook F)} {good : α → Prop}
    {action : StateM W α} (unseen : Unseen sight good action) :
    Unseen (Context.seen sight) good (Context.act action) := by
  intro context calm
  obtain ⟨here, alike⟩ := unseen context.world calm
  exact ⟨here, alike.calm, alike.calm', Prod.ext rfl (Prod.ext rfl alike.same)⟩

/-! ## Writing -/

/-- The stream takes in every text, and how it does so depends on nothing unseen. -/
def Takes [Host W] (sight : Sight W (Outlook F)) (output : OutputHandle) : Prop :=
  ∀ bytes, Matches sight (fun answer answer' => answer = answer' ∧ Written answer)
    (Output.writeAll output bytes : StateM W _) (Output.writeAll output bytes)

namespace Outlook.Faithful

variable [Host W] {sight : Sight W (Outlook F)} (faithful : Outlook.Faithful sight)
include faithful

theorem standardError_takes : Takes sight .standardError := by
  intro bytes world world' alike
  obtain ⟨same, after⟩ := Output.writeAll_relates faithful.interruptionsLeft faithful.write bytes
    world world' alike
  exact ⟨⟨same, faithful.accepts bytes world alike.calm⟩, after⟩

theorem writeAll_scratch (bytes : Bytes) :
    Unseen sight (· = (bytes.length, .ok ())) (Output.writeAll .scratch bytes : StateM W _) := by
  intro world calm
  have absorbs : ∀ bytes, Ensures (fun now => sight.Alike now world) (Host.write .scratch bytes)
      fun answer now => answer = .ok bytes.length ∧ sight.Alike now world := by
    intro bytes now alike
    obtain ⟨whole, same⟩ := faithful.scratch bytes now alike.calm
    exact ⟨whole, same.trans alike⟩
  exact Output.writeAll_absorbed absorbs bytes world (.refl calm)

theorem scratch_takes : Takes sight .scratch := fun bytes =>
  (faithful.writeAll_scratch bytes).self_matches.weaken fun answer _ ⟨same, value⟩ =>
    ⟨same, by rw [value]; rfl⟩

end Outlook.Faithful

/-- Several pieces are taken in one after the other. -/
theorem Takes.writePieces [Host W] {sight : Sight W (Outlook F)} {output : OutputHandle}
    (takes : Takes sight output) (pieces : List Bytes) :
    Matches sight (fun answer answer' => answer = answer' ∧ Written answer)
      (Output.writePieces output pieces : StateM W _) (Output.writePieces output pieces) := by
  induction pieces with
  | nil => exact .pure ⟨rfl, rfl⟩
  | cons piece rest ih =>
      refine (takes piece).bind fun answer answer' ⟨same, written⟩ => ?_
      obtain rfl := same
      obtain ⟨count, result⟩ := answer
      obtain rfl : result = .ok () := written
      refine ih.bind fun answer answer' ⟨same, written⟩ => ?_
      obtain rfl := same
      exact .pure ⟨rfl, written⟩

end PipelineShell
