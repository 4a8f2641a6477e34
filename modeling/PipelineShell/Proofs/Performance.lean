/-
# Proofs.Performance -- what a builtin does depends on what is seen

A builtin whose output is kept in a buffer does the same wherever the same is seen: it
gives the same answer and leaves the same to be seen (`Builtin.perform_matches`).  It does
not fail either, since what it has to say gets through.  The process listing is the one
exception, for the processes of a pipeline are among those that it lists.
-/
import PipelineShell.Proofs.Intent
import PipelineShell.Proofs.Outlook

namespace PipelineShell

set_option autoImplicit false

open Stateful

variable {W F : Type} {sight : Sight W (Outlook F)}

/-- Contexts look alike when their worlds do, and they are the same otherwise. -/
theorem Context.seen_alike {context context' : Context W} :
    (Context.seen sight).Alike context context' ↔ Context.Related sight.Alike context context' := by
  constructor
  · intro ⟨calm, calm', same⟩
    obtain ⟨sameSession, sameRest⟩ := Prod.mk.inj same
    obtain ⟨sameJournal, sameWorld⟩ := Prod.mk.inj sameRest
    exact ⟨sameSession, sameJournal, calm, calm', sameWorld⟩
  · intro ⟨session, journal, world⟩
    exact ⟨world.calm, world.calm', Prod.ext session (Prod.ext journal world.same)⟩

variable [Host W]

namespace Takes

variable {output : OutputHandle} (takes : Takes sight output) (pieces : List Bytes)
include takes

theorem relates :
    Relates sight.Alike Eq (Output.writePieces output pieces : StateM W _)
      (Output.writePieces output pieces) :=
  (takes.writePieces pieces).weaken fun _ _ => And.left

theorem ensures :
    Ensures sight.calm (Output.writePieces output pieces : StateM W _) fun answer _ =>
      answer.2 = .ok () :=
  fun world calm => (takes.writePieces pieces world world (.refl calm)).1.2

end Takes

namespace Outlook.Faithful

variable (faithful : Outlook.Faithful sight)
include faithful

theorem guides : Builtin.Guides sight.Alike where
  canonicalize := faithful.canonicalize
  environment := faithful.environment
  account := faithful.account
  changeDirectory := faithful.changeDirectory
  terminate := faithful.terminate

theorem upholds : Builtin.Upholds sight.calm where
  changeDirectory path world calm := (faithful.changeDirectory path world world (.refl calm)).2.calm
  terminate pid world calm := (faithful.terminate pid world world (.refl calm)).2.calm

end Outlook.Faithful

namespace Builtin

/-- **A builtin whose output is kept in a buffer does the same wherever the same is seen**,
and its work comes to an end. -/
theorem perform_matches (faithful : Outlook.Faithful sight) (input input' : InputHandle)
    (parsed : Except EarlyExit Invocation) (listless : parsed ≠ .ok .ps) :
    Matches (Context.seen sight) (fun answer answer' => answer = answer' ∧ Done answer)
      (perform ⟨input, .scratch, .standardError⟩ parsed : StateM (Context W) _)
      (perform ⟨input', .scratch, .standardError⟩ parsed) := by
  have prints := faithful.scratch_takes
  have reports := faithful.standardError_takes
  have related : Relates (Context.Related sight.Alike) Eq
      (perform ⟨input, .scratch, .standardError⟩ parsed)
      (perform ⟨input', .scratch, .standardError⟩ parsed) :=
    perform_relates prints.relates reports.relates faithful.guides parsed listless
  have ends : Ensures (fun context : Context W => sight.calm context.world)
      (perform ⟨input, .scratch, .standardError⟩ parsed) fun answer _ => Done answer :=
    perform_ends prints.ensures reports.ensures faithful.upholds parsed listless
  intro context context' alike
  obtain ⟨same, after⟩ := related context context' (Context.seen_alike.1 alike)
  exact ⟨⟨same, ends context alike.calm⟩, Context.seen_alike.2 after⟩

end Builtin

end PipelineShell
