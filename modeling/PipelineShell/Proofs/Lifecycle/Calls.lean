/-
# Proofs.Lifecycle.Calls -- calls on one command, in any order

A command is meant to be given its words, then its streams, to be run or asked for its
output, and then to be waited for.  Nothing forces this order upon its user, though.  Here
a command is followed through `calls` that are made as they come (`Lifecycle.after`), each
in a context of its own: between one call and the next, anything may happen to the session
and to the world.

Of what a command does there may be a record, which is kept beside the context
(`Lifecycle.recorded`).  If keeping the record changes nothing call by call, it changes
nothing at all (`Lifecycle.recorded_fst`).
-/
import Mathlib.Data.List.Induction
import PipelineShell.Host
import PipelineShell.Proofs.Stateful

namespace PipelineShell.Lifecycle

set_option autoImplicit false

open Stateful

/-- A call on a command. -/
inductive Call where
  | parseArguments (words : List String)
  | setInput (input : InputHandle)
  | setOutput (output : OutputHandle)
  | setError (error : OutputHandle)
  | openPipe
  | run
  | output
  | wait
  | abort
  deriving DecidableEq, Repr

/-- What a call answers. -/
inductive Answer where
  | nothing
  | pipe (answer : Except IoError InputHandle)
  | ran (answer : Except ShellError Unit)
  | produced (answer : Except ShellError Bytes)
  | ended (answer : Except ShellError ExitCode)

/-- The words that the call gives to the command. -/
def Call.words? : Call → Option (List String)
  | .parseArguments words => some words
  | _ => none

/-- The call is meant to set the command to work, if it has not worked. -/
def Call.Starts (call : Call) : Prop := call = .run ∨ call = .output

instance (call : Call) : Decidable call.Starts := inferInstanceAs (Decidable (_ ∨ _))

variable {S C D : Type} {α : Type}

/-! ## Words -/

/-- The words that were given last. -/
def words? (calls : List (Call × C)) : Option (List String) :=
  (calls.filterMap (·.1.words?)).getLast?

@[simp] theorem words?_nil : words? ([] : List (Call × C)) = none := rfl

@[simp] theorem words?_snoc (calls : List (Call × C)) (call : Call) (context : C) :
    words? (calls ++ [(call, context)]) = call.words?.or (words? calls) := by
  cases given : call.words? <;>
    simp [words?, List.filterMap_append, given]

/-! ## Following a command -/

/-- The command after the calls. -/
def after (serve : Call → S → StateM C (Answer × S)) (fresh : S) (calls : List (Call × C)) : S :=
  calls.foldl (fun command made => (serve made.1 command made.2).1.2) fresh

variable {serve : Call → S → StateM C (Answer × S)} {fresh : S}

@[simp] theorem after_nil : after serve fresh [] = fresh := rfl

@[simp] theorem after_snoc (calls : List (Call × C)) (call : Call) (context : C) :
    after serve fresh (calls ++ [(call, context)]) =
      (serve call (after serve fresh calls) context).1.2 := by
  simp [after]

/-! ## Records -/

/-- To act without putting anything on record. -/
def unrecorded (action : StateM C α) : StateM (C × List D) α := fun (context, deeds) =>
  let (answer, context) := action context
  (answer, (context, deeds))

/-- To put a deed on record. -/
def record (deed : D) : StateM (C × List D) Unit := fun (context, deeds) =>
  ((), (context, deeds ++ [deed]))

@[simp] theorem unrecorded_apply (action : StateM C α) (context : C) (deeds : List D) :
    unrecorded action (context, deeds) =
      ((action context).1, ((action context).2, deeds)) := rfl

@[simp] theorem record_apply (deed : D) (context : C) (deeds : List D) :
    record deed (context, deeds) = ((), (context, deeds ++ [deed])) := rfl

/-- With the record left out, nothing was put on it. -/
theorem unrecorded_erases (action : StateM C α) :
    Carried Prod.fst id (unrecorded action : StateM (C × List D) α) action := fun _ => rfl

/-- To put something on record before an action is, with the record left out, to act. -/
theorem record_erases {action : StateM (C × List D) α} {erased : StateM C α} (deed : D)
    (erases : Carried Prod.fst id action erased) :
    Carried Prod.fst id (record deed >>= fun _ => action) erased :=
  fun context => erases (context.1, context.2 ++ [deed])

/-- The command after the calls, with all that is on record then. -/
def recorded (serve : Call → S → StateM (C × List D) (Answer × S)) (fresh : S)
    (calls : List (Call × C)) : S × List D :=
  calls.foldl (fun (command, deeds) made =>
    let served := serve made.1 command (made.2, deeds)
    (served.1.2, served.2.2)) (fresh, [])

variable {serveRecording : Call → S → StateM (C × List D) (Answer × S)}

@[simp] theorem recorded_nil : recorded serveRecording fresh [] = (fresh, []) := rfl

theorem recorded_snoc (calls : List (Call × C)) (call : Call) (context : C) :
    recorded serveRecording fresh (calls ++ [(call, context)]) =
      ((serveRecording call (recorded serveRecording fresh calls).1
          (context, (recorded serveRecording fresh calls).2)).1.2,
        (serveRecording call (recorded serveRecording fresh calls).1
          (context, (recorded serveRecording fresh calls).2)).2.2) := by
  simp [recorded]

section Erasure

variable (erases : ∀ call command,
  Carried Prod.fst id (serveRecording call command) (serve call command))
include erases

/-- The record changes nothing. -/
theorem recorded_fst (calls : List (Call × C)) :
    (recorded serveRecording fresh calls).1 = after serve fresh calls := by
  induction calls using List.reverseRecOn with
  | nil => rfl
  | append_singleton calls made ih =>
      obtain ⟨call, context⟩ := made
      have same := erases call (recorded serveRecording fresh calls).1
        (context, (recorded serveRecording fresh calls).2)
      rw [recorded_snoc, after_snoc, ← ih, same]
      rfl

/-- One call adds to the record what the command does then. -/
theorem recorded_snoc_snd (calls : List (Call × C)) (call : Call) (context : C) :
    (recorded serveRecording fresh (calls ++ [(call, context)])).2 =
      (serveRecording call (after serve fresh calls)
        (context, (recorded serveRecording fresh calls).2)).2.2 := by
  rw [recorded_snoc, recorded_fst erases calls]

end Erasure

end PipelineShell.Lifecycle
