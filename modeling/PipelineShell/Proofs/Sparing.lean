/-
# Proofs.Sparing -- calls that leave something alone

There is little that commands do to the session, and little that they do to the place of the
shell's process in the tree of files: both are the affair of a builtin or two.  Everything
else a shell does acts on the world in other ways, looks at the session or the world, or
writes in the journal.

Let something be `shown` of a context.  An action `Spares` it if it shows the same
afterwards; this goes through binding (`Spares.bind`).  What no call on the world changes,
moving the process apart, is `Aloof`, and then it is spared by whatever is put together from
such calls (`Aloof.spares`), and so by the work of programs, the calls on commands and what
the shell prints.  The session is aloof (`Context.aloof_session`).
-/
import PipelineShell.Proofs.Programs

namespace PipelineShell

set_option autoImplicit false

open Stateful

variable {W : Type} {α β A : Type} {shown : Context W → A}

/-- The action leaves what is shown of a context as it is. -/
def Spares (shown : Context W → A) (action : StateM (Context W) α) : Prop :=
  ∀ context, shown (action context).2 = shown context

namespace Spares

theorem pure (answer : α) : Spares shown (Pure.pure answer) := fun _ => rfl

theorem bind {first : StateM (Context W) α} {next : α → StateM (Context W) β}
    (now : Spares shown first) (later : ∀ answer, Spares shown (next answer)) :
    Spares shown (first >>= next) :=
  fun context => (later _ _).trans (now context)

/-- What comes after the first action may leave what is shown as that left it. -/
theorem bind_after {first : StateM (Context W) α} {next : α → StateM (Context W) β}
    (later : ∀ answer, Spares shown (next answer)) (context : Context W) :
    shown ((first >>= next) context).2 = shown (first context).2 := later _ _

theorem look (view : W → α) : Spares shown (Context.look view) := fun _ => rfl

theorem ask (view : Session → α) : Spares shown (Context.ask view) := fun _ => rfl

end Spares

variable [Host W]

/-- What is shown is changed neither by the journal nor by a call that does not move the
process. -/
structure Aloof (shown : Context W → A) : Prop where
  note : ∀ entry, Spares shown (Context.note entry)
  act : ∀ {α : Type} {operation : StateM W α}, Host.Work operation →
    Spares shown (Context.act operation)

/-- To act on the world is to leave the session alone. -/
theorem Context.aloof_session : Aloof fun context : Context W => context.session where
  note _ _ := rfl
  act _ _ := rfl

theorem Aloof.pair {B : Type} {shown' : Context W → B} (first : Aloof shown)
    (second : Aloof shown') : Aloof fun context => (shown context, shown' context) where
  note entry context := Prod.ext (first.note entry context) (second.note entry context)
  act work context := Prod.ext (first.act work context) (second.act work context)

/-- What can be read off something aloof is aloof. -/
theorem Aloof.of_shown {B : Type} (aloof : Aloof shown) (read : A → B) :
    Aloof fun context => read (shown context) where
  note entry context := congrArg read (aloof.note entry context)
  act work context := congrArg read (aloof.act work context)

/-- **What is aloof is spared by whatever is put together from calls**, as long as none of
them moves the process or changes the session. -/
theorem Aloof.spares (aloof : Aloof shown) {action : StateM (Context W) α}
    (built : Built False action) : Spares shown action := by
  induction built with
  | pure answer => exact .pure answer
  | bind _ _ ihFirst ihNext => exact ihFirst.bind ihNext
  | act work => exact aloof.act work
  | look seen => exact .look _
  | ask view => exact .ask view
  | note entry => exact aloof.note entry
  | move may => exact may.elim
  | modifySession may => exact may.elim

theorem Builtin.setOutput_spares (aloof : Aloof shown) (builtin : Builtin)
    (output : OutputHandle) : Spares shown (builtin.setOutput output) :=
  aloof.spares (builtin.setOutput_built output)

end PipelineShell
