/-
# Proofs.Writing -- what becomes of a text that is written

To write a text is to offer it, and what is left of it, again and again.  So whatever is
known of a single offer is known of the whole: worlds that no offer can tell apart are not
told apart by a text (`Output.writePieces_relates`), and what no offer changes is left
alone (`Output.writePieces_keeps`).

Where the bytes go is told from the answers.  If a stream's record grows with every offer by
as many bytes as were accepted (`Output.Logged`), it grows with a text by what the answer
says (`Output.writePieces_logged`).  A stream that accepts every offer as a whole takes in
all of the text (`Output.writePieces_absorbed`).
-/
import PipelineShell.Output
import PipelineShell.Proofs.Stateful

namespace PipelineShell.Output

set_option autoImplicit false

open Stateful

variable {W : Type} [Host W] {output : OutputHandle}

theorem writeAll_eq (output : OutputHandle) (bytes : Bytes) (world : W) :
    writeAll output bytes world =
      writeFrom output (bytes.length + Host.interruptionsLeft output world + 1) 0 bytes world := rfl

/-! ## Two worlds -/

section Relating

variable {relation : W → W → Prop}
  (patient : ∀ world world', relation world world' →
    Host.interruptionsLeft output world = Host.interruptionsLeft output world')
  (offer : ∀ bytes, Relates relation Eq (Host.write output bytes) (Host.write output bytes))

include offer in
theorem writeFrom_relates (calls accepted : Nat) (bytes : Bytes) :
    Relates relation Eq (writeFrom output calls accepted bytes)
      (writeFrom output calls accepted bytes) := by
  induction calls generalizing accepted bytes with
  | zero => cases bytes <;> exact .pure rfl
  | succ calls ih =>
      cases bytes with
      | nil => exact .pure rfl
      | cons b rest =>
          refine (offer (b :: rest)).bind_same fun answer => ?_
          cases answer with
          | error fault =>
              dsimp only
              split
              · exact ih accepted (b :: rest)
              · exact .pure rfl
          | ok n =>
              cases n with
              | zero => exact .pure rfl
              | succ n => exact ih _ _

include patient offer

theorem writeAll_relates (bytes : Bytes) :
    Relates relation Eq (writeAll output bytes) (writeAll output bytes) := by
  intro world world' related
  rw [writeAll_eq, writeAll_eq, patient world world' related]
  exact writeFrom_relates offer _ _ _ _ _ related

/-- **Worlds that no offer can tell apart are not told apart by a text.** -/
theorem writePieces_relates (pieces : List Bytes) :
    Relates relation Eq (writePieces output pieces) (writePieces output pieces) := by
  induction pieces with
  | nil => exact .pure rfl
  | cons piece rest ih =>
      refine (writeAll_relates patient offer piece).bind_same fun (count, result) => ?_
      cases result with
      | error fault => exact .pure rfl
      | ok done => exact ih.bind_same fun answer => .pure rfl

end Relating

section Keeping

variable {holds : W → Prop} (offer : ∀ bytes, Keeps holds (Host.write output bytes))
include offer

theorem writeAll_keeps (bytes : Bytes) : Keeps holds (writeAll output bytes) := by
  refine keeps_iff_relates.2
    (writeAll_relates ?_ (fun bytes => keeps_iff_relates.1 (offer bytes)) bytes)
  rintro world _ ⟨rfl, -⟩
  rfl

/-- What no offer changes is left alone. -/
theorem writePieces_keeps (pieces : List Bytes) : Keeps holds (writePieces output pieces) := by
  induction pieces with
  | nil => exact .pure _
  | cons piece rest ih =>
      refine (writeAll_keeps offer piece).bind fun (count, result) => ?_
      cases result with
      | error fault => exact .pure _
      | ok done => exact ih.bind fun answer => .pure _

end Keeping

/-! ## The record of a stream -/

/-- The record grows with every offer by what was accepted of it. -/
def Logged (record : W → Bytes) (output : OutputHandle) : Prop :=
  ∀ bytes world, record (Host.write output bytes world).2 =
    match (Host.write output bytes world).1 with
    | .ok n => record world ++ bytes.take n
    | .error _ => record world

section Logging

variable {record : W → Bytes} (logged : Logged record output)
include logged

/-- With `accepted` bytes written before, `n` more are; and if there is no failure, these
are all. -/
theorem writeFrom_logged (calls accepted : Nat) (bytes : Bytes) (world : W) :
    ∃ n, (writeFrom output calls accepted bytes world).1.1 = accepted + n ∧
      record (writeFrom output calls accepted bytes world).2 = record world ++ bytes.take n ∧
      ((writeFrom output calls accepted bytes world).1.2 = .ok () → bytes.take n = bytes) := by
  induction calls generalizing accepted bytes world with
  | zero =>
      refine ⟨0, ?_⟩
      cases bytes with
      | nil => exact ⟨rfl, (List.append_nil _).symm, fun _ => rfl⟩
      | cons b rest => exact ⟨rfl, (List.append_nil _).symm, (nomatch ·)⟩
  | succ calls ih =>
      cases bytes with
      | nil => exact ⟨0, rfl, (List.append_nil _).symm, fun _ => rfl⟩
      | cons b rest =>
          have grown := logged (b :: rest) world
          simp only [writeFrom, bind_apply]
          generalize Host.write output (b :: rest) world = answered at grown ⊢
          obtain ⟨fault | n, offered⟩ := answered
          · -- nothing was accepted, and the same is offered again or given up
            dsimp only at grown ⊢
            rw [← grown]
            split
            · exact ih accepted (b :: rest) offered
            · exact ⟨0, rfl, (List.append_nil _).symm, (nomatch ·)⟩
          · cases n with
            | zero => exact ⟨0, rfl, grown, (nomatch ·)⟩
            | succ n =>
                obtain ⟨more, count, grownMore, all⟩ :=
                  ih (accepted + (n + 1)) (rest.drop n) offered
                have cut : (b :: rest).take (n + 1 + more) =
                    (b :: rest).take (n + 1) ++ (rest.drop n).take more := by
                  rw [List.take_add]
                  rfl
                refine ⟨n + 1 + more, count.trans (Nat.add_assoc _ _ _), ?_, fun ended => ?_⟩
                · rw [cut, ← List.append_assoc]
                  exact grownMore.trans (congrArg (· ++ _) grown)
                · rw [cut, all ended]
                  exact List.take_append_drop (n + 1) (b :: rest)

theorem writeAll_logged (bytes : Bytes) (world : W) :
    record (writeAll output bytes world).2 =
      record world ++ bytes.take (writeAll output bytes world).1.1 ∧
    ((writeAll output bytes world).1.2 = .ok () →
      bytes.take (writeAll output bytes world).1.1 = bytes) := by
  obtain ⟨n, count, grown, all⟩ := writeFrom_logged logged
    (bytes.length + Host.interruptionsLeft output world + 1) 0 bytes world
  rw [Nat.zero_add] at count
  rw [writeAll_eq, count]
  exact ⟨grown, all⟩

/-- **The record grows by what the answer says.** -/
theorem writePieces_logged (pieces : List Bytes) (world : W) :
    record (writePieces output pieces world).2 =
      record world ++ (writePieces output pieces world).1.1 := by
  induction pieces generalizing world with
  | nil => exact (List.append_nil _).symm
  | cons piece rest ih =>
      obtain ⟨grown, all⟩ := writeAll_logged logged piece world
      simp only [writePieces, bind_apply]
      generalize writeAll output piece world = answered at grown all ⊢
      obtain ⟨⟨n, fault | done⟩, written⟩ := answered
      · exact grown
      · simp only [bind_apply, pure_apply]
        rw [ih written, grown, all rfl, List.append_assoc]

end Logging

/-! ## Streams that accept everything -/

section Absorbing

variable {holds : W → Prop}
  (absorbs : ∀ bytes, Ensures holds (Host.write output bytes)
    fun answer world => answer = .ok bytes.length ∧ holds world)
include absorbs

theorem writeAll_absorbed (bytes : Bytes) :
    Ensures holds (writeAll output bytes)
      fun answer world => answer = (bytes.length, .ok ()) ∧ holds world := by
  intro world here
  cases bytes with
  | nil => exact ⟨rfl, here⟩
  | cons b rest =>
      obtain ⟨whole, still⟩ := absorbs (b :: rest) world here
      have nothingLeft : rest.drop rest.length = [] := List.drop_length
      rw [writeAll_eq, writeFrom, bind_apply, whole]
      simp only [List.length_cons, nothingLeft, Nat.zero_add, writeFrom, pure_apply, true_and]
      exact still

/-- **A stream that accepts every offer takes in all of a text.** -/
theorem writePieces_absorbed (pieces : List Bytes) :
    Ensures holds (writePieces output pieces)
      fun answer world => answer = (pieces.flatten, .ok ()) ∧ holds world := by
  induction pieces with
  | nil => exact .pure fun _ here => ⟨rfl, here⟩
  | cons piece rest ih =>
      refine (writeAll_absorbed absorbs piece).bind fun answer => .of_and fun whole => ?_
      obtain rfl := whole
      refine ih.bind fun answer => .of_and fun whole => ?_
      obtain rfl := whole
      exact .pure fun _ here => ⟨rfl, here⟩

end Absorbing

end PipelineShell.Output
