/-
# Proofs.Delivery -- what becomes of a text, offer by offer

A text is written in pieces, and each piece in as many offers as its stream needs: it may
take a part of an offer, it may be interrupted, and it may fail in between.  `Output.Delivers`
says how a text fares, offer by offer, with no bound on their number.

A beginning of the text gets through, and all of it if there is no failure
(`Output.Delivers.isPrefix`).  If a stream is interrupted only so many times as it says
(`Output.Obeys`), this is what becomes of a text that is written
(`Output.writePieces_delivers`); and if it fails at nothing but that, the text arrives
(`Output.writePieces_arrives`).
-/
import PipelineShell.Proofs.Writing

namespace PipelineShell.Output

set_option autoImplicit false

open Stateful

variable {W : Type} [Host W] {output : OutputHandle}

/-! ## Offer by offer -/

/-- How a text fares that is written in pieces, beginning in this world: the bytes that get
through, the failure that ends it if there is one, and the world that is left. -/
inductive Delivers (output : OutputHandle) :
    List Bytes → W → Bytes → Option IoError → W → Prop where
  | done (world : W) : Delivers output [] world [] none world
  | next {rest : List Bytes} {world left : W} {accepted : Bytes} {failure : Option IoError}
      (later : Delivers output rest world accepted failure left) :
      Delivers output ([] :: rest) world accepted failure left
  /-- A part of the offer is taken, and the others are offered again. -/
  | taken {piece : Bytes} {rest : List Bytes} {world offered left : W} {n : Nat}
      {accepted : Bytes} {failure : Option IoError} (nonempty : piece ≠ [])
      (offer : Host.write output piece world = (.ok (n + 1), offered))
      (later : Delivers output (piece.drop (n + 1) :: rest) offered accepted failure left) :
      Delivers output (piece :: rest) world (piece.take (n + 1) ++ accepted) failure left
  | interrupted {piece : Bytes} {rest : List Bytes} {world offered left : W} {fault : IoError}
      {accepted : Bytes} {failure : Option IoError} (nonempty : piece ≠ [])
      (offer : Host.write output piece world = (.error fault, offered))
      (again : fault.isInterruption = true)
      (later : Delivers output (piece :: rest) offered accepted failure left) :
      Delivers output (piece :: rest) world accepted failure left
  /-- Not to take anything is to fail. -/
  | refused {piece : Bytes} {rest : List Bytes} {world offered : W} (nonempty : piece ≠ [])
      (offer : Host.write output piece world = (.ok 0, offered)) :
      Delivers output (piece :: rest) world [] (some .wroteNothing) offered
  | failed {piece : Bytes} {rest : List Bytes} {world offered : W} {fault : IoError}
      (nonempty : piece ≠ []) (offer : Host.write output piece world = (.error fault, offered))
      (final : fault.isInterruption = false) :
      Delivers output (piece :: rest) world [] (some fault) offered

namespace Delivers

variable {pieces rest : List Bytes} {world between left : W} {accepted accepted' : Bytes}
  {failure : Option IoError}

/-- **What gets through is a beginning of the text, and all of it if nothing fails.** -/
theorem isPrefix (delivers : Delivers output pieces world accepted failure left) :
    accepted <+: pieces.flatten ∧ (failure = none ↔ accepted = pieces.flatten) := by
  have cut : ∀ {piece : Bytes} {rest : List Bytes}, piece ≠ [] →
      ([] : Bytes) ≠ (piece :: rest).flatten := by
    intro piece rest nonempty same
    exact nonempty (List.append_eq_nil_iff.1 same.symm).1
  induction delivers with
  | done world => exact ⟨List.prefix_refl _, iff_of_true rfl rfl⟩
  | next later ih => exact ih
  | @taken piece rest world offered left n accepted failure nonempty offer later ih =>
      have whole : (piece :: rest).flatten =
          piece.take (n + 1) ++ (piece.drop (n + 1) :: rest).flatten := by
        rw [List.flatten_cons, List.flatten_cons, ← List.append_assoc, List.take_append_drop]
      rw [whole]
      exact ⟨(List.prefix_append_right_inj _).2 ih.1, ih.2.trans (List.append_right_inj _).symm⟩
  | interrupted nonempty offer again later ih => exact ih
  | refused nonempty offer =>
      exact ⟨List.nil_prefix, iff_of_false (Option.some_ne_none _) (cut nonempty)⟩
  | failed nonempty offer final =>
      exact ⟨List.nil_prefix, iff_of_false (Option.some_ne_none _) (cut nonempty)⟩

theorem whole (delivers : Delivers output pieces world accepted none left) :
    accepted = pieces.flatten := delivers.isPrefix.2.1 rfl

/-- One text after the other. -/
theorem followed (first : Delivers output pieces world accepted none between)
    (second : Delivers output rest between accepted' failure left) :
    Delivers output (pieces ++ rest) world (accepted ++ accepted') failure left := by
  generalize ended : (none : Option IoError) = outcome at first
  induction first with
  | done world => exact second
  | next later ih => exact .next (ih second ended)
  | taken nonempty offer later ih =>
      rw [List.append_assoc]
      exact .taken nonempty offer (ih second ended)
  | interrupted nonempty offer again later ih =>
      exact .interrupted nonempty offer again (ih second ended)
  | refused | failed => cases ended

/-- After a failure nothing else is offered. -/
theorem cut_short {fault : IoError}
    (first : Delivers output pieces world accepted (some fault) left) (rest : List Bytes) :
    Delivers output (pieces ++ rest) world accepted (some fault) left := by
  generalize ended : some fault = outcome at first
  induction first with
  | done world => cases ended
  | next later ih => exact .next (ih ended)
  | taken nonempty offer later ih => exact .taken nonempty offer (ih ended)
  | interrupted nonempty offer again later ih => exact .interrupted nonempty offer again (ih ended)
  | refused nonempty offer => exact .refused nonempty offer
  | failed nonempty offer final => exact .failed nonempty offer final

end Delivers

/-! ## Streams -/

/-- The stream keeps to the contract of writing, and `accepted` is what streams have got. -/
structure Obeys (accepted : OutputHandle → W → Bytes) (output : OutputHandle) : Prop where
  /-- It gets as much of an offer as it answers. -/
  logged : Logged (accepted output) output
  elsewhere : ∀ other, other ≠ output → ∀ bytes world,
    accepted other (Host.write output bytes world).2 = accepted other world
  /-- It is not interrupted for ever. -/
  interrupted : ∀ bytes (world : W) fault, (Host.write output bytes world).1 = .error fault →
    fault.isInterruption = true →
      Host.interruptionsLeft output (Host.write output bytes world).2 <
        Host.interruptionsLeft output world
  patient : ∀ bytes (world : W), Host.interruptionsLeft output (Host.write output bytes world).2 ≤
    Host.interruptionsLeft output world
  /-- To pass on what is held back may fail, and changes nothing in either case. -/
  flush : ∀ other (world : W), accepted other (Host.flush output world).2 = accepted other world

/-- The stream takes in everything that it is offered, bit by bit, unless it is interrupted. -/
def Steadfast (W : Type) [Host W] (output : OutputHandle) : Prop :=
  ∀ (bytes : Bytes) (world : W), bytes ≠ [] →
    (∃ n, (Host.write output bytes world).1 = .ok (n + 1)) ∨
      ∃ fault, (Host.write output bytes world).1 = .error fault ∧ fault.isInterruption = true

/-- The failure that is answered. -/
def failure? : Except IoError Unit → Option IoError
  | .ok () => none
  | .error fault => some fault

theorem Delivers.of_steadfast (steadfast : Steadfast W output) {pieces : List Bytes}
    {world left : W} {accepted : Bytes} {failure : Option IoError}
    (delivers : Delivers output pieces world accepted failure left) : failure = none := by
  induction delivers with
  | done world => rfl
  | next later ih => exact ih
  | taken nonempty offer later ih => exact ih
  | interrupted nonempty offer again later ih => exact ih
  | @refused piece rest world offered nonempty offer =>
      rcases steadfast piece world nonempty with ⟨n, took⟩ | ⟨fault, broke, -⟩
      · rw [offer] at took
        cases took
      · rw [offer] at broke
        cases broke
  | @failed piece rest world offered fault nonempty offer final =>
      rcases steadfast piece world nonempty with ⟨n, took⟩ | ⟨fault, broke, again⟩
      · rw [offer] at took
        cases took
      · rw [offer] at broke
        cases broke
        rw [final] at again
        cases again

section Writing

variable {accepted : OutputHandle → W → Bytes} (obeys : Obeys accepted output)
include obeys

/-- As many calls are enough as there are bytes to offer and interruptions to come. -/
theorem writeFrom_delivers {calls : Nat} (before : Nat) (bytes : Bytes) (world : W)
    (enough : bytes.length + Host.interruptionsLeft output world < calls) :
    ∃ n, (writeFrom output calls before bytes world).1.1 = before + n ∧
      Delivers output [bytes] world (bytes.take n)
        (failure? (writeFrom output calls before bytes world).1.2)
        (writeFrom output calls before bytes world).2 := by
  induction calls generalizing bytes world before with
  | zero => exact absurd enough (Nat.not_lt_zero _)
  | succ calls ih =>
      cases bytes with
      | nil => exact ⟨0, rfl, .next (.done world)⟩
      | cons b rest =>
          have patient := obeys.patient (b :: rest) world
          have interrupted := obeys.interrupted (b :: rest) world
          have nonempty : b :: rest ≠ [] := List.cons_ne_nil b rest
          rw [List.length_cons] at enough
          simp only [writeFrom, bind_apply]
          generalize offer : Host.write output (b :: rest) world = answered
            at patient interrupted ⊢
          obtain ⟨fault | n, offered⟩ := answered
          · dsimp only at interrupted ⊢
            split
            case isTrue again =>
              have fewer := interrupted fault rfl again
              obtain ⟨n, count, later⟩ := ih before (b :: rest) offered (by
                rw [List.length_cons]
                omega)
              exact ⟨n, count, .interrupted nonempty offer again later⟩
            case isFalse final =>
              exact ⟨0, rfl, .failed nonempty offer (Bool.eq_false_iff.2 final)⟩
          · cases n with
            | zero => exact ⟨0, rfl, .refused nonempty offer⟩
            | succ n =>
                obtain ⟨more, count, later⟩ := ih (before + (n + 1)) (rest.drop n) offered (by
                  rw [List.length_drop]
                  dsimp only at patient
                  omega)
                refine ⟨n + 1 + more, count.trans (Nat.add_assoc _ _ _), ?_⟩
                rw [List.take_add]
                exact .taken nonempty offer later

/-- **What becomes of a text that is written.** -/
theorem writePieces_delivers (pieces : List Bytes) (world : W) :
    Delivers output pieces world (writePieces output pieces world).1.1
      (failure? (writePieces output pieces world).1.2) (writePieces output pieces world).2 := by
  induction pieces generalizing world with
  | nil => exact .done world
  | cons piece rest ih =>
      obtain ⟨n, count, first⟩ := writeFrom_delivers obeys 0 piece world (Nat.lt_succ_self _)
      rw [Nat.zero_add] at count
      simp only [writePieces, bind_apply, writeAll_eq]
      generalize writeFrom output _ 0 piece world = answered at count first ⊢
      obtain ⟨⟨m, fault | done⟩, written⟩ := answered
      · obtain rfl : m = n := count
        exact first.cut_short rest
      · have all : piece.take n = piece := by
          rw [first.whole]
          exact List.append_nil piece
        rw [all] at first
        exact first.followed (ih written)

section Arriving

variable (steadfast : Steadfast W output)
include steadfast

/-- All of an offer arrives where everything is taken in, and nothing of it elsewhere. -/
theorem writeAll_arrives (bytes : Bytes) (world : W) :
    (writeAll output bytes world).1.2 = .ok () ∧
      accepted output (writeAll output bytes world).2 = accepted output world ++ bytes ∧
      ∀ other, other ≠ output →
        accepted other (writeAll output bytes world).2 = accepted other world := by
  obtain ⟨n, -, delivers⟩ := writeFrom_delivers obeys 0 bytes world (Nat.lt_succ_self _)
  rw [← writeAll_eq] at delivers
  have ended : (writeAll output bytes world).1.2 = .ok () := by
    have unfailing := delivers.of_steadfast steadfast
    cases result : (writeAll output bytes world).1.2 with
    | ok done => rfl
    | error fault =>
        rw [result] at unfailing
        cases unfailing
  obtain ⟨grown, all⟩ := writeAll_logged obeys.logged bytes world
  rw [all ended] at grown
  refine ⟨ended, grown, fun other apart => ?_⟩
  exact writeAll_keeps
    (fun offer before here => (obeys.elsewhere other apart offer before).trans here) bytes world rfl

/-- **And so does all of a text.** -/
theorem writePieces_arrives (pieces : List Bytes) (world : W) :
    ∃ left, writePieces output pieces world = ((pieces.flatten, .ok ()), left) ∧
      accepted output left = accepted output world ++ pieces.flatten ∧
      ∀ other, other ≠ output → accepted other left = accepted other world := by
  induction pieces generalizing world with
  | nil => exact ⟨world, rfl, (List.append_nil _).symm, fun _ _ => rfl⟩
  | cons piece rest ih =>
      obtain ⟨ended, arrived, elsewhere⟩ := writeAll_arrives obeys steadfast piece world
      rw [writePieces, bind_apply]
      generalize writeAll output piece world = answered at ended arrived elsewhere ⊢
      obtain ⟨⟨count, result⟩, written⟩ := answered
      obtain rfl : result = .ok () := ended
      obtain ⟨left, wrote, later, apart⟩ := ih written
      refine ⟨left, ?_, ?_, fun other away => (apart other away).trans (elsewhere other away)⟩
      · simp only [bind_apply, wrote, pure_apply, List.flatten_cons]
      · rw [later, arrived, List.flatten_cons, List.append_assoc]

end Arriving

end Writing

end PipelineShell.Output
