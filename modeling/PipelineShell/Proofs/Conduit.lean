/-
# Proofs.Conduit -- a pipe between a background writer and a reader

A `Conduit` is what there is to know of a pipe: what has become of its write end, what
stands in it, what was taken out of it, and whether there is still a reader.  A background
writer and a reader use it at the same time.  The writer writes as much as there is room
for, closes the pipe when all is written, and gives up when the reader is gone (`Drain`);
the reader takes some of what stands in the pipe, or goes away (`Step`).  Which of them goes
next is open, and so is how much is written or taken at once.

Every step leaves the bytes in order (`Carries`), whoever makes it.  So what the reader has
taken is at any time a part of the bytes from the front, and all of them at the end of the
file; and the end is never out of reach of a reader that stays (`Carries.reaches_end`).
-/
import PipelineShell.Host
import Mathlib.Logic.Relation

namespace PipelineShell

set_option autoImplicit false

/-- What has become of the write end of a pipe. -/
inductive Writer where
  /-- It is held, and nothing is written yet. -/
  | held
  /-- A background writer has this left to write. -/
  | busy (left : Bytes)
  /-- It is closed. -/
  | gone
  deriving DecidableEq, Repr

/-- Nobody is writing. -/
def Writer.Calm (writer : Writer) : Prop := ∀ left, writer ≠ .busy left

theorem Writer.calm_held : Calm .held := nofun

theorem Writer.calm_gone : Calm .gone := nofun

/-- How it stands with a pipe. -/
structure Conduit where
  writer : Writer
  inside : Bytes
  /-- What was taken out of it so far. -/
  taken : Bytes
  /-- There is still a reader. -/
  reading : Bool
  deriving DecidableEq, Repr

namespace Conduit

/-- A pipe into which nothing was ever written. -/
def unused (writer : Writer) (reading : Bool) : Conduit := ⟨writer, [], [], reading⟩

/-- The shell lets go of a write end that it holds. -/
def close (conduit : Conduit) : Conduit :=
  match conduit.writer with
  | .held => { conduit with writer := .gone }
  | _ => conduit

/-- A write end that the shell holds is handed to a background writer. -/
def feed (bytes : Bytes) (conduit : Conduit) : Conduit :=
  match conduit.writer with
  | .held => { conduit with writer := .busy bytes }
  | _ => conduit

/-- The reader goes away. -/
def abandon (conduit : Conduit) : Conduit := { conduit with reading := false }

/-- What the reader finds at the end of the file: nothing is there, and nobody to write. -/
structure AtEnd (conduit : Conduit) : Prop where
  reading : conduit.reading = true
  writer : conduit.writer = .gone
  inside : conduit.inside = []

/-! ## Steps -/

/-- A step of the background writer. -/
inductive Drain (capacity : Nat) : Conduit → Conduit → Prop
  | fill {more left inside taken : Bytes} (nonempty : more ≠ [])
      (fits : inside.length + more.length ≤ capacity) :
      Drain capacity ⟨.busy (more ++ left), inside, taken, true⟩
        ⟨.busy left, inside ++ more, taken, true⟩
  | finish {inside taken : Bytes} {reading : Bool} :
      Drain capacity ⟨.busy [], inside, taken, reading⟩ ⟨.gone, inside, taken, reading⟩
  | fail {left inside taken : Bytes} :
      Drain capacity ⟨.busy left, inside, taken, false⟩ ⟨.gone, inside, taken, false⟩

/-- A step of the background writer or of the reader. -/
inductive Step (capacity : Nat) : Conduit → Conduit → Prop
  | drain {conduit after : Conduit} (drain : Drain capacity conduit after) :
      Step capacity conduit after
  | take {writer : Writer} {more inside taken : Bytes} (nonempty : more ≠ []) :
      Step capacity ⟨writer, more ++ inside, taken, true⟩ ⟨writer, inside, taken ++ more, true⟩
  | leave {writer : Writer} {inside taken : Bytes} :
      Step capacity ⟨writer, inside, taken, true⟩ ⟨writer, inside, taken, false⟩

/-- The background writer is given time. -/
abbrev Drains (capacity : Nat) : Conduit → Conduit → Prop :=
  Relation.ReflTransGen (Drain capacity)

/-- Any number of steps, in any order. -/
abbrev Steps (capacity : Nat) : Conduit → Conduit → Prop :=
  Relation.ReflTransGen (Step capacity)

variable {capacity : Nat} {bytes : Bytes} {conduit after : Conduit}

theorem Drains.taken_eq (drains : Drains capacity conduit after) :
    after.taken = conduit.taken := by
  induction drains with
  | refl => rfl
  | tail _ drain ih => cases drain <;> exact ih

/-- What holds of a pipe is not changed by its background writer. -/
def Stable (good : Conduit → Prop) : Prop :=
  ∀ ⦃capacity : Nat⦄ ⦃conduit after : Conduit⦄,
    Drain capacity conduit after → good conduit → good after

/-- And it is not changed by what the shell does at the write end either. -/
structure Steady (good : Conduit → Prop) : Prop where
  stable : Stable good
  close : ∀ {conduit : Conduit}, good conduit → good conduit.close
  feed : ∀ {conduit : Conduit} (bytes : Bytes), good conduit → good (conduit.feed bytes)

theorem Stable.drains {good : Conduit → Prop} (stable : Stable good)
    (drains : Drains capacity conduit after) (here : good conduit) : good after := by
  induction drains with
  | refl => exact here
  | tail _ drain ih => exact stable drain ih

/-- Nothing was ever written into the pipe, and its write end is as it is said. -/
def Unused (writer : Writer) (conduit : Conduit) : Prop :=
  ∃ reading, conduit = unused writer reading

/-- Without a background writer nothing happens by itself. -/
theorem stable_unused {writer : Writer} (calm : writer.Calm) :
    Stable (Unused writer) := by
  rintro capacity _ after drain ⟨reading, rfl⟩
  generalize same : unused writer reading = conduit at drain
  cases drain <;> exact absurd (congrArg Conduit.writer same) (calm _)

theorem Unused.close {conduit : Conduit} (here : Unused .held conduit) :
    Unused .gone conduit.close := by
  obtain ⟨reading, rfl⟩ := here
  exact ⟨reading, rfl⟩

theorem Unused.abandon {writer : Writer} {conduit : Conduit} (here : Unused writer conduit) :
    Unused writer conduit.abandon := by
  obtain ⟨reading, rfl⟩ := here
  exact ⟨false, rfl⟩

/-- A pipe that was closed without a byte in it remains so. -/
theorem steady_gone : Steady (Unused .gone) where
  stable := stable_unused Writer.calm_gone
  close := by
    rintro _ ⟨reading, rfl⟩
    exact ⟨reading, rfl⟩
  feed := by
    rintro _ bytes ⟨reading, rfl⟩
    exact ⟨reading, rfl⟩

/-- A reader does not go away by what is done at the write end. -/
theorem steady_reading : Steady fun conduit => conduit.reading = true where
  stable := by
    rintro capacity _ _ (_ | _ | _) here <;> exact here
  close := by
    rintro ⟨_ | _ | _, inside, taken, reading⟩ here <;> exact here
  feed := by
    rintro ⟨_ | _ | _, inside, taken, reading⟩ bytes here <;> exact here

theorem Drains.steps (drains : Drains capacity conduit after) : Steps capacity conduit after :=
  drains.lift id fun _ _ => .drain

/-! ## The bytes on their way -/

/-- What was taken, what stands in the pipe and what is left to write are these bytes, in
this order.  Once the reader is gone, the rest of them may be missing. -/
inductive Carries (bytes : Bytes) : Conduit → Prop
  | busy {left inside taken : Bytes} {reading : Bool} (all : taken ++ inside ++ left = bytes) :
      Carries bytes ⟨.busy left, inside, taken, reading⟩
  | gone {inside taken : Bytes} {reading : Bool} (all : taken ++ inside = bytes) :
      Carries bytes ⟨.gone, inside, taken, reading⟩
  | broken {inside taken : Bytes} (part : taken ++ inside <+: bytes) :
      Carries bytes ⟨.gone, inside, taken, false⟩

namespace Carries

theorem drain (carries : Carries bytes conduit) (drain : Drain capacity conduit after) :
    Carries bytes after := by
  cases drain with
  | fill nonempty fits =>
      cases carries with
      | busy all => exact .busy (by simpa only [List.append_assoc] using all)
  | finish =>
      cases carries with
      | busy all => exact .gone (by simpa only [List.append_nil] using all)
  | fail =>
      cases carries with
      | busy all => exact .broken ⟨_, all⟩

theorem step (carries : Carries bytes conduit) (step : Step capacity conduit after) :
    Carries bytes after := by
  cases step with
  | drain drain => exact carries.drain drain
  | take nonempty =>
      cases carries with
      | busy all => exact .busy (by simpa only [List.append_assoc] using all)
      | gone all => exact .gone (by simpa only [List.append_assoc] using all)
  | leave =>
      cases carries with
      | busy all => exact .busy all
      | gone all => exact .gone all

theorem steps (carries : Carries bytes conduit) (steps : Steps capacity conduit after) :
    Carries bytes after := by
  induction steps with
  | refl => exact carries
  | tail _ step ih => exact ih.step step

/-- What was taken is a part of the bytes from the front. -/
theorem taken_part (carries : Carries bytes conduit) : conduit.taken <+: bytes := by
  cases carries with
  | busy all => exact ⟨_, by rw [← List.append_assoc]; exact all⟩
  | gone all => exact ⟨_, all⟩
  | broken part => exact (List.prefix_append _ _).trans part

/-- At the end of the file all of them were taken. -/
theorem taken_eq (carries : Carries bytes conduit) (atEnd : conduit.AtEnd) :
    conduit.taken = bytes := by
  obtain ⟨reading, writer, inside⟩ := atEnd
  cases carries with
  | busy => cases writer
  | broken => cases reading
  | gone all =>
      obtain rfl := inside
      exact (List.append_nil _).symm.trans all

end Carries

/-! ## The end is reached -/

/-- How much there is left to do. -/
def burden (conduit : Conduit) : Nat :=
  (match conduit.writer with
    | .busy left => 2 * left.length + 1
    | _ => 0) + conduit.inside.length + conduit.reading.toNat

/-- Every step gets something done, so no run goes on for ever. -/
theorem Step.burden_lt (step : Step capacity conduit after) : after.burden < conduit.burden := by
  cases step with
  | drain drain =>
      cases drain with
      | fill nonempty fits =>
          have some_ := List.length_pos_iff.2 nonempty
          simp only [burden, List.length_append]
          omega
      | finish => simp [burden]
      | fail =>
          simp only [burden]
          omega
  | take nonempty =>
      have some_ := List.length_pos_iff.2 nonempty
      simp only [burden, List.length_append]
      omega
  | leave => simp [burden]

/-- A pipe on which nobody waits for the other: the writer has room, or the reader has
something to take. -/
theorem Carries.exists_step (carries : Carries bytes conduit) (roomy : 0 < capacity)
    (reading : conduit.reading = true) (short : ¬ conduit.AtEnd) :
    ∃ after, Step capacity conduit after ∧ after.reading = true := by
  cases carries with
  | broken => cases reading
  | @gone inside taken =>
      obtain rfl := reading
      cases inside with
      | nil => exact absurd ⟨rfl, rfl, rfl⟩ short
      | cons b rest =>
          have step : Step capacity ⟨.gone, [b] ++ rest, taken, true⟩ _ :=
            .take (List.cons_ne_nil b [])
          exact ⟨_, step, rfl⟩
  | @busy left inside taken =>
      obtain rfl := reading
      cases inside with
      | cons b rest =>
          have step : Step capacity ⟨.busy left, [b] ++ rest, taken, true⟩ _ :=
            .take (List.cons_ne_nil b [])
          exact ⟨_, step, rfl⟩
      | nil =>
          cases left with
          | nil => exact ⟨_, .drain .finish, rfl⟩
          | cons b rest =>
              have drain : Drain capacity ⟨.busy ([b] ++ rest), [], taken, true⟩ _ :=
                .fill (List.cons_ne_nil b []) roomy
              exact ⟨_, .drain drain, rfl⟩

/-- **A reader that stays can come to the end.** -/
theorem Carries.reaches_end {conduit : Conduit} (carries : Carries bytes conduit)
    (roomy : 0 < capacity) (reading : conduit.reading = true) :
    ∃ after, Steps capacity conduit after ∧ after.AtEnd := by
  by_cases atEnd : conduit.AtEnd
  · exact ⟨conduit, .refl, atEnd⟩
  · obtain ⟨next, step, still⟩ := carries.exists_step roomy reading atEnd
    have less := step.burden_lt
    obtain ⟨after, steps, atEnd⟩ := (carries.step step).reaches_end roomy still
    exact ⟨after, .head step steps, atEnd⟩
termination_by conduit.burden

/-! ## What a reader gets -/

/-- A reader of the pipe gets these bytes, whatever it does and whoever goes first. -/
structure Supplies (capacity : Nat) (bytes : Bytes) (conduit : Conduit) : Prop where
  /-- Nothing has been read yet. -/
  unread : conduit.taken = []
  /-- Whatever is read is a part of the bytes from the front. -/
  part : ∀ after, Steps capacity conduit after → after.taken <+: bytes
  /-- All of them are read by the end of the file. -/
  whole : ∀ after, Steps capacity conduit after → after.AtEnd → after.taken = bytes
  /-- A reader that has not gone away can read on to the end. -/
  ends : ∀ after, Steps capacity conduit after → after.reading = true →
    ∃ last, Steps capacity after last ∧ last.AtEnd

theorem Carries.supplies (carries : Carries bytes conduit) (roomy : 0 < capacity)
    (unread : conduit.taken = []) : Supplies capacity bytes conduit where
  unread := unread
  part _ steps := (carries.steps steps).taken_part
  whole _ steps atEnd := (carries.steps steps).taken_eq atEnd
  ends _ steps reading := (carries.steps steps).reaches_end roomy reading

theorem carries_feed (bytes : Bytes) (reading : Bool) :
    Carries bytes ((unused .held reading).feed bytes) := .busy rfl

/-- A pipe that was closed without a byte in it. -/
theorem carries_closed (reading : Bool) : Carries [] (unused .gone reading) := .gone rfl

end Conduit

end PipelineShell
