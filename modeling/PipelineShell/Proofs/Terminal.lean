/-
# Proofs.Terminal -- what is typed at a terminal, and what is seen on it

A `Terminal` is a way of looking at a world in three parts: what is going to be typed, the
text on standard output, and all the rest, which is what a shell has to do with when it
carries out a line (`Terminal.sight`).  `Terminal.Lawful` says what is expected of the line
editor: it yields one line after the other and then the end, it shows the prompt it is given
and nothing else, no command reads a line in its place, and nothing depends on the text that
was shown, which only grows.  This is asked of calm worlds alone, in which no program is at
work that would read what is typed, and of them for as long as they stay calm.

So a line that is evaluated makes the same of two worlds that look alike, whatever was typed
and shown there before, and it shows the same in both (`evaluateAndPrint_same`).  It ends
with a panic only where standard error refuses what it is told (`evaluateAndPrint_calm`).
-/
import PipelineShell.Proofs.Outlook
import PipelineShell.Proofs.Programs

namespace PipelineShell

set_option autoImplicit false

open Stateful

variable {W F α : Type}

/-- What the user of a line editor does when a line is asked for. -/
inductive Typed where
  | line (text : String)
  /-- Gives the line up. -/
  | interrupt
  /-- Types what cannot be read, as are bytes that are no text. -/
  | unreadable (cause : IoError)
  deriving DecidableEq, Repr

namespace Typed

/-- The line that was typed, if it is one. -/
def line? : Typed → Option String
  | line text => some text
  | _ => none

/-- What a line editor answers, given all that is going to be typed. -/
def answer : List Typed → Except LineEditor.Fault String
  | [] => .error .ended
  | line text :: _ => .ok text
  | interrupt :: _ => .error .interrupted
  | unreadable cause :: _ => .error (.failed cause)

end Typed

/-- A way of looking at worlds with a terminal. -/
structure Terminal (W F : Type) where
  /-- What is going to be typed. -/
  awaiting : W → List Typed
  /-- The text on standard output. -/
  shown : W → Bytes
  /-- What is shown of a prompt. -/
  display : String → Bytes
  /-- Everything else. -/
  sight : Sight W (Outlook F)

namespace Terminal

variable (terminal : Terminal W F)

/-- Worlds that look alike give the operation the same answer, look alike again, and the same
is added to what was shown in each.  Nothing of what is going to be typed is taken. -/
def Steady (operation : StateM W α) : Prop :=
  ∀ world world', terminal.sight.Alike world world' →
    (operation world).1 = (operation world').1 ∧
    terminal.sight.Alike (operation world).2 (operation world').2 ∧
    terminal.awaiting (operation world).2 = terminal.awaiting world ∧
    ∃ text, terminal.shown (operation world).2 = terminal.shown world ++ text ∧
      terminal.shown (operation world').2 = terminal.shown world' ++ text

/-- The world has come to look like the other one but for what is going to be typed now, and
for a text that was shown. -/
structure Left (left : List Typed) (text : Bytes) (world after : W) : Prop where
  awaiting : terminal.awaiting after = left
  shown : terminal.shown after = terminal.shown world ++ text
  alike : terminal.sight.Alike after world

/-- What is expected of a line editor, and of a calm world with one.  That the directory and
the two texts are what they are called gives the rest its meaning; no proof needs it. -/
structure Lawful [Host W] [LineEditor W] : Prop where
  directory : ∀ world, terminal.sight.calm world →
    Host.currentDirectory world = (terminal.sight.view world).directory
  /-- Text that standard error accepted is seen. -/
  errorText : ∀ bytes world, terminal.sight.calm world →
    (terminal.sight.view (Host.write .standardError bytes world).2).errorText =
      match (Host.write .standardError bytes world).1 with
      | .ok n => (terminal.sight.view world).errorText ++ bytes.take n
      | .error _ => (terminal.sight.view world).errorText
  /-- Text that standard output accepted is shown. -/
  outputText : ∀ bytes world, terminal.sight.calm world →
    terminal.shown (Host.write .standardOutput bytes world).2 =
      match (Host.write .standardOutput bytes world).1 with
      | .ok n => terminal.shown world ++ bytes.take n
      | .error _ => terminal.shown world
  work : ∀ {α : Type} {operation : StateM W α}, Host.Work operation → terminal.Steady operation
  move : ∀ path, terminal.Steady (Host.changeDirectory path)
  view : ∀ {α : Type} {view : W → α}, Host.View view →
    ∀ world world', terminal.sight.Alike world world' → view world = view world'
  start : ∀ world, terminal.sight.calm world → (LineEditor.start world).1 = .ok () ∧
    terminal.Left (terminal.awaiting world) [] world (LineEditor.start world).2
  /-- What is typed is read in order, and then the end; the prompt is shown each time. -/
  readLine : ∀ prompt world, terminal.sight.calm world →
    (LineEditor.readLine prompt world).1 = Typed.answer (terminal.awaiting world) ∧
    terminal.Left (terminal.awaiting world).tail (terminal.display prompt) world
      (LineEditor.readLine prompt world).2
  remember : ∀ line world, terminal.sight.calm world →
    (LineEditor.remember line world).1 = .ok () ∧
    terminal.Left (terminal.awaiting world) [] world (LineEditor.remember line world).2
  readsLeft : ∀ world, terminal.sight.calm world →
    (terminal.awaiting world).length ≤ LineEditor.readsLeft world

/-- Standard error accepts every text in the end, as long as the world is calm. -/
def Willing [Host W] : Prop :=
  ∀ bytes world, terminal.sight.calm world → Written (Output.writeAll .standardError bytes world).1

/-- Worlds that look alike, with this going to be typed, in which the same was added to these
texts. -/
structure Parallel (typed typed' : List Typed) (text text' : Bytes) (world world' : W) : Prop where
  alike : terminal.sight.Alike world world'
  awaiting : terminal.awaiting world = typed
  awaiting' : terminal.awaiting world' = typed'
  shown : ∃ added, terminal.shown world = text ++ added ∧ terminal.shown world' = text' ++ added

/-- Contexts that are the same, but for what is typed and shown in their worlds. -/
def Same (context context' : Context W) : Prop :=
  Context.Related terminal.sight.Alike context context'

variable {terminal}

theorem Same.refl {context : Context W} (calm : terminal.sight.calm context.world) :
    terminal.Same context context := ⟨rfl, rfl, .refl calm⟩

/-- What the line editor does to one of two contexts leaves them the same. -/
theorem Same.of_left {context plain : Context W} {left : List Typed} {text : Bytes} {after : W}
    (same : terminal.Same context plain) (moved : terminal.Left left text context.world after) :
    terminal.Same { context with world := after } plain :=
  ⟨same.session, same.journal, moved.alike.trans same.world⟩

theorem Steady.relates {operation : StateM W α} (steady : terminal.Steady operation)
    (typed typed' : List Typed) (text text' : Bytes) :
    Relates (terminal.Parallel typed typed' text text') Eq operation operation := by
  intro world world' ⟨alike, awaiting, awaiting', added, shown, shown'⟩
  obtain ⟨answer, after, kept, more, grown, grown'⟩ := steady world world' alike
  obtain ⟨-, -, kept', -⟩ := steady world' world alike.symm
  refine ⟨answer, after, kept.trans awaiting, kept'.trans awaiting', added ++ more, ?_, ?_⟩
  · rw [grown, shown, List.append_assoc]
  · rw [grown', shown', List.append_assoc]

namespace Lawful

variable [Host W] [LineEditor W] (lawful : terminal.Lawful)
include lawful

theorem respects (typed typed' : List Typed) (text text' : Bytes) :
    Host.Respects (terminal.Parallel typed typed' text text') where
  work work := (lawful.work work).relates typed typed' text text'
  move path := (lawful.move path).relates typed typed' text text'
  view seen world world' parallel := lawful.view seen world world' parallel.alike

/-- **Whatever a shell does to carry out a line, it does the same in worlds that look alike,**
it reads nothing, and it shows the same in both. -/
theorem built {free : Prop} {action : StateM (Context W) α} (built : Built free action)
    {context context' : Context W} (same : terminal.Same context context') :
    (action context).1 = (action context').1 ∧
    terminal.Same (action context).2 (action context').2 ∧
    terminal.awaiting (action context).2.world = terminal.awaiting context.world ∧
    ∃ text, terminal.shown (action context).2.world = terminal.shown context.world ++ text ∧
      terminal.shown (action context').2.world = terminal.shown context'.world ++ text := by
  obtain ⟨session, journal, alike⟩ := same
  have beside : terminal.Parallel _ _ _ _ context.world context'.world :=
    ⟨alike, rfl, rfl, [], (List.append_nil _).symm, (List.append_nil _).symm⟩
  obtain ⟨answer, after⟩ := built.relates
    (lawful.respects _ _ (terminal.shown context.world) (terminal.shown context'.world))
    context context' ⟨session, journal, beside⟩
  exact ⟨answer, ⟨after.session, after.journal, after.world.alike⟩, after.world.awaiting,
    after.world.shown⟩

/-- What a shell does to carry out a line leaves the world calm. -/
theorem built_calm {free : Prop} {action : StateM (Context W) α} (built : Built free action)
    {context : Context W} (calm : terminal.sight.calm context.world) :
    terminal.sight.calm (action context).2.world :=
  (lawful.built built (.refl calm)).2.1.world.calm

/-- Standard error takes in what it is told. -/
theorem takes (willing : terminal.Willing) : Takes terminal.sight .standardError := by
  intro bytes world world' alike
  have writes (bytes : Bytes) : Matches terminal.sight Eq
      (Host.write .standardError bytes : StateM W _) (Host.write .standardError bytes) :=
    fun one other alike =>
      have steady := lawful.work (.write .standardError bytes) one other alike
      ⟨steady.1, steady.2.1⟩
  obtain ⟨same, after⟩ := Output.writeAll_relates
    (fun one other => lawful.view (.interruptionsLeft .standardError) one other) writes bytes
    world world' alike
  exact ⟨⟨same, willing bytes world alike.calm⟩, after⟩

end Lawful

end Terminal

namespace Interpreter

variable [Host W] {terminal : Terminal W F}

/-! ## One line -/

/-- What a line adds to the text on standard output. -/
def shownBy [ArgumentReader] (terminal : Terminal W F) (registry : Registry) (line : String)
    (context : Context W) : Bytes :=
  (terminal.shown (evaluateAndPrint registry line context).2.world).drop
    (terminal.shown context.world).length

variable [LineEditor W]

/-- What a line makes of contexts that are the same, but for what is typed and shown. -/
theorem evaluateAndPrint_same [ArgumentReader] (lawful : terminal.Lawful) (registry : Registry)
    (line : String) {context plain : Context W} (same : terminal.Same context plain) :
    (evaluateAndPrint registry line context).1 = (evaluateAndPrint registry line plain).1 ∧
    terminal.Same (evaluateAndPrint registry line context).2
      (evaluateAndPrint registry line plain).2 ∧
    terminal.awaiting (evaluateAndPrint registry line context).2.world =
      terminal.awaiting context.world ∧
    terminal.shown (evaluateAndPrint registry line context).2.world =
      terminal.shown context.world ++ shownBy terminal registry line plain ∧
    terminal.shown (evaluateAndPrint registry line plain).2.world =
      terminal.shown plain.world ++ shownBy terminal registry line plain := by
  obtain ⟨answer, after, awaiting, text, shown, shown'⟩ :=
    lawful.built (evaluateAndPrint_built registry line) same
  have added : shownBy terminal registry line plain = text := by
    rw [shownBy, shown', List.drop_left]
  rw [added]
  exact ⟨answer, after, awaiting, shown, shown'⟩

/-! ## Lines that do not panic -/

section Willing

variable (lawful : terminal.Lawful) (willing : terminal.Willing) {context : Context W}
  (calm : terminal.sight.calm context.world)
include lawful willing calm

theorem complain_calm (text : String) :
    (complain text context).1 = .ok () ∧
      terminal.sight.calm (complain text context).2.world := by
  refine ⟨?_, lawful.built_calm (complain_built text : Built False _) calm⟩
  have written : (Output.writeLine .standardError text context.world).1.2 = .ok () :=
    ((lawful.takes willing).writePieces _ _ _ (.refl calm)).1.2
  simp only [complain, bind_apply, Context.act_apply, pure_apply, written]
  rfl

theorem complainAll_calm (failures : List Pipeline.StageError) :
    (complainAll failures context).1 = .ok () := by
  induction failures generalizing context with
  | nil => rfl
  | cons failure rest ih =>
      obtain ⟨told, still⟩ := complain_calm lawful willing calm failure.error.message
      rw [complainAll, bind_apply, told]
      exact ih still

/-- **To evaluate a line ends without a panic** where standard error takes what it is told. -/
theorem evaluateAndPrint_calm [ArgumentReader] (registry : Registry) (line : String) :
    ∃ status, (evaluateAndPrint registry line context).1 = .ok status := by
  have between := lawful.built_calm (runLine_built registry line) calm
  rw [evaluateAndPrint, bind_apply]
  rcases (runLine registry line context).1 with fault | outcome
  · cases fault with
    | emptyLine => exact ⟨0, rfl⟩
    | _ =>
        simp only [bind_apply, pure_apply, (complain_calm lawful willing between _).1]
        exact ⟨_, rfl⟩
  · have after := lawful.built_calm (print_built outcome.stdout : Built False _) between
    refine ⟨outcome.status, ?_⟩
    simp only [bind_apply, pure_apply, complainAll_calm lawful willing after]
    rfl

end Willing

end Interpreter

end PipelineShell
