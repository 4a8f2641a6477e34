/-
# Proofs.Stateful -- state transformers, what they ensure, and one seen through another

Four equations open a program in `StateM` at a state: `bind_apply`, `then_apply`,
`map_apply` and `pure_apply`.

What a program makes of a state that has some property is said by `Ensures`, which goes
through binding (`Ensures.bind`), so the parts of a program are looked at one by one.

Two programs may do the same thing to different states: what one does to a state,
the other does to a view of it.  `Carried` says so.  It goes through binding
(`Carried.bind`), so two programs are related as soon as their steps are.

Two programs that go side by side may keep up a relation between their states, and give
related answers; `Relates` says so, and `Relates.bind` takes both one step further.  When
the relation is to look alike, one of the programs may also make calls of which nothing is
seen.  `Matches` says the former and `Unseen` the latter, and `Unseen.then_` takes only the
first program further.
-/

namespace PipelineShell.Stateful

set_option autoImplicit false

variable {C C' α α' β β' : Type}

theorem bind_apply (first : StateM C α) (next : α → StateM C β) (context : C) :
    (first >>= next) context = next (first context).1 (first context).2 := rfl

theorem then_apply (first : StateM C α) (next : StateM C β) (context : C) :
    (first *> next) context = next (first context).2 := rfl

theorem map_apply (f : α → β) (action : StateM C α) (context : C) :
    (f <$> action) context = (f (action context).1, (action context).2) := rfl

theorem pure_apply (answer : α) (context : C) :
    (pure answer : StateM C α) context = (answer, context) := rfl

/-- From a context with the first property, the action answers, and leaves a context, with
the second. -/
def Ensures (before : C → Prop) (action : StateM C α) (after : α → C → Prop) : Prop :=
  ∀ context, before context → after (action context).1 (action context).2

namespace Ensures

variable {before : C → Prop}

theorem pure {after : α → C → Prop} {answer : α}
    (holds : ∀ context, before context → after answer context) :
    Ensures before (Pure.pure answer) after := holds

theorem bind {first : StateM C α} {next : α → StateM C β} {between : α → C → Prop}
    {after : β → C → Prop} (now : Ensures before first between)
    (then_ : ∀ answer, Ensures (between answer) (next answer) after) :
    Ensures before (first >>= next) after :=
  fun context holds => then_ _ _ (now context holds)

theorem map {action : StateM C α} {f : α → β} {after : β → C → Prop}
    (ensures : Ensures before action fun answer => after (f answer)) :
    Ensures before (f <$> action) after := ensures

theorem weaken {before' : C → Prop} {action : StateM C α} {after : α → C → Prop}
    (ensures : Ensures before action after) (enough : ∀ context, before' context → before context) :
    Ensures before' action after :=
  fun context holds => ensures context (enough context holds)

/-- What is known of the answer alone may be brought out of the property. -/
theorem of_and {fact : Prop} {action : StateM C α} {after : α → C → Prop}
    (ensures : fact → Ensures before action after) :
    Ensures (fun context => fact ∧ before context) action after :=
  fun context holds => ensures holds.1 context holds.2

end Ensures

/-- What `source` does to a context, `target` does to the view of it, and their
answers correspond. -/
def Carried (view : C → C') (answer : α → α') (source : StateM C α) (target : StateM C' α') :
    Prop :=
  ∀ context, target (view context) = (answer (source context).1, view (source context).2)

namespace Carried

variable {view : C → C'}

theorem pure (f : α → α') (a : α) :
    Carried view f (Pure.pure a) (Pure.pure (f a)) := fun _ => rfl

theorem bind {f : α → α'} {g : β → β'} {source : StateM C α} {target : StateM C' α'}
    {next : α → StateM C β} {next' : α' → StateM C' β'} (first : Carried view f source target)
    (then_ : ∀ a, Carried view g (next a) (next' (f a))) :
    Carried view g (source >>= next) (target >>= next') := by
  intro context
  rw [bind_apply, bind_apply, first context]
  exact then_ _ _

theorem map {f : α → α'} {g : β → β'} {h : α → β} {h' : α' → β'} {source : StateM C α}
    {target : StateM C' α'} (carried : Carried view f source target)
    (same : ∀ a, h' (f a) = g (h a)) : Carried view g (h <$> source) (h' <$> target) := by
  intro context
  rw [map_apply, map_apply, carried context, same]

end Carried

/-- From states in the relation, the two actions give related answers, and leave states in
the relation. -/
def Relates (relation : C → C' → Prop) (related : α → α' → Prop) (first : StateM C α)
    (second : StateM C' α') : Prop :=
  ∀ context context', relation context context' →
    related (first context).1 (second context').1 ∧
      relation (first context).2 (second context').2

namespace Relates

variable {relation : C → C' → Prop}

theorem pure {related : α → α' → Prop} {a : α} {a' : α'} (here : related a a') :
    Relates relation related (Pure.pure a) (Pure.pure a') :=
  fun _ _ holds => ⟨here, holds⟩

theorem bind {related : α → α' → Prop} {related' : β → β' → Prop} {first : StateM C α}
    {second : StateM C' α'} {next : α → StateM C β} {next' : α' → StateM C' β'}
    (now : Relates relation related first second)
    (then_ : ∀ a a', related a a' → Relates relation related' (next a) (next' a')) :
    Relates relation related' (first >>= next) (second >>= next') := by
  intro context context' holds
  obtain ⟨here, holds⟩ := now context context' holds
  exact then_ _ _ here _ _ holds

/-- When the answers are the same, the same comes next. -/
theorem bind_same {related : β → β' → Prop} {first : StateM C α} {second : StateM C' α}
    {next : α → StateM C β} {next' : α → StateM C' β'} (now : Relates relation Eq first second)
    (then_ : ∀ a, Relates relation related (next a) (next' a)) :
    Relates relation related (first >>= next) (second >>= next') :=
  now.bind fun a _ same => same ▸ then_ a

theorem map {related : α → α' → Prop} {related' : β → β' → Prop} {first : StateM C α}
    {second : StateM C' α'} {f : α → β} {f' : α' → β'}
    (now : Relates relation related first second)
    (then_ : ∀ a a', related a a' → related' (f a) (f' a')) :
    Relates relation related' (f <$> first) (f' <$> second) :=
  fun context context' holds => (now context context' holds).imp_left (then_ _ _)

end Relates

/-- The action leaves a property of the state in force. -/
def Keeps (holds : C → Prop) (action : StateM C α) : Prop :=
  ∀ context, holds context → holds (action context).2

theorem Keeps.pure {holds : C → Prop} (a : α) : Keeps holds (Pure.pure a) := fun _ here => here

theorem Keeps.bind {holds : C → Prop} {first : StateM C α} {next : α → StateM C β}
    (now : Keeps holds first) (then_ : ∀ a, Keeps holds (next a)) :
    Keeps holds (first >>= next) := fun _ here => then_ _ _ (now _ here)

/-- The same, where something is known of the first answer. -/
theorem Keeps.bind_knowing {holds : C → Prop} {known : α → Prop} {first : StateM C α}
    {next : α → StateM C β} (now : Ensures holds first fun a context => known a ∧ holds context)
    (then_ : ∀ a, known a → Keeps holds (next a)) : Keeps holds (first >>= next) :=
  fun _ here => then_ _ (now _ here).1 _ (now _ here).2

/-- An action that leaves a property in force goes along with itself. -/
theorem keeps_iff_relates {holds : C → Prop} {action : StateM C α} :
    Keeps holds action ↔
      Relates (fun context context' => context = context' ∧ holds context) Eq action action := by
  constructor
  · rintro keeps context _ ⟨rfl, here⟩
    exact ⟨rfl, rfl, keeps context here⟩
  · exact fun relates context here => (relates context context ⟨rfl, here⟩).2.2

/-- A way of looking at contexts: which of them are looked at, and what is seen. -/
structure Sight (C V : Type) where
  /-- The contexts that are looked at: those in which nothing stirs by itself. -/
  calm : C → Prop
  view : C → V

/-- The two contexts are looked at, and the same is seen of both. -/
structure Sight.Alike {V : Type} (sight : Sight C V) (context context' : C) : Prop where
  calm : sight.calm context
  calm' : sight.calm context'
  same : sight.view context = sight.view context'

theorem Sight.Alike.refl {V : Type} {sight : Sight C V} {context : C} (calm : sight.calm context) :
    sight.Alike context context := ⟨calm, calm, rfl⟩

theorem Sight.Alike.symm {V : Type} {sight : Sight C V} {context context' : C}
    (alike : sight.Alike context context') : sight.Alike context' context :=
  ⟨alike.calm', alike.calm, alike.same.symm⟩

theorem Sight.Alike.trans {V : Type} {sight : Sight C V} {context context' context'' : C}
    (alike : sight.Alike context context') (alike' : sight.Alike context' context'') :
    sight.Alike context context'' :=
  ⟨alike.calm, alike'.calm', alike.same.trans alike'.same⟩

variable {V : Type}

/-- From contexts that look alike, the two actions give related answers, and leave contexts
that look alike. -/
def Matches (sight : Sight C V) (related : α → α' → Prop) (first : StateM C α)
    (second : StateM C α') : Prop :=
  ∀ context context', sight.Alike context context' →
    related (first context).1 (second context').1 ∧
      sight.Alike (first context).2 (second context').2

/-- The action gives an answer of this kind, and nothing is seen of it. -/
def Unseen (sight : Sight C V) (good : α → Prop) (action : StateM C α) : Prop :=
  ∀ context, sight.calm context →
    good (action context).1 ∧ sight.Alike (action context).2 context

namespace Matches

variable {sight : Sight C V}

theorem pure {related : α → α' → Prop} {a : α} {a' : α'} (here : related a a') :
    Matches sight related (Pure.pure a) (Pure.pure a') := Relates.pure here

theorem bind {related : α → α' → Prop} {related' : β → β' → Prop} {first : StateM C α}
    {second : StateM C α'} {next : α → StateM C β} {next' : α' → StateM C β'}
    (now : Matches sight related first second)
    (then_ : ∀ a a', related a a' → Matches sight related' (next a) (next' a')) :
    Matches sight related' (first >>= next) (second >>= next') := Relates.bind now then_

theorem weaken {related related' : α → α' → Prop} {first : StateM C α} {second : StateM C α'}
    (now : Matches sight related first second) (enough : ∀ a a', related a a' → related' a a') :
    Matches sight related' first second :=
  fun context context' alike => (now context context' alike).imp_left (enough _ _)

/-- What is unseen may come after one of two programs. -/
theorem followed {related : α → β' → Prop} {related' : β → β' → Prop} {first : StateM C α}
    {second : StateM C β'} {next : α → StateM C β} (now : Matches sight related first second)
    (later : ∀ a a', related a a' → Unseen sight (related' · a') (next a)) :
    Matches sight related' (first >>= next) second := by
  intro context context' alike
  obtain ⟨here, alike⟩ := now context context' alike
  obtain ⟨there, same⟩ := later _ _ here (first context).2 alike.calm
  exact ⟨there, same.trans alike⟩

end Matches

namespace Unseen

variable {sight : Sight C V} {good : α → Prop}

theorem pure {a : α} (here : good a) : Unseen sight good (Pure.pure a) :=
  fun _ calm => ⟨here, .refl calm⟩

theorem bind {good' : β → Prop} {first : StateM C α} {next : α → StateM C β}
    (now : Unseen sight good first) (then_ : ∀ a, good a → Unseen sight good' (next a)) :
    Unseen sight good' (first >>= next) := by
  intro context calm
  obtain ⟨here, same⟩ := now context calm
  obtain ⟨there, same'⟩ := then_ _ here (first context).2 same.calm
  exact ⟨there, same'.trans same⟩

theorem map {good' : β → Prop} {first : StateM C α} {f : α → β} (now : Unseen sight good first)
    (then_ : ∀ a, good a → good' (f a)) : Unseen sight good' (f <$> first) :=
  fun context calm => (now context calm).imp_left (then_ _)

/-- What is unseen, and answers the same each time, matches itself. -/
theorem self_matches {a : α} {action : StateM C α} (unseen : Unseen sight (· = a) action) :
    Matches sight (fun answer answer' => answer = answer' ∧ answer = a) action action := by
  intro context context' alike
  obtain ⟨here, same⟩ := unseen context alike.calm
  obtain ⟨there, same'⟩ := unseen context' alike.calm'
  exact ⟨⟨here.trans there.symm, here⟩, same.trans (alike.trans same'.symm)⟩

/-- What is unseen may be left out of one of two programs. -/
theorem then_ {related : β → β' → Prop} {first : StateM C α} {next : α → StateM C β}
    {second : StateM C β'} (now : Unseen sight good first)
    (later : ∀ a, good a → Matches sight related (next a) second) :
    Matches sight related (first >>= next) second := by
  intro context context' alike
  obtain ⟨here, same⟩ := now context alike.calm
  exact later _ here _ _ (same.trans alike)

end Unseen

end PipelineShell.Stateful
