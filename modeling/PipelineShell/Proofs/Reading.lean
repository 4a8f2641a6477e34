/-
# Proofs.Reading -- to read lines is to evaluate them, one after the other

What a shell makes of the lines that are typed is what it would make of them if they were
evaluated one after the other (`evaluateAll`) and nobody had typed anything.  The lines that
are taken are the first ones, up to the first that leaves an exit code behind or panics;
which end the reading comes to is said by `Closes`, and it depends on nothing but what the
lines leave and what is left of them.  Each time a line is asked for, and once more when the
end of the input is found, the line editor is given the prompt of the session as the lines
before left it (`asks`).  So what is shown is what the lines show, with that prompt in front.

`Repeats` puts this together, and `repl_repeats` says that it holds of every run.  A record
is kept of the prompts and of the lines that are evaluated (`replRecording`), so that none is
evaluated twice or in secret.  One line given beforehand comes to the same as that line typed.
-/
import PipelineShell.Arguments.Scan
import PipelineShell.CommandLine
import PipelineShell.Proofs.Lifecycle.Calls
import PipelineShell.Proofs.Teletype

namespace PipelineShell.Interpreter

set_option autoImplicit false

open Stateful Lifecycle

section Standard

variable {W F : Type} [Host W] [ArgumentReader]

/-! ## Lines one after the other -/

/-- What the loop ends with: a panic, the report that no line can be read, the exit code that
a line left behind, or nothing. -/
abbrev Ending := Except Panic (Except IoError (Option ExitCode))

/-- Evaluates lines and shows what comes of them, one after the other, until one panics. -/
def evaluateAll (registry : Registry) : List String → StateM (Context W) (Except Panic Unit)
  | [] => pure (.ok ())
  | line :: rest => do
      match ← evaluateAndPrint registry line with
      | .ok _ => evaluateAll registry rest
      | .error panic => pure (.error panic)

/-- What lines end the loop with, if they do: the panic of the last of them, or the exit code
that stands in the session after it. -/
def leaving (registry : Registry) (lines : List String) (context : Context W) :
    Option (Except Panic ExitCode) :=
  match (evaluateAll registry lines context).1 with
  | .error panic => some (.error panic)
  | .ok () =>
      if lines.isEmpty then none
      else (evaluateAll registry lines context).2.session.exitCode.map .ok

/-- The end that reading comes to, given what the lines so far end it with and what is left
of all that is typed. -/
inductive Closes (leaving : Option (Except Panic ExitCode)) (left : List Typed) : Ending → Prop
  /-- The last line left an exit code behind. -/
  | asked {code : ExitCode} (leaves : leaving = some (.ok code)) :
      Closes leaving left (.ok (.ok (some code)))
  /-- The last line could not be reported on. -/
  | panicked {panic : Panic} (leaves : leaving = some (.error panic)) :
      Closes leaving left (.error panic)
  /-- The input ran out. -/
  | ended (stays : leaving = none) (nothing : left = []) : Closes leaving left (.ok (.ok none))
  /-- What comes next cannot be read. -/
  | unreadable {cause : IoError} {rest : List Typed} (stays : leaving = none)
      (next : left = .unreadable cause :: rest) : Closes leaving left (.ok (.error cause))

/-! ## What is asked for -/

/-- A line is asked for in some context, and perhaps one comes of it. -/
abbrev Asked (W : Type) := Context W × Option String

/-- The times a line is asked for while this is typed. -/
def turns (registry : Registry) : List Typed → Context W → List (Asked W)
  | [], _ => []
  | .line line :: rest, context =>
      (context, some line) :: turns registry rest (evaluateAndPrint registry line context).2
  | .interrupt :: rest, context => (context, none) :: turns registry rest context
  | .unreadable _ :: rest, context => (context, none) :: turns registry rest context

/-- All the times a line is asked for by a loop that takes this: once more than is typed,
unless what is typed ends it. -/
def asks (registry : Registry) (taken : List Typed) (context : Context W) : List (Asked W) :=
  let lines := taken.filterMap Typed.line?
  turns registry taken context ++
    if (leaving registry lines context).isSome then []
    else [((evaluateAll registry lines context).2, none)]

/-- What the loop does. -/
inductive Deed where
  /-- To ask for a line with a prompt. -/
  | asked (prompt : String)
  | evaluated (line : String)
  deriving DecidableEq, Repr

/-- The line editor is given the prompt of the session, and then the line is evaluated. -/
def Asked.deeds (asked : Asked W) : List Deed :=
  .asked asked.1.session.prompt :: asked.2.toList.map .evaluated

/-- What is shown of a turn, with something in front. -/
def Asked.shown (terminal : Terminal W F) (registry : Registry) (front : Context W → Bytes)
    (asked : Asked W) : Bytes :=
  front asked.1 ++ asked.2.elim [] fun line => shownBy terminal registry line asked.1

/-- What is shown of turns, with something in front of each. -/
def transcript (terminal : Terminal W F) (registry : Registry) (front : Context W → Bytes)
    (turns : List (Asked W)) : Bytes :=
  turns.flatMap (Asked.shown terminal registry front)

/-- The prompt of the session, as it is shown. -/
def promptText (terminal : Terminal W F) (context : Context W) : Bytes :=
  terminal.display context.session.prompt

/-- The run made of all that was typed what it is to evaluate the lines that were `taken`, one
after the other and from the same context, and then came to an end. -/
structure Repeats (terminal : Terminal W F) (registry : Registry) (typed : List Typed)
    (text : Bytes) (plain : Context W) (run : Ending × Context W) (deeds : List Deed)
    (taken left : List Typed) : Prop where
  /-- What was taken was typed first. -/
  typed : typed = taken ++ left
  readable : ∀ cause, .unreadable cause ∉ taken
  /-- Nothing before the last line ends the loop. -/
  first : ∀ earlier, earlier <+: taken → earlier ≠ taken →
    leaving registry (earlier.filterMap Typed.line?) plain = none
  closes : Closes (leaving registry (taken.filterMap Typed.line?) plain) left run.1
  /-- Session and world are as the lines make them. -/
  same : terminal.Same run.2 (evaluateAll registry (taken.filterMap Typed.line?) plain).2
  /-- The prompts given to the line editor are those of the session, and each line is
  evaluated once, in its turn. -/
  deeds : deeds = (asks registry taken plain).flatMap Asked.deeds
  /-- The prompt is shown before each line is read, and before it is seen that there is none. -/
  shown : terminal.shown run.2.world =
    text ++ transcript terminal registry (promptText terminal) (asks registry taken plain)
  /-- Evaluated by themselves, the lines show the same without prompts. -/
  shownPlain : terminal.shown (evaluateAll registry (taken.filterMap Typed.line?) plain).2.world =
    terminal.shown plain.world ++
      transcript terminal registry (fun _ => []) (asks registry taken plain)

variable {registry : Registry} {context : Context W} {line : String}

/-! ## One line more -/

theorem evaluateAll_cons_of_ok {status : ExitCode}
    (shows : (evaluateAndPrint registry line context).1 = .ok status) (lines : List String) :
    evaluateAll registry (line :: lines) context =
      evaluateAll registry lines (evaluateAndPrint registry line context).2 := by
  rw [evaluateAll, bind_apply, shows]

theorem evaluateAll_cons_of_panic {panic : Panic}
    (panics : (evaluateAndPrint registry line context).1 = .error panic) (lines : List String) :
    evaluateAll registry (line :: lines) context =
      (.error panic, (evaluateAndPrint registry line context).2) := by
  rw [evaluateAll, bind_apply, panics]
  rfl

@[simp] theorem leaving_nil (registry : Registry) (context : Context W) :
    leaving registry [] context = none := rfl

/-- A line that panics ends the loop, whatever comes after it. -/
theorem leaving_of_panic {panic : Panic}
    (panics : (evaluateAndPrint registry line context).1 = .error panic) :
    leaving registry [line] context = some (.error panic) := by
  rw [leaving, evaluateAll_cons_of_panic panics]

theorem leaving_singleton {status : ExitCode}
    (shows : (evaluateAndPrint registry line context).1 = .ok status) :
    leaving registry [line] context =
      (evaluateAndPrint registry line context).2.session.exitCode.map .ok := by
  rw [leaving, evaluateAll_cons_of_ok shows]
  rfl

/-- A line that ends nothing leaves the others to decide. -/
theorem leaving_cons {status : ExitCode}
    (shows : (evaluateAndPrint registry line context).1 = .ok status)
    (stays : (evaluateAndPrint registry line context).2.session.exitCode = none)
    (lines : List String) :
    leaving registry (line :: lines) context =
      leaving registry lines (evaluateAndPrint registry line context).2 := by
  cases lines with
  | nil => rw [leaving_singleton shows, stays, leaving_nil, Option.map_none]
  | cons next rest => simp only [leaving, evaluateAll_cons_of_ok shows, List.isEmpty_cons]

/-- When the last line ends the loop, it is not asked for another. -/
theorem asks_leaving {how : Except Panic ExitCode}
    (leaves : leaving registry [line] context = some how) :
    asks registry [.line line] context = [(context, some line)] := by
  simp [asks, turns, Typed.line?, leaves]

theorem asks_nil (registry : Registry) (context : Context W) :
    asks registry [] context = [(context, none)] := rfl

/-- What is typed ends nothing, and takes the loop from one context to the next. -/
structure Passes (registry : Registry) (key : Typed) (context next : Context W) : Prop where
  readable : ∀ cause, key ≠ .unreadable cause
  turn : ∀ later, turns registry (key :: later) context =
    (context, key.line?) :: turns registry later next
  evaluates : ∀ later, evaluateAll registry ((key :: later).filterMap Typed.line?) context =
    evaluateAll registry (later.filterMap Typed.line?) next
  leaves : ∀ later, leaving registry ((key :: later).filterMap Typed.line?) context =
    leaving registry (later.filterMap Typed.line?) next

theorem Passes.of_line {status : ExitCode}
    (shows : (evaluateAndPrint registry line context).1 = .ok status)
    (stays : (evaluateAndPrint registry line context).2.session.exitCode = none) :
    Passes registry (.line line) context (evaluateAndPrint registry line context).2 where
  readable _ := Typed.noConfusion
  turn _ := rfl
  evaluates _ := evaluateAll_cons_of_ok shows _
  leaves _ := leaving_cons shows stays _

theorem Passes.of_interrupt (registry : Registry) (context : Context W) :
    Passes registry .interrupt context context where
  readable _ := Typed.noConfusion
  turn _ := rfl
  evaluates _ := rfl
  leaves _ := rfl

theorem Passes.asks {key : Typed} {next : Context W} (passes : Passes registry key context next)
    (taken : List Typed) :
    asks registry (key :: taken) context = (context, key.line?) :: asks registry taken next := by
  rw [Interpreter.asks, passes.turn, passes.evaluates, passes.leaves, List.cons_append]
  rfl

/-! ## A record of what is done -/

section Recording

variable [LineEditor W]

/-- To ask for a line at most so many times, with what is done put on record. -/
def evaluateLinesRecording (registry : Registry) : Nat → StateM (Context W × List Deed) Ending
  | 0 => pure (.ok (.ok none))
  | reads + 1 => do
      let prompt ← unrecorded (Context.ask (·.prompt))
      record (.asked prompt)
      match ← unrecorded (Context.act (LineEditor.readLine prompt)) with
      | .error .interrupted => evaluateLinesRecording registry reads
      | .error .ended => pure (.ok (.ok none))
      | .error (.failed cause) => pure (.ok (.error cause))
      | .ok line =>
        match ← unrecorded (remember line) with
        | .error cause => pure (.ok (.error cause))
        | .ok () =>
          record (.evaluated line)
          match ← unrecorded (evaluateAndPrint registry line) with
          | .error panic => pure (.error panic)
          | .ok _ =>
            match ← unrecorded (Context.ask (·.exitCode)) with
            | some code => pure (.ok (.ok (some code)))
            | none => evaluateLinesRecording registry reads

/-- To evaluate the lines that the line editor gives, with what is done put on record. -/
def replRecording (registry : Registry) : StateM (Context W × List Deed) Ending := do
  match ← unrecorded (Context.act LineEditor.start) with
  | .error cause => pure (.ok (.error cause))
  | .ok () =>
    evaluateLinesRecording registry ((← unrecorded (Context.look LineEditor.readsLeft)) + 1)

theorem evaluateLinesRecording_erases (registry : Registry) (reads : Nat) :
    Carried Prod.fst id (evaluateLinesRecording registry reads)
      (evaluateLines registry reads : StateM (Context W) Ending) := by
  induction reads with
  | zero => exact .pure id _
  | succ reads ih =>
      refine (unrecorded_erases _).bind fun prompt => record_erases _ ?_
      refine (unrecorded_erases _).bind fun answer => ?_
      rcases answer with fault | line
      · cases fault with
        | ended => exact .pure id _
        | interrupted => exact ih
        | failed cause => exact .pure id _
      · refine (unrecorded_erases _).bind fun kept => ?_
        rcases kept with cause | done
        · exact .pure id _
        · refine record_erases _ ((unrecorded_erases _).bind fun told => ?_)
          rcases told with panic | status
          · exact .pure id _
          · refine (unrecorded_erases _).bind fun code => ?_
            cases code with
            | some code => exact .pure id _
            | none => exact ih

section Line

variable {reads : Nat} {prompt : String} {read kept next : Context W} {done : List Deed}
  (prompts : context.session.prompt = prompt)
  (asks : Context.act (LineEditor.readLine prompt) context = (.ok line, read))
  (remembers : remember line read = (.ok (), kept))
include prompts asks remembers

/-- A line that is read and remembered is evaluated; it may panic. -/
theorem evaluateLinesRecording_panics {panic : Panic}
    (panics : evaluateAndPrint registry line kept = (.error panic, next)) :
    evaluateLinesRecording registry (reads + 1) (context, done) =
      (.error panic, next, done ++ [.asked prompt, .evaluated line]) := by
  simp only [evaluateLinesRecording, bind_apply, unrecorded_apply, record_apply, Context.ask,
    prompts, asks, remembers, panics, List.append_assoc]
  rfl

/-- It may leave an exit code behind, which ends the loop. -/
theorem evaluateLinesRecording_leaves {status code : ExitCode}
    (shows : evaluateAndPrint registry line kept = (.ok status, next))
    (leaves : next.session.exitCode = some code) :
    evaluateLinesRecording registry (reads + 1) (context, done) =
      (.ok (.ok (some code)), next,
        done ++ [.asked prompt, .evaluated line]) := by
  simp only [evaluateLinesRecording, bind_apply, unrecorded_apply, record_apply, Context.ask,
    prompts, asks, remembers, shows, leaves, List.append_assoc]
  rfl

/-- It may leave none, and then the loop goes on. -/
theorem evaluateLinesRecording_stays {status : ExitCode}
    (shows : evaluateAndPrint registry line kept = (.ok status, next))
    (stays : next.session.exitCode = none) :
    evaluateLinesRecording registry (reads + 1) (context, done) =
      evaluateLinesRecording registry reads
        (next, done ++ [.asked prompt, .evaluated line]) := by
  simp only [evaluateLinesRecording, bind_apply, unrecorded_apply, record_apply, Context.ask,
    prompts, asks, remembers, shows, stays, List.append_assoc]
  rfl

end Line

/-- The record changes nothing. -/
theorem replRecording_erases (registry : Registry) :
    Carried Prod.fst id (replRecording registry) (repl registry : StateM (Context W) Ending) := by
  refine (unrecorded_erases _).bind fun ready => ?_
  rcases ready with cause | done
  · exact .pure id _
  · exact (unrecorded_erases _).bind fun reads => evaluateLinesRecording_erases registry (reads + 1)

end Recording

/-! ## Every run -/

section Runs

variable {terminal : Terminal W F} {text : Bytes} {plain : Context W} {typed left : List Typed}
  {ending : Ending} {read next : Context W} {deeds : List Deed} {taken : List Typed}
  {run : Ending × Context W}

/-- To stop before a line is taken. -/
theorem Repeats.stop (closes : Closes none left ending) (same : terminal.Same read plain)
    (shown : terminal.shown read.world = text ++ promptText terminal plain) :
    Repeats terminal registry left text plain (ending, read) [.asked plain.session.prompt] [] left
    where
  typed := rfl
  readable _ := List.not_mem_nil
  first earlier isPrefix different := absurd (List.prefix_nil.1 isPrefix) different
  closes := closes
  same := same
  deeds := rfl
  shown := shown.trans (by simp [transcript, asks_nil, Asked.shown, promptText])
  shownPlain := (List.append_nil _).symm

/-- To take one line, which ends the loop. -/
theorem Repeats.leave {how : Except Panic ExitCode}
    (leaves : leaving registry [line] plain = some how) (closes : Closes (some how) left ending)
    (same : terminal.Same next (evaluateAndPrint registry line plain).2)
    (shown : terminal.shown next.world =
      text ++ promptText terminal plain ++ shownBy terminal registry line plain)
    (shownPlain : terminal.shown (evaluateAndPrint registry line plain).2.world =
      terminal.shown plain.world ++ shownBy terminal registry line plain) :
    Repeats terminal registry (.line line :: left) text plain (ending, next)
      [.asked plain.session.prompt, .evaluated line] [.line line] left := by
  have after :
      (evaluateAll registry [line] plain).2 = (evaluateAndPrint registry line plain).2 := by
    rcases told : (evaluateAndPrint registry line plain).1 with panic | status
    · rw [evaluateAll_cons_of_panic told]
    · rw [evaluateAll_cons_of_ok told]
      rfl
  refine
    { typed := rfl, readable := by simp, first := ?_, closes := leaves ▸ closes,
      same := after ▸ same, deeds := by rw [asks_leaving leaves]; rfl, shown := ?_,
      shownPlain := ?_ }
  · intro earlier isPrefix different
    rcases List.prefix_cons_iff.1 isPrefix with rfl | ⟨later, rfl, nothing⟩
    · rfl
    · exact absurd (by rw [List.prefix_nil.1 nothing]) different
  · rw [asks_leaving leaves, shown]
    simp [transcript, Asked.shown]
  · have alone : transcript terminal registry (fun _ => []) [(plain, some line)] =
        shownBy terminal registry line plain := by simp [transcript, Asked.shown]
    rw [asks_leaving leaves, alone, ← shownPlain]
    exact congrArg (fun context => terminal.shown context.world) after

/-- To take what ends nothing, and then what comes after it. -/
theorem Repeats.cons {key : Typed} (passes : Passes registry key plain next)
    (shownPlain : terminal.shown next.world =
      terminal.shown plain.world ++ key.line?.elim [] (shownBy terminal registry · plain))
    (later : Repeats terminal registry typed
      (text ++ Asked.shown terminal registry (promptText terminal) (plain, key.line?)) next run
      deeds taken left) :
    Repeats terminal registry (key :: typed) text plain run
      (Asked.deeds (plain, key.line?) ++ deeds) (key :: taken) left where
  typed := by rw [later.typed, List.cons_append]
  readable cause member := by
    rcases List.mem_cons.1 member with clash | within
    · exact passes.readable cause clash.symm
    · exact later.readable cause within
  first earlier isPrefix different := by
    rcases List.prefix_cons_iff.1 isPrefix with rfl | ⟨others, rfl, within⟩
    · rfl
    · exact (passes.leaves _).trans (later.first others within fun same => different (by rw [same]))
  closes := (passes.leaves _).symm ▸ later.closes
  same := (passes.evaluates _).symm ▸ later.same
  deeds := by rw [passes.asks, List.flatMap_cons, later.deeds]
  shown := by rw [later.shown, passes.asks, transcript, transcript, List.flatMap_cons,
    List.append_assoc]
  shownPlain := by
    rw [passes.evaluates, passes.asks, later.shownPlain, shownPlain, transcript, transcript,
      List.flatMap_cons, List.append_assoc]
    rfl

end Runs

section Loop

variable [LineEditor W] {terminal : Terminal W F}

omit [ArgumentReader] in
/-- To ask for a line is to show the prompt and to take the first of what is typed. -/
theorem readLine_takes (lawful : terminal.Lawful) {context plain : Context W}
    (same : terminal.Same context plain) :
    ∃ read, Context.act (LineEditor.readLine plain.session.prompt) context =
        (Typed.answer (terminal.awaiting context.world), read) ∧
      terminal.Same read plain ∧
      terminal.awaiting read.world = (terminal.awaiting context.world).tail ∧
      terminal.shown read.world = terminal.shown context.world ++ promptText terminal plain := by
  obtain ⟨answer, left⟩ := lawful.readLine plain.session.prompt context.world same.world.calm
  exact ⟨_, Prod.ext answer rfl, same.of_left left, left.awaiting, left.shown⟩

omit [ArgumentReader] in
/-- Nothing is seen of it when a line is remembered. -/
theorem remember_unnoticed (lawful : terminal.Lawful) (line : String) {context plain : Context W}
    (same : terminal.Same context plain) :
    ∃ kept, remember line context = (.ok (), kept) ∧ terminal.Same kept plain ∧
      terminal.awaiting kept.world = terminal.awaiting context.world ∧
      terminal.shown kept.world = terminal.shown context.world := by
  unfold remember
  split
  · exact ⟨context, rfl, same, rfl, rfl⟩
  · obtain ⟨done, left⟩ := lawful.remember line context.world same.world.calm
    exact ⟨_, Prod.ext done rfl, same.of_left left, left.awaiting,
      left.shown.trans (List.append_nil _)⟩

/-- **Lines that are read are evaluated one after the other,** beginning in any context that
is the same as the plain one but for what is typed and shown. -/
theorem evaluateLines_repeats (lawful : terminal.Lawful) (registry : Registry)
    (typed : List Typed) {reads : Nat} (enough : typed.length < reads)
    {context plain : Context W} (same : terminal.Same context plain)
    (awaiting : terminal.awaiting context.world = typed)
    (done : List Deed) :
    ∃ ending after deeds taken left,
      evaluateLinesRecording registry reads (context, done) = (ending, after, done ++ deeds) ∧
      Repeats terminal registry typed (terminal.shown context.world) plain (ending, after) deeds
        taken left := by
  induction typed generalizing reads context plain done with
  | nil =>
      obtain ⟨reads, rfl⟩ := Nat.exists_eq_succ_of_ne_zero (Nat.ne_zero_of_lt enough)
      obtain ⟨read, asks, after, -, shown⟩ := readLine_takes lawful same
      rw [awaiting] at asks
      have ran : evaluateLinesRecording registry (reads + 1) (context, done) =
          (.ok (.ok none), read, done ++ [.asked plain.session.prompt]) := by
        simp only [evaluateLinesRecording, bind_apply, unrecorded_apply, record_apply, Context.ask,
          asks, Typed.answer, same.session]
        rfl
      exact ⟨_, _, _, _, _, ran, .stop (.ended rfl rfl) after shown⟩
  | cons key rest ih =>
      obtain ⟨reads, rfl⟩ := Nat.exists_eq_succ_of_ne_zero (Nat.ne_zero_of_lt enough)
      have fewer : rest.length < reads := Nat.lt_of_succ_lt_succ enough
      obtain ⟨read, asks, after, left, shown⟩ := readLine_takes lawful same
      rw [awaiting] at asks left
      cases key with
      | unreadable cause =>
          have ran : evaluateLinesRecording registry (reads + 1) (context, done) =
              (.ok (.error cause), read, done ++ [.asked plain.session.prompt]) := by
            simp only [evaluateLinesRecording, bind_apply, unrecorded_apply, record_apply,
              Context.ask, asks, Typed.answer, same.session]
            rfl
          exact ⟨_, _, _, _, _, ran, .stop (.unreadable rfl rfl) after shown⟩
      | interrupt =>
          have ran : evaluateLinesRecording registry (reads + 1) (context, done) =
              evaluateLinesRecording registry reads
                (read, done ++ [.asked plain.session.prompt]) := by
            simp only [evaluateLinesRecording, bind_apply, unrecorded_apply, record_apply,
              Context.ask, asks, Typed.answer, same.session]
          obtain ⟨ending, last, deeds, taken, later, continued, repeats⟩ :=
            ih fewer after left (done ++ [.asked plain.session.prompt])
          have grown : terminal.shown read.world = terminal.shown context.world ++
              Asked.shown terminal registry (promptText terminal) (plain, none) :=
            shown.trans (congrArg _ (List.append_nil _).symm)
          rw [ran, continued, List.append_assoc]
          rw [grown] at repeats
          exact ⟨ending, last, _, _, later, rfl,
            .cons (.of_interrupt registry plain) (List.append_nil _).symm repeats⟩
      | line line =>
          obtain ⟨kept, remembers, after, leftKept, shownKept⟩ :=
            remember_unnoticed lawful line after
          obtain ⟨told, same', leftNext, shownNext, shownPlain⟩ :=
            evaluateAndPrint_same lawful registry line after
          rcases evaluates : evaluateAndPrint registry line kept with ⟨result, next⟩
          rw [evaluates] at told same' leftNext shownNext
          rw [shownKept, shown] at shownNext
          have prompts : context.session.prompt = plain.session.prompt :=
            congrArg Session.prompt same.session
          -- the line panics, or it leaves an exit code behind, or the loop goes on
          rcases result with panic | status
          · exact ⟨_, _, _, _, _, evaluateLinesRecording_panics prompts asks remembers evaluates,
              .leave (leaving_of_panic told.symm) (.panicked rfl) same' shownNext shownPlain⟩
          · rcases leaves : next.session.exitCode with _ | code
            · obtain ⟨ending, last, deeds, taken, later, continued, repeats⟩ :=
                ih fewer same' (leftNext.trans (leftKept.trans left))
                  (done ++ [.asked plain.session.prompt, .evaluated line])
              rw [shownNext, List.append_assoc] at repeats
              rw [evaluateLinesRecording_stays prompts asks remembers evaluates leaves, continued,
                List.append_assoc]
              exact ⟨ending, last, _, _, later, rfl,
                .cons (.of_line told.symm (same'.session ▸ leaves)) shownPlain repeats⟩
            · have ends : leaving registry [line] plain = some (.ok code) := by
                rw [leaving_singleton told.symm, ← same'.session, leaves, Option.map_some]
              exact ⟨_, _, _, _, _,
                evaluateLinesRecording_leaves prompts asks remembers evaluates leaves,
                .leave ends (.asked rfl) same' shownNext shownPlain⟩

/-- What the loop does with what is typed, from the moment the line editor is made ready. -/
theorem replRecording_repeats (lawful : terminal.Lawful) (registry : Registry)
    {context plain : Context W} (same : terminal.Same context plain) :
    ∃ deeds taken left,
      replRecording registry (context, []) =
        ((repl registry context).1, (repl registry context).2, deeds) ∧
      Repeats terminal registry (terminal.awaiting context.world) (terminal.shown context.world)
        plain (repl registry context) deeds taken left := by
  obtain ⟨started, ready⟩ := lawful.start context.world same.world.calm
  have enough : (terminal.awaiting context.world).length <
      LineEditor.readsLeft (LineEditor.start context.world).2 + 1 :=
    Nat.lt_succ_of_le (ready.awaiting ▸ lawful.readsLeft _ ready.alike.calm)
  obtain ⟨ending, after, deeds, taken, left, ran, repeats⟩ :=
    evaluateLines_repeats lawful registry _ enough (same.of_left ready) ready.awaiting []
  have recorded : replRecording registry (context, []) = (ending, after, deeds) := by
    simp only [replRecording, bind_apply, unrecorded_apply, Context.act_apply, Context.look,
      started]
    exact ran
  have erased := replRecording_erases registry (context, [])
  rw [recorded] at erased
  rw [show repl registry context = (ending, after) from erased]
  rw [ready.shown, List.append_nil] at repeats
  exact ⟨deeds, taken, left, recorded, repeats⟩

end Loop

/-! ## No choice -/

section Choice

variable {terminal : Terminal W F} {typed left left' : List Typed} {text : Bytes}
  {plain : Context W} {run : Ending × Context W} {deeds deeds' : List Deed}
  {taken taken' : List Typed}

omit [ArgumentReader] in
/-- Nothing that can be read is left, unless the lines ended the loop. -/
theorem Closes.nothing_readable {ending : Ending} (closes : Closes none left ending) {key : Typed}
    {rest : List Typed} (next : left = key :: rest) : ∃ cause, key = .unreadable cause := by
  cases closes with
  | asked leaves => cases leaves
  | panicked leaves => cases leaves
  | ended _ nothing => exact absurd (next.symm.trans nothing) (List.cons_ne_nil _ _)
  | unreadable _ other => exact ⟨_, (List.cons.inj (next.symm.trans other)).1⟩

/-- No more could have been taken than was. -/
theorem Repeats.takes_all (this : Repeats terminal registry typed text plain run deeds taken left)
    {more : List Typed}
    (that : Repeats terminal registry typed text plain run deeds' (taken ++ more) left')
    (longer : left = more ++ left') : more = [] := by
  cases more with
  | nil => rfl
  | cons key more =>
      have stays := that.first taken (List.prefix_append _ _) (by simp)
      obtain ⟨cause, rfl⟩ := (stays ▸ this.closes).nothing_readable longer
      exact absurd (List.mem_append_right _ (List.mem_cons_self ..)) (that.readable cause)

/-- What is taken is settled by what is typed, and by what the lines do when they are
evaluated by themselves. -/
theorem Repeats.unique (this : Repeats terminal registry typed text plain run deeds taken left)
    (that : Repeats terminal registry typed text plain run deeds' taken' left') :
    taken' = taken ∧ left' = left := by
  rcases List.append_eq_append_iff.1 (this.typed.symm.trans that.typed) with
    ⟨more, rfl, longer⟩ | ⟨more, rfl, longer⟩
  · obtain rfl := this.takes_all that longer
    exact ⟨List.append_nil _, longer.symm⟩
  · obtain rfl := that.takes_all this longer
    exact ⟨(List.append_nil _).symm, longer⟩

end Choice

/-! ## Panics -/

section Willing

variable [LineEditor W] {terminal : Terminal W F} (lawful : terminal.Lawful)
  (willing : terminal.Willing)
include lawful willing

/-- Where standard error takes what it is told, no line panics. -/
theorem evaluateAll_calm (registry : Registry) (lines : List String) {context : Context W}
    (calm : terminal.sight.calm context.world) :
    (evaluateAll registry lines context).1 = .ok () := by
  induction lines generalizing context with
  | nil => rfl
  | cons line rest ih =>
      obtain ⟨status, shows⟩ := evaluateAndPrint_calm lawful willing calm registry line
      rw [evaluateAll_cons_of_ok shows]
      exact ih (lawful.built_calm (evaluateAndPrint_built registry line) calm)

theorem repl_calm (registry : Registry) {context : Context W}
    (calm : terminal.sight.calm context.world) (panic : Panic) :
    (repl registry context).1 ≠ .error panic := by
  intro panics
  obtain ⟨deeds, taken, left, -, repeats⟩ := replRecording_repeats lawful registry (.refl calm)
  have closes := repeats.closes
  rw [panics] at closes
  cases closes with
  | panicked leaves =>
      rw [leaving, evaluateAll_calm lawful willing registry _ calm] at leaves
      dsimp only at leaves
      split at leaves
      · cases leaves
      · obtain ⟨code, -, clash⟩ := Option.map_eq_some_iff.1 leaves
        cases clash

end Willing

/-! ## One line beforehand -/

/-- The status that the program ends with for a line that comes to this when it is typed, and
to that when it is evaluated by itself: the exit code that it leaves behind, or else its own. -/
def statusOf : Ending → Except Panic ExitCode → ExitCode
  | .ok (.ok (some code)), _ => code
  | _, .ok status => status
  | _, .error _ => CommandLine.panicStatus

/-- A line given beforehand leaves the status that it would leave if it were typed; typed, it
may leave none, and then its own counts. -/
theorem runWith_eq_of_typed [LineEditor W] {terminal : Terminal W F} (lawful : terminal.Lawful)
    {options : CommandLine.Options} {line : String} {context typed : Context W}
    (given : options.command = some line) (same : terminal.Same typed context)
    (awaiting : terminal.awaiting typed.world = [.line line]) :
    (CommandLine.runWith options context).1 =
      statusOf (repl (CommandLine.registryOf options) typed).1
        (evaluateAndPrint (CommandLine.registryOf options) line context).1 := by
  obtain ⟨deeds, taken, left, -, repeats⟩ :=
    replRecording_repeats lawful (CommandLine.registryOf options) same
  have split := awaiting.symm.trans repeats.typed
  have closes := repeats.closes
  generalize (repl (CommandLine.registryOf options) typed).1 = ending at closes ⊢
  cases taken with
  | nil =>
      obtain ⟨cause, clash⟩ := closes.nothing_readable split.symm
      cases clash
  | cons key others =>
      obtain ⟨rfl, nothing⟩ := List.cons.inj split
      obtain ⟨rfl, rfl⟩ := List.append_eq_nil_iff.1 nothing.symm
      have leaves : (leaving (CommandLine.registryOf options) [line] context) =
          leaving (CommandLine.registryOf options) ([Typed.line line].filterMap Typed.line?)
            context := rfl
      rw [← leaves] at closes
      rcases shows : (evaluateAndPrint (CommandLine.registryOf options) line context).1 with
        panic | status
      · rw [leaving_of_panic shows] at closes
        simp only [CommandLine.runWith, given, bind_apply, shows]
        cases closes with
        | asked leaves => cases leaves
        | panicked _ => rfl
        | ended stays => cases stays
        | unreadable stays => cases stays
      · rw [leaving_singleton shows] at closes
        simp only [CommandLine.runWith, given, bind_apply, shows, Context.ask]
        cases closes with
        | asked leaves =>
            obtain ⟨code, left, same⟩ := Option.map_eq_some_iff.1 leaves
            cases same
            rw [left]
            rfl
        | panicked leaves =>
            obtain ⟨code, -, clash⟩ := Option.map_eq_some_iff.1 leaves
            cases clash
        | ended stays =>
            rw [Option.map_eq_none_iff.1 stays]
            rfl
        | unreadable _ clash => cases clash

/-- **To read lines is to evaluate them, one after the other.**  The lines that are read are
those up to the first that leaves an exit code behind, each of them is evaluated once and in
order, the line editor is given the prompt of the session before each and once more at the
end, and what comes of the lines is what comes of evaluating them; there is no choice in which
they are.  Nothing else ends the reading but the end of the input, what cannot be read, and a
report that standard error refuses; so there is no panic where it refuses none.  A line that
is given beforehand ends with the code that it ends with when it is typed, or else with its
status. -/
theorem repl_repeats [LineEditor W] {terminal : Terminal W F} (lawful : terminal.Lawful)
    (registry : Registry) (context : Context W) (calm : terminal.sight.calm context.world) :
    (∃ deeds taken left,
      replRecording registry (context, []) =
        ((repl registry context).1, (repl registry context).2, deeds) ∧
      Repeats terminal registry (terminal.awaiting context.world) (terminal.shown context.world)
        context (repl registry context) deeds taken left ∧
      ∀ taken' left',
        Repeats terminal registry (terminal.awaiting context.world) (terminal.shown context.world)
          context (repl registry context) deeds taken' left' → taken' = taken ∧ left' = left) ∧
    (terminal.Willing → ∀ panic, (repl registry context).1 ≠ .error panic) ∧
    ∀ (options : CommandLine.Options) (line : String) (typed : Context W),
      options.command = some line → terminal.Same typed context →
      terminal.awaiting typed.world = [.line line] →
      (CommandLine.runWith options context).1 =
        statusOf (repl (CommandLine.registryOf options) typed).1
          (evaluateAndPrint (CommandLine.registryOf options) line context).1 := by
  refine ⟨?_, fun willing => repl_calm lawful willing registry calm,
    fun options line typed => runWith_eq_of_typed lawful⟩
  obtain ⟨deeds, taken, left, recorded, repeats⟩ :=
    replRecording_repeats lawful registry (.refl calm)
  exact ⟨deeds, taken, left, recorded, repeats, fun taken' left' => repeats.unique⟩

end Standard

open scoped Arguments

/-- Lines of all kinds: one that moves the shell, two that cannot be run, one that is given up
half way, and one with an `exit` in it; the last of them is never read. -/
def typedLines : List Typed :=
  [.line "cd /tmp", .line "a | | b", .interrupt, .line "", .line "pwd | exit 3",
    .line "echo unread"]

/-- The builtins of a shell that knows `exit`. -/
def leavable : Registry := Registry.withBuiltins.register .exit

theorem repl_repeats_typedLines :
    Teletype.terminal.Lawful ∧ Teletype.terminal.Willing ∧
    (∃ deeds taken left,
      replRecording leavable (Teletype.context typedLines, []) =
        ((repl leavable (Teletype.context typedLines)).1,
          (repl leavable (Teletype.context typedLines)).2, deeds) ∧
      Repeats Teletype.terminal leavable typedLines [] (Teletype.context typedLines)
        (repl leavable (Teletype.context typedLines)) deeds taken left) ∧
    (∀ panic, (repl leavable (Teletype.context typedLines)).1 ≠ .error panic) ∧
    (CommandLine.runWith ⟨some "exit 4", true⟩ (Teletype.context typedLines)).1 =
      statusOf (repl leavable (Teletype.context [.line "exit 4"])).1
        (evaluateAndPrint leavable "exit 4" (Teletype.context typedLines)).1 ∧
    (replRecording leavable (Teletype.context typedLines, [])).2.2 =
      [.asked "user@group:/$ ", .evaluated "cd /tmp", .asked "user@group:/tmp$ ",
        .evaluated "a | | b", .asked "user@group:/tmp$ ", .asked "user@group:/tmp$ ",
        .evaluated "", .asked "user@group:/tmp$ ", .evaluated "pwd | exit 3"] ∧
    (repl leavable (Teletype.context typedLines)).2.world.shown =
      Utf8.encode ("user@group:/$ user@group:/tmp$ user@group:/tmp$ user@group:/tmp$ " ++
        "user@group:/tmp$ ") := by
  obtain ⟨⟨deeds, taken, left, recorded, repeats, -⟩, willing, beforehand⟩ :=
    repl_repeats Teletype.terminal_lawful leavable (Teletype.context typedLines) trivial
  refine ⟨Teletype.terminal_lawful, Teletype.terminal_willing,
    ⟨deeds, taken, left, recorded, repeats⟩, willing Teletype.terminal_willing, ?_,
    by decide +kernel, by decide +kernel⟩
  exact beforehand ⟨some "exit 4", true⟩ "exit 4" (Teletype.context [.line "exit 4"]) rfl
    ⟨rfl, rfl, trivial, trivial, rfl⟩ rfl

end PipelineShell.Interpreter
