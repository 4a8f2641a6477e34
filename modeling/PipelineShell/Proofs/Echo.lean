/-
# Proofs.Echo -- a line with `echo` on it

What comes of a line with a single builtin on it that only prints is what the builtin means
to print, if the buffer that its output is collected in takes everything
(`Interpreter.runLine_prints`); and a line that calls for neither `cd` nor `exit` leaves the
session alone (`Interpreter.sessionAfter_eq`).

For `echo` the text is told from the words of the line (`Interpreter.runLine_echo`).  It is
words with single spaces between them, so it can be read as a line again, and that line has
just these words.
-/
import PipelineShell.Arguments.Scan
import PipelineShell.Proofs.Encoding
import PipelineShell.Proofs.LastStage
import PipelineShell.Proofs.Ledger
import PipelineShell.Proofs.Recording
import PipelineShell.Proofs.Rendering

namespace PipelineShell

set_option autoImplicit false

open Stateful

variable {W : Type} [Host W]

/-! ## One builtin -/

namespace Builtin

/-- A builtin that prints into a buffer which takes everything prints all that it means to. -/
theorem perform_prints {streams : Streams}
    (absorbs : ∀ bytes (world : W), (Host.write streams.output bytes world).1 = .ok bytes.length)
    {invocation : Invocation} (prints : invocation.kind.Prints) (context : Context W) :
    (perform streams (.ok invocation) context).1 =
      (intended context.session (.ok invocation), .ok 0) := by
  have taken : ∀ bytes, Ensures (fun _ : W => True) (Host.write streams.output bytes)
      fun answer _ => answer = .ok bytes.length ∧ True :=
    fun bytes world _ => ⟨absorbs bytes world, trivial⟩
  have absorbed := Output.writePieces_absorbed taken (pieces context.session (.ok invocation))
    context.world trivial
  rw [perform_deed, bind_apply, deed_prints prints context]
  dsimp only
  rw [Intent.carryOut, bind_apply, Context.act_apply, absorbed.1, flatten_pieces]
  rfl

/-- So it does when its output is collected. -/
theorem output_prints
    (absorbs : ∀ bytes (world : W), (Host.write .scratch bytes world).1 = .ok bytes.length)
    {builtin : Builtin} {invocation : Invocation} (prints : invocation.kind.Prints)
    (parsed : builtin.parsed = some (.ok invocation)) (unrun : builtin.status = none)
    (unrecorded : builtin.recorded = []) (context : Context W) :
    (builtin.output context).1.1 = .ok (intended context.session (.ok invocation)) ∧
      (builtin.output context).1.2.status = some 0 := by
  have same := builtin.setOutput_spares Context.aloof_session .scratch context
  let bound := builtin.withOutput .scratch
  have still : bound.parsed = some (.ok invocation) := parsed
  have absorbed : ∀ bytes (world : W),
      (Host.write bound.streams.output bytes world).1 = .ok bytes.length := absorbs
  have performed := perform_prints absorbed prints (builtin.setOutput .scratch context).2
  rw [output_apply unrun, run_unrun still unrun]
  dsimp only
  rw [performed, same]
  have fate := bound.conclude_fate (intended context.session (.ok invocation))
    (perform bound.streams (.ok invocation) (builtin.setOutput .scratch context).2).2
  have recorded : _ = builtin.recorded ++ _ := congrArg (·.2.2.1) fate
  rw [unrecorded, List.nil_append] at recorded
  exact ⟨congrArg _ recorded, rfl⟩

end Builtin

namespace Pipeline

/-- To run a single builtin is to bind its errors, and to collect its output. -/
theorem run_singleton (error : OutputHandle) (builtin : Builtin) (context : Context W) :
    let bound := builtin.setError error context
    let collected := bound.1.output bound.2
    (run error [.builtin builtin] context).1 = .ok
      { stdout := (outputResult 0 collected.1.1).1
        status := collected.1.2.status.getD 0
        errors := Outcome.inOrder (outputResult 0 collected.1.1).2 } := by
  intro bound collected
  have waited := collected.1.2.wait_answer collected.2
  have ran : (run error [.builtin builtin] context).1 = .ok
      { stdout := (outputResult 0 collected.1.1).1
        status := statusOf (collected.1.2.wait collected.2).1.1
        errors := Outcome.inOrder ([] ++ (outputResult 0 collected.1.1).2 ++
          failure 0 (collected.1.2.wait collected.2).1.1 ++ []) } := rfl
  rw [ran, waited, failure, statusOf, List.nil_append, List.append_nil, List.append_nil]

end Pipeline

/-! ## One line -/

namespace Interpreter

variable {registry : Registry} {line : String}

/-- The session is the affair of two builtins only. -/
theorem sessionAfter_eq [ArgumentReader] (shipped : registry.Shipped) (context : Context W)
    (harmless : ∀ call ∈ called registry line, call.1 ≠ .cd ∧ call.1 ≠ .exit) :
    sessionAfter registry line context = context.session := by
  have account := runLine_account shipped line context
  have worked : ∀ b ∈ workedBuiltins registry line context, b.kind ≠ .cd ∧ b.kind ≠ .exit :=
    fun b member => harmless b.call
      ((workedBuiltins_called registry line context).subset (List.mem_map_of_mem member))
  have directory : (sessionAfter registry line context).directory = context.session.directory := by
    by_contra moved
    obtain ⟨b, member, cd, -⟩ := account.directory moved
    exact (worked b member).1 cd
  have exitCode : (sessionAfter registry line context).exitCode = context.session.exitCode := by
    by_contra changed
    obtain ⟨b, member, asks⟩ := account.requested_of_changed changed
    exact (worked b member).2 (Builtin.kind_of_requested asks)
  have bindings := account.bindings
  have user := account.user
  have group := account.group
  generalize sessionAfter registry line context = after at *
  obtain ⟨_, _, _, _, _⟩ := after
  subst bindings directory user group exitCode
  rfl

/-- A line without bars on which a builtin is called that only prints. -/
theorem runLine_prints [ArgumentReader]
    (absorbs : ∀ bytes (world : W), (Host.write .scratch bytes world).1 = .ok bytes.length)
    {name : String} {arguments : List String} {kind : Builtin.Kind}
    {invocation : Builtin.Invocation} (reads : Line.stages line = .ok [name :: arguments])
    (registered : registry.create name = some (.ofKind kind))
    (parsed : Builtin.Invocation.parse kind [kind.name] arguments = .ok invocation)
    (prints : invocation.kind.Prints) (context : Context W) :
    (runLine registry line context).1 =
      .ok ⟨Builtin.intended context.session (.ok invocation), 0, []⟩ := by
  let builtin := (Builtin.fresh kind).parseArguments arguments
  have built : Pipeline.construct registry line = .ok [.builtin builtin] := by
    rw [Pipeline.construct, reads, Except.map, List.map_singleton, Pipeline.commandOf, registered]
    rfl
  let bound := (builtin.setError .standardError context).1
  have ready : bound.parsed = some (.ok invocation) := congrArg some parsed
  have same : (builtin.setError .standardError context).2.session = context.session :=
    Context.aloof_session.spares (builtin.setError_built .standardError) context
  obtain ⟨answer, status⟩ := Builtin.output_prints absorbs prints ready rfl rfl
    (builtin.setError .standardError context).2
  have ran := Pipeline.run_singleton .standardError builtin context
  rw [runLine, built]
  dsimp only at ran ⊢
  rw [ran, answer, status, same]
  simp [Pipeline.outputResult, Pipeline.Outcome.inOrder]

end Interpreter

/-! ## The words of a line -/

namespace Line

/-- A line without bars is one stage. -/
theorem stages_unmarked {line : String} (unmarked : bar ∉ line.toList)
    (worded : wordsOf line ≠ []) : stages line = .ok [wordsOf line] := by
  have alone := stages_intercalate [line] (List.cons_ne_nil _ _) (by simpa using unmarked)
    (by simpa using worded)
  rwa [String.intercalate_singleton, List.map_singleton] at alone

theorem wordsOf_echo (text : String) : wordsOf ("echo " ++ text) = "echo" :: wordsOf text := by
  have split : ("echo " ++ text).toList = "echo".toList ++ ' ' :: text.toList := by
    rw [String.toList_append]
    rfl
  rw [wordsOf, split, Text.words_append_cons_of_isBlank (by decide)]
  rfl

theorem mem_wordsOf {text word : String} (unmarked : bar ∉ text.toList)
    (member : word ∈ wordsOf text) : IsWord word := by
  obtain ⟨run, found, rfl⟩ := List.mem_map.1 member
  obtain ⟨nonempty, solid⟩ := mem_words found
  refine ⟨fun empty => nonempty (by simpa using empty), fun c inside => ?_⟩
  obtain ⟨within, inked⟩ := solid c (by simpa using inside)
  exact ⟨inked, fun same => unmarked (same ▸ within)⟩

/-- Words with single spaces between them, and what white space may follow, have no bars in
them, and are these words. -/
theorem wordsOf_intercalate {words : List String} (solid : ∀ word ∈ words, IsWord word)
    {ending : String} (bare : Bare ending.toList) :
    bar ∉ (" ".intercalate words ++ ending).toList ∧
      wordsOf (" ".intercalate words ++ ending) = words := by
  rw [wordsOf, String.toList_append]
  by_cases none_ : words = []
  · subst none_
    rw [String.intercalate_nil, String.toList_empty, List.nil_append, words_eq_nil_iff.2 bare]
    exact ⟨bare.unmarked, rfl⟩
  · have padded := (spaced_intercalate none_).padded.append_bare bare
    refine ⟨padded.unmarked solid, ?_⟩
    rw [padded.words_eq solid, List.map_map]
    simp [Function.comp_def]

end Line

/-! ## `echo` -/

/-- The words that `echo` prints of those that it is given, and what comes after them: an
exact `-n` in front is no word to be printed, and takes the end of the line away. -/
def Builtin.spoken (words : List String) : List String × String :=
  if words.head? = some "-n" then (words.tail, "") else (words, "\n")

theorem Builtin.intended_echo (session : Session) (words : List String) :
    intended session (.ok (Invocation.ofEchoWords words)) =
      Utf8.encode (" ".intercalate (spoken words).1 ++ (spoken words).2) := by
  have lineEnd : Utf8.encode "\n" = [0x0A] := rfl
  cases words with
  | nil => rfl
  | cons word rest =>
      by_cases quiet : word = "-n"
      · simp [Invocation.ofEchoWords, intended, echoText, spoken, quiet]
      · simp [Invocation.ofEchoWords, intended, echoText, spoken, quiet, Utf8.encode_append,
          lineEnd]

namespace Interpreter

open Builtin (spoken)

theorem stages_echo {text : String} (unmarked : Line.bar ∉ text.toList) :
    Line.stages ("echo " ++ text) = .ok ["echo" :: Line.wordsOf text] := by
  have clear : Line.bar ∉ ("echo " ++ text).toList := by
    rw [String.toList_append, List.mem_append, not_or]
    exact ⟨by decide, unmarked⟩
  have reads := Line.stages_unmarked clear (by simp [Line.wordsOf_echo])
  rwa [Line.wordsOf_echo] at reads

section Echo

variable [ArgumentReader]
  (absorbs : ∀ bytes (world : W), (Host.write .scratch bytes world).1 = .ok bytes.length)
  {text : String} (unmarked : Line.bar ∉ text.toList)
include unmarked

theorem sessionAfter_echo (context : Context W) :
    sessionAfter Registry.withBuiltins ("echo " ++ text) context = context.session := by
  apply sessionAfter_eq Registry.shipped_withBuiltins
  intro call member
  rw [called, stagesOf, stages_echo unmarked] at member
  obtain rfl : call = (.echo, Line.wordsOf text) := List.mem_singleton.1 member
  constructor
  all_goals
    intro same
    cases same

include absorbs

/-- What comes of a line with `echo` on it is told from its words. -/
theorem runLine_echo_words (context : Context W) :
    (runLine Registry.withBuiltins ("echo " ++ text) context).1 =
      .ok ⟨Utf8.encode (" ".intercalate (spoken (Line.wordsOf text)).1 ++
        (spoken (Line.wordsOf text)).2), 0, []⟩ := by
  have parsed : Builtin.Invocation.parse .echo ["echo"] (Line.wordsOf text) =
      .ok (Builtin.Invocation.ofEchoWords (Line.wordsOf text)) := rfl
  have prints := Builtin.Invocation.kind_of_parse parsed
  rw [runLine_prints absorbs (stages_echo unmarked) rfl parsed (.inr prints),
    Builtin.intended_echo]

/-- **A line with `echo` on it, from end to end.**  Its words are printed with single spaces
between them.  What is printed is a line again, and these are its words; so `echo` prints the
same once more, unless an exact `-n` would now come first. -/
theorem runLine_echo {words : List String} (spelled : Line.Spelled text.toList words)
    (context again : Context W) :
    let printed := (spoken words).1
    let stdout := Utf8.encode (" ".intercalate printed ++ (spoken words).2)
    (runLine Registry.withBuiltins ("echo " ++ text) context).1 = .ok ⟨stdout, 0, []⟩ ∧
      (runLine Registry.withBuiltins ("echo " ++ text) context).2.session = context.session ∧
      ∃ shown, Utf8.decode? stdout = some shown ∧
        (printed ≠ [] → Line.stages shown = .ok [printed]) ∧
        (printed.head? ≠ some "-n" →
          (runLine Registry.withBuiltins ("echo " ++ shown) again).1 =
            .ok ⟨Utf8.encode (" ".intercalate printed ++ "\n"), 0, []⟩) := by
  obtain rfl : words = Line.wordsOf text := Line.spelled_iff.1 spelled
  intro printed stdout
  have solid : ∀ word ∈ printed, Line.IsWord word := by
    intro word member
    have listed : word ∈ Line.wordsOf text := by
      simp only [printed, spoken] at member
      split at member
      · exact List.mem_of_mem_tail member
      · exact member
    exact Line.mem_wordsOf unmarked listed
  have bare : Line.Bare (spoken (Line.wordsOf text)).2.toList := by
    rw [spoken]
    split
    · exact Line.bare_nil
    · show Line.Bare "\n".toList
      intro c member
      obtain rfl : c = '\n' := List.mem_singleton.1 member
      decide
  obtain ⟨clear, same⟩ := Line.wordsOf_intercalate solid bare
  refine ⟨runLine_echo_words absorbs unmarked context, sessionAfter_echo unmarked context, _,
    Utf8.decode?_encode _, fun worded => ?_, fun plain => ?_⟩
  · have reads := Line.stages_unmarked clear (by rwa [same])
    rwa [same] at reads
  · have ran := runLine_echo_words absorbs clear again
    rw [same] at ran
    rw [ran, spoken, if_neg plain]

end Echo

open scoped Arguments

/-- A first `-n` ends the line early, and a later one is a word like any other. -/
theorem runLine_echo_quiet :
    let text := "\u3000-n  caf\u00E9\t-n\u2003--help -- "
    let words := ["-n", "caf\u00E9", "-n", "--help", "--"]
    let shown := "caf\u00E9 -n --help --"
    (∀ bytes (world : Ledger), (Host.write .scratch bytes world).1 = .ok bytes.length) ∧
      Line.bar ∉ text.toList ∧ Line.Spelled text.toList words ∧
      (runLine .withBuiltins ("echo " ++ text) Ledger.context).1 = .ok ⟨Utf8.encode shown, 0, []⟩ ∧
      (runLine .withBuiltins ("echo " ++ text) Ledger.context).2.session =
        Ledger.context.session ∧
      Line.stages shown = .ok [words.tail] ∧
      (runLine .withBuiltins ("echo " ++ shown) Ledger.context).1 =
        .ok ⟨Utf8.encode (shown ++ "\n"), 0, []⟩ := by
  intro text words shown
  have absorbs : ∀ bytes (world : Ledger),
      (Host.write .scratch bytes world).1 = .ok bytes.length := fun _ _ => rfl
  have unmarked : Line.bar ∉ text.toList := by decide
  have spelled : Line.Spelled text.toList words := Line.spelled_iff.2 (by decide)
  have printed : (spoken words).1 = words.tail := by decide
  have stdout : " ".intercalate (spoken words).1 ++ (spoken words).2 = shown := by decide
  have joined : " ".intercalate words.tail ++ "\n" = shown ++ "\n" := by decide
  obtain ⟨ran, session, again, decoded, reads, repeats⟩ :=
    runLine_echo absorbs unmarked spelled Ledger.context Ledger.context
  rw [stdout] at ran decoded
  obtain rfl : shown = again := Option.some.inj ((Utf8.decode?_encode shown).symm.trans decoded)
  rw [printed] at reads repeats
  rw [joined] at repeats
  exact ⟨absorbs, unmarked, spelled, ran, session, reads (by decide), repeats (by decide)⟩

end Interpreter

end PipelineShell
