/-
# Proofs.Invocation -- what the arguments of a builtin are read as

Whatever the words after the name of a builtin are, they are read as an invocation of that
builtin, or else as something to be shown in its place (`Invocation.kind_of_parse`).

The words after `exit` are gone through from left to right, and they come to one of three
things (`Scans`): to leave, with an operand or without; to be told how `exit` is used; or to a
fault, the first that there is.  A call for help only counts when all words have been gone
through, and none of them is at fault.  After `--` every word is an operand.  A reader of
arguments that reads the words so is `InOrder`.

`Invocation.exitRequest` says in terms of the words when it is that they ask for a code, and
for which, and `Invocation.request_parse` that a reader which is in order reads them so.
-/
import PipelineShell.Arguments.Scan
import PipelineShell.Builtin.Invocation

namespace PipelineShell

set_option autoImplicit false

namespace Builtin

/-- The builtin that an invocation is one of. -/
def Invocation.kind : Invocation → Kind
  | .pwd => .pwd
  | .echo _ _ => .echo
  | .cd _ => .cd
  | .ps => .ps
  | .kill _ => .kill
  | .exit _ => .exit

/-- The arguments of a builtin are read as an invocation of that builtin. -/
theorem Invocation.kind_of_parse [ArgumentReader] {kind : Kind} {names words : List String}
    {invocation : Invocation} (read : parse kind names words = .ok invocation) :
    invocation.kind = kind := by
  cases kind with
  | echo =>
      obtain rfl := Except.ok.inj read
      cases words with
      | nil => rfl
      | cons word rest =>
          rw [ofEchoWords]
          split <;> rfl
  | cd =>
      cases words with
      | nil => obtain rfl := Except.ok.inj read; rfl
      | cons target rest =>
          cases rest with
          | nil => obtain rfl := Except.ok.inj read; rfl
          | cons extra rest => cases read
  | kill => obtain rfl := Except.ok.inj read; rfl
  | _ =>
      simp only [parse] at read
      generalize ArgumentReader.read _ _ = scanned at read
      cases scanned with
      | error early => cases read
      | ok reading => obtain rfl := Except.ok.inj read; rfl

/-! ## The words after `exit` -/

/-- What the words after `exit` come to. -/
inductive Verdict where
  | leave (operand : Option String)
  | help
  | refuse (text : String)
  deriving DecidableEq, Repr

/-- The word begins with a dash. -/
def Dashed (word : String) : Prop := word.toList.head? = some '-'

/-- The words are gone through when a call for help, the end of the options, or an operand may
have been seen, and they come to this. -/
inductive Scans : Bool → Bool → Option String → List String → Verdict → Prop
  | leave {ended : Bool} {operand : Option String} :
      Scans false ended operand [] (.leave operand)
  | helped {ended : Bool} {operand : Option String} : Scans true ended operand [] .help
  | help {helped : Bool} {operand : Option String} {word : String} {rest : List String}
      {verdict : Verdict} (calls : word = "--help" ∨ word = "help")
      (later : Scans true false operand rest verdict) :
      Scans helped false operand (word :: rest) verdict
  | mark {helped : Bool} {operand : Option String} {rest : List String} {verdict : Verdict}
      (later : Scans helped true operand rest verdict) :
      Scans helped false operand ("--" :: rest) verdict
  | option {helped : Bool} {operand : Option String} {word : String} {rest : List String}
      (dashed : Dashed word) (other : word ≠ "--help" ∧ word ≠ "--") :
      Scans helped false operand (word :: rest)
        (.refuse (if helped then "Trailing arguments are not allowed after `help`."
          else "Unrecognized argument: " ++ word ++ "\n"))
  | operand {helped ended : Bool} {word : String} {rest : List String} {verdict : Verdict}
      (plain : ended = true ∨ ¬ Dashed word ∧ word ≠ "help")
      (later : Scans helped ended (some word) rest verdict) :
      Scans helped ended none (word :: rest) verdict
  | second {helped ended : Bool} {first word : String} {rest : List String}
      (plain : ended = true ∨ ¬ Dashed word ∧ word ≠ "help") :
      Scans helped ended (some first) (word :: rest)
        (.refuse ("Unrecognized argument: " ++ word ++ "\n"))

/-- All words come to something. -/
theorem exists_scans (words : List String) (helped ended : Bool) (operand : Option String) :
    ∃ verdict, Scans helped ended operand words verdict := by
  induction words generalizing helped ended operand with
  | nil =>
      cases helped with
      | false => exact ⟨_, .leave⟩
      | true => exact ⟨_, .helped⟩
  | cons word rest ih =>
      by_cases plain : ended = true ∨ ¬ Dashed word ∧ word ≠ "help"
      · cases operand with
        | none =>
            obtain ⟨verdict, later⟩ := ih helped ended (some word)
            exact ⟨verdict, .operand plain later⟩
        | some first => exact ⟨_, .second plain⟩
      · obtain ⟨going, special⟩ := not_or.1 plain
        obtain rfl : ended = false := Bool.eq_false_iff.2 going
        by_cases calls : word = "--help" ∨ word = "help"
        · obtain ⟨verdict, later⟩ := ih true false operand
          exact ⟨verdict, .help calls later⟩
        · obtain ⟨long, short⟩ := not_or.1 calls
          by_cases mark : word = "--"
          · obtain ⟨verdict, later⟩ := ih helped true operand
            exact ⟨verdict, mark ▸ .mark later⟩
          · have dashed : Dashed word :=
              Classical.not_not.1 fun undashed => special ⟨undashed, short⟩
            exact ⟨_, .option dashed ⟨long, mark⟩⟩

/-- What a verdict is to the reader of arguments. -/
def Verdict.answer (name : String) : Verdict → Except EarlyExit Arguments.Reading
  | .leave operand => .ok ⟨[], [], operand.toList⟩
  | .help => .error ⟨Kind.usage .exit name, true⟩
  | .refuse text => .error ⟨text, false⟩

theorem Verdict.answer_injective {name : String} {verdict verdict' : Verdict}
    (same : verdict.answer name = verdict'.answer name) : verdict = verdict' := by
  cases verdict with
  | leave operand =>
      cases verdict' with
      | leave operand' =>
          have listed : operand.toList = operand'.toList := by simpa [Verdict.answer] using same
          exact congrArg Verdict.leave (by simpa using congrArg List.head? listed)
      | help | refuse text => cases same
  | help => cases verdict' <;> simp_all [Verdict.answer]
  | refuse text => cases verdict' <;> simp_all [Verdict.answer]

/-- All that is asked of the reader of arguments: it makes of the words after `exit` what they
come to. -/
def InOrder [ArgumentReader] : Prop :=
  ∀ (name : String) (words : List String) (verdict : Verdict),
    Scans false false none words verdict →
      ArgumentReader.read (Invocation.grammar .exit name 1) words = verdict.answer name

/-! ## A reader that is in order -/

theorem startsWith_iff_dashed {word : String} : word.startsWith "-" = true ↔ Dashed word := by
  rw [String.startsWith_string_iff, Dashed]
  have dash : "-".toList = ['-'] := rfl
  rw [dash]
  cases word.toList with
  | nil => simp
  | cons c rest => simp [eq_comm]

theorem asksForHelp_iff {word : String} :
    Arguments.asksForHelp word = true ↔ word = "--help" ∨ word = "help" := by
  simp [Arguments.asksForHelp]

/-- What is known before the words are gone through. -/
def seen (helped ended : Bool) (operand : Option String) : Arguments.Progress :=
  ⟨helped, ended, ⟨[], [], operand.toList⟩⟩

section Scanning

variable {name : String} {helped ended : Bool} {operand : Option String} {word : String}
  {rest : List String}

/-- A word that is neither a call for help nor an option is an operand. -/
theorem scanFrom_plain (plain : ended = true ∨ ¬ Dashed word ∧ word ≠ "help") :
    Arguments.scanFrom (Invocation.grammar .exit name 1) (word :: rest)
        (seen helped ended operand) =
      (Arguments.operand (Invocation.grammar .exit name 1) word
        (seen helped ended operand)).bind
          (Arguments.scanFrom (Invocation.grammar .exit name 1) rest) := by
  rw [Arguments.scanFrom]
  generalize Arguments.operand (Invocation.grammar .exit name 1) word
    (seen helped ended operand) = outcome
  rcases plain with rfl | ⟨undashed, other⟩
  · cases outcome <;> rfl
  · have unhelpful : ¬ Arguments.asksForHelp word = true := by
      rw [asksForHelp_iff, not_or]
      exact ⟨fun same => undashed (by rw [same]; rfl), other⟩
    have unoptional : ¬ word.startsWith "-" = true := fun starts =>
      undashed (startsWith_iff_dashed.1 starts)
    rw [if_neg unhelpful, if_neg unoptional]
    cases ended <;> cases outcome <;> rfl

/-- A call for help is noted. -/
theorem scanFrom_asksForHelp (calls : word = "--help" ∨ word = "help") :
    Arguments.scanFrom (Invocation.grammar .exit name 1) (word :: rest)
        (seen helped false operand) =
      Arguments.scanFrom (Invocation.grammar .exit name 1) rest (seen true false operand) := by
  have going : ¬ (seen helped false operand).optionsEnded = true := Bool.false_ne_true
  rw [Arguments.scanFrom, if_neg going, if_pos (asksForHelp_iff.2 calls)]
  rfl

/-- The first `--` ends the options. -/
theorem scanFrom_dashes :
    Arguments.scanFrom (Invocation.grammar .exit name 1) ("--" :: rest)
        (seen helped false operand) =
      Arguments.scanFrom (Invocation.grammar .exit name 1) rest (seen helped true operand) := by
  have unhelpful : ¬ Arguments.asksForHelp "--" = true := by decide
  have dashed : "--".startsWith "-" = true := startsWith_iff_dashed.2 rfl
  have going : ¬ (seen helped false operand).optionsEnded = true := Bool.false_ne_true
  rw [Arguments.scanFrom, if_neg going, if_neg unhelpful, if_pos dashed,
    if_pos (beq_self_eq_true _)]
  rfl

/-- `exit` has no options. -/
theorem scanFrom_option (dashed : Dashed word) (other : word ≠ "--help" ∧ word ≠ "--") :
    Arguments.scanFrom (Invocation.grammar .exit name 1) (word :: rest)
        (seen helped false operand) =
      .error (if helped then Arguments.trailing else Arguments.unrecognized word) := by
  have unhelpful : ¬ Arguments.asksForHelp word = true := by
    rw [asksForHelp_iff, not_or]
    refine ⟨other.1, fun same => ?_⟩
    rw [same] at dashed
    cases dashed
  have unmarked : ¬ (word == "--") = true := by simpa using other.2
  have going : ¬ (seen helped false operand).optionsEnded = true := Bool.false_ne_true
  rw [Arguments.scanFrom, if_neg going, if_neg unhelpful,
    if_pos (startsWith_iff_dashed.2 dashed), if_neg unmarked]
  cases helped <;> rfl

end Scanning

theorem Scans.scanFrom_eq {name : String} {helped ended : Bool} {operand : Option String}
    {words : List String} {verdict : Verdict} (scans : Scans helped ended operand words verdict) :
    Arguments.scanFrom (Invocation.grammar .exit name 1) words (seen helped ended operand) =
      verdict.answer name := by
  induction scans with
  | leave => rfl
  | helped => rfl
  | help calls later ih => rw [scanFrom_asksForHelp calls, ih]
  | mark later ih => rw [scanFrom_dashes, ih]
  | @option helped _ _ _ dashed other =>
      rw [scanFrom_option dashed other]
      cases helped <;> rfl
  | operand plain later ih =>
      rw [scanFrom_plain plain]
      exact ih
  | second plain =>
      rw [scanFrom_plain plain]
      rfl

open scoped Arguments in
/-- The reader that goes by `Arguments.scan` is in order. -/
theorem inOrder_scan : InOrder := fun _ _ _ scans => scans.scanFrom_eq

/-- Words come to one thing only. -/
theorem Scans.unique {helped ended : Bool} {operand : Option String} {words : List String}
    {verdict verdict' : Verdict} (scans : Scans helped ended operand words verdict)
    (too : Scans helped ended operand words verdict') : verdict = verdict' :=
  have same : verdict.answer "exit" = verdict'.answer "exit" :=
    scans.scanFrom_eq.symm.trans too.scanFrom_eq
  Verdict.answer_injective same

end Builtin

/-! ## The code that is asked for -/

namespace Arguments

/-- The word is neither a call for help nor does it look like an option. -/
def isPlain (word : String) : Bool := !asksForHelp word && !word.startsWith "-"

/-- The words before the first `--`. -/
def beforeMark (words : List String) : List String := words.takeWhile (· != "--")

/-- All words but the first `--`. -/
def withoutMark (words : List String) : List String :=
  beforeMark words ++ (words.dropWhile (· != "--")).tail

section Marks

variable {word : String} (rest : List String)

theorem beforeMark_cons (other : word ≠ "--") :
    beforeMark (word :: rest) = word :: beforeMark rest := by
  simp [beforeMark, other]

theorem withoutMark_cons (other : word ≠ "--") :
    withoutMark (word :: rest) = word :: withoutMark rest := by
  simp [withoutMark, beforeMark, other]

end Marks

end Arguments

namespace Builtin

open Arguments (isPlain beforeMark withoutMark beforeMark_cons withoutMark_cons)

theorem isPlain_iff {word : String} : isPlain word = true ↔ ¬ Dashed word ∧ word ≠ "help" := by
  have long : word = "--help" → Dashed word := fun same => same ▸ rfl
  rw [isPlain, Bool.and_eq_true, Bool.not_eq_true', Bool.not_eq_true', ← Bool.not_eq_true,
    ← Bool.not_eq_true, asksForHelp_iff, startsWith_iff_dashed, not_or]
  exact ⟨fun plain => ⟨plain.2, plain.1.2⟩,
    fun plain => ⟨⟨fun same => plain.1 (long same), plain.2⟩, plain.1⟩⟩

/-- The operand that the words have, if there are not too many of them. -/
def operand? (words : List String) : Option (Option String) :=
  if words.length ≤ 1 then some words.head? else none

/-- What there is to leave with. -/
def Verdict.operand? : Verdict → Option (Option String)
  | .leave operand => some operand
  | _ => none

/-- The words come to leaving if nobody has called for help, no word before the first `--` is
anything but plain, and there is one operand at most. -/
theorem Scans.operand?_eq {helped ended : Bool} {operand : Option String} {words : List String}
    {verdict : Verdict} (scans : Scans helped ended operand words verdict) :
    verdict.operand? =
      if helped then none
      else if ended then Builtin.operand? (operand.toList ++ words)
      else if (beforeMark words).all isPlain then
        Builtin.operand? (operand.toList ++ withoutMark words)
      else none := by
  induction scans with
  | @leave ended operand => cases ended <;> cases operand <;> rfl
  | helped => rfl
  | @help helped operand word rest verdict calls later ih =>
      have unplain : isPlain word = false := by
        rw [Bool.eq_false_iff, Ne, isPlain_iff]
        rintro ⟨undashed, other⟩
        exact calls.elim (fun long => undashed (long ▸ rfl)) other
      have unmarked : word ≠ "--" := by
        rintro rfl
        revert calls
        decide
      rw [ih, beforeMark_cons rest unmarked, List.all_cons, unplain]
      cases helped <;> rfl
  | mark later ih => exact ih
  | @option helped operand word rest dashed other =>
      have unplain : isPlain word = false := by
        rw [Bool.eq_false_iff, Ne, isPlain_iff]
        exact fun plain => plain.1 dashed
      rw [beforeMark_cons rest other.2, List.all_cons, unplain]
      cases helped <;> rfl
  | @operand helped ended word rest verdict plain later ih =>
      rw [ih]
      rcases plain with rfl | plain
      · rfl
      · have unmarked : word ≠ "--" := fun same => plain.1 (same ▸ rfl)
        rw [beforeMark_cons rest unmarked, withoutMark_cons rest unmarked, List.all_cons,
          isPlain_iff.2 plain, Bool.true_and]
        rfl
  | @second helped ended first word rest plain =>
      have full : ∀ others, Builtin.operand? (first :: word :: others) = none := fun others =>
        if_neg (by rw [List.length_cons, List.length_cons]; omega)
      rcases plain with rfl | plain
      · cases helped
        · exact (full rest).symm
        · rfl
      · have unmarked : word ≠ "--" := fun same => plain.1 (same ▸ rfl)
        rw [withoutMark_cons rest unmarked, Option.toList_some, List.singleton_append,
          List.singleton_append, full, full, ite_self, ite_self, ite_self]
        rfl

/-- The code that is asked for, if any is. -/
def Invocation.request : Except EarlyExit Invocation → Option ExitCode
  | .ok (.exit operand) => some (exitCode operand)
  | _ => none

/-- The code that the words after `exit` ask for: up to the first `--` no word may call for
help or look like an option, and beside the `--` there may be one word at most. -/
def Invocation.exitRequest (words : List String) : Option ExitCode :=
  if (Arguments.beforeMark words).all Arguments.isPlain ∧
      (Arguments.withoutMark words).length ≤ 1 then
    some (exitCode (Arguments.withoutMark words).head?)
  else none

/-- Only `exit` asks for a code, and it does so in the words that `exitRequest` describes. -/
theorem Invocation.request_parse [ArgumentReader] (inOrder : InOrder) (kind : Kind)
    (names words : List String) :
    request (parse kind names words) = if kind = .exit then exitRequest words else none := by
  by_cases exits : kind = .exit
  · subst exits
    obtain ⟨verdict, scans⟩ := exists_scans words false false none
    have asked : request (parse .exit names words) = verdict.operand?.map exitCode := by
      rw [parse, inOrder _ words verdict scans]
      cases verdict with
      | leave operand => cases operand <;> rfl
      | help | refuse text => rfl
    rw [asked, scans.operand?_eq, if_pos rfl, exitRequest]
    by_cases plain : (beforeMark words).all isPlain = true
    · by_cases few : (withoutMark words).length ≤ 1
      · simp [operand?, plain, few]
      · simp [operand?, few]
    · simp [plain]
  · rw [if_neg exits]
    cases read : parse kind names words with
    | error early => rfl
    | ok invocation =>
        have same := kind_of_parse read
        cases invocation with
        | exit operand => exact absurd same.symm exits
        | _ => rfl

end Builtin

end PipelineShell
