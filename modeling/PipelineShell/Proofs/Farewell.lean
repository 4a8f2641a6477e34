/-
# Proofs.Farewell -- `exit`, from its words to what becomes of the session

The words after `exit` come to leaving, to a call for help, or to a fault (`Builtin.Scans`).
The code to leave with is the operand, if this is a whole number of 32 bits, and otherwise it
is 1 (`Builtin.Asked`).  `Builtin.exit_departs` says what becomes of the session and the
streams in each of the three cases: only to leave changes the session, and only its exit code.
-/
import PipelineShell.Arguments.Scan
import PipelineShell.Proofs.Invocation
import PipelineShell.Proofs.Numeral
import PipelineShell.Proofs.Observed

namespace PipelineShell.Builtin

set_option autoImplicit false

open Stateful
open Host (Act OnRecord)

variable {W : Type} [Host W]

/-! ## The words -/

/-- What is carried out. -/
def Verdict.reading : Verdict → Except EarlyExit Invocation
  | .leave operand => .ok (.exit operand)
  | .help => .error ⟨Kind.usage .exit "exit", true⟩
  | .refuse text => .error ⟨text, false⟩

theorem Scans.parse_eq [ArgumentReader] (inOrder : InOrder) {words : List String}
    {verdict : Verdict} (scans : Scans false false none words verdict) :
    Invocation.parse .exit [Kind.exit.name] words = verdict.reading := by
  refine (congrArg (Except.map fun reading => Invocation.exit reading.operands.head?)
    (inOrder "exit" words verdict scans)).trans ?_
  cases verdict with
  | leave operand => cases operand <;> rfl
  | help => rfl
  | refuse text => rfl

/-! ## The code -/

/-- The code that is asked for by what stands after `exit`. -/
inductive Asked : Option String → ExitCode → Prop
  | unsaid : Asked none 1
  | number {text : String} {value : Int} (whole : Numeral.Whole text.toList value)
      (fits : Numeral.Fits value) : Asked (some text) value
  | other {text : String} (not_ : ∀ value, Numeral.Whole text.toList value → ¬ Numeral.Fits value) :
      Asked (some text) 1

theorem asked_exitCode (operand : Option String) : Asked operand (Invocation.exitCode operand) := by
  cases operand with
  | none => exact .unsaid
  | some text =>
      have code : Invocation.exitCode (some text) = (Numeral.signed32 text).getD 1 := rfl
      rw [code]
      cases read : Numeral.signed32 text with
      | some value =>
          obtain ⟨whole, fits⟩ := Numeral.signed32_eq_some_iff.1 read
          exact .number whole fits
      | none =>
          refine .other fun value whole fits => ?_
          rw [Numeral.signed32_eq_some_iff.2 ⟨whole, fits⟩] at read
          cases read

/-! ## The calls -/

/-- How `exit` is used, as it is printed. -/
def usageLine : Bytes := lineOf (trimmed (Kind.usage .exit "exit"))

/-- What a call comes to that sets `exit` to work, with these streams. -/
inductive Departs {α : Type} (past : W → List Act) (output error : OutputHandle)
    (pipe : Option Nat) (context : Context W) (ran : (Except ShellError α × Builtin) × Context W) :
    Verdict → Prop
  /-- The session is told to end, and nothing is printed. -/
  | leaves {operand : Option String} {code : ExitCode} {acts : List Act}
      (asked : Asked operand code) (grown : past ran.2.world = past context.world ++ acts)
      (silent : ∀ act ∈ acts, act.bytes = [])
      (session : ran.2.session = { context.session with exitCode := some code })
      (status : EndsWith ran code) : Departs past output error pipe context ran (.leave operand)
  /-- The usage is printed; not to get it through is a failure. -/
  | helps {result : Except IoError Unit} {acts : List Act}
      (said : Host.Said output usageLine result acts)
      (grown : past ran.2.world = past context.world ++ (acts ++ handed pipe (Host.taken acts)))
      (session : ran.2.session = context.session) (recorded : ran.1.2.recorded = Host.taken acts)
      (status : EndsWith ran (if result.isOk then 0 else 1)) :
      Departs past output error pipe context ran .help
  /-- The fault is told, as far as the error stream takes it. -/
  | refuses {text : String} {result : Except IoError Unit} {acts : List Act}
      (said : Host.Said error (lineOf (trimmed text)) result acts)
      (grown : past ran.2.world = past context.world ++ (acts ++ handed pipe []))
      (session : ran.2.session = context.session) (recorded : ran.1.2.recorded = [])
      (status : EndsWith ran 1) : Departs past output error pipe context ran (.refuse text)

section Calls

variable {past : W → List Act} (onRecord : OnRecord past) {words : List String}
include onRecord

section Work

variable {α : Type} {streams : Streams} {pipe : Option Nat} {context begun : Context W}
  {ran : (Except ShellError α × Builtin) × Context W}
  (session : begun.session = context.session) (unheard : past begun.world = past context.world)
include session unheard

omit onRecord in
theorem Serves.leaves {operand : Option String}
    (serves : Serves past streams pipe (Verdict.leave operand).reading begun ran) :
    Departs past streams.output streams.error pipe context ran (.leave operand) := by
  have settles := serves.settles (perform_done rfl)
  refine .leaves (asked_exitCode operand) (settles.grown.trans (congrArg (· ++ _) unheard))
    (fun act member => ?_) ?_ settles.status
  · exact (act_of_mem_handed member).2
  · rw [settles.session, session]

theorem Serves.helps (serves : Serves past streams pipe Verdict.help.reading begun ran) :
    Departs past streams.output streams.error pipe context ran .help := by
  obtain ⟨acts, result, grown, said, answer, same⟩ := report_said onRecord streams.output
    (trimmed (Kind.usage .exit "exit")) 0 begun
  have ends := serves.endsWith
  obtain ⟨-, -, recorded, kept, left⟩ := serves
  have worked : perform streams Verdict.help.reading begun =
      report streams.output (trimmed (Kind.usage .exit "exit")) 0 begun :=
    perform_helped streams (Kind.usage .exit "exit") begun
  rw [worked, answer] at ends recorded left
  rw [worked, same, session] at kept
  rw [grown, unheard, List.append_assoc] at left
  refine .helps said left kept recorded ?_
  cases result <;> exact ends

theorem Serves.refuses {text : String}
    (serves : Serves past streams pipe (Verdict.refuse text).reading begun ran) :
    Departs past streams.output streams.error pipe context ran (.refuse text) := by
  obtain ⟨acts, result, said, settles⟩ :=
    serves.settles_reporting onRecord (perform_refused streams text begun)
  exact .refuses said (settles.grown.trans (congrArg (· ++ _) unheard))
    (settles.session.trans session) settles.recorded settles.status

/-- What `exit` comes to is known from what its words come to. -/
theorem Serves.departs {verdict : Verdict}
    (serves : Serves past streams pipe verdict.reading begun ran) :
    Departs past streams.output streams.error pipe context ran verdict := by
  cases verdict with
  | leave operand => exact serves.leaves session unheard
  | help => exact serves.helps onRecord session unheard
  | refuse text => exact serves.refuses onRecord session unheard

end Work

/-- **`exit`, from end to end.**  Its words come to one thing, and that is what is done. -/
theorem exit_departs [ArgumentReader] (inOrder : InOrder) {exit : Builtin}
    (awaits : exit.Awaits .exit words) (context : Context W) :
    ∃ verdict, (∀ other, Scans false false none words other ↔ other = verdict) ∧
      Departs past exit.streams.output exit.streams.error exit.pipe context (exit.run context)
        verdict ∧
      Departs past .scratch exit.streams.error none context (exit.output context) verdict := by
  obtain ⟨verdict, scans⟩ := exists_scans words false false none
  have ran := run_serves onRecord awaits context
  have collected := output_serves onRecord awaits context
  rw [scans.parse_eq inOrder] at ran collected
  refine ⟨verdict, fun other => ⟨fun too => too.unique scans, fun same => same ▸ scans⟩,
    ran.departs onRecord rfl rfl, collected.departs onRecord ?_ ?_⟩
  · exact exit.setOutput_spares Context.aloof_session .scratch context
  · exact setOutput_past onRecord exit .scratch context

end Calls

open scoped Arguments

/-- A world with nothing in it. -/
def vacant : Setting := { environment := [], files := [], processes := [], mortal := [] }

/-- What the session is told by an `exit` with these words in that world, and its status. -/
def departed (words : List String) : Option ExitCode × Option ExitCode :=
  let ran := ((fresh .exit).parseArguments words).run vacant.context
  (ran.2.session.exitCode, ran.1.2.status)

/-- A negative code takes a mark to be one, a call for help is not a code, and a number that
does not fit is read as any other word. -/
theorem exit_departs_negative :
    InOrder ∧ OnRecord (Chronicle.past : Chronicle Setting → List Act) ∧
    ((fresh .exit).parseArguments ["--", "-5"]).Awaits .exit ["--", "-5"] ∧
    (∃ verdict, (∀ other, Scans false false none ["--", "-5"] other ↔ other = verdict) ∧
      Departs Chronicle.past ((fresh .exit).parseArguments ["--", "-5"]).streams.output
        ((fresh .exit).parseArguments ["--", "-5"]).streams.error
        ((fresh .exit).parseArguments ["--", "-5"]).pipe vacant.context
        (((fresh .exit).parseArguments ["--", "-5"]).run vacant.context) verdict ∧
      Departs Chronicle.past .scratch ((fresh .exit).parseArguments ["--", "-5"]).streams.error
        none vacant.context (((fresh .exit).parseArguments ["--", "-5"]).output vacant.context)
        verdict) ∧
    departed ["--", "-5"] = (some (-5), some (-5)) ∧ departed ["-5"] = (none, some 1) ∧
    departed ["help", "3"] = (none, some 0) ∧ departed ["3", "4"] = (none, some 1) ∧
    departed ["-2147483648", "--"] = (none, some 1) ∧
    departed ["--", "-2147483648"] = (some (-2147483648), some (-2147483648)) ∧
    departed ["2147483648"] = (some 1, some 1) ∧ departed ["+7"] = (some 7, some 7) ∧
    departed [] = (some 1, some 1) := by
  have awaits := awaits_parseArguments .exit ["--", "-5"]
  exact ⟨inOrder_scan, Chronicle.onRecord, awaits,
    exit_departs Chronicle.onRecord inOrder_scan awaits vacant.context,
    by decide +kernel, by decide +kernel, by decide +kernel, by decide +kernel,
    by decide +kernel, by decide +kernel, by decide +kernel, by decide +kernel,
    by decide +kernel⟩

end PipelineShell.Builtin
