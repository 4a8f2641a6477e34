/-
# Proofs.Running -- a run of a builtin, its work and what comes after

A builtin that has its arguments and has not run does its work (`Builtin.perform`), and
then it concludes: it passes on what its output holds back, lets go of its input, and
hands its record over to the pipe behind its output, if there is one (`Builtin.conclude`).
`Builtin.run_unrun` says that this is all that a run is, and `Builtin.output_apply` that
to collect the output is to run with a scratch buffer bound.
-/
import PipelineShell.Proofs.Sparing
import PipelineShell.Proofs.Streams

namespace PipelineShell.Builtin

set_option autoImplicit false

open Stateful

variable {W A : Type} [Host W]

/-! ## The work -/

/-- Work that printed `accepted` and ends in a report. -/
def reporting (accepted : Bytes) (error : OutputHandle) (text : String) (context : Context W) :
    (Bytes × Except ShellError ExitCode) × Context W :=
  ((accepted, (report error text 1 context).1.2), (report error text 1 context).2)

/-- Work that ends with a code. -/
theorem perform_done {invocation : Invocation} {streams : Streams} {context left : Context W}
    {accepted : Bytes} {code : ExitCode}
    (worked : invocation.execute streams.output context = ((accepted, .ok code), left)) :
    perform streams (.ok invocation) context = ((accepted, .ok code), left) := by
  simp only [perform, bind_apply, worked]
  rfl

/-- A complaint is reported. -/
theorem perform_complained {invocation : Invocation} {streams : Streams}
    {context left : Context W} {accepted : Bytes} {complaint : Complaint}
    (worked : invocation.execute streams.output context = ((accepted, .error complaint), left)) :
    perform streams (.ok invocation) context =
      reporting accepted streams.error complaint.message left := by
  simp only [perform, bind_apply, worked]
  rfl

/-- So are arguments that cannot be read. -/
theorem perform_refused (streams : Streams) (text : String) (context : Context W) :
    perform streams (.error ⟨text, false⟩) context =
      reporting [] streams.error (trimmed text) context := by
  simp only [perform, Bool.false_eq_true, if_false, bind_apply, reporting]
  rfl

/-- A request for help is granted. -/
theorem perform_helped (streams : Streams) (text : String) (context : Context W) :
    perform streams (.error ⟨text, true⟩) context =
      report streams.output (trimmed text) 0 context := by
  simp only [perform, if_true]

theorem report_context (output : OutputHandle) (text : String) (code : ExitCode)
    (context : Context W) :
    (report output text code context).2 =
      { context with world := (Output.writeLine output text context.world).2 } := by
  simp only [report, bind_apply, Context.act]
  rcases Output.writeLine output text context.world with ⟨⟨accepted, result⟩, world⟩
  cases result <;> rfl

/-- A report fails only with the failure of its stream. -/
theorem report_answer (output : OutputHandle) (text : String) (code : ExitCode)
    (context : Context W) :
    (report output text code context).1.2 = .ok code ∨
      ∃ cause, (report output text code context).1.2 = .error (.io cause) := by
  simp only [report, bind_apply, Context.act]
  rcases Output.writeLine output text context.world with ⟨⟨accepted, result⟩, world⟩
  cases result with
  | ok done => exact .inl rfl
  | error cause => exact .inr ⟨cause, rfl⟩

/-- And so does the work. -/
theorem perform_error {streams : Streams} {reading : Except EarlyExit Invocation}
    {context : Context W} {fault : ShellError}
    (failed : (perform streams reading context).1.2 = .error fault) :
    ∃ cause, fault = .io cause := by
  have reported : ∀ {output : OutputHandle} {text : String} {code : ExitCode}
      {context : Context W}, (report output text code context).1.2 = .error fault →
        ∃ cause, fault = .io cause := by
    intro output text code context failed
    rcases report_answer output text code context with done | ⟨cause, broken⟩
    · rw [done] at failed
      cases failed
    · rw [broken] at failed
      exact ⟨cause, (Except.error.inj failed).symm⟩
  rcases reading with ⟨text, success⟩ | invocation
  · cases success with
    | true =>
        rw [perform_helped] at failed
        exact reported failed
    | false =>
        simp only [perform_refused, reporting] at failed
        exact reported failed
  · rcases worked : invocation.execute streams.output context with ⟨⟨accepted, result⟩, left⟩
    cases result with
    | ok code =>
        rw [perform_done worked] at failed
        cases failed
    | error complaint =>
        simp only [perform_complained worked, reporting] at failed
        exact reported failed

/-! ## What comes after -/

/-- What is left to do when the work is done, and `accepted` is what was printed in it. -/
def conclude (builtin : Builtin) (accepted : Bytes) : StateM (Context W) Builtin := do
  let _ ← Context.act (Host.flush builtin.streams.output)
  let streams ← builtin.streams.bindInput .inherited
  startDelivery { builtin with streams, parsed := none, recorded := builtin.recorded ++ accepted }

/-- The status that the outcome of the work amounts to: to fail at a report counts as 1. -/
def codeOf : Except ShellError ExitCode → ExitCode
  | .ok code => code
  | .error _ => 1

/-- Whether or not a report of failure gets through, it amounts to 1. -/
theorem codeOf_report (output : OutputHandle) (text : String) (context : Context W) :
    codeOf (report output text 1 context).1.2 = 1 := by
  rcases report_answer output text 1 context with done | ⟨cause, broken⟩
  · rw [done, codeOf]
  · rw [broken, codeOf]

variable {builtin : Builtin} {reading : Except EarlyExit Invocation}

/-- A run is the work, and then the conclusion. -/
theorem run_unrun (parsed : builtin.parsed = some reading) (unrun : builtin.status = none)
    (context : Context W) :
    builtin.run context =
      let work := perform builtin.streams reading context
      let concluded := builtin.conclude work.1.1 work.2
      ((work.1.2.map fun _ => (), { concluded.1 with status := some (codeOf work.1.2) }),
        concluded.2) := by
  obtain ⟨kind, arguments, reading?, streams, pipe, delivery, recorded, status⟩ := builtin
  obtain rfl : status = none := unrun
  obtain rfl : reading? = some reading := parsed
  simp only [run, bind_apply]
  rcases perform streams reading context with ⟨⟨accepted, result⟩, worked⟩
  cases result <;> rfl

/-- To collect the output is to run with a scratch buffer bound, and to answer what was
recorded. -/
theorem output_apply (unrun : builtin.status = none) (context : Context W) :
    builtin.output context =
      let ran := (builtin.withOutput .scratch).run (builtin.setOutput .scratch context).2
      ((ran.1.1.map fun _ => ran.1.2.recorded, ran.1.2), ran.2) := by
  simp only [output, unrun, bind_apply, builtin.setOutput_eq .scratch context]
  generalize (Builtin.run _ _ : (Except ShellError Unit × Builtin) × Context W) = ran
  obtain ⟨⟨fault | _, after⟩, context₁⟩ := ran <;> rfl

theorem conclude_built {free : Prop} (builtin : Builtin) (accepted : Bytes) :
    Built free (builtin.conclude accepted : StateM (Context W) _) :=
  (Built.act (.flush _)).bind fun _ =>
    (Streams.bindInput_built _ _).bind fun _ => startDelivery_built _

/-- What is aloof is not changed by a conclusion. -/
theorem conclude_spares {shown : Context W → A} (aloof : Aloof shown) (accepted : Bytes) :
    Spares shown (builtin.conclude accepted) :=
  aloof.spares (builtin.conclude_built accepted)

/-- What neither the work nor the conclusion changes is not changed by a run. -/
theorem run_spares {shown : Context W → A}
    (works : ∀ reading, Spares shown (perform builtin.streams reading))
    (concludes : ∀ accepted, Spares shown (builtin.conclude accepted)) :
    Spares shown builtin.run := by
  intro context
  cases status : builtin.status with
  | some code => simp only [run, status, pure_apply]
  | none =>
      cases parsed : builtin.parsed with
      | none => simp only [run, status, parsed, pure_apply]
      | some reading =>
          rw [run_unrun parsed status context]
          exact (concludes _ _).trans (works reading context)

/-- And so it is when the output is collected. -/
theorem output_spares {shown : Context W → A} (binds : Spares shown (builtin.setOutput .scratch))
    (runs : Spares shown (builtin.withOutput .scratch).run) : Spares shown builtin.output := by
  intro context
  cases status : builtin.status with
  | some code => simp only [output, status, pure_apply]
  | none =>
      rw [output_apply status context]
      exact (runs _).trans (binds context)

end PipelineShell.Builtin
