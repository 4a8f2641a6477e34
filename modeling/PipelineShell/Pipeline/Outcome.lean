/-
# Pipeline.Outcome -- what a pipeline produced

The failures of single stages do not end a pipeline; they are kept in its
`Outcome`, ordered by stage, next to the output and the status of the last
stage.
-/
import PipelineShell.Error

namespace PipelineShell.Pipeline

set_option autoImplicit false

structure StageError where
  stage : Nat
  error : ShellError
  deriving DecidableEq, Repr

/-- What a pipeline produced. -/
structure Outcome where
  /-- The output of the last stage. -/
  stdout : Bytes
  /-- The status of the last stage. -/
  status : ExitCode
  /-- Failures of stages, ordered by stage; within a stage, in the order in which
  they arose. -/
  errors : List StageError
  deriving DecidableEq, Repr

namespace Outcome

def firstFailure (outcome : Outcome) : Option StageError := outcome.errors.head?

/-- Failures in the order of their stages.  The order within a stage is kept. -/
def inOrder (errors : List StageError) : List StageError :=
  errors.mergeSort (fun a b => a.stage ≤ b.stage)

end Outcome

end PipelineShell.Pipeline
