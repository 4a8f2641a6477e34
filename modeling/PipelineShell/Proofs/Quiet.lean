/-
# Proofs.Quiet -- a world in which every call succeeds

`Quiet` is the smallest `Host`: every call succeeds at once, every program is found
and started, and ends with status 0 having written nothing.  All it remembers is how
many pipes were opened, so that no two pipes share a number.  Nobody types anything
there (`LineEditor.atEnd`).  The concrete runs among the proofs take place in it.
-/
import PipelineShell.Command
import PipelineShell.LineEditor

namespace PipelineShell

set_option autoImplicit false

/-- The state of the quiet world: the number of pipes opened so far. -/
structure Quiet where
  pipes : Nat
  deriving DecidableEq, Repr

instance : Host Quiet where
  canonicalize path _ := .ok path
  isFile _ _ := true
  currentDirectory _ := .ok .root
  changeDirectory _ := pure (.ok ())
  environment _ := []
  account _ := ⟨"user", "group", none⟩
  processes _ := []
  terminate _ := pure (.ok ())
  openPipe world := (.ok world.pipes, ⟨world.pipes + 1⟩)
  read _ _ := pure (.ok [])
  readToEnd _ := pure (.ok [])
  write _ bytes := pure (.ok bytes.length)
  interruptionsLeft _ _ := 0
  flush _ := pure (.ok ())
  closeInput _ := pure ()
  closeOutput _ := pure ()
  deliver _ _ := pure 0
  finishDelivery _ := pure (.ok ())
  spawn _ := pure (.ok ⟨1, none⟩)
  capture _ := pure (.ok ([], .exited 0))
  wait _ := pure (.ok (.exited 0))
  kill _ := pure (.ok ())

/-- The line editor of a world in which nobody types anything. -/
@[reducible]
def LineEditor.atEnd (W : Type) : LineEditor W where
  start := pure (.ok ())
  readLine _ := pure (.error .ended)
  remember _ := pure (.ok ())
  readsLeft _ := 0

instance : LineEditor Quiet := .atEnd Quiet

namespace Quiet

/-- The start of every run in the quiet world. -/
def context : Context Quiet := ⟨⟨[], .root, "user", "group", none⟩, ⟨0⟩, []⟩

/-- A scripted command that prints nothing and whose every call succeeds. -/
def script (label : String) : Script where
  label
  emits := []
  complains := []
  runFailure := none
  outputFailure := none
  wait := .ok 0
  pipeFailure := none
  deaf := false
  unstoppable := false

end Quiet

end PipelineShell
