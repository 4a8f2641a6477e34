/-
# LineEditor -- where the lines of the loop come from

The shell does not read its lines itself.  It gives a line editor the prompt and
is given a line, or is told why there is none.  The editor is a package of its
own, so the shell is written for any `LineEditor`, as it is for any `Host`, and
what is proved about its loop says what it asks of the editor.
`PipelineShell.Machine.PlainInput` is a `LineEditor` that can be run.
-/
import PipelineShell.Error

namespace PipelineShell

set_option autoImplicit false

/-- Why there is no line. -/
inductive LineEditor.Fault where
  /-- The input is at its end. -/
  | ended
  /-- The line was given up while it was typed. -/
  | interrupted
  | failed (cause : IoError)
  deriving DecidableEq, Repr

class LineEditor (W : Type) where
  /-- Makes the editor ready. -/
  start : StateM W (Except IoError Unit)
  /-- Asks for a line with this prompt; the line comes without its end. -/
  readLine (prompt : String) : StateM W (Except LineEditor.Fault String)
  /-- Adds a line to those that can be called back. -/
  remember (line : String) : StateM W (Except IoError Unit)
  /-- At most so many reads are answered before the input ends. -/
  readsLeft : W → Nat

end PipelineShell
