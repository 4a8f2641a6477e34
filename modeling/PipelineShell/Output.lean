/-
# Output -- writing all of a text

A stream may accept only part of what it is offered.  `Output.writeAll` offers
the rest again until everything is accepted, makes an interrupted call again, and
gives up at the first other failure or when nothing of a non-empty offer is
accepted.  It answers how many bytes were accepted in all, so the bytes that got
through are always known: they are a prefix of the text, whatever the stream
does.

The number of calls is bounded by the length of the text and the number of
interruptions still to come; a stream that exceeds its own bound is given up as
interrupted.
-/
import PipelineShell.Host

namespace PipelineShell.Output

set_option autoImplicit false

variable {W : Type} [Host W]

/-- Writes `rest`, of which the first `accepted` bytes of the whole text have
been written before. -/
def writeFrom (output : OutputHandle) :
    Nat → Nat → Bytes → StateM W (Nat × Except IoError Unit)
  | _, accepted, [] => pure (accepted, .ok ())
  | 0, accepted, _ :: _ => pure (accepted, .error (.plain .interrupted))
  | calls + 1, accepted, b :: rest => do
      match ← Host.write output (b :: rest) with
      | .ok 0 => pure (accepted, .error .wroteNothing)
      | .ok (n + 1) => writeFrom output calls (accepted + (n + 1)) (rest.drop n)
      | .error fault =>
          if fault.isInterruption then writeFrom output calls accepted (b :: rest)
          else pure (accepted, .error fault)

/-- Writes all of `bytes`; answers how many were accepted, and the failure if
not all were. -/
def writeAll (output : OutputHandle) (bytes : Bytes) : StateM W (Nat × Except IoError Unit) := do
  let interruptions := Host.interruptionsLeft output (← get)
  writeFrom output (bytes.length + interruptions + 1) 0 bytes

/-- Writes a text in several pieces; answers the bytes that were accepted. -/
def writePieces (output : OutputHandle) :
    List Bytes → StateM W (Bytes × Except IoError Unit)
  | [] => pure ([], .ok ())
  | piece :: rest => do
      match ← writeAll output piece with
      | (_, .ok ()) =>
          let (accepted, result) ← writePieces output rest
          pure (piece ++ accepted, result)
      | (n, .error fault) => pure (piece.take n, .error fault)

def writeLine (output : OutputHandle) (text : String) :
    StateM W (Bytes × Except IoError Unit) :=
  writePieces output [Utf8.encode text, [0x0A]]

end PipelineShell.Output
