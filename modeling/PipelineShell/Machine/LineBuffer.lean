/-
# Machine.LineBuffer -- output that is passed on by lines

The standard output of the shell passes whole lines on at once.  What follows the
last line end is kept back until it is flushed, or grows too long.  Where the
bytes are passed on to is left open (`pass`): it is the console for the shell of
the machine, and a descriptor for a shell that is one of its programs.
-/
import PipelineShell.Text.Utf8

namespace PipelineShell.Machine.LineBuffer

set_option autoImplicit false

variable {m : Type → Type} [Monad m] (pass : Bytes → m (Except Int Nat))

/-- How much is kept back at most. -/
def limit : Nat := 1024

/-- Passes on what was kept back; the second answer is what is still kept back. -/
def flush (kept : Bytes) : m (Except Int Unit × Bytes) := do
  if kept.isEmpty then pure (.ok (), kept)
  else
    match ← pass kept with
    | .ok _ => pure (.ok (), [])
    | .error number => pure (.error number, kept)

/-- Takes what holds no line end. -/
def offerPart (kept bytes : Bytes) : m (Except Int Nat × Bytes) := do
  let (result, kept) ←
    if limit < kept.length + bytes.length then flush pass kept else pure (.ok (), kept)
  match result with
  | .error number => pure (.error number, kept)
  | .ok () =>
    if limit ≤ bytes.length then pure (← pass bytes, kept)
    else pure (.ok bytes.length, kept ++ bytes)

def cutAtLastLine (bytes : Bytes) : Bytes × Bytes :=
  let tail := (bytes.reverse.takeWhile (· != 0x0A)).length
  bytes.splitAt (bytes.length - tail)

/-- Takes bytes: whole lines go through, the rest is kept back if it is short. -/
def offer (kept bytes : Bytes) : m (Except Int Nat × Bytes) := do
  let (lines, tail) := cutAtLastLine bytes
  if lines.isEmpty then
    let (result, kept) ←
      if kept.getLast? == some 0x0A then flush pass kept else pure (.ok (), kept)
    match result with
    | .error number => pure (.error number, kept)
    | .ok () => offerPart pass kept bytes
  else
    match ← flush pass kept with
    | (.error number, kept) => pure (.error number, kept)
    | (.ok (), kept) =>
      match ← pass lines with
      | .error number => pure (.error number, kept)
      | .ok written =>
        if limit ≤ tail.length then pure (.ok written, kept)
        else pure (.ok (written + tail.length), kept ++ tail)

end PipelineShell.Machine.LineBuffer
