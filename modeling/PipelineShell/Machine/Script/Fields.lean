/-
# Machine.Script.Fields -- expanded texts and their fields

An expanded word is a text of `Glyph`s, in which bytes that were quoted can still
be told from others.  `Region`s of it came out of substitutions without quotes;
only there separators split it into fields (`Fields.split`).
-/
import PipelineShell.Machine.Script.Pattern

namespace PipelineShell.Machine.Script

set_option autoImplicit false

/-- A byte of an expanded text, or a mark that there were quotes. -/
inductive Glyph where
  | plain (b : UInt8)
  | escaped (b : UInt8)
  | quoteMark
  deriving DecidableEq, Repr

instance : Inhabited Glyph := ⟨.quoteMark⟩

/-- A stretch of an expanded text that may be split. -/
structure Region where
  start : Nat
  stop : Nat
  /-- Only NUL bytes separate. -/
  nulOnly : Bool
  deriving DecidableEq, Repr

namespace Glyph

def byte? : Glyph → Option UInt8
  | .plain b => some b
  | .escaped b => some b
  | .quoteMark => none

def bytes (text : List Glyph) : Bytes := text.filterMap byte?

/-- A text as a pattern: what was quoted has backslashes in front. -/
def pattern (text : List Glyph) : Bytes := go true false text
where
  /-- `guards` is false behind a backslash that stands there without quotes. -/
  go (guards inQuotes : Bool) : List Glyph → Bytes
    | [] => []
    | .quoteMark :: rest => go guards (!inQuotes) rest
    | .plain b :: rest => b :: go (b != byteOf '\\') inQuotes rest
    | .escaped b :: rest =>
        let slash := byteOf '\\'
        let front := if guards then [slash] else if inQuotes then [slash, slash] else []
        front ++ b :: go true inQuotes rest

/-- Whether there is a sign in a text that could make it a pattern. -/
def hasSign (text : List Glyph) : Bool := Pattern.hasSign (bytes text)

end Glyph

namespace Fields

def usualSeparators : Bytes := ascii " \t\n"

/-- How far the splitting of a text is. -/
structure Progress where
  fields : List (Nat × Nat)
  /-- Where the field begins that is not complete. -/
  start : Nat
  /-- Blank separators are being skipped. -/
  inBlank : Bool
  /-- How many fields may still follow. -/
  left : Option Nat
  /-- Where blank separators at the end of the last field begin. -/
  tail : Option Nat

/-- Takes account of one glyph at a position. -/
def step (separators : Bytes) (keepsBlanks : Bool) (progress : Progress) (at_ : Nat)
    (glyph : Glyph) : Progress :=
  let c := glyph.byte?
  let separates := c.any fun b => b == 0 || separators.contains b
  let isBlank := separates && c.any fun b => b == 0 || usualSeparators.contains b
  if progress.left == some 0 then
    if isBlank then { progress with tail := some (progress.tail.getD at_) }
    else
      { progress with
        tail := if separates && progress.inBlank then progress.tail else none
        inBlank := false }
  else
    let wasBlank := progress.inBlank
    let position := if wasBlank && separates then at_ + 1 else at_
    let progress := if wasBlank then { progress with start := position } else progress
    if wasBlank && isBlank then progress
    else if separates && !wasBlank then
      let progress := if keepsBlanks then progress else { progress with inBlank := isBlank }
      if position == progress.start && progress.inBlank then
        { progress with start := at_ + 1, inBlank := false }
      else if progress.left == some 1 then
        { progress with left := some 0, tail := some position }
      else
        { progress with
          fields := (progress.start, position) :: progress.fields
          start := at_ + 1
          left := progress.left.map (· - 1) }
    else { progress with inBlank := false }

/-- Splits the regions of a text, in order.  The second answer is whether the last
region was one in which only NUL bytes separate. -/
def stepRegions (separators : Bytes) (text : Array Glyph) :
    List Region → Bool → Progress → Progress × Bool
  | [], nulOnly, progress => (progress, nulOnly)
  | region :: rest, before, progress =>
      let nulOnly := region.nulOnly
      let progress := { progress with inBlank := false }
      let positions := (List.range (region.stop - region.start)).map (region.start + ·)
      let progress := positions.foldl (fun progress at_ =>
        step (if nulOnly then [] else separators) (before || nulOnly) progress at_
          (text.getD at_ .quoteMark)) progress
      stepRegions separators text rest nulOnly progress

/-- The fields of a text, at most so many if there is a limit; the last one then
holds all the rest. -/
def split (separators : Bytes) (text : Array Glyph) (regions : List Region) (most : Option Nat) :
    List (List Glyph) :=
  let (progress, nulOnly) := stepRegions separators text regions false ⟨[], 0, false, most, none⟩
  let slice (field : Nat × Nat) : List Glyph := (text.extract field.1 field.2).toList
  let whole := progress.fields.reverse.map slice
  let stop := if nulOnly then text.size else progress.tail.getD text.size
  let last := slice (progress.start, stop)
  if nulOnly || !last.isEmpty then whole ++ [last] else whole

end Fields

end PipelineShell.Machine.Script
