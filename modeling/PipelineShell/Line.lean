/-
# Line -- a command line as stages of words

Stages are separated by `|` and words by white space.  There is no quoting, so
neither character can be part of a word.  `Line.stages` reads a line and
`Line.render` writes one; a line of nothing but white space is empty, and a stage
without words is reported by its index, the first such stage winning.
-/
import PipelineShell.Error
import PipelineShell.Text.Blank

namespace PipelineShell.Line

set_option autoImplicit false

def bar : Char := '|'

/-- The words of each segment, or the index of the first segment that has none.
Indices count from `index`. -/
def stagesFrom : Nat → List (List Char) → Except ShellError (List (List String))
  | _, [] => .ok []
  | index, segment :: rest =>
      match Text.words segment with
      | [] => .error (.emptyStage index)
      | words =>
        match stagesFrom (index + 1) rest with
        | .ok stages => .ok (words.map String.ofList :: stages)
        | .error fault => .error fault

/-- The stages of a line, each a non-empty list of words. -/
def stages (line : String) : Except ShellError (List (List String)) :=
  if line.toList.all Text.isBlank then .error .emptyLine
  else stagesFrom 0 (Text.segments bar line.toList)

/-- The line that has these stages, written with single spaces. -/
def render (stages : List (List String)) : String :=
  " | ".intercalate (stages.map (" ".intercalate ·))

end PipelineShell.Line
