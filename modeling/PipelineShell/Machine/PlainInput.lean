/-
# Machine.PlainInput -- the lines of input that is no terminal

On the machine no user types.  The shell's line editor finds plain bytes on its
standard input and takes them line by line.  Nothing is edited or called back, and
no line is given up.

The prompt is shown only where the environment names a terminal that cannot edit
lines (`showsPrompt`); any other input is read in silence.
-/
import PipelineShell.Interpreter
import PipelineShell.Machine.Replay

namespace PipelineShell.Machine

set_option autoImplicit false

def plainTerminals : List String := ["dumb", "cons25", "emacs"]

def showsPrompt (environment : Environment) : Bool :=
  match environment.get? "TERM" with
  | some terminal => plainTerminals.contains (terminal.map Char.toLower)
  | none => false

def withoutLineEnd (line : String) : String :=
  match line.toList.reverse with
  | '\n' :: '\r' :: rest => String.ofList rest.reverse
  | '\n' :: rest => String.ofList rest.reverse
  | _ => line

section

variable {W : Type} [Host W]

def showPrompt (prompt : String) : StateM W (Except IoError Unit) := do
  if showsPrompt (Host.environment (← get)) then Interpreter.print (Utf8.encode prompt)
  else pure (.ok ())

/-- Shows the prompt and takes the next line, which `next` gives with its end. -/
def takeLine (next : StateM W (Except IoError (Option Bytes))) (prompt : String) :
    StateM W (Except LineEditor.Fault String) := do
  match ← showPrompt prompt with
  | .error cause => pure (.error (.failed cause))
  | .ok () =>
    match ← next with
    | .error cause => pure (.error (.failed cause))
    | .ok none => pure (.error .ended)
    | .ok (some bytes) =>
      match Utf8.decode? bytes with
      | none => pure (.error (.failed .notText))
      | some line => pure (.ok (withoutLineEnd line))

end

instance : LineEditor Machine where
  start := pure (.ok ())
  readLine := takeLine readLine
  remember _ := pure (.ok ())
  readsLeft := inputLeft

/-- How many lines a shell reads at most whose input has no known end. -/
def Replay.mostLines : Nat := Action.endurance

instance : LineEditor Replay where
  start := pure (.ok ())
  readLine := takeLine (Replay.ask .readLine)
  remember _ := pure (.ok ())
  readsLeft _ := Replay.mostLines

end PipelineShell.Machine
