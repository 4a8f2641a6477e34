/-
# Arguments.Scan -- reading arguments from left to right

`Arguments.scan` reads a list of words from left to right against a `Grammar`.
A word that asks for help is noted and reading goes on; `--` ends the options;
any other word that begins with a dash must be an option of the grammar; what is
left are operands, of which the grammar allows a certain number.  The first fault
ends the reading.  If help was asked for, reading without a fault ends in the
usage text instead of a `Reading`.
-/
import PipelineShell.Arguments

namespace PipelineShell

set_option autoImplicit false

namespace Arguments

/-- How far the reading has come. -/
structure Progress where
  help : Bool
  optionsEnded : Bool
  reading : Reading

def start : Progress := ⟨false, false, ⟨[], [], []⟩⟩

def asksForHelp (word : String) : Bool := word == "--help" || word == "help"

def unrecognized (word : String) : EarlyExit :=
  ⟨"Unrecognized argument: " ++ word ++ "\n", false⟩

def trailing : EarlyExit := ⟨"Trailing arguments are not allowed after `help`.", false⟩

def missingValue (word : String) : EarlyExit :=
  ⟨"No value provided for option '" ++ word ++ "'.\n", false⟩

def duplicateValue (word value : String) : EarlyExit :=
  ⟨"Error parsing option '" ++ word ++ "' with value '" ++ value ++
    "': duplicate values provided\n", false⟩

/-- Notes that a switch was given; giving it again changes nothing. -/
def Reading.turnOn (reading : Reading) (name : String) : Reading :=
  if reading.switches.contains name then reading
  else { reading with switches := reading.switches ++ [name] }

def operand (grammar : Grammar) (word : String) (progress : Progress) :
    Except EarlyExit Progress :=
  if progress.reading.operands.length < grammar.operands then
    .ok { progress with
      reading := { progress.reading with operands := progress.reading.operands ++ [word] } }
  else .error (unrecognized word)

/-- Reads the words after what `progress` has seen. -/
def scanFrom (grammar : Grammar) : List String → Progress → Except EarlyExit Reading
  | [], progress =>
      if progress.help then .error ⟨grammar.usage, true⟩ else .ok progress.reading
  | word :: rest, progress =>
      if progress.optionsEnded then
        match operand grammar word progress with
        | .ok progress => scanFrom grammar rest progress
        | .error fault => .error fault
      else if asksForHelp word then scanFrom grammar rest { progress with help := true }
      else if word.startsWith "-" then
        if word == "--" then scanFrom grammar rest { progress with optionsEnded := true }
        else if progress.help then .error trailing
        else
          match grammar.flags.find? (·.spellings.contains word) with
          | none => .error (unrecognized word)
          | some flag =>
            if flag.takesValue then
              match rest with
              | [] => .error (missingValue word)
              | value :: rest =>
                if (progress.reading.values.lookup flag.name).isSome then
                  .error (duplicateValue word value)
                else
                  scanFrom grammar rest { progress with
                    reading := { progress.reading with
                      values := progress.reading.values ++ [(flag.name, value)] } }
            else
              scanFrom grammar rest { progress with
                reading := progress.reading.turnOn flag.name }
      else
        match operand grammar word progress with
        | .ok progress => scanFrom grammar rest progress
        | .error fault => .error fault

/-- What the words say, or the answer that takes the place of a run. -/
def scan (grammar : Grammar) (words : List String) : Except EarlyExit Reading :=
  scanFrom grammar words start

scoped instance : ArgumentReader where
  read := scan

end Arguments

end PipelineShell
