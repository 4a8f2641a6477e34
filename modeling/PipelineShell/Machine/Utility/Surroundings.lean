/-
# Machine.Utility.Surroundings -- running a program in other surroundings

A program can be run with other settings, in another directory, and with signals
ignored that it would not ignore by itself.  Without a program, the settings are
shown.
-/
import PipelineShell.Machine.Loading
import PipelineShell.Machine.Utility.Basic

namespace PipelineShell.Machine.Utility.Surroundings

set_option autoImplicit false

open PipelineShell.Machine.Action (ask)

def spec : Options.Spec where
  letters := Options.plain "i0" ++ Options.taking "uC"
  long := [⟨"ignore-environment", .never, 'i'⟩, ⟨"null", .never, '0'⟩, ⟨"unset", .always, 'u'⟩,
    ⟨"chdir", .always, 'C'⟩, ⟨"default-signal", .sometimes, '\x03'⟩,
    ⟨"ignore-signal", .sometimes, '\x04'⟩] ++ commonLong
  endsAtOperand := true

/-- The status of a program that was called in a wrong way. -/
def canceled : Nat := 125

def argumentsOf (code : Char) (items : List Options.Item) : List (Option Bytes) :=
  items.filterMap fun
    | .option other argument => if other == code then some argument else none
    | _ => none

/-! ## Signals -/

/-- The signal of a number or a name, with or without `SIG` in front. -/
def signal? (word : Bytes) : Option Nat :=
  let bare := word.map Ascii.upper
  let bare := if (ascii "SIG").isPrefixOf bare then bare.drop 3 else bare
  match Signal.number? 1 word with
  | some number => some number
  | none => Signal.number? 1 bare

/-- Arranges for signals that were asked for by name. -/
def arrangeNamed (invocation : Invocation) (disposition : Disposition) :
    List Bytes → Action Unit
  | [] => pure ()
  | word :: rest => do
      match (signal? word).filter (0 < ·) with
      | none => invocation.misuse (Quoting.sign word ++ ascii ": invalid signal") canceled
      | some number =>
        if Signal.isSovereign number then
          invocation.die (because (ascii "failed to set signal action for signal " ++
            Ascii.decimal number) Errno.invalid) canceled
        else ask (.arrange number disposition)
      arrangeNamed invocation disposition rest

def arrangeAll (disposition : Disposition) : List Nat → Action Unit
  | [] => pure ()
  | number :: rest => do
      if !Signal.isSovereign number then ask (.arrange number disposition)
      arrangeAll disposition rest

/-- Arranges for the signals that options ask for: all of them, or those of a list
with commas. -/
def arrange (invocation : Invocation) : List Options.Item → Action Unit
  | [] => pure ()
  | .option code argument :: rest => do
      if code == '\x03' || code == '\x04' then
        let disposition : Disposition := if code == '\x04' then .ignored else .usual
        match argument with
        | none => arrangeAll disposition ((List.range Signal.last).map (· + 1))
        | some list =>
            arrangeNamed invocation disposition
              ((Text.segments (byteOf ',') list).filter (!·.isEmpty))
      arrange invocation rest
  | _ :: rest => arrange invocation rest

/-! ## Settings -/

def nameOf (setting : Bytes) : Bytes := setting.takeWhile (· != byteOf '=')

/-- Settings without those of some names. -/
def without (names settings : List Bytes) : List Bytes :=
  settings.filter fun setting => !names.contains (nameOf setting)

/-- Settings with one more, instead of one of the same name. -/
def withSetting (settings : List Bytes) (setting : Bytes) : List Bytes :=
  if settings.any (nameOf · == nameOf setting) then
    settings.map fun other => if nameOf other == nameOf setting then setting else other
  else settings ++ [setting]

/-- The search list of programs where the settings have none. -/
def usualSearch : Bytes := ascii "/bin:/usr/bin"

/-! ## The program -/

/-- Runs a program.  Comes back only with an error. -/
def runProgram (words settings : List Bytes) : Action Int := do
  let name := words.headD []
  if name.contains Path.slash then
    let number : Int ← ask (.run name words settings)
    if number == Errno.notExecutable then
      ask (.run scriptShell.bytes (scriptShell.bytes :: name :: words.tail) settings)
    else pure number
  else
    let search := (settings.find? ((ascii "PATH=").isPrefixOf ·)).map (·.drop 5)
    Action.runByName (search.getD usualSearch) words settings

/-- Says why a program cannot be run; answers the status. -/
def explain (invocation : Invocation) (name : Bytes) (number : Int) : Action Nat := do
  invocation.complain (because (Quoting.sign name) number)
  if number != Errno.noEntry then pure 126
  else
    if name.any Ascii.isSpace then
      invocation.complain (ascii "use -[v]S to pass options in shebang lines")
    pure 127

def run (invocation : Invocation) : Action Nat := do
  let items ← invocation.items spec canceled
  endForCommon items
  let codes := Options.codes items
  let words := Options.operands items
  let isAlone := words.head? == some dash
  let words := if isAlone then words.tail else words
  let dropped := (argumentsOf 'u' items).reduceOption
  if let some name := dropped.find? fun name => name.isEmpty || name.contains (byteOf '=') then
    invocation.die (because (ascii "cannot unset " ++ Quoting.sign name) Errno.invalid) canceled
  let kept := if isAlone || codes.contains 'i' then [] else without dropped invocation.environment
  let isSetting (word : Bytes) : Bool := word.contains (byteOf '=')
  let settings := (words.takeWhile isSetting).foldl withSetting kept
  let words := words.dropWhile isSetting
  let directory := (argumentsOf 'C' items).reduceOption.getLast?
  if codes.contains '0' && !words.isEmpty then
    invocation.misuse (ascii "cannot specify --null (-0) with command") canceled
  if directory.isSome && words.isEmpty then
    invocation.misuse (ascii "must specify command with --chdir (-C)") canceled
  match words with
  | [] =>
      invocation.emit (settings.flatMap (· ++ if codes.contains '0' then [0] else ascii "\n"))
        canceled
      pure 0
  | name :: _ =>
      arrange invocation items
      if let some path := directory then
        if let .error number ← ask (.changeDirectory path) then
          invocation.die (because (ascii "cannot change directory to " ++
            Quoting.forShellAlways path) number) canceled
      explain invocation name (← runProgram words settings)

end PipelineShell.Machine.Utility.Surroundings
