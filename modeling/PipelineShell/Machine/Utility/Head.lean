/-
# Machine.Utility.Head -- the first lines or bytes of files

A `Portion` says how much of a file is shown: so many lines or bytes, or all but
so many at the end.  What is read beyond the portion is given back where the file
allows it, so that whoever reads the same file next goes on right behind it.
-/
import PipelineShell.Machine.Utility.Basic
import PipelineShell.Machine.Utility.Numeral

namespace PipelineShell.Machine.Utility.Head

set_option autoImplicit false

open PipelineShell.Machine.Action (ask exit readOnce readAll repeatedly writeAll)

/-- How much of a file is shown. -/
structure Portion where
  /-- Lines are counted, or else bytes. -/
  lines : Bool
  /-- All but so many at the end are shown. -/
  butLast : Bool
  count : Nat
  /-- The byte that ends a line. -/
  ending : UInt8

/-- When the name of a file is shown above it. -/
inductive Headers where
  | ifSeveral
  | always
  | never
  deriving DecidableEq, Repr

structure Settings where
  portion : Portion
  headers : Headers

def Settings.usual : Settings := ⟨⟨true, false, 10, 0x0A⟩, .ifSeveral⟩

/-! ## Options -/

def spec : Options.Spec where
  letters := Options.taking "cn" ++ Options.plain "qvz0123456789"
  long := [⟨"bytes", .always, 'c'⟩, ⟨"lines", .always, 'n'⟩,
    ⟨"-presume-input-pipe", .never, '\x03'⟩, ⟨"quiet", .never, 'q'⟩, ⟨"silent", .never, 'q'⟩,
    ⟨"verbose", .never, 'v'⟩, ⟨"zero-terminated", .never, 'z'⟩] ++ commonLong
  endsAtOperand := false

def units : String := "bkKmMGTPEZYRQ0"

def count (invocation : Invocation) (lines : Bool) (text : Bytes) : Action Nat :=
  let what := if lines then "invalid number of lines: " else "invalid number of bytes: "
  match Numeral.read units text with
  | .value n => pure n
  | .malformed => invocation.die (ascii what ++ Quoting.sign text) 1
  | .tooLarge =>
      invocation.die (because (ascii what ++ Quoting.sign text) Errno.overflow) 1

def applyOption (invocation : Invocation) (settings : Settings) (code : Char)
    (argument : Option Bytes) : Action Settings := do
  let portion := settings.portion
  match code with
  | 'q' => pure { settings with headers := .never }
  | 'v' => pure { settings with headers := .always }
  | 'z' => pure { settings with portion := { portion with ending := 0 } }
  | _ =>
    match argument with
    | none =>
        if code.isDigit then
          invocation.misuse (ascii ("invalid trailing option -- " ++ code.toString)) 1
        else pure settings
    | some text =>
        let lines := code == 'n'
        let butLast := text.head? == some (byteOf '-')
        let n ← count invocation lines (if butLast then text.tail else text)
        pure { settings with portion := { portion with lines, butLast, count := n } }

/-- Takes account of options in order. -/
def applyAll (invocation : Invocation) :
    List Options.Item → Settings → Action (Settings × List Bytes)
  | [], settings => pure (settings, [])
  | .operand word :: rest, settings => do
      let (settings, words) ← applyAll invocation rest settings
      pure (settings, word :: words)
  | .option code argument :: rest, settings => do
      if code == '\x01' || code == '\x02' then exit 0
      else
        let settings ← applyOption invocation settings code argument
        applyAll invocation rest settings
  | .fault message :: _, _ => invocation.misuse message 1

/-- Letters behind a count in the first word, in the short way of writing. -/
def applyLetters (invocation : Invocation) :
    Bytes → Settings → Bytes → Action (Settings × Bytes)
  | [], settings, unit => pure (settings, unit)
  | letter :: rest, settings, unit =>
      let portion := settings.portion
      match charOf letter with
      | 'c' =>
          applyLetters invocation rest
            { settings with portion := { portion with lines := false } } []
      | 'l' =>
          applyLetters invocation rest
            { settings with portion := { portion with lines := true } } unit
      | 'q' => applyLetters invocation rest { settings with headers := .never } unit
      | 'v' => applyLetters invocation rest { settings with headers := .always } unit
      | 'z' =>
          applyLetters invocation rest
            { settings with portion := { portion with ending := 0 } } unit
      | c =>
          if c == 'b' || c == 'k' || c == 'm' then
            applyLetters invocation rest
              { settings with portion := { portion with lines := false } } [letter]
          else invocation.misuse (ascii "invalid trailing option -- " ++ [letter]) 1

/-- The settings and files that the words of the program ask for. -/
def settings (invocation : Invocation) : Action (Settings × List Bytes) := do
  let (settings, words) ← show Action (Settings × List Bytes) from
    match invocation.arguments with
    | first :: rest =>
        let digits := first.tail.takeWhile Ascii.isDigit
        if first.head? == some (byteOf '-') && !digits.isEmpty then do
          let (settings, unit) ←
            applyLetters invocation (first.tail.drop digits.length) .usual []
          let n ← count invocation settings.portion.lines (digits ++ unit)
          pure ({ settings with portion := { settings.portion with count := n } }, rest)
        else pure (Settings.usual, invocation.arguments)
    | [] => pure (Settings.usual, [])
  applyAll invocation (Options.read spec words) settings

/-! ## Portions -/

/-- The length of the first lines of some bytes, and how many lines are missing. -/
def linesLength (ending : UInt8) (bytes : Bytes) (count : Nat) : Nat × Nat :=
  bytes.foldl (fun (length, left) b =>
    if left == 0 then (length, left) else (length + 1, if b == ending then left - 1 else left))
    (0, count)

/-- The length of a text without its last lines.  A last line without an end counts
as a line. -/
def lengthButLastLines (ending : UInt8) (bytes : Bytes) (count : Nat) : Nat :=
  if count == 0 then bytes.length
  else
    let unended := bytes.getLast?.any (· != ending)
    let lines := bytes.count ending + (if unended then 1 else 0)
    (linesLength ending bytes (lines - count)).1

def Portion.lengthIn (portion : Portion) (bytes : Bytes) : Nat :=
  if portion.lines then lengthButLastLines portion.ending bytes portion.count
  else bytes.length - portion.count

/-- How much is read at once where reading may stop early. -/
def blockSize : Nat := 8192

def showFront (invocation : Invocation) (portion : Portion) (descriptor : Nat) :
    Action (Option Int) :=
  repeatedly none portion.count fun left => do
    if left == 0 then pure (.inr none)
    else
      let most := if portion.lines then blockSize else min blockSize left
      match ← readOnce descriptor most with
      | .error number => pure (.inr (some number))
      | .ok [] => pure (.inr none)
      | .ok bytes =>
        if portion.lines then
          let (length, left) := linesLength portion.ending bytes left
          if length < bytes.length then
            let _ ← ask (.seek descriptor .current (-(bytes.length - length : Nat)))
          invocation.emit (bytes.take length) 1
          pure (.inl left)
        else
          invocation.emit bytes 1
          pure (.inl (left - bytes.length))

def showButLast (invocation : Invocation) (portion : Portion) (descriptor : Nat) :
    Action (Option Int) := do
  match ← readAll descriptor with
  | .error number => pure (some number)
  | .ok bytes =>
      let length := portion.lengthIn bytes
      if length < bytes.length then
        let _ ← ask (.seek descriptor .current (-(bytes.length - length : Nat)))
      invocation.emit (bytes.take length) 1
      pure none

def showPortion (invocation : Invocation) (portion : Portion) (descriptor : Nat) :
    Action (Option Int) :=
  if portion.butLast then showButLast invocation portion descriptor
  else showFront invocation portion descriptor

/-! ## Files -/

def shownName (path : Bytes) : Bytes := if path == dash then ascii "standard input" else path

/-- Shows the portion of what is open; answers whether all went well. -/
def showOpen (invocation : Invocation) (settings : Settings) (withHeader isFirst : Bool)
    (path : Bytes) (descriptor : Nat) : Action Bool := do
  if withHeader then
    invocation.emit ((if isFirst then [] else ascii "\n") ++ ascii "==> " ++ shownName path ++
      ascii " <==\n") 1
  match ← showPortion invocation settings.portion descriptor with
  | none => pure true
  | some number =>
      invocation.complain
        (because (ascii "error reading " ++ Quoting.forShellAlways (shownName path)) number)
      pure false

/-- Shows the portions of files in order; answers whether all went well. -/
def showAll (invocation : Invocation) (settings : Settings) (withHeader : Bool) :
    List Bytes → Bool → Bool → Action Bool
  | [], _, well => pure well
  | path :: rest, isFirst, well => do
      if path == dash then
        let good ← showOpen invocation settings withHeader isFirst path 0
        showAll invocation settings withHeader rest false (well && good)
      else
        match ← ask (.openFile path .reading 0) with
        | .error number =>
            invocation.complain (because (ascii "cannot open " ++
              Quoting.forShellAlways path ++ ascii " for reading") number)
            showAll invocation settings withHeader rest isFirst false
        | .ok descriptor =>
            let good ← showOpen invocation settings withHeader isFirst path descriptor
            let _ ← ask (.close descriptor)
            showAll invocation settings withHeader rest false (well && good)

def run (invocation : Invocation) : Action Nat := do
  let (settings, paths) ← settings invocation
  let withHeader :=
    settings.headers == .always || (settings.headers == .ifSeveral && 1 < paths.length)
  let given := if paths.isEmpty then [dash] else paths
  let well ← showAll invocation settings withHeader given true true
  if given.contains dash then
    match ← ask (.close 0) with
    | .ok () => pure ()
    | .error number => invocation.die (because dash number) 1
  pure (if well then 0 else 1)

end PipelineShell.Machine.Utility.Head
