/-
# Machine.Utility.Sort -- lines in order

Lines are ordered by keys, and those that no key tells apart byte by byte.  The
order is stable, so of lines that count as the same the first one is kept.
-/
import PipelineShell.Machine.Utility.Basic
import PipelineShell.Machine.Utility.Numeral
import PipelineShell.Machine.Utility.Sort.Key
import PipelineShell.Text.Blank

namespace PipelineShell.Machine.Utility.Sort

set_option autoImplicit false

open PipelineShell.Machine.Action (ask exit readAll writeAll)

/-- What the program is to do with its lines. -/
structure Settings where
  keys : List Key
  /-- The order of keys that say nothing about it. -/
  general : Manner
  separator : Option UInt8
  unique : Bool
  stable : Bool
  merges : Bool
  /-- Only look whether the lines are in order; a capital letter says nothing. -/
  checks : Option Char
  output : Option Bytes
  list : Option Bytes
  ending : UInt8

def Settings.usual : Settings :=
  ⟨[], .usual, none, false, false, false, none, none, none, 0x0A⟩

def failure : Nat := 2

/-! ## Options -/

def spec : Options.Spec where
  letters := Options.plain "bcCdfghiMmnrRsuVz" ++ Options.taking "kotSTy"
  long := [⟨"ignore-leading-blanks", .never, 'b'⟩, ⟨"check", .sometimes, '\x03'⟩,
    ⟨"compress-program", .always, '\x04'⟩, ⟨"debug", .never, '\x05'⟩,
    ⟨"dictionary-order", .never, 'd'⟩, ⟨"ignore-case", .never, 'f'⟩,
    ⟨"files0-from", .always, '\x06'⟩, ⟨"general-numeric-sort", .never, 'g'⟩,
    ⟨"ignore-nonprinting", .never, 'i'⟩, ⟨"key", .always, 'k'⟩, ⟨"merge", .never, 'm'⟩,
    ⟨"month-sort", .never, 'M'⟩, ⟨"numeric-sort", .never, 'n'⟩,
    ⟨"human-numeric-sort", .never, 'h'⟩, ⟨"version-sort", .never, 'V'⟩,
    ⟨"random-sort", .never, 'R'⟩, ⟨"random-source", .always, '\x07'⟩, ⟨"sort", .always, '\x08'⟩,
    ⟨"output", .always, 'o'⟩, ⟨"reverse", .never, 'r'⟩, ⟨"stable", .never, 's'⟩,
    ⟨"batch-size", .always, '\x09'⟩, ⟨"buffer-size", .always, 'S'⟩,
    ⟨"field-separator", .always, 't'⟩, ⟨"temporary-directory", .always, 'T'⟩,
    ⟨"unique", .never, 'u'⟩, ⟨"zero-terminated", .never, 'z'⟩,
    ⟨"parallel", .always, '\x0b'⟩] ++ commonLong
  endsAtOperand := false

/-- The choice that a name, possibly cut short, stands for; a list of what there is
is shown if it stands for none. -/
def choose (invocation : Invocation) (option : String) (choices : List (List String × Char))
    (name : Bytes) : Action Char := do
  let all := choices.flatMap fun entry => entry.1.map (·, entry.2)
  let fitting := all.filter fun entry => name.isPrefixOf (ascii entry.1)
  let isSame := fitting.all fun entry => some entry.2 == fitting.head?.map (·.2)
  match all.find? (fun entry => ascii entry.1 == name), fitting with
  | some entry, _ => pure entry.2
  | none, entry :: _ =>
      if isSame then pure entry.2 else fault "ambiguous argument "
  | none, [] => fault "invalid argument "
where
  fault (text : String) : Action Char := do
    let _ ← writeAll 2 (invocation.name ++ ascii (": " ++ text) ++ Quoting.sign name ++
      ascii (" for '--" ++ option ++ "'\nValid arguments are:\n") ++
      choices.flatMap fun entry =>
        ascii ("  - " ++ ", ".intercalate (entry.1.map fun name => "'" ++ name ++ "'") ++ "\n"))
    invocation.refuse failure

def kindNames : List (List String × Char) :=
  [(["general-numeric"], 'g'), (["human-numeric"], 'h'), (["month"], 'M'), (["numeric"], 'n'),
    (["random"], 'R'), (["version"], 'V')]

def checkNames : List (List String × Char) :=
  [(["quiet", "silent"], 'C'), (["diagnose-first"], 'c')]

def separator (invocation : Invocation) (settings : Settings) (text : Bytes) :
    Action Settings := do
  let named ← match text with
    | [] => invocation.die (ascii "empty tab") failure
    | [b] => pure b
    | _ =>
        if text == ascii "\\0" then pure 0
        else invocation.die (ascii "multi-character tab " ++ Quoting.sign text) failure
  if settings.separator.any (· != named) then
    invocation.die (ascii "incompatible tabs") failure
  else pure { settings with separator := some named }

/-- Reads a count that changes nothing in the result, or complains about it. -/
def checkCount (invocation : Invocation) (units option : String) (text : Bytes) : Action Nat :=
  match Numeral.read units text with
  | .value n => pure n
  | .tooLarge =>
      invocation.die (ascii (option ++ " argument ") ++ Quoting.sign text ++ ascii " too large")
        failure
  | .malformed =>
      invocation.die (ascii ("invalid " ++ option ++ " argument ") ++ Quoting.sign text) failure

/-- A size in percent, or with a unit; without one it counts blocks. -/
def checkSize (invocation : Invocation) (text : Bytes) : Action Unit := do
  if text.getLast? == some (byteOf '%') && (Ascii.natural? text.dropLast).isSome then pure ()
  else
    let _ ← checkCount invocation "bkKmMGTPEZYRQB" "-S" text

def applyOption (invocation : Invocation) (settings : Settings) (code : Char)
    (argument : Option Bytes) : Action Settings := do
  let text := argument.getD []
  match code with
  | 'c' => check settings 'c'
  | 'C' => check settings 'C'
  | '\x03' =>
      match argument with
      | none => check settings 'c'
      | some name =>
          let way ← choose invocation "check" checkNames name
          check settings way
  | '\x06' => pure { settings with list := argument }
  | '\x08' =>
      let letter ← choose invocation "sort" kindNames text
      pure { settings with
        general := (settings.general.letter? true true letter).getD settings.general }
  | '\x09' =>
      let n ← checkCount invocation "" "--batch-size" text
      if n < 2 then
        invocation.complain (ascii "invalid --batch-size argument " ++ Quoting.sign text)
        invocation.die (ascii "minimum --batch-size argument is '2'") failure
      else pure settings
  | '\x0b' =>
      let n ← checkCount invocation "" "--parallel" text
      if n == 0 then invocation.die (ascii "number in parallel must be nonzero") failure
      else pure settings
  | 'k' =>
      match Key.read text with
      | .ok key => pure { settings with keys := settings.keys ++ [key] }
      | .error complaint => invocation.die complaint failure
  | 'm' => pure { settings with merges := true }
  | 'o' =>
      if settings.output.any (· != text) then
        invocation.die (ascii "multiple output files specified") failure
      else pure { settings with output := argument }
  | 's' => pure { settings with stable := true }
  | 'S' => do
      checkSize invocation text
      pure settings
  | 't' => separator invocation settings text
  | 'u' => pure { settings with unique := true }
  | 'z' => pure { settings with ending := 0 }
  | letter =>
      pure { settings with
        general := (settings.general.letter? true true letter).getD settings.general }
where
  check (settings : Settings) (way : Char) : Action Settings :=
    if settings.checks.any (· != way) then
      invocation.die (ascii "options '-cC' are incompatible") failure
    else pure { settings with checks := some way }

/-- Takes account of options in order. -/
def applyAll (invocation : Invocation) :
    List Options.Item → Settings → Action (Settings × List Bytes)
  | [], settings => pure (settings, [])
  | .operand word :: rest, settings => do
      let (settings, words) ← applyAll invocation rest settings
      pure (settings, word :: words)
  | .option code argument :: rest, settings => do
      if code == '\x01' || code == '\x02' then exit 0
      else
        let settings ← applyOption invocation settings code argument
        applyAll invocation rest settings
  | .fault message :: _, _ => invocation.misuse message failure

def Settings.effective (settings : Settings) : List Key :=
  if settings.keys.isEmpty then
    if { settings.general with reversed := false } == .usual then []
    else [.whole settings.general]
  else settings.keys.map (·.inherit settings.general)

/-! ## Order -/

def Settings.compareLines (settings : Settings) (keys : List Key) (a b : Bytes) : Ordering :=
  let byKeys := compareByKeys settings.separator keys a b
  if byKeys != .eq || (!keys.isEmpty && (settings.unique || settings.stable)) then byKeys
  else
    let answer := compareBytes a b
    if settings.general.reversed then answer.swap else answer

/-- Lines without those that count as the same as the one before. -/
def withoutRepeats (same : Bytes → Bytes → Bool) : List Bytes → List Bytes
  | [] => []
  | first :: rest => first :: go first rest
where
  go (last : Bytes) : List Bytes → List Bytes
    | [] => []
    | line :: rest => if same last line then go last rest else line :: go line rest

/-- Puts two lists together, in order as far as they are. -/
def mergeTwo (before : Bytes → Bytes → Bool) : Nat → List Bytes → List Bytes → List Bytes
  | 0, a, b => a ++ b
  | _ + 1, [], b => b
  | _ + 1, a, [] => a
  | fuel + 1, x :: a, y :: b =>
      if before x y then x :: mergeTwo before fuel a (y :: b)
      else y :: mergeTwo before fuel (x :: a) b

def linesOf (ending : UInt8) (text : Bytes) : List Bytes :=
  let segments := Text.segments ending text
  if segments.getLast? == some [] then segments.dropLast else segments

/-- The lines of some texts, in order. -/
def Settings.ordered (settings : Settings) (texts : List Bytes) : List Bytes :=
  let keys := settings.effective
  let compareLines := settings.compareLines keys
  let before (a b : Bytes) := compareLines a b != .gt
  let lists := texts.map (linesOf settings.ending)
  let lines :=
    if settings.merges then
      lists.foldl (fun all lines => mergeTwo before (all.length + lines.length) all lines) []
    else lists.flatten.mergeSort before
  if settings.unique then withoutRepeats (fun a b => compareLines a b == .eq) lines else lines

/-- The first line that is out of order, with its number. -/
def Settings.disorder? (settings : Settings) (text : Bytes) : Option (Nat × Bytes) :=
  let compareLines := settings.compareLines settings.effective
  let lines := linesOf settings.ending text
  ((lines.zip lines.tail).zip (List.range lines.length)).findSome? fun ((a, b), n) =>
    let answer := compareLines a b
    if answer == .gt || (settings.unique && answer == .eq) then some (n + 2, b) else none

/-! ## Files -/

def die {α : Type} (invocation : Invocation) (what : String) (path : Bytes) (number : Int) :
    Action α :=
  invocation.die (because (ascii (what ++ ": ") ++ Quoting.forShell path) number) failure

/-- Looks whether files can be read. -/
def checkInputs (invocation : Invocation) : List Bytes → Action Unit
  | [] => pure ()
  | path :: rest => do
      if path != dash then
        match ← ask (.may path mayRead) with
        | .ok () => pure ()
        | .error number => die invocation "cannot read" path number
      checkInputs invocation rest

def readFile (invocation : Invocation) (path : Bytes) : Action Bytes := do
  let descriptor ← if path == dash then pure 0
    else
      match ← ask (.openFile path .reading 0) with
      | .ok descriptor => pure descriptor
      | .error number => die invocation "open failed" path number
  let kind := match ← ask (.statusOf descriptor) with
    | .ok status => some status.kind
    | .error _ => none
  if kind.isNone then die invocation "stat failed" path Errno.badDescriptor
  else
    match ← readAll descriptor with
    | .error number => die invocation "read failed" path number
    | .ok text =>
        let _ ← ask (.close descriptor)
        pure text

def readFiles (invocation : Invocation) : List Bytes → Action (List Bytes)
  | [] => pure []
  | path :: rest => do
      let text ← readFile invocation path
      let texts ← readFiles invocation rest
      pure (text :: texts)

/-- Where the output goes: a file is made before anything is read. -/
def openOutput (invocation : Invocation) (settings : Settings) : Action Unit := do
  match settings.output with
  | none => pure ()
  | some path =>
      let access : Access := { Access.writing with creates := true }
      match ← ask (.openFile path access 0o666) with
      | .error number => die invocation "open failed" path number
      | .ok descriptor =>
          let _ ← ask (.copyOnto descriptor 1)
          let _ ← ask (.close descriptor)

def writeOutput (invocation : Invocation) (settings : Settings) (text : Bytes) : Action Unit := do
  match settings.output with
  | none => pure ()
  | some path =>
      match ← ask (.openFile path { Access.writing with truncates := true } 0) with
      | .ok descriptor => let _ ← ask (.close descriptor)
      | .error _ => pure ()
  match ← writeAll 1 text with
  | .ok () => pure ()
  | .error number =>
      invocation.complain (because (ascii "fflush failed: 'standard output'") number)
      let isClosed := number == Errno.badDescriptor
      invocation.die (if isClosed then because (ascii "write error") number
        else ascii "write error") failure

def inputs (invocation : Invocation) (settings : Settings) (operands : List Bytes) :
    Action (List Bytes) := do
  match settings.list, operands with
  | none, [] => pure [dash]
  | none, paths => pure paths
  | some _, extra :: _ => do
      let _ ← writeAll 2 (invocation.name ++ ascii ": extra operand " ++ Quoting.sign extra ++
        ascii "\nfile operands cannot be combined with --files0-from\n")
      invocation.refuse failure
  | some path, [] => do
      let text ← readFile invocation path
      let names := linesOf 0 text
      if names.isEmpty then
        invocation.die (ascii "no input from " ++ Quoting.sign path) failure
      else pure names

def check (invocation : Invocation) (settings : Settings) (way : Char) (path : Bytes) :
    Action Nat := do
  let text ← readFile invocation path
  match settings.disorder? text with
  | none => pure 0
  | some (number, line) =>
      if way == 'c' then
        invocation.complain (path ++ ascii ":" ++ Ascii.decimal number ++ ascii ": disorder: " ++
          line)
      pure 1

def run (invocation : Invocation) : Action Nat := do
  let (settings, operands) ← applyAll invocation (Options.read spec invocation.arguments) .usual
  let paths ← inputs invocation settings operands
  match (settings.effective.findSome? (·.order.clash?)) with
  | some letters =>
      invocation.die (ascii "options '-" ++ letters ++ ascii "' are incompatible") failure
  | none =>
    match settings.checks with
    | some way =>
        if 1 < paths.length then
          invocation.die (ascii "extra operand " ++ Quoting.sign (paths.getD 1 []) ++
            ascii " not allowed with -" ++ [byteOf way]) failure
        else if settings.output.isSome then
          invocation.die (ascii "options '-" ++ [byteOf way] ++ ascii "o' are incompatible")
            failure
        else check invocation settings way (paths.headD dash)
    | none => do
        checkInputs invocation paths
        openOutput invocation settings
        let texts ← readFiles invocation paths
        writeOutput invocation settings
          ((settings.ordered texts).flatMap (· ++ [settings.ending]))
        pure 0

end PipelineShell.Machine.Utility.Sort
