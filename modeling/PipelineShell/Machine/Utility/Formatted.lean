/-
# Machine.Utility.Formatted -- output by a format

A format is text with directives in it, each of which takes an argument; it is
used again as long as there are arguments left.  What is wrong with an argument is
complained about at once, and the output is written at the end.
-/
import PipelineShell.Machine.Utility.Basic
import PipelineShell.Machine.Utility.Echo
import PipelineShell.Text.Directive
import PipelineShell.Text.Literal

namespace PipelineShell.Machine.Utility.Formatted

set_option autoImplicit false

open PipelineShell.Machine.Action (ask exit writeAll)

/-- What has been done so far. -/
structure State where
  /-- What is to be written, the latest first. -/
  written : List Bytes
  arguments : List Bytes
  failed : Bool

def State.put (state : State) (text : Bytes) : State :=
  { state with written := text :: state.written }

def State.fail (state : State) : State := { state with failed := true }

def finish {α : Type} (invocation : Invocation) (state : State) (code : Nat) : Action α := do
  invocation.emit state.written.reverse.flatten 1
  exit code

def die {α : Type} (invocation : Invocation) (state : State) (text : Bytes) : Action α := do
  invocation.complain text
  finish invocation state 1

/-! ## Escapes -/

inductive Escape where
  | bytes (bytes rest : Bytes)
  /-- The output ends here. -/
  | stop
  | wrong (complaint : Bytes)

/-- The character of a number as the C locale shows it. -/
def character (n : Nat) : Bytes :=
  if n < 0x80 then [n.toUInt8]
  else
    let digits := (Ascii.inBase 16 n).map Ascii.upper
    let width := if n < 0x10000 then 4 else 8
    ascii (if n < 0x10000 then "\\u" else "\\U") ++ Directive.fill (width - digits.length) '0' ++
      digits

/-- Reads the number of a character in so many hexadecimal digits. -/
def readCharacter (letter : UInt8) (width : Nat) (text : Bytes) : Escape :=
  let digits := text.take width
  if digits.length < width || !digits.all Ascii.isHexDigit then
    .wrong (ascii "missing hexadecimal number in escape")
  else
    let n := Ascii.valueIn 16 digits
    if 0xD800 ≤ n && n ≤ 0xDFFF then
      .wrong (ascii "invalid universal character name \\" ++ [letter] ++
        digits.map Ascii.lower)
    else .bytes (character n) (text.drop width)

/-- Reads what stands behind a backslash.  With `longOctal`, octal numbers may have
a zero in front of their three digits. -/
def readEscape (longOctal : Bool) (text : Bytes) : Escape :=
  match text with
  | [] => .bytes [byteOf '\\'] []
  | c :: rest =>
      if c == byteOf 'x' then
        let digits := Echo.front 2 Ascii.isHexDigit rest
        if digits.isEmpty then .wrong (ascii "missing hexadecimal number in escape")
        else .bytes [Echo.digitsByte 16 digits] (rest.drop digits.length)
      else if Ascii.isOctalDigit c then
        let start := if longOctal && c == byteOf '0' then rest else text
        let digits := Echo.front 3 Ascii.isOctalDigit start
        .bytes [Echo.digitsByte 8 digits] (start.drop digits.length)
      else if c == byteOf 'c' then .stop
      else if c == byteOf '"' then .bytes [c] rest
      else
        match Echo.letter? c with
        | some b => .bytes [b] rest
        | none =>
            if c == byteOf 'u' then readCharacter c 4 rest
            else if c == byteOf 'U' then readCharacter c 8 rest
            else .bytes [byteOf '\\', c] rest

def putEscaped (invocation : Invocation) : Nat → Bytes → State → Action State
  | 0, _, state => pure state
  | _ + 1, [], state => pure state
  | fuel + 1, b :: rest, state =>
      if b != byteOf '\\' then putEscaped invocation fuel rest (state.put [b])
      else
        match readEscape true rest with
        | .bytes bytes rest => putEscaped invocation fuel rest (state.put bytes)
        | .stop => finish invocation state 0
        | .wrong complaint => die invocation state complaint

/-! ## Arguments -/

def next (state : State) : Option Bytes × State :=
  match state.arguments with
  | [] => (none, state)
  | first :: rest => (some first, { state with arguments := rest })

def quoted? (text : Bytes) : Option (UInt8 × Bytes) :=
  match text with
  | mark :: b :: rest =>
      if mark == byteOf '"' || mark == byteOf '\'' then some (b, rest) else none
  | _ => none

/-- Complains about a number, if it is not one throughout. -/
def verify (invocation : Invocation) (text rest : Bytes) (isOutOfRange : Bool) (state : State) :
    Action State := do
  if isOutOfRange then
    invocation.complain (because (Quoting.sign text) Errno.outOfRange)
    pure state.fail
  else if rest.isEmpty then pure state
  else
    invocation.complain (Quoting.sign text ++ ascii
      (if rest.length == text.length then ": expected a numeric value"
        else ": value not completely converted"))
    pure state.fail

/-- A number in an argument: the value that `read` finds, or the number of a
character. -/
def number {α : Type} (invocation : Invocation) (read : Bytes → α × Bytes × Bool)
    (ofByte : Nat → α) (text : Bytes) (state : State) : Action (α × State) := do
  match quoted? text with
  | some (b, rest) =>
      if !rest.isEmpty then
        invocation.complain (ascii "warning: " ++ rest ++
          ascii ": character(s) following character constant have been ignored")
      pure (ofByte b.toNat, state)
  | none =>
      let (value, rest, isOutOfRange) := read text
      let state ← verify invocation text rest isOutOfRange state
      pure (value, state)

def readFloating (text : Bytes) : Floating × Bytes × Bool :=
  match Floating.ofText .extended text with
  | none => (.zero, text, false)
  | some reading => (reading.value, reading.rest, reading.isOutOfRange)

/-! ## Directives -/

structure Reading where
  directive : Directive
  /-- The conversions that the marks leave possible. -/
  allowed : List Char

def conversions : List Char := "aAcdeEfFgGiosuxX".toList

def readMarks : Bytes → Reading → Reading × Bytes
  | [], reading => (reading, [])
  | b :: rest, reading =>
      let without (lost : String) : Reading :=
        ⟨reading.directive.mark (charOf b), reading.allowed.filter (!lost.toList.contains ·)⟩
      match charOf b with
      | '\'' => readMarks rest (without "aAceEosxX")
      | 'I' => readMarks rest (without "aAceEosxX")
      | '-' => readMarks rest (without "")
      | '+' => readMarks rest (without "")
      | ' ' => readMarks rest (without "")
      | '#' => readMarks rest (without "cdisu")
      | '0' => readMarks rest (without "cs")
      | _ => (reading, b :: rest)

def greatestWidth : Int := 2147483647

def starArgument (invocation : Invocation) (what : String) (state : State) :
    Action (Int × State) := do
  match next state with
  | (none, state) => pure (0, state)
  | (some text, state) => do
      let (n, state) ← number invocation Literal.readSigned (fun n => (n : Int)) text state
      if greatestWidth < n || n < -greatestWidth - 1 && what == "field width" then
        die invocation state (ascii ("invalid " ++ what ++ ": ") ++ Quoting.sign text)
      else pure (n, state)

def readWidth (invocation : Invocation) (text : Bytes) (reading : Reading) (state : State) :
    Action (Reading × Bytes × State) := do
  if text.head? == some (byteOf '*') then
    let (n, state) ← starArgument invocation "field width" state
    pure ({ reading with directive := reading.directive.withWidth n }, text.tail, state)
  else
    let digits := text.takeWhile Ascii.isDigit
    pure ({ reading with directive := { reading.directive with width := Ascii.value digits } },
      text.drop digits.length, state)

def readPrecision (invocation : Invocation) (text : Bytes) (reading : Reading) (state : State) :
    Action (Reading × Bytes × State) := do
  if text.head? != some (byteOf '.') then pure (reading, text, state)
  else
    let allowed := reading.allowed.filter (· != 'c')
    let text := text.tail
    if text.head? == some (byteOf '*') then
      let (n, state) ← starArgument invocation "precision" state
      let precision := if n < 0 then none else some n.toNat
      pure (⟨{ reading.directive with precision }, allowed⟩, text.tail, state)
    else
      let digits := text.takeWhile Ascii.isDigit
      let directive := { reading.directive with precision := some (Ascii.value digits) }
      pure (⟨directive, allowed⟩, text.drop digits.length, state)

def styleOf (letter : Char) : Directive.Style :=
  match letter.toLower with
  | 'a' => .hexadecimal
  | 'e' => .scientific
  | 'f' => .fixed
  | _ => .general

def convert (invocation : Invocation) (directive : Directive) (letter : Char)
    (argument : Option Bytes) (state : State) : Action State := do
  let text := argument.getD []
  match letter with
  | 's' => pure (state.put (directive.text text))
  | 'c' => pure (state.put (directive.pad [text.headD 0]))
  | _ =>
    if letter == 'd' || letter == 'i' then do
      let (n, state) ← number invocation Literal.readSigned (fun n => (n : Int)) text state
      pure (state.put (directive.signed n))
    else if "ouxX".toList.contains letter then do
      let (n, state) ← number invocation Literal.readUnsigned id text state
      let base := if letter == 'o' then 8 else if letter == 'u' then 10 else 16
      pure (state.put (directive.unsigned base (letter == 'X') n))
    else do
      let (n, state) ← number invocation readFloating
        (fun n => ⟨false, (Floating.nearest .extended n 1).1⟩) text state
      pure (state.put
        (directive.floating .extended (styleOf letter) letter.isUpper n))

/-- Writes by one directive, given what stands behind its percent sign.  Answers the
rest of the format. -/
def putDirective (invocation : Invocation) (text : Bytes) (state : State) :
    Action (Bytes × State) := do
  match text.head?.map charOf with
  | some '%' => pure (text.tail, state.put (ascii "%"))
  | some 'b' =>
      let (argument, state) := next state
      let argument := argument.getD []
      let state ← putEscaped invocation (argument.length + 1) argument state
      pure (text.tail, state)
  | some 'q' =>
      match next state with
      | (some argument, state) => pure (text.tail, state.put (Quoting.forShell argument))
      | (none, state) => pure (text.tail, state)
  | _ =>
      let (reading, rest) := readMarks text ⟨.bare, conversions⟩
      let (reading, rest, state) ← readWidth invocation rest reading state
      let (reading, rest, state) ← readPrecision invocation rest reading state
      let rest := rest.dropWhile fun b => (ascii "lLhjtz").contains b
      match rest.head?.map charOf with
      | some letter =>
        if reading.allowed.contains letter then
          let (argument, state) := next state
          let state ← convert invocation reading.directive letter argument state
          pure (rest.tail, state)
        else invalid state (rest.length - 1)
      | none => invalid state 0
where
  invalid (state : State) (left : Nat) : Action (Bytes × State) :=
    die invocation state (ascii "%" ++ text.take (text.length - left) ++
      ascii ": invalid conversion specification")

/-- Goes through a format once. -/
def putAll (invocation : Invocation) : Nat → Bytes → State → Action State
  | 0, _, state => pure state
  | _ + 1, [], state => pure state
  | fuel + 1, b :: rest, state => do
      if b == byteOf '%' then
        let (rest, state) ← putDirective invocation rest state
        putAll invocation fuel rest state
      else if b == byteOf '\\' then
        match readEscape false rest with
        | .bytes bytes rest => putAll invocation fuel rest (state.put bytes)
        | .stop => finish invocation state 0
        | .wrong complaint => die invocation state complaint
      else putAll invocation fuel rest (state.put [b])

/-- Goes through a format as long as that takes arguments. -/
def putRounds (invocation : Invocation) (format : Bytes) : Nat → State → Action State
  | 0, state => pure state
  | rounds + 1, state => do
      let left := state.arguments.length
      let state ← putAll invocation (format.length + 1) format state
      if state.arguments.isEmpty || state.arguments.length == left then pure state
      else putRounds invocation format rounds state

def run (invocation : Invocation) : Action Nat := do
  let words := invocation.arguments
  if words == [ascii "--help"] || words == [ascii "--version"] then pure 0
  else
    let words := if words.head? == some (ascii "--") then words.tail else words
    match words with
    | [] => invocation.misuse (ascii "missing operand") 1
    | format :: arguments =>
        let state ← putRounds invocation format (arguments.length + 1) ⟨[], arguments, false⟩
        match state.arguments with
        | extra :: _ =>
            invocation.complain
              (ascii "warning: ignoring excess arguments, starting with " ++ Quoting.sign extra)
        | [] => pure ()
        invocation.emit state.written.reverse.flatten 1
        pure (if state.failed then 1 else 0)

end PipelineShell.Machine.Utility.Formatted
