/-
# Machine.Utility.Cat -- showing files one after the other

Without options the bytes go through unchanged.  With options they go through
`Cat.transform`, which numbers lines, leaves out repeated empty ones, and shows
what cannot be seen; its state carries on from one file to the next.
-/
import PipelineShell.Machine.Utility.Basic

namespace PipelineShell.Machine.Utility.Cat

set_option autoImplicit false

open PipelineShell.Machine.Action (ask exit readOnce repeatedly)

def spec : Options.Spec where
  letters := Options.plain "benstuvAET"
  long := [⟨"number-nonblank", .never, 'b'⟩, ⟨"number", .never, 'n'⟩,
    ⟨"squeeze-blank", .never, 's'⟩, ⟨"show-nonprinting", .never, 'v'⟩,
    ⟨"show-ends", .never, 'E'⟩, ⟨"show-tabs", .never, 'T'⟩, ⟨"show-all", .never, 'A'⟩] ++ commonLong
  endsAtOperand := false

/-- How bytes are shown. -/
structure Style where
  numbers : Bool
  /-- Only lines that are not empty are numbered. -/
  numbersFull : Bool
  squeezes : Bool
  showsEnds : Bool
  showsTabs : Bool
  showsControls : Bool

def styleOf (codes : List Char) : Style :=
  let has (letters : String) := codes.any fun c => letters.toList.contains c
  { numbers := has "bn"
    numbersFull := has "b"
    squeezes := has "s"
    showsEnds := has "eAE"
    showsTabs := has "tAT"
    showsControls := has "vetA" }

/-- Whether bytes go through unchanged. -/
def Style.isPlain (style : Style) : Bool :=
  !(style.numbers || style.squeezes || style.showsEnds || style.showsTabs || style.showsControls)

/-- Where in the text the transformation is. -/
structure State where
  /-- The line has bytes already. -/
  isInLine : Bool
  /-- How many empty lines came just before, at most two. -/
  emptyLines : Nat
  /-- The number of the last line that has one. -/
  line : Nat
  /-- A carriage return is held back, because a line end may follow. -/
  holdsReturn : Bool

def State.start : State := ⟨false, 0, 0, false⟩

/-- The number of a line, in a column of its own. -/
def numeral (n : Nat) : Bytes :=
  let digits := Ascii.decimal n
  List.replicate (6 - digits.length) 0x20 ++ digits ++ [0x09]

/-- A byte with control characters made visible. -/
def visible (showsTabs : Bool) (b : UInt8) : Bytes :=
  let low (b : UInt8) : Bytes :=
    if b == 0x7F then ascii "^?" else if b < 0x20 then [0x5E, b + 0x40] else [b]
  if b == 0x09 && !showsTabs then [b]
  else if 0x80 ≤ b then ascii "M-" ++ low (b - 0x80)
  else low b

def stepByte (style : Style) (state : State) (b : UInt8) : Bytes × State :=
  if b == 0x0A then
    let emptyLines := if state.isInLine then 0 else min 2 (state.emptyLines + 1)
    if style.squeezes && 2 ≤ emptyLines then ([], { state with emptyLines })
    else
      let isNumbered := 0 < emptyLines && style.numbers && !style.numbersFull
      let line := if isNumbered then state.line + 1 else state.line
      ((if isNumbered then numeral line else []) ++
        (if style.showsEnds then (if state.holdsReturn then ascii "^M$" else ascii "$") else []) ++
        [b], ⟨false, emptyLines, line, false⟩)
  else
    let held : Bytes := if state.holdsReturn then [0x0D] else []
    let isNumbered := !state.isInLine && style.numbers
    let line := if isNumbered then state.line + 1 else state.line
    let front := held ++ (if isNumbered then numeral line else [])
    let state : State := ⟨true, 0, line, false⟩
    if style.showsControls then (front ++ visible style.showsTabs b, state)
    else if b == 0x09 && style.showsTabs then (front ++ ascii "^I", state)
    else if b == 0x0D && style.showsEnds then (front, { state with holdsReturn := true })
    else (front ++ [b], state)

def transform (style : Style) (state : State) (bytes : Bytes) : Bytes × State :=
  let (written, state) := bytes.foldl (fun (written, state) b =>
    let (text, state) := stepByte style state b
    (text :: written, state)) (([] : List Bytes), state)
  (written.reverse.flatten, state)

def readSize : Nat := 131072

/-- Shows what can be read from a descriptor.  Answers the error that ended it, if
one did. -/
def show_ (invocation : Invocation) (style : Style) (descriptor : Nat) (state : State) :
    Action (Option Int × State) :=
  repeatedly (none, state) state fun state => do
    match ← readOnce descriptor readSize with
    | .error number => pure (.inr (some number, state))
    | .ok [] => pure (.inr (none, state))
    | .ok bytes =>
        let (text, state) := if style.isPlain then (bytes, state) else transform style state bytes
        invocation.emit text 1
        pure (.inl state)

/-- Whether showing a file would only add to that file. -/
def feedsItself (descriptor : Nat) (input output : FileStatus) : Action Bool := do
  if input.kind != .regular || input.identity != output.identity then pure false
  else
    match ← ask (.seek descriptor .current 0) with
    | .error _ => pure false
    | .ok position =>
        let appends : Bool ← ask (.isAppending 1)
        match ← ask (.seek 1 (if appends then .ending else .current) 0) with
        | .error _ => pure false
        | .ok reached => pure (position < reached)

/-- Shows one file that is open.  Answers whether all went well. -/
def showOpen (invocation : Invocation) (style : Style) (output : FileStatus) (path : Bytes)
    (descriptor : Nat) (state : State) : Action (Bool × State) := do
  match ← ask (.statusOf descriptor) with
  | .error number =>
      invocation.complain (because (Quoting.forShell path) number)
      pure (false, state)
  | .ok input =>
    if ← feedsItself descriptor input output then
      invocation.complain (Quoting.forShell path ++ ascii ": input file is output file")
      pure (false, state)
    else
      match ← show_ invocation style descriptor state with
      | (none, state) => pure (true, state)
      | (some number, state) =>
          invocation.complain (because (Quoting.forShell path) number)
          pure (false, state)

/-- Shows one file; a dash is the input. -/
def showFile (invocation : Invocation) (style : Style) (output : FileStatus) (path : Bytes)
    (state : State) : Action (Bool × State) := do
  if path == dash then showOpen invocation style output path 0 state
  else
    match ← ask (.openFile path .reading 0) with
    | .error number =>
        invocation.complain (because (Quoting.forShell path) number)
        pure (false, state)
    | .ok descriptor =>
        let answer ← showOpen invocation style output path descriptor state
        let _ ← ask (.close descriptor)
        pure answer

def showAll (invocation : Invocation) (style : Style) (output : FileStatus) :
    List Bytes → Bool → State → Action (Bool × State)
  | [], well, state => pure (well, state)
  | path :: rest, well, state => do
      let (good, state) ← showFile invocation style output path state
      showAll invocation style output rest (well && good) state

def run (invocation : Invocation) : Action Nat := do
  let items ← invocation.items spec 1
  endForCommon items
  let style := styleOf (Options.codes items)
  let paths := Options.operands items
  let paths := if paths.isEmpty then [dash] else paths
  match ← ask (.statusOf 1) with
  | .error number => invocation.die (because (ascii "standard output") number) 1
  | .ok output =>
    let (well, state) ← showAll invocation style output paths true .start
    if state.holdsReturn then invocation.emit [0x0D] 1
    if paths.contains dash then
      match ← ask (.close 0) with
      | .ok () => pure ()
      | .error number => invocation.complain (because (ascii "closing standard input") number)
    pure (if well then 0 else 1)

end PipelineShell.Machine.Utility.Cat
