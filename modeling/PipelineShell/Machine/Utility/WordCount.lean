/-
# Machine.Utility.WordCount -- counting lines, words and bytes

Counts stand in columns that are as wide as the sizes of the files ask for, and
at least seven wide if one of the inputs has no size.  The sum of all files
follows in a last row if there are several.
-/
import PipelineShell.Machine.Utility.Basic
import PipelineShell.Text.Blank

namespace PipelineShell.Machine.Utility.WordCount

set_option autoImplicit false

open PipelineShell.Machine.Action (ask exit readAll readOnce repeatedly)

/-- What is counted. -/
structure Asked where
  lines : Bool
  words : Bool
  characters : Bool
  bytes : Bool
  width : Bool

structure Counts where
  lines : Nat
  words : Nat
  bytes : Nat
  /-- The width of the widest line. -/
  width : Nat

def Counts.zero : Counts := ⟨0, 0, 0, 0⟩

def Counts.add (a b : Counts) : Counts :=
  ⟨a.lines + b.lines, a.words + b.words, a.bytes + b.bytes, max a.width b.width⟩

/-- When the sum is shown. -/
inductive Total where
  | ifSeveral
  | always
  | only
  | never
  deriving DecidableEq, Repr

/-! ## Options -/

def spec : Options.Spec where
  letters := Options.plain "clLmw"
  long := [⟨"bytes", .never, 'c'⟩, ⟨"chars", .never, 'm'⟩, ⟨"lines", .never, 'l'⟩,
    ⟨"words", .never, 'w'⟩, ⟨"debug", .never, '\x03'⟩, ⟨"files0-from", .always, '\x04'⟩,
    ⟨"max-line-length", .never, 'L'⟩, ⟨"total", .always, '\x05'⟩] ++ commonLong
  endsAtOperand := false

/-- What options ask for; without any, lines, words and bytes. -/
def askedBy (codes : List Char) : Asked :=
  let has (c : Char) := codes.contains c
  if "clLmw".toList.any has then ⟨has 'l', has 'w', has 'm', has 'c', has 'L'⟩
  else ⟨true, true, false, true, false⟩

def Asked.number (asked : Asked) : Nat :=
  [asked.lines, asked.words, asked.characters, asked.bytes, asked.width].count true

def totals : List (String × Total) :=
  [("auto", .ifSeveral), ("always", .always), ("only", .only), ("never", .never)]

/-- The choice that a name, possibly cut short, stands for. -/
def total (invocation : Invocation) (name : Bytes) : Action Total :=
  let fitting := totals.filter fun entry => name.isPrefixOf (ascii entry.1)
  match totals.find? (fun entry => ascii entry.1 == name), fitting with
  | some entry, _ => pure entry.2
  | none, [entry] => pure entry.2
  | none, several => do
      let fault := if several.isEmpty then "invalid argument " else "ambiguous argument "
      let _ ← Action.writeAll 2 (invocation.name ++ ascii (": " ++ fault) ++ Quoting.sign name ++
        ascii " for '--total'\nValid arguments are:\n" ++
        totals.flatMap fun entry => ascii ("  - '" ++ entry.1 ++ "'\n"))
      invocation.refuse 1

/-! ## Counting -/

/-- Where in the text the counting is. -/
structure State where
  counts : Counts
  isInWord : Bool
  column : Nat

/-- Counts one byte.  A word begins with a byte that can be printed; others neither
begin nor end one. -/
def stepByte (state : State) (b : UInt8) : State :=
  let counts := state.counts
  let bytes := counts.bytes + 1
  let endWord := if state.isInWord then counts.words + 1 else counts.words
  if b == 0x0A then
    ⟨⟨counts.lines + 1, endWord, bytes, max counts.width state.column⟩, false, 0⟩
  else if b == 0x0D || b == 0x0C then
    ⟨⟨counts.lines, endWord, bytes, max counts.width state.column⟩, false, 0⟩
  else if b == 0x09 then
    ⟨⟨counts.lines, endWord, bytes, counts.width⟩, false, state.column + (8 - state.column % 8)⟩
  else if b == 0x20 then ⟨⟨counts.lines, endWord, bytes, counts.width⟩, false, state.column + 1⟩
  else if b == 0x0B then ⟨⟨counts.lines, endWord, bytes, counts.width⟩, false, state.column⟩
  else if Ascii.isPrint b then
    ⟨⟨counts.lines, counts.words, bytes, counts.width⟩, true, state.column + 1⟩
  else ⟨⟨counts.lines, counts.words, bytes, counts.width⟩, state.isInWord, state.column⟩

def countsOf (text : Bytes) : Counts :=
  let state := text.foldl stepByte ⟨.zero, false, 0⟩
  { state.counts with
    words := state.counts.words + if state.isInWord then 1 else 0
    width := max state.counts.width state.column }

def pageSize : Nat := 4096

/-- Counts only the bytes that are left in something open, by its size where it has
one. -/
def countBytes (descriptor : Nat) : Action (Option Int × Nat) := do
  let skipped ← show Action (Option Nat × Nat) from do
    match ← ask (.statusOf descriptor) with
    | .error _ => pure (none, 0)
    | .ok status =>
      match ← ask (.seek descriptor .current 0) with
      | .error _ => pure (none, 0)
      | .ok position =>
        if status.kind != .regular then pure (none, 0)
        else if status.size % pageSize != 0 then pure (some (status.size - position), 0)
        else
          let near := status.size - status.size % (pageSize + 1)
          if position < near then
            match ← ask (.seek descriptor .current near) with
            | .ok _ => pure (none, near - position)
            | .error _ => pure (none, 0)
          else pure (none, 0)
  match skipped with
  | (some n, _) => pure (none, n)
  | (none, n) =>
    match ← readAll descriptor with
    | .error number => pure (some number, n)
    | .ok bytes => pure (none, n + bytes.length)

def countOpen (asked : Asked) (descriptor : Nat) : Action (Option Int × Counts) := do
  if asked.bytes && !asked.characters && !asked.lines && !asked.words && !asked.width then
    let (fault, bytes) ← countBytes descriptor
    pure (fault, { Counts.zero with bytes })
  else
    let (fault, bytes) ← repeatedly ((none, []) : Option Int × List Bytes) ([] : List Bytes)
      fun received => do
        match ← readOnce descriptor Action.wholeSize with
        | .error number => pure (.inr (some number, received))
        | .ok [] => pure (.inr (none, received))
        | .ok bytes => pure (.inl (bytes :: received))
    pure (fault, countsOf bytes.reverse.flatten)

/-! ## Rows -/

def column (width n : Nat) : Bytes :=
  let digits := Ascii.decimal n
  List.replicate (width - digits.length) 0x20 ++ digits

def row (asked : Asked) (width : Nat) (counts : Counts) (name : Option Bytes) : Bytes :=
  let numbers :=
    (if asked.lines then [counts.lines] else []) ++ (if asked.words then [counts.words] else []) ++
      (if asked.characters then [counts.bytes] else []) ++
      (if asked.bytes then [counts.bytes] else []) ++ (if asked.width then [counts.width] else [])
  (ascii " ").intercalate (numbers.map (column width)) ++
    (match name with
      | some name => ascii " " ++ name
      | none => []) ++ ascii "\n"

/-- A name as it stands in a row: quoted if it holds a line end. -/
def shownName (name : Bytes) : Bytes :=
  if name.contains 0x0A then Quoting.forShell name else name

/-- One of the inputs: the program's own, without a name; a file; or a name that
cannot be used, with the complaint about it. -/
inductive Source where
  | unnamed
  | file (path : Bytes)
  | unusable (complaint : Bytes)
  deriving DecidableEq, Repr

/-- What is known of the inputs before they are read. -/
def statuses : List Source → Action (List (Option FileStatus))
  | [] => pure []
  | source :: rest => do
      let answer ← match source with
        | .unnamed => ask (.statusOf 0)
        | .file path => if path == dash then ask (.statusOf 0) else ask (.status path true)
        | .unusable _ => pure (.error Errno.noEntry)
      let others ← statuses rest
      pure ((match answer with
        | .ok status => some status
        | .error _ => none) :: others)

def columnWidth (statuses : List (Option FileStatus)) : Nat :=
  let known := statuses.filterMap id
  let least := if known.any (fun status => status.kind != .regular) then 7 else 1
  let sizes := (known.filter fun status => status.kind == .regular).map (·.size)
  max least (Ascii.decimal (sizes.foldl (· + ·) 0)).length

/-! ## Files -/

/-- How rows are written. -/
structure Layout where
  asked : Asked
  width : Nat
  total : Total

/-- Counts what is open and shows the row; answers whether all went well. -/
def rowOfOpen (invocation : Invocation) (layout : Layout) (path : Option Bytes)
    (descriptor : Nat) : Action (Bool × Counts) := do
  let (fault, counts) ← countOpen layout.asked descriptor
  match fault with
  | some number =>
      let name := match path with
        | some path => Quoting.forShell path
        | none => Quoting.forShell (ascii "standard input")
      invocation.complain (because name number)
  | none => pure ()
  if layout.total != .only then
    invocation.emit (row layout.asked layout.width counts (path.map shownName)) 1
  pure (fault.isNone, counts)

def rowOf (invocation : Invocation) (layout : Layout) (source : Source) :
    Action (Bool × Counts) := do
  match source with
  | .unnamed => rowOfOpen invocation layout none 0
  | .unusable complaint =>
      invocation.complain complaint
      pure (false, .zero)
  | .file path =>
    if path == dash then rowOfOpen invocation layout (some path) 0
    else
      match ← ask (.openFile path .reading 0) with
      | .error number =>
          invocation.complain (because (Quoting.forShell path) number)
          pure (false, .zero)
      | .ok descriptor =>
          let answer ← rowOfOpen invocation layout (some path) descriptor
          let _ ← ask (.close descriptor)
          pure answer

def rowsOf (invocation : Invocation) (layout : Layout) :
    List Source → Bool → Counts → Action (Bool × Counts)
  | [], well, sum => pure (well, sum)
  | source :: rest, well, sum => do
      let (good, counts) ← rowOf invocation layout source
      rowsOf invocation layout rest (well && good) (sum.add counts)

def listedNames (text : Bytes) : List Bytes :=
  let segments := Text.segments 0 text
  if segments.getLast? == some [] then segments.dropLast else segments

def listedSources (list : Bytes) (text : Bytes) : List Source :=
  let names := listedNames text
  (names.zip (List.range names.length)).map fun entry =>
    if entry.1.isEmpty then
      .unusable (Quoting.forShell list ++ ascii ":" ++ Ascii.decimal (entry.2 + 1) ++
        ascii ": invalid zero-length file name")
    else if list == dash && entry.1 == dash then
      .unusable (ascii "when reading file names from stdin, no file name of '-' allowed")
    else .file entry.1

/-- The inputs that a file lists, and whether their number was known beforehand. -/
def listed (invocation : Invocation) (path : Bytes) : Action (List Source × Bool) := do
  let descriptor ←
    if path == dash then pure 0
    else
      match ← ask (.openFile path .reading 0) with
      | .ok descriptor => pure descriptor
      | .error number =>
          invocation.die (because (ascii "cannot open " ++ Quoting.forShellAlways path ++
            ascii " for reading") number) 1
  let isFile := match ← ask (.statusOf descriptor) with
    | .ok status => status.kind == .regular
    | .error _ => false
  match ← readAll descriptor with
  | .ok text => pure (listedSources path text, isFile)
  | .error number =>
      invocation.die (because (Quoting.forShell path ++ ascii ": read error") number) 1

/-- The inputs of the program, and whether their number was known beforehand. -/
def sources (invocation : Invocation) (items : List Options.Item) :
    Action (List Source × Bool) := do
  let operands := Options.operands items
  let list := items.reverse.findSome? fun
    | .option '\x04' argument => argument
    | _ => none
  match list, operands with
  | none, [] => pure ([.unnamed], true)
  | none, paths =>
      pure (paths.map fun path =>
        if path.isEmpty then .unusable (ascii "invalid zero-length file name") else .file path,
        true)
  | some path, [] => listed invocation path
  | some _, extra :: _ => do
      let _ ← Action.writeAll 2 (invocation.name ++ ascii ": extra operand " ++
        Quoting.sign extra ++ ascii "\nfile operands cannot be combined with --files0-from\n")
      invocation.refuse 1

def run (invocation : Invocation) : Action Nat := do
  let items ← invocation.items spec 1
  endForCommon items
  let total ← items.foldlM (fun chosen item =>
    match item with
    | .option '\x05' (some name) => total invocation name
    | _ => pure chosen) Total.ifSeveral
  let asked := askedBy (Options.codes items)
  let (sources, isKnown) ← sources invocation items
  let known ← if !isKnown || (sources.length == 1 && asked.number == 1) then pure []
    else statuses sources
  let width := if total == .only || known.isEmpty then 1 else columnWidth known
  let layout : Layout := ⟨asked, width, total⟩
  let (well, sum) ← rowsOf invocation layout sources true .zero
  let showsSum : Bool := match total with
    | .ifSeveral => 1 < sources.length
    | .always => true
    | .only => true
    | .never => false
  if showsSum then
    invocation.emit (row asked width sum
      (if total == .only then none else some (ascii "total"))) 1
  if sources.any (fun source => source == .unnamed || source == .file dash) then
    match ← ask (.close 0) with
    | .ok () => pure ()
    | .error number => invocation.die (because dash number) 1
  pure (if well then 0 else 1)

end PipelineShell.Machine.Utility.WordCount
