/-
# Machine.Script.Word -- reading words

What a character means depends on where it stands: outside quotes, between quotes
of either kind, in a document, or in an expression (`Mode`).  Substitutions may be
nested in any of them, and each of them begins a new `Layer`.  Commands inside a
word are read by the reader of commands, which is a parameter here.
-/
import PipelineShell.Machine.Script.Source

namespace PipelineShell.Machine.Script

set_option autoImplicit false

namespace WordReader

/-! ## What characters mean -/

/-- Where a character stands. -/
inductive Mode where
  | base
  | double
  | single
  | arithmetic
  deriving DecidableEq, Repr

inductive Meaning where
  | word
  /-- It would be special later on if it were not quoted. -/
  | guarded
  | newline
  | backslash
  | singleQuote
  | doubleQuote
  | endQuote
  | dollar
  | closeBrace
  | openParenthesis
  | closeParenthesis
  | backquote
  /-- It ends a word. -/
  | special
  deriving DecidableEq, Repr

/-- Bytes that are guarded wherever they stand. -/
def isReserved (b : UInt8) : Bool := 0x81 ≤ b && b ≤ 0x88

def isPatternSign (b : UInt8) : Bool := (ascii "!*?[=~:/-]").contains b

def meaning (mode : Mode) (b : UInt8) : Meaning :=
  if isReserved b then .guarded
  else
    match mode, charOf b with
    | _, '\n' => .newline
    | .single, '\'' => .endQuote
    | .single, '\\' => .guarded
    | .single, _ => if isPatternSign b then .guarded else .word
    | _, '\\' => .backslash
    | _, '\x60' => .backquote
    | _, '$' => .dollar
    | _, '\x7d' => .closeBrace
    | .double, '"' => .endQuote
    | .double, _ => if isPatternSign b then .guarded else .word
    | .arithmetic, '(' => .openParenthesis
    | .arithmetic, ')' => .closeParenthesis
    | .arithmetic, _ => .word
    | .base, '\'' => .singleQuote
    | .base, '"' => .doubleQuote
    | .base, _ => if (ascii "<>();&| \t").contains b then .special else .word

def isSign (b : UInt8) : Bool := (ascii "!#$*-?@").contains b

/-! ## Where reading is -/

/-- A stretch that has its own rules. -/
structure Layer where
  mode : Mode
  /-- Double quotes are open inside a substitution. -/
  innerDouble : Bool
  /-- The layer was begun by a substitution. -/
  isPushed : Bool
  isDouble : Bool
  /-- How many substitutions are open, and how many of them between quotes. -/
  depth : Nat
  doubleDepth : Nat
  parentheses : Nat

def Layer.of (mode : Mode) : Layer := ⟨mode, false, false, false, 0, 0, 0⟩

inductive Opening where
  | parameter (operation : Operation) (orEmpty : Bool) (name : Bytes)
  | arithmetic

/-- What a word has come to so far. -/
structure Scan where
  layer : Layer
  below : List Layer
  /-- Pieces, the latest first. -/
  out : List Piece
  /-- What is open, with the pieces in front of it. -/
  opened : List (Opening × List Piece)
  isQuoted : Bool

namespace Scan

def put (scan : Scan) (piece : Piece) : Scan := { scan with out := piece :: scan.out }

def plain (scan : Scan) (b : UInt8) : Scan := scan.put (.plain b)

def escaped (scan : Scan) (b : UInt8) : Scan := scan.put (.escaped b)

def setLayer (scan : Scan) (layer : Layer) : Scan := { scan with layer }

def push (scan : Scan) (layer : Layer) : Scan :=
  { scan with layer, below := scan.layer :: scan.below }

def pop (scan : Scan) : Scan :=
  match scan.below with
  | layer :: below => { scan with layer, below }
  | [] => scan

def begin (scan : Scan) (opening : Opening) : Scan :=
  { scan with opened := (opening, scan.out) :: scan.opened, out := [] }

def finish (scan : Scan) : Scan :=
  match scan.opened with
  | (.parameter operation orEmpty name, front) :: opened =>
      { scan with
        out := .parameter operation orEmpty name scan.out.reverse :: front, opened }
  | (.arithmetic, front) :: opened =>
      { scan with out := .arithmetic scan.out.reverse :: front, opened }
  | [] => scan

end Scan

/-- What is read. -/
inductive Purpose where
  | word
  /-- A text in which only substitutions count. -/
  | text
  /-- A document up to a line of its own. -/
  | document (mark : Bytes) (dropsTabs : Bool)

def Purpose.isWord : Purpose → Bool
  | .word => true
  | _ => false

/-! ## Substitutions

The commands inside a substitution are read by `commands`. -/

section Substitution

open Reading (cursor endurance inset modifySource next nextLine take unget wrong)

variable (commands : Reading (Option Command))

/-- Reads characters as long as they fit.  Answers them and the first that does
not. -/
def readWhile (fits : UInt8 → Bool) : Nat → Option UInt8 → Bytes → Reading (Bytes × Option UInt8)
  | 0, c, taken => pure (taken.reverse, c)
  | fuel + 1, some b, taken => do
      if fits b then
        let c ← next
        readWhile fits fuel c (b :: taken)
      else pure (taken.reverse, some b)
  | _ + 1, none, taken => pure (taken.reverse, none)

/-- The documents that still have to be read are put aside. -/
def withoutAwaited {α : Type} (action : Reading α) : Reading α := do
  let awaited := (← cursor).awaited
  modify fun cursor => { cursor with awaited := [] }
  let a ← action
  modify fun cursor => { cursor with awaited }
  pure a

/-- Reads from another text, and goes on in the first afterwards. -/
def readingFrom {α : Type} (text : Bytes) (action : Reading α) : Reading α := do
  let source := (← cursor).source
  modifySource fun _ => Source.ofText text
  let a ← action
  modifySource fun _ => source
  pure a

/-- The text between backquotes; backslashes in it lose their meaning in front of
some signs. -/
def readBackquoted (isDouble : Bool) : Nat → Bytes → Reading Bytes
  | 0, _ => wrong "EOF in backquote substitution"
  | fuel + 1, taken => do
      match ← next with
      | none => wrong "EOF in backquote substitution"
      | some b =>
        if b == byteOf '\x60' then pure taken.reverse
        else if b == byteOf '\\' then
          match ← take with
          | none => readBackquoted isDouble fuel (byteOf '\\' :: taken)
          | some c =>
              let isPlain := c == byteOf '\\' || c == byteOf '\x60' || c == byteOf '$' ||
                (isDouble && c == byteOf '"')
              readBackquoted isDouble fuel
                (if isPlain then c :: taken else c :: byteOf '\\' :: taken)
        else
          if b == byteOf '\n' then nextLine
          readBackquoted isDouble fuel (b :: taken)

def readOldCommand (readDocuments : Reading Unit) (scan : Scan) : Reading Scan := do
  let text ← readBackquoted scan.layer.isDouble endurance []
  let command ← withoutAwaited <| readingFrom text do
    let command ← commands
    readDocuments
    pure command
  modify fun cursor => { cursor with isReturned := false }
  pure (scan.put (.output command))

/-- Reads the name of a parameter in braces and what is done with it, from its
first character on.  The last answer is whether nothing but the value is asked
for. -/
def readBraced (first : Option UInt8) : Reading (Operation × Bool × Bytes × Bool) := do
  let (operation, name, c) ← readName first
  match operation with
  | some operation =>
      let operation := if operation == .length && c != some (byteOf '\x7d') then .bad else operation
      unget c
      pure (operation, false, name, false)
  | none =>
    match c.map charOf with
    | some '%' =>
        let d ← next
        if d == c then pure (.cutLongEnd, false, name, true)
        else
          unget d
          pure (.cutEnd, false, name, true)
    | some '#' =>
        let d ← next
        if d == c then pure (.cutLongStart, false, name, true)
        else
          unget d
          pure (.cutStart, false, name, true)
    | some ':' =>
        let d ← next
        pure (operationOf d, true, name, false)
    | _ => pure (operationOf c, false, name, false)
where
  /-- The operation that a character asks for. -/
  operationOf (c : Option UInt8) : Operation :=
    match c.map charOf with
    | some '\x7d' => .value
    | some '-' => .instead
    | some '+' => .alternative
    | some '?' => .demand
    | some '=' => .assign
    | _ => .bad
  /-- The name, with the character behind it; an operation if that is settled. -/
  readName (c : Option UInt8) : Reading (Option Operation × Bytes × Option UInt8) := do
    match c with
    | none => do
        let _ ← next
        pure (some .bad, [], none)
    | some b =>
      if Ascii.beginsName b || Ascii.isDigit b then
        let (name, c) ← readPlain b
        pure (none, name, c)
      else if b == byteOf '\x7d' then pure (some .bad, [], c)
      else
        let d ← next
        if b == byteOf '#' then
          match d.filter fun d => Ascii.isNameByte d with
          | some d =>
              let (name, c) ← readPlain d
              pure (some .length, name, c)
          | none => do
              let e ← next
              if d == some (byteOf '\x7d') || e != some (byteOf '\x7d') then
                unget e
                pure (none, [b], d)
              else
                match d.filter isSign with
                | some sign => pure (some .length, [sign], e)
                | none => pure (some .bad, [], e)
        else if isSign b then pure (none, [b], d)
        else pure (some .bad, [], d)
  /-- A name or a number. -/
  readPlain (b : UInt8) : Reading (Bytes × Option UInt8) :=
    if Ascii.isDigit b then readWhile Ascii.isDigit endurance (some b) []
    else readWhile Ascii.isNameByte endurance (some b) []

def readParameter (first : UInt8) (scan : Scan) : Reading Scan := do
  if first != byteOf '\x7b' then
    if Ascii.beginsName first then
      let (name, c) ← readWhile Ascii.isNameByte endurance (some first) []
      unget c
      pure (scan.put (.parameter .value false name []))
    else pure (scan.put (.parameter .value false [first] []))
  else
    let (operation, orEmpty, name, isCut) ← readBraced (← next)
    let isValue := operation == .value && !orEmpty
    if isValue then pure (scan.put (.parameter .value false name []))
    else
      let layer := scan.layer
      let mode := if isCut then .base else if layer.mode == .arithmetic then .double else layer.mode
      let scan :=
        if mode != layer.mode || layer.innerDouble then
          scan.push { Layer.of mode with isPushed := true, isDouble := mode != .base }
        else scan
      let layer := scan.layer
      pure ((scan.setLayer { layer with
        depth := layer.depth + 1
        doubleDepth := if layer.isDouble then layer.doubleDepth + 1 else layer.doubleDepth }).begin
          (.parameter operation orEmpty name))

/-- Commands that end where a parenthesis closes: the token behind them has been
looked at and given back. -/
def readClosing : Reading Unit := do
  let found := (← cursor).token
  modify fun cursor => { cursor with isReturned := false }
  if found != .closing then
    wrong (found.name ++ " unexpected (expecting " ++ Token.closing.name ++ ")")

def readDollar (readDocuments : Reading Unit) (scan : Scan) : Reading Scan := do
  let isMark := (← cursor).expected.mark
  let c ← next
  match c with
  | some b =>
    if isMark || !(b == byteOf '(' || b == byteOf '\x7b' || Ascii.isNameByte b || isSign b) then
      unget c
      pure (scan.plain (byteOf '$'))
    else if b == byteOf '(' then
      let d ← next
      if d == some (byteOf '(') then
        pure ((scan.push { Layer.of .arithmetic with isDouble := true }).begin .arithmetic)
      else
        unget d
        let command ← withoutAwaited do
          let command ← commands
          readClosing
          readingFrom [] readDocuments
          pure command
        pure (scan.put (.output command))
    else readParameter b scan
  | none =>
      unget c
      pure (scan.plain (byteOf '$'))

/-! ## Words -/

def nextIn (scan : Scan) : Reading (Option UInt8) :=
  if scan.layer.mode == .single then take else next

def readBackslash (isDocument : Bool) (scan : Scan) : Reading Scan := do
  let c ← take
  match c with
  | none => do
      unget c
      pure (scan.escaped (byteOf '\\'))
  | some b =>
      let layer := scan.layer
      let staysLiteral := layer.isDouble && b != byteOf '\\' && b != byteOf '\x60' &&
        b != byteOf '$' && (b != byteOf '"' || (isDocument && layer.depth == 0)) &&
        (b != byteOf '\x7d' || layer.depth == 0)
      let scan := if staysLiteral then scan.escaped (byteOf '\\') else scan
      pure { scan.escaped b with isQuoted := true }

def openQuote (isDocument : Bool) (isDouble : Bool) (scan : Scan) : Scan :=
  let layer := scan.layer
  let layer :=
    if isDouble then
      { layer with
        mode := .double, isDouble := true
        innerDouble := if layer.depth != 0 then !layer.innerDouble else layer.innerDouble }
    else { layer with mode := .single }
  let scan := scan.setLayer layer
  if isDocument then scan else scan.put .quoteMark

def closeQuote (isDocument : Bool) (b : UInt8) (scan : Scan) : Scan :=
  let layer := scan.layer
  if isDocument && layer.depth == 0 then scan.plain b
  else
    let layer :=
      if layer.doubleDepth == 0 then { layer with mode := .base, isDouble := false } else layer
    let layer :=
      if b == byteOf '"' && layer.depth != 0 then { layer with innerDouble := !layer.innerDouble }
      else layer
    let scan := { scan.setLayer layer with isQuoted := true }
    if isDocument then scan else scan.put .quoteMark

def closeParameter (b : UInt8) (scan : Scan) : Scan :=
  let layer := scan.layer
  if layer.innerDouble || layer.depth == 0 then scan.plain b
  else
    let layer := { layer with depth := layer.depth - 1 }
    let scan := scan.setLayer layer
    (if layer.depth == 0 && layer.isPushed then scan.pop
      else scan.setLayer { layer with doubleDepth := layer.doubleDepth - 1 }).finish

def closeExpression (b : UInt8) (scan : Scan) : Reading Scan := do
  let layer := scan.layer
  if 0 < layer.parentheses then
    pure ((scan.plain b).setLayer { layer with parentheses := layer.parentheses - 1 })
  else
    let c ← next
    if c == some b then pure scan.pop.finish
    else
      unget c
      pure (scan.plain b)

/-- Looks whether a line of a document is the one that ends it, and answers the
character to go on with. -/
def readMark (mark : Bytes) (dropsTabs : Bool) (first : Option UInt8) :
    Reading (Option UInt8) := do
  let c ← if dropsTabs then
    let (_, c) ← skipTabs endurance first
    pure c else pure first
  compare mark c []
where
  skipTabs : Nat → Option UInt8 → Reading (Unit × Option UInt8)
    | 0, c => pure ((), c)
    | fuel + 1, c => do
        if c == some (byteOf '\t') then
          let c ← take
          skipTabs fuel c
        else pure ((), c)
  /-- The first character comes back, and what was read behind it is put in. -/
  giveBack (read : Bytes) (last : Option UInt8) : Reading (Option UInt8) := do
    match read.reverse ++ last.toList with
    | [] => pure last
    | first :: rest =>
        if !rest.isEmpty then inset rest none
        pure (some first)
  compare : Bytes → Option UInt8 → Bytes → Reading (Option UInt8)
    | [], c, read => do
        if c == some (byteOf '\n') || c.isNone then
          nextLine
          pure none
        else giveBack read c
    | b :: mark, c, read => do
        if c == some b then
          let d ← take
          compare mark d (b :: read)
        else giveBack read c

def startLine (purpose : Purpose) (c : Option UInt8) : Reading (Option UInt8) :=
  match purpose with
  | .document mark dropsTabs => readMark mark dropsTabs c
  | _ => pure c

/-- Reads characters from a first one on.  Answers also the character that ended
the word. -/
def readPieces (readDocuments : Reading Unit) (purpose : Purpose) :
    Nat → Option UInt8 → Scan → Reading (Scan × Option UInt8)
  | 0, c, scan => pure (scan, c)
  | _ + 1, none, scan => pure (scan, none)
  | fuel + 1, some b, scan => do
      let isDocument := !purpose.isWord
      let goOn (scan : Scan) : Reading (Scan × Option UInt8) := do
        let c ← nextIn scan
        readPieces readDocuments purpose fuel c scan
      match meaning scan.layer.mode b with
      | .newline =>
          if scan.layer.mode == .base && scan.layer.depth == 0 then pure (scan, some b)
          else
            nextLine
            let c ← nextIn scan
            let c ← startLine purpose c
            readPieces readDocuments purpose fuel c (scan.plain b)
      | .word => goOn (scan.plain b)
      | .guarded =>
          goOn (if !isDocument || scan.layer.isDouble then scan.escaped b else scan.plain b)
      | .backslash => do goOn (← readBackslash isDocument scan)
      | .singleQuote => goOn (openQuote isDocument false scan)
      | .doubleQuote => goOn (openQuote isDocument true scan)
      | .endQuote => goOn (closeQuote isDocument b scan)
      | .dollar => do goOn (← readDollar commands readDocuments scan)
      | .closeBrace => goOn (closeParameter b scan)
      | .openParenthesis =>
          goOn ((scan.plain b).setLayer
            { scan.layer with parentheses := scan.layer.parentheses + 1 })
      | .closeParenthesis => do goOn (← closeExpression b scan)
      | .backquote =>
          if (← cursor).expected.mark then
            goOn { scan.plain b with isQuoted := true }
          else goOn (← readOldCommand commands readDocuments scan)
      | .special =>
          if scan.layer.depth == 0 then pure (scan, some b) else goOn (scan.plain b)

/-- Reads a word, or a text or document up to its end. -/
def readAll (readDocuments : Reading Unit) (purpose : Purpose) (mode : Mode)
    (first : Option UInt8) : Reading (Scan × Option UInt8) := do
  let layer := { Layer.of mode with isDouble := mode == .double }
  let c ← startLine purpose first
  let (scan, c) ← readPieces commands readDocuments purpose endurance c
    ⟨layer, [], [], [], false⟩
  if scan.layer.mode == .arithmetic then wrong "Missing '))'"
  else if scan.layer.mode != .base && purpose.isWord then wrong "Unterminated quoted string"
  else if scan.layer.depth != 0 then wrong "Missing '\x7d'"
  else pure (scan, c)

/-! ## Redirections -/

/-- Reads the sign of a redirection, given its first character and the descriptor in
front of it. -/
def readRedirection (sign : UInt8) (descriptor : Option Nat) : Reading Unit := do
  let c ← next
  let (direction, dropsTabs) ←
    if sign == byteOf '>' then
      match c.map charOf with
      | some '>' => pure (Direction.append, false)
      | some '|' => pure (.clobber, false)
      | some '&' => pure (.outputCopy, false)
      | _ => do
          unget c
          pure (.output, false)
    else
      match c.map charOf with
      | some '<' => do
          let d ← next
          if d == some (byteOf '-') then pure (.document true, true)
          else
            unget d
            pure (.document true, false)
      | some '&' => pure (.inputCopy, false)
      | some '>' => pure (.both, false)
      | _ => do
          unget c
          pure (.input, false)
  modify fun cursor => { cursor with
    direction, dropsTabs
    descriptor := descriptor.getD (if sign == byteOf '>' then 1 else 0) }

def readWord (readDocuments : Reading Unit) (first : Option UInt8) : Reading Token := do
  let (scan, c) ← readAll commands readDocuments .word .base first
  let word := scan.out.reverse
  let number? : Option (Option Nat) := match word with
    | [] => some none
    | [.plain b] => if Ascii.isDigit b then some (some (Ascii.digitValue b)) else none
    | _ => none
  match c.filter (fun b => b == byteOf '>' || b == byteOf '<'), number? with
  | some sign, some descriptor =>
      if scan.isQuoted then finish scan word c
      else
        readRedirection sign descriptor
        pure .redirection
  | _, _ => finish scan word c
where
  finish (scan : Scan) (word : Word) (c : Option UInt8) : Reading Token := do
    unget c
    modify fun cursor => { cursor with word, isQuoted := scan.isQuoted }
    pure .word

end Substitution

end WordReader

end PipelineShell.Machine.Script
