/-
# Machine.Script.Expansion -- expanding words

An expansion goes through the pieces of a word and writes what they stand for to a
`Buffer`; parameters, commands and expressions are put in on the way.  What becomes
of the text then depends on what the word is for: it may be split into fields and
matched against file names (`fields`), taken as it is (`single`), or used as a
pattern (`pattern`).
-/
import PipelineShell.Machine.Script.Arithmetic
import PipelineShell.Machine.Script.Fields
import PipelineShell.Machine.Script.Filenames
import PipelineShell.Machine.Script.Job
import PipelineShell.Text.Blank

namespace PipelineShell.Machine.Script

set_option autoImplicit false

/-- How a word is expanded. -/
structure Way where
  /-- The text is split and matched. -/
  splits : Bool
  /-- Quoted bytes are told from others. -/
  guards : Bool
  /-- A tilde at the front counts. -/
  tilde : Bool
  /-- Tildes behind colons count, and the one behind the first equals sign. -/
  innerTilde : Bool
  /-- There has been an equals sign. -/
  afterEquals : Bool
  /-- The word stands in place of a parameter. -/
  isReplacement : Bool
  isQuoted : Bool
  deriving DecidableEq, Repr

namespace Way

def plain : Way := ⟨false, false, false, false, false, false, false⟩

def argument : Way := { plain with splits := true, guards := true, tilde := true }

def assignment : Way := { plain with innerTilde := true }

def fileName : Way := { plain with tilde := true }

def pattern : Way := { plain with guards := true, tilde := true }

def document : Way := { plain with isQuoted := true }

end Way

/-- The text that a word has come to. -/
structure Buffer where
  text : Array Glyph
  /-- The regions, the latest first. -/
  regions : List Region

abbrev Expand := StateT Buffer Sh

namespace Expansion

/-! ## Writing -/

def size : Expand Nat := do pure (← get).text.size

def put (glyph : Glyph) : Expand Unit := modify fun buffer =>
  { buffer with text := buffer.text.push glyph }

def region (start : Nat) (nulOnly : Bool) : Expand Unit := modify fun buffer =>
  { buffer with regions := ⟨start, buffer.text.size, nulOnly⟩ :: buffer.regions }

def cutText (length : Nat) : Expand Unit := modify fun buffer =>
  { buffer with text := buffer.text.take length }

def cutRegions (position : Nat) : Expand Unit := modify fun buffer =>
  let clip (region : Region) : Region := { region with stop := min region.stop position }
  match buffer.regions.reverse with
  | [] => buffer
  | first :: rest =>
      if position < first.stop then
        { buffer with regions := if position < first.start then [] else [clip first] }
      else
        match (first :: rest.takeWhile (·.start < position)).reverse with
        | last :: before => { buffer with regions := clip last :: before }
        | [] => buffer

def glyphOf (way : Way) (b : UInt8) : Glyph :=
  let isGuarded := way.guards && (WordReader.isReserved b ||
    (way.isQuoted && (WordReader.isPatternSign b || b == byteOf '\\')))
  if isGuarded then .escaped b else .plain b

/-- Writes a value.  Answers its length, with what guards its bytes. -/
def putValue (way : Way) (value : Bytes) : Expand Nat := do
  let glyphs := value.map (glyphOf way)
  modify fun buffer => { buffer with text := buffer.text ++ glyphs.toArray }
  pure (value.length + (glyphs.filter fun glyph => match glyph with
    | .escaped _ => true
    | _ => false).length)

/-! ## Parameters -/

def separators : Sh (Option Bytes) := Sh.setting? "IFS"

/-- Writes parameters with something between them. -/
def putAll (way : Way) (between : Bytes) : List Bytes → Expand Nat
  | [] => pure 0
  | [last] => putValue way last
  | word :: rest => do
      let front ← putValue way word
      let _ ← putValue way between
      let others ← putAll way between rest
      pure (front + between.length + others)

def between (way : Way) (isList : Bool) : Expand Bytes := do
  if isList && way.isQuoted && way.splits then pure [0]
  else
    match ← liftM separators with
    | none => pure (ascii " ")
    | some text => pure (if way.isQuoted || !way.splits then text.take 1 else [0])

/-- Writes the value of a parameter, if it has one.  Answers its length. -/
def putParameter (way : Way) (name : Bytes) : Expand (Option Nat) := do
  let shell ← liftM (Sh.look id)
  let number (n : Nat) : Expand (Option Nat) := do
    pure (some (← putValue way (Ascii.decimal n)))
  let text (value : Option Bytes) : Expand (Option Nat) := do
    match value with
    | none => pure none
    | some value => pure (some (← putValue way value))
  match name.map charOf with
  | ['$'] => number shell.rootPid
  | ['?'] => number shell.status
  | ['#'] => number shell.parameters.words.length
  | ['!'] => if shell.lastBackground == 0 then pure none else number shell.lastBackground
  | ['-'] => text (some (shell.options.filter (fun c => !c.isDigit) |>.map byteOf))
  | ['@'] => do
      pure (some (← putAll way (← between way true) shell.parameters.words))
  | ['*'] => do
      pure (some (← putAll way (← between way false) shell.parameters.words))
  | _ =>
      if name.all Ascii.isDigit then
        let n := Ascii.value name
        if Sh.greatest < n then pure none
        else text (if n == 0 then some shell.name else shell.parameters.words[n - 1]?)
      else do text (← liftM (Sh.value? name))

/-- A parameter that has no value but should have one. -/
def lacking {α : Type} (name : Bytes) (message : Option Bytes) (orEmpty : Bool) : Expand α :=
  Sh.fail (name ++ ascii ": " ++ match message with
    | some text => text
    | none => ascii (if orEmpty then "parameter not set or null" else "parameter not set"))

def upToNul (text : Bytes) : Bytes := text.takeWhile (· != 0)

/-- Where a text is cut at its start, so that what is cut off matches: the
positions are tried in order. -/
def cutStartAt (pattern text : Bytes) (positions : List Nat) : Option Nat :=
  positions.find? fun n => Pattern.fits pattern (upToNul (text.take n))

def cutEndAt (pattern text : Bytes) (positions : List Nat) : Option Nat :=
  positions.find? fun n => Pattern.fits pattern (upToNul (text.drop n))

def cutMatch (operation : Operation) (pattern : Bytes) (text : List Glyph) : List Glyph :=
  let bytes := text.map fun glyph => (glyph.byte?).getD 0
  let rising := List.range ((upToNul bytes).length + 1)
  let falling := (List.range (bytes.length + 1)).reverse
  match operation with
  | .cutStart =>
      match cutStartAt pattern bytes rising with
      | some n => text.drop n
      | none => text
  | .cutLongStart =>
      match cutStartAt pattern bytes falling with
      | some n => text.drop n
      | none => text
  | .cutEnd =>
      match cutEndAt pattern bytes falling with
      | some n => text.take n
      | none => text
  | .cutLongEnd =>
      match cutEndAt pattern bytes rising with
      | some n => text.take n
      | none => text
  | _ => text

/-! ## Tildes -/

def homeOf (user : Bytes) : Sh (Option Bytes) := do
  match ← Sh.ask (.openFile (ascii "/etc/passwd") .reading 0) with
  | .error _ => pure none
  | .ok descriptor =>
      let text ← Sh.lift (Action.readAll descriptor)
      let _ ← Sh.ask (.close descriptor)
      match text with
      | .error _ => pure none
      | .ok text =>
          pure ((Text.segments (byteOf '\n') text).findSome? fun line =>
            let parts := Text.segments (byteOf ':') line
            if parts.head? == some user then parts[5]? else none)

/-- The user that a tilde is followed by: how many pieces name it, or nothing if
they are no name. -/
def tildeUser (way : Way) : List Piece → Option Bytes
  | [] => some []
  | .plain b :: rest =>
      if b == Path.slash || (b == byteOf ':' && way.innerTilde) then some []
      else (tildeUser way rest).map (b :: ·)
  | _ => none

/-- Writes what a tilde stands for, given the pieces behind it.  Answers how many of
these have been used; nothing if the tilde stands for itself. -/
def putTilde (way : Way) (rest : List Piece) : Expand (Option Nat) := do
  match tildeUser way rest with
  | none => pure none
  | some user =>
      let home ← if user.isEmpty then liftM (Sh.setting? "HOME") else liftM (homeOf user)
      match home with
      | none => pure none
      | some home =>
          let _ ← putValue { way with isQuoted := true } home
          pure (some user.length)

/-! ## Commands -/

def readOutput (way : Way) (descriptor : Nat) : Expand Unit := do
  match ← liftM (Sh.lift (Action.readAll descriptor)) with
  | .ok text =>
      let _ ← putValue way (text.filter (· != 0))
  | .error _ => pure ()

def dropLineEnds (start : Nat) : Expand Unit := modify fun buffer =>
  let tail := (buffer.text.toList.drop start).reverse
  let ends := (tail.takeWhile (· == .plain (byteOf '\n'))).length
  { buffer with text := buffer.text.take (buffer.text.size - ends) }

def putOutput (evaluator : Evaluator) (way : Way) (command : Option Command) : Expand Unit := do
  let start ← size
  match command with
  | none => pure ()
  | some command =>
      let (reader, job) ← liftM (Job.startReading evaluator command)
      readOutput way reader
      let _ ← liftM (Sh.ask (.close reader))
      let status ← liftM (Job.awaitEnd job)
      liftM (Sh.change fun shell => { shell with substituted := status })
  dropLineEnds start
  if !way.isQuoted then region start false

/-! ## Pieces -/

/-- Where the expansion of a word is. -/
structure Position where
  way : Way
  /-- Quotes are open. -/
  inQuotes : Bool
  /-- So many of the next pieces have been used already. -/
  used : Nat
  /-- Where a stretch began that may be split. -/
  run : Option Nat

/-- Ends a stretch that may be split. -/
def closeRun (position : Position) : Expand Unit := do
  match position.run with
  | some start => if start < (← size) then region start false
  | none => pure ()

/-- Whether plain bytes in a word may be split. -/
def mayBreak (position : Position) : Bool :=
  position.way.isReplacement && !position.way.isQuoted && !position.inQuotes

/-- The way in which something in a word is expanded. -/
def Position.inner (position : Position) : Way :=
  { position.way with isQuoted := position.way.isQuoted || position.inQuotes, tilde := false }

def record (way : Way) (name : Bytes) (start : Nat) : Expand Unit := do
  if way.isQuoted then
    let words ← liftM (Sh.look (·.parameters.words))
    if name == ascii "@" && !words.isEmpty then region start true
  else region start false

/-- A parameter without a value is an error if that was asked for. -/
def checkSet (name : Bytes) : Expand Unit := do
  if ← liftM (Sh.hasOption 'u') then lacking name none false

mutual

def pieces (evaluator : Evaluator) : List Piece → Position → Expand Unit
  | [], position => closeRun position
  | piece :: rest, position => do
      if 0 < position.used then
        pieces evaluator rest { position with used := position.used - 1 }
      else
        match piece with
        | .plain b => do
            let isTilde := position.way.tilde && b == byteOf '~'
            let position := { position with way := { position.way with tilde := false } }
            let used ← if isTilde then putTilde position.way rest else pure none
            match used with
            | some n => do
                closeRun position
                pieces evaluator rest { position with used := n, run := none }
            | none => do
                let run ← if mayBreak position then
                    match position.run with
                    | some start => pure (some start)
                    | none => do pure (some (← size))
                  else pure position.run
                put (.plain b)
                let way := position.way
                let isFirstEquals := way.innerTilde && !way.afterEquals && b == byteOf '='
                let isColon := way.innerTilde && b == byteOf ':'
                let way := { way with
                  afterEquals := way.afterEquals || isFirstEquals
                  tilde := isFirstEquals || isColon }
                pieces evaluator rest { position with way, run }
        | .escaped b => do
            closeRun position
            put (if position.way.guards then .escaped b else .plain b)
            pieces evaluator rest
              { position with run := none, way := { position.way with tilde := false } }
        | .quoteMark => do
            closeRun position
            let position :=
              { position with run := none, way := { position.way with tilde := false } }
            let isList := match rest with
              | .parameter .value false name [] :: .quoteMark :: _ => name == ascii "@"
              | _ => false
            if !position.inQuotes && isList then
              parameter evaluator .value false (ascii "@") []
                { position.inner with isQuoted := true }
              pieces evaluator rest { position with used := 2 }
            else
              if position.way.guards then put .quoteMark
              pieces evaluator rest { position with inQuotes := !position.inQuotes }
        | .parameter operation orEmpty name word => do
            closeRun position
            parameter evaluator operation orEmpty name word position.inner
            pieces evaluator rest
              { position with run := none, way := { position.way with tilde := false } }
        | .output command => do
            closeRun position
            putOutput evaluator position.inner command
            pieces evaluator rest
              { position with run := none, way := { position.way with tilde := false } }
        | .arithmetic expression => do
            closeRun position
            let start ← size
            pieces evaluator expression ⟨.plain, false, 0, none⟩
            let text := Glyph.bytes ((← get).text.toList.drop start)
            cutText start
            cutRegions start
            let value ← liftM (Arithmetic.evaluate text)
            let way := position.inner
            let _ ← putValue way (Ascii.signed value)
            if !way.isQuoted then region start false
            pieces evaluator rest
              { position with run := none, way := { position.way with tilde := false } }

def parameter (evaluator : Evaluator) (operation : Operation) (orEmpty : Bool) (name : Bytes)
    (word : List Piece) (way : Way) : Expand Unit := do
  let start ← size
  let value (way : Way) : Expand Bool := do
    match ← putParameter way name with
    | none => pure false
    | some n => pure (!(orEmpty && n == 0))
  let replacement : Expand Unit := pieces evaluator word
    ⟨{ way with tilde := true, isReplacement := true }, false, 0, none⟩
  match operation with
  | .bad => Sh.fail (α := Unit) (ascii "Bad substitution")
  | .value => do
      if ← value way then record way name start else checkSet name
  | .instead => do
      if ← value way then record way name start else replacement
  | .alternative => do
      let isSet ← value { way with guards := false, splits := false }
      cutText start
      if isSet then replacement else record way name start
  | .length => do
      let length ← putParameter { way with guards := false, splits := false } name
      cutText start
      if length.isNone then checkSet name
      let _ ← putValue way (Ascii.decimal (length.getD 0))
      record way name start
  | .assign => do
      if ← value way then record way name start
      else
        pieces evaluator word ⟨{ Way.plain with tilde := true }, false, 0, none⟩
        let text := Glyph.bytes ((← get).text.toList.drop start)
        liftM (Sh.setVariable name (upToNul text))
        cutText start
        cutRegions start
        let _ ← putParameter way name
        record way name start
  | .demand => do
      if ← value way then record way name start
      else
        pieces evaluator word ⟨{ Way.plain with tilde := true }, false, 0, none⟩
        let text := Glyph.bytes ((← get).text.toList.drop start)
        lacking name (if word.isEmpty then none else some text) orEmpty
  | _ => do
      if !(← value way) then checkSet name
      else
        let middle ← size
        pieces evaluator word ⟨.pattern, false, 0, none⟩
        let text := (← get).text.toList
        let pattern := Glyph.pattern (text.drop middle)
        let kept := cutMatch operation pattern ((text.take middle).drop start)
        cutText start
        modify fun buffer => { buffer with text := buffer.text ++ kept.toArray }
        cutRegions start
        record way name start

end

/-! ## Words -/

def expand (evaluator : Evaluator) (word : Word) (way : Way) : Sh Buffer := do
  let (_, buffer) ← (pieces evaluator word ⟨way, false, 0, none⟩).run ⟨#[], []⟩
  pure buffer

def single (evaluator : Evaluator) (word : Word) (way : Way) : Sh Bytes := do
  pure (Glyph.bytes (← expand evaluator word way).text.toList)

def pattern (evaluator : Evaluator) (word : Word) : Sh Bytes := do
  pure (Glyph.pattern (← expand evaluator word .pattern).text.toList)

/-- Replaces fields that are patterns by the names of files. -/
def matchNames : List (List Glyph) → Sh (List Bytes)
  | [] => pure []
  | field :: rest => do
      let plain := Glyph.bytes field
      let names ←
        if !Glyph.hasSign field || (← Sh.hasOption 'f') then pure [plain]
        else
          let names ← Filenames.named (Glyph.pattern field)
          pure (if names.isEmpty then [plain] else names)
      let others ← matchNames rest
      pure (names ++ others)

def fields (evaluator : Evaluator) (word : Word) : Sh (List Bytes) := do
  let buffer ← expand evaluator word .argument
  let separators := (← separators).getD Fields.usualSeparators
  matchNames (Fields.split separators buffer.text buffer.regions.reverse none)

def allFields (evaluator : Evaluator) : List Word → Sh (List Bytes)
  | [] => pure []
  | word :: rest => do
      let here ← fields evaluator word
      let others ← allFields evaluator rest
      pure (here ++ others)

/-- Expands a text in which only substitutions count; if that is not possible, the
text is taken as it is. -/
def text (evaluator : Evaluator) (source : Bytes) : Sh Bytes := do
  let shell ← Sh.look id
  let expanded : Sh Bytes :=
    match Grammar.readText source shell.isAtEnd shell.aliases shell.documents with
    | .ok (word, isAtEnd, documents) => do
        Sh.change fun shell => { shell with isAtEnd, documents }
        single evaluator word .document
    | .error (reason, rest) => do
        Sh.change fun shell => { shell with isAtEnd := false, line := rest.line }
        match reason with
        | .wrong line message => do
            Sh.change fun shell => { shell with line }
            Sh.fail (ascii "Syntax error: " ++ message)
        | .starved => pure source
  match ← Sh.attempt expanded with
  | .ok text => pure text
  | .error .error => pure source
  | .error why => Sh.raise why

end Expansion

end PipelineShell.Machine.Script
