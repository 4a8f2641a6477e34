/-
# Machine.Script.Source -- the characters of a script

A script is read character by character.  In front of what is left of its text
stand the texts that have been put in for aliases, and in front of those the
characters that were looked at and given back.  A script need not be there as a
whole: asking for a character beyond what has come in so far stops the reading
(`Halt.starved`), and it starts again from the same place when there is more.
-/
import PipelineShell.Machine.Script.Command

namespace PipelineShell.Machine.Script

set_option autoImplicit false

/-- A text that has been put in. -/
structure Inset where
  text : Bytes
  /-- The alias that it stands for. -/
  alias? : Option Bytes
  /-- The text ends in a blank. -/
  endsInBlank : Bool

/-- What is left of a script. -/
structure Source where
  text : Bytes
  /-- Nothing more will come. -/
  isWhole : Bool
  line : Nat
  insets : List Inset
  /-- Characters that were given back; nothing stands for the end. -/
  returned : List (Option UInt8)
  /-- Aliases whose text has just come to its end. -/
  retired : List Bytes
  /-- How much of the text has been used. -/
  used : Nat

def Source.ofText (text : Bytes) : Source := ⟨text.filter (· != 0), true, 1, [], [], [], 0⟩

def Source.empty : Source := ⟨[], false, 1, [], [], [], 0⟩

inductive Token where
  | ending
  | newline
  | semicolon
  | background
  | both
  | either
  | pipe
  | opening
  | closing
  | endOfChoice
  | redirection
  | word
  | bang
  | caseWord
  | doWord
  | doneWord
  | elifWord
  | elseWord
  | esacWord
  | fiWord
  | forWord
  | ifWord
  | inWord
  | thenWord
  | untilWord
  | whileWord
  | openBrace
  | closeBrace
  deriving DecidableEq, Repr

namespace Token

def keywords : List (String × Token) :=
  [("!", bang), ("case", caseWord), ("do", doWord), ("done", doneWord), ("elif", elifWord),
    ("else", elseWord), ("esac", esacWord), ("fi", fiWord), ("for", forWord), ("if", ifWord),
    ("in", inWord), ("then", thenWord), ("until", untilWord), ("while", whileWord),
    ("\x7b", openBrace), ("\x7d", closeBrace)]

def keyword? (word : Bytes) : Option Token :=
  (keywords.find? fun entry => ascii entry.1 == word).map (·.2)

def name (token : Token) : String :=
  match token with
  | ending => "end of file"
  | newline => "newline"
  | semicolon => "\";\""
  | background => "\"&\""
  | both => "\"&&\""
  | either => "\"||\""
  | pipe => "\"|\""
  | opening => "\"(\""
  | closing => "\")\""
  | endOfChoice => "\";;\""
  | redirection => "redirection"
  | word => "word"
  | _ =>
      match keywords.find? (·.2 == token) with
      | some (text, _) => "\"" ++ text ++ "\""
      | none => "word"

def endsList (token : Token) : Bool :=
  [ending, closing, endOfChoice, doWord, doneWord, elifWord, elseWord, esacWord, fiWord, thenWord,
    closeBrace].contains token

end Token

/-- What the next token may be. -/
structure Expected where
  /-- Line ends are skipped. -/
  newlines : Bool
  keywords : Bool
  aliases : Bool
  /-- The word that ends a document. -/
  mark : Bool
  deriving DecidableEq, Repr

def Expected.nothing : Expected := ⟨false, false, false, false⟩

def Expected.command : Expected := ⟨false, true, true, false⟩

def Expected.laterCommand : Expected := ⟨true, true, true, false⟩

/-- A document that has yet to be read. -/
structure Awaited where
  number : Nat
  expands : Bool
  /-- The line that ends it. -/
  mark : Bytes
  /-- Tabs at the start of lines are dropped. -/
  dropsTabs : Bool

/-- Where the reading of a script is. -/
structure Cursor where
  source : Source
  aliases : List (Bytes × Bytes)
  expected : Expected
  /-- The last token; it comes again if it was given back. -/
  token : Token
  isReturned : Bool
  word : Word
  /-- Something in the last word was quoted. -/
  isQuoted : Bool
  /-- The last redirection, without its word. -/
  direction : Direction
  descriptor : Nat
  /-- The document of the last redirection drops tabs. -/
  dropsTabs : Bool
  documents : Documents
  awaited : List Awaited

/-- Why reading stops before its end. -/
inductive Halt where
  /-- There is not enough text yet. -/
  | starved
  /-- The script is wrong. -/
  | wrong (line : Nat) (message : Bytes)

abbrev Reading := StateT Cursor (Except (Halt × Cursor))

namespace Reading

def cursor : Reading Cursor := fun cursor => .ok (cursor, cursor)

def halt {α : Type} (reason : Halt) : Reading α := fun cursor => .error (reason, cursor)

def wrong {α : Type} (message : String) : Reading α := fun cursor =>
  .error (.wrong cursor.source.line (ascii message), cursor)

def modifySource (change : Source → Source) : Reading Unit :=
  modify fun cursor => { cursor with source := change cursor.source }

def nextLine : Reading Unit := modifySource fun source => { source with line := source.line + 1 }

/-- Takes the next character past what was given back.  Texts that have come to
their end are dropped; a blank at the end of one means that the next word may be
an alias as well. -/
def takeFrom (cursor : Cursor) : List Inset → Except (Halt × Cursor) (Option UInt8 × Cursor)
  | inset :: below =>
      match inset.text with
      | b :: text =>
          .ok (some b, { cursor with source :=
            { cursor.source with insets := { inset with text } :: below } })
      | [] =>
          let source := { cursor.source with
            retired := inset.alias?.toList ++ cursor.source.retired }
          let expected :=
            if inset.alias?.isSome && inset.endsInBlank
            then { cursor.expected with aliases := true } else cursor.expected
          takeFrom { cursor with source, expected } below
  | [] =>
      let source := { cursor.source with insets := [] }
      match source.text with
      | b :: text =>
          .ok (some b, { cursor with source := { source with text, used := source.used + 1 } })
      | [] =>
          if source.isWhole then .ok (none, { cursor with source })
          else .error (.starved, cursor)

/-- The next character; nothing at the end. -/
def takeRaw : Reading (Option UInt8) := fun cursor =>
  match cursor.source.returned with
  | c :: returned => .ok (c, { cursor with source := { cursor.source with returned } })
  | [] => takeFrom cursor cursor.source.insets

/-- The next character.  Aliases whose text came to its end before it may be used
again. -/
def take : Reading (Option UInt8) := do
  modifySource fun source => { source with retired := [] }
  takeRaw

def unget (c : Option UInt8) : Reading Unit :=
  modifySource fun source => { source with returned := c :: source.returned }

/-- The next character behind lines that are continued. -/
def takeJoined : Nat → Reading (Option UInt8)
  | 0 => pure none
  | fuel + 1 => do
      let c ← take
      if c == some (byteOf '\\') then
        let d ← takeRaw
        if d == some (byteOf '\n') then
          nextLine
          takeJoined fuel
        else
          unget d
          pure c
      else pure c

/-- Puts a text in.  What was given back comes after it. -/
def inset (text : Bytes) (alias? : Option Bytes) : Reading Unit :=
  modifySource fun source =>
    let later := source.returned.filterMap id
    let source := match source.insets with
      | [] => { source with text := later ++ source.text, used := source.used - later.length }
      | first :: below =>
          { source with insets := { first with text := later ++ first.text } :: below }
    { source with
      returned := []
      insets := ⟨text, alias?, text.getLast?.any Ascii.isBlank⟩ :: source.insets }

/-- Whether the text of an alias is being read. -/
def isInUse (cursor : Cursor) (name : Bytes) : Bool :=
  cursor.source.retired.contains name ||
    cursor.source.insets.any fun inset => inset.alias? == some name

/-- How far loops over characters go at most. -/
def endurance : Nat := 1000000000

/-- The next character behind lines that are continued. -/
def next : Reading (Option UInt8) := takeJoined endurance

end Reading

end PipelineShell.Machine.Script
