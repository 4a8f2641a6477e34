/-
# Machine.Script.Grammar -- reading commands

Tokens are read one at a time, and a token that was looked at may be given back.
Whether a word is a keyword or an alias depends on what is expected, and documents
are read at the end of the line on which they were announced.

Commands may stand inside words, words inside commands, and commands inside
commands; `Grammar.list` takes the readers apart by how deep they are nested, so
each of them is an ordinary function of the readers below it.
-/
import PipelineShell.Machine.Script.Word

namespace PipelineShell.Machine.Script.Grammar

set_option autoImplicit false

open Reading (cursor endurance inset modifySource next nextLine take unget wrong)

/-! ## Tokens -/

/-- The commands up to a token that ends them, read at the next level of nesting. -/
abbrev Nested := Reading (Option Command)

/-- What a list of commands may begin and end with. -/
inductive Place where
  /-- One line of a script. -/
  | line
  /-- Inside a command. -/
  | inside
  /-- Where there may be nothing at all. -/
  | possiblyEmpty
  deriving DecidableEq, Repr

/-- Readers for the next level of nesting. -/
abbrev Lists := Place → Reading (Option Command)

def skipComment : Nat → Reading Unit
  | 0 => pure ()
  | fuel + 1 => do
      let c ← take
      if c == some (byteOf '\n') || c.isNone then unget c else skipComment fuel

def oneOrTwo (sign : UInt8) (one two : Token) : Reading Token := do
  let c ← next
  if c == some sign then pure two
  else
    unget c
    pure one

def readAwaited (nested : Nested) (readDocuments : Reading Unit) : Nat → Reading Unit
  | 0 => pure ()
  | fuel + 1 => do
      match (← cursor).awaited with
      | [] => pure ()
      | awaited :: rest =>
          modify fun cursor => { cursor with awaited := rest }
          let mode := if awaited.expands then WordReader.Mode.double else .single
          let first ← if awaited.expands then next else take
          let (scan, _) ← WordReader.readAll nested readDocuments
            (.document awaited.mark awaited.dropsTabs) mode first
          modify fun cursor => { cursor with
            documents := cursor.documents.setIfInBounds awaited.number scan.out.reverse }
          readAwaited nested readDocuments fuel

/-- How many documents may be awaited inside one another. -/
def documentDepth : Nat := 64

def readDocuments (nested : Nested) : Nat → Reading Unit
  | 0 => pure ()
  | depth + 1 => readAwaited nested (readDocuments nested depth) endurance

section Tokens

/-! The commands inside words are read by `lists`. -/

variable (lists : Lists)

def documents : Reading Unit := readDocuments (lists .possiblyEmpty) documentDepth

/-- Reads a token without looking whether it is a keyword or an alias. -/
def plainToken : Nat → Reading Token
  | 0 => pure .ending
  | fuel + 1 => do
      let c ← next
      match c with
      | none => pure .ending
      | some b =>
        match charOf b with
        | ' ' => plainToken fuel
        | '\t' => plainToken fuel
        | '#' => do
            skipComment endurance
            plainToken fuel
        | '\n' => do
            nextLine
            pure .newline
        | '&' => oneOrTwo b .background .both
        | '|' => oneOrTwo b .pipe .either
        | ';' => oneOrTwo b .semicolon .endOfChoice
        | '(' => pure .opening
        | ')' => pure .closing
        | _ =>
            WordReader.readWord (lists .possiblyEmpty) (documents lists) c

/-- Reads a token, or takes the one that was given back. -/
def someToken : Reading Token := do
  if (← cursor).isReturned then
    modify fun cursor => { cursor with isReturned := false }
    pure (← cursor).token
  else
    let token ← plainToken lists endurance
    modify fun cursor => { cursor with token }
    pure token

/-- Skips line ends, and reads the documents behind them. -/
def skipLines : Nat → Token → Reading Token
  | 0, token => pure token
  | fuel + 1, token =>
      if token == .newline then do
        documents lists
        modify fun cursor => { cursor with expected := .nothing }
        let token ← someToken lists
        skipLines fuel token
      else pure token

/-- Whether the words of aliases are looked at, together with what the text before
asks for. -/
def expectedNow (before : Expected) : Reading Expected := do
  let now := (← cursor).expected
  modify fun cursor => { cursor with expected := .nothing }
  pure ⟨before.newlines || now.newlines, before.keywords || now.keywords,
    before.aliases || now.aliases, before.mark || now.mark⟩

/-- Reads a token as it is expected: keywords and aliases are seen where they may
stand. -/
def tokenAs : Nat → Expected → Reading Token
  | 0, _ => pure .ending
  | fuel + 1, expected => do
      let token ← someToken lists
      let token ← if expected.newlines then skipLines lists endurance token
        else pure token
      let expected ← expectedNow expected
      if token != .word || (← cursor).isQuoted then pure token
      else
        match Word.plain? (← cursor).word with
        | none => pure token
        | some text =>
          match (Token.keyword? text).filter fun _ => expected.keywords with
          | some keyword =>
              modify fun cursor => { cursor with token := keyword }
              pure keyword
          | none =>
            let now ← cursor
            match (now.aliases.lookup text).filter fun _ =>
                expected.aliases && !Reading.isInUse now text with
            | some value =>
                if !value.isEmpty then inset value (some text)
                tokenAs fuel expected
            | none => pure token

def unexpected {α : Type} (wanted : Option Token) : Reading α := do
  let found := (← cursor).token
  wrong (found.name ++ " unexpected" ++ (match wanted with
    | some token => " (expecting " ++ token.name ++ ")"
    | none => ""))

def giveBack : Reading Unit := modify fun cursor => { cursor with isReturned := true }

/-- The next token is read as something is expected. -/
def expect (expected : Expected) : Reading Unit := modify fun cursor => { cursor with expected }

def token : Reading Token := do
  tokenAs lists endurance (← cursor).expected

def need (wanted : Token) : Reading Unit := do
  if (← token lists) != wanted then unexpected (some wanted)

/-! ## Redirections -/

def copySource? (word : Word) : Option (Option Nat) :=
  match word with
  | [.plain b] =>
      if Ascii.isDigit b then some (some (Ascii.digitValue b))
      else if b == byteOf '-' then some none
      else none
  | _ => none

/-- Reads the word of a redirection whose sign has just been read. -/
def redirection : Reading Redirection := do
  let before ← cursor
  let (direction, descriptor) := (before.direction, before.descriptor)
  let isDocument := match direction with
    | .document _ => true
    | _ => false
  if isDocument then expect { Expected.nothing with mark := true }
  if (← token lists) != .word then unexpected none
  else
    let now ← cursor
    match direction with
    | .document _ =>
        let number := now.documents.size
        let expands := !now.isQuoted
        modify fun cursor => { cursor with
          documents := cursor.documents.push []
          awaited := cursor.awaited ++
            [⟨number, expands, Word.unquoted now.word, before.dropsTabs⟩] }
        pure (.document descriptor expands number)
    | _ =>
      match direction == .outputCopy || direction == .inputCopy, copySource? now.word with
      | true, some source => pure (.copy direction descriptor source)
      | _, _ => pure (.file direction descriptor now.word)

def redirections : Nat → Reading (List Redirection)
  | 0 => pure []
  | fuel + 1 => do
      if (← token lists) == .redirection then
        let first ← redirection lists
        let rest ← redirections fuel
        pure (first :: rest)
      else
        giveBack
        pure []

/-! ## Commands -/

/-- The special builtin commands, whose names no function may have. -/
def specialNames : List String :=
  [".", ":", "break", "continue", "eval", "exec", "exit", "export", "readonly", "return", "set",
    "shift", "times", "trap", "unset"]

/-- The parts of a simple command, the latest first. -/
structure Parts where
  assignments : List Word
  words : List Word
  redirections : List Redirection

/-- Reads commands inside the next command. -/
def inside : Reading Command := do pure ((← lists .inside).getD .nothing)

/-- Reads a simple command, or the definition of a function, whose body is read by
`body`. -/
def simple (body : Reading Command) (line : Nat) : Nat → Bool → Parts → Reading Command
  | 0, _, _ => pure .nothing
  | fuel + 1, mayAssign, parts => do
      expect { Expected.nothing with aliases := mayAssign }
      match ← token lists with
      | .word =>
          let word := (← cursor).word
          if mayAssign && Word.isAssignment word then
            simple body line fuel true
              { parts with assignments := word :: parts.assignments }
          else
            simple body line fuel false
              { parts with words := word :: parts.words }
      | .redirection =>
          let last ← redirection lists
          simple body line fuel mayAssign
            { parts with redirections := last :: parts.redirections }
      | .opening =>
          match parts.words, parts.assignments, parts.redirections with
          | [word], [], [] => do
              need lists .closing
              let name := (Word.plain? word).getD []
              if !Ascii.isName name || specialNames.any (ascii · == name) then
                wrong "Bad function name"
              else
                expect .laterCommand
                let start := (← cursor).source.line
                let body ← body
                pure (.definition start name body)
          | _, _, _ => finish parts
      | _ => finish parts
where
  finish (parts : Parts) : Reading Command := do
    giveBack
    pure (.simple line parts.assignments.reverse parts.words.reverse parts.redirections.reverse)

/-- Reads the rest of a conditional command, from behind its first keyword. -/
def conditional : Nat → Reading Command
  | 0 => pure .nothing
  | fuel + 1 => do
      let test ← inside lists
      need lists .thenWord
      let yes ← inside lists
      match ← token lists with
      | .elifWord => do
          let no ← conditional fuel
          pure (.choice test yes (some no))
      | .elseWord => do
          let no ← inside lists
          pure (.choice test yes (some no))
      | _ => do
          giveBack
          pure (.choice test yes none)

def words : Nat → Reading (List Word)
  | 0 => pure []
  | fuel + 1 => do
      if (← token lists) == .word then
        let word := (← cursor).word
        let rest ← words fuel
        pure (word :: rest)
      else pure []

def iteration (line : Nat) : Reading Command := do
  let first ← token lists
  let now ← cursor
  let name := ((Word.plain? now.word).filter fun name => Ascii.isName name && !now.isQuoted)
  match first == .word, name with
  | true, some name => do
      expect .laterCommand
      let list ← if (← token lists) == .inWord then do
          let list ← words lists endurance
          let last := (← cursor).token
          if last != .newline && last != .semicolon then unexpected none else pure list
        else do
          if (← cursor).token != .semicolon then giveBack
          pure [Word.allParameters]
      expect .laterCommand
      need lists .doWord
      let body ← inside lists
      pure (.iteration line name list body)
  | _, _ => wrong "Bad for loop variable"

/-- Reads the patterns of a choice up to the parenthesis behind them. -/
def patterns : Nat → Reading (List Word)
  | 0 => pure []
  | fuel + 1 => do
      let word := (← cursor).word
      if (← token lists) == .pipe then
        let _ ← token lists
        let rest ← patterns fuel
        pure (word :: rest)
      else pure [word]

/-- Reads the choices of a selection, and the keyword behind them. -/
def choices : Nat → Reading (List Choice)
  | 0 => pure []
  | fuel + 1 => do
      expect { Expected.nothing with newlines := true, keywords := true }
      match ← token lists with
      | .esacWord => pure []
      | first => do
          if first == .opening then
            let _ ← token lists
          let patterns ← patterns lists endurance
          if (← cursor).token != .closing then unexpected (some .closing)
          else
            let body ← lists .possiblyEmpty
            expect { Expected.nothing with newlines := true, keywords := true }
            match ← token lists with
            | .esacWord => pure [.mk patterns body]
            | .endOfChoice => do
                let rest ← choices fuel
                pure (.mk patterns body :: rest)
            | _ => unexpected (some .endOfChoice)

def selection (line : Nat) : Reading Command := do
  if (← token lists) != .word then unexpected (some .word)
  else
    let word := (← cursor).word
    expect .laterCommand
    need lists .inWord
    let choices ← choices lists endurance
    pure (.selection line word choices)

/-- Puts the redirections behind a compound command to it. -/
def withRedirections (line : Nat) (command : Command) : Reading Command := do
  expect .command
  match ← redirections lists endurance with
  | [] => pure command
  | list =>
    match command with
    | .subshell line inner _ => pure (.subshell line inner list)
    | _ => pure (.redirected line command list)

/-- Reads a command; the body of a function is read by `body`. -/
def commandWith (body : Reading Command) : Reading Command := do
  let line := (← cursor).source.line
  match ← token lists with
  | .ifWord => do
      let command ← conditional lists endurance
      need lists .fiWord
      withRedirections lists line command
  | .whileWord => loop true line
  | .untilWord => loop false line
  | .forWord => do
      let command ← iteration lists line
      need lists .doneWord
      withRedirections lists line command
  | .caseWord => do
      let command ← selection lists line
      withRedirections lists line command
  | .opening => do
      let command ← inside lists
      need lists .closing
      withRedirections lists line (.subshell line command [])
  | .openBrace => do
      let command ← inside lists
      need lists .closeBrace
      withRedirections lists line command
  | .word => do
      giveBack
      simple lists body line endurance true ⟨[], [], []⟩
  | .redirection => do
      giveBack
      simple lists body line endurance true ⟨[], [], []⟩
  | _ => unexpected none
where
  loop (expected : Bool) (line : Nat) : Reading Command := do
    let test ← inside lists
    need lists .doWord
    let inner ← inside lists
    need lists .doneWord
    withRedirections lists line (.loop expected test inner)

/-- How many functions may be defined by the body of another. -/
def definitionDepth : Nat := 1000

def commandAt : Nat → Reading Command
  | 0 => pure .nothing
  | depth + 1 => commandWith lists (commandAt depth)

def command : Reading Command := commandAt lists definitionDepth

/-- Reads the further commands of a pipeline. -/
def moreStages : Nat → Reading (List Command)
  | 0 => pure []
  | fuel + 1 => do
      if (← token lists) == .pipe then
        expect .laterCommand
        let stage ← command lists
        let rest ← moreStages fuel
        pure (stage :: rest)
      else
        giveBack
        pure []

def pipeline : Reading Command := do
  let negates := (← token lists) == .bang
  if negates then expect .command else giveBack
  let first ← command lists
  let pipeline ← match ← moreStages lists endurance with
    | [] => pure first
    | rest => pure (.pipeline (first :: rest) false)
  pure (if negates then .negation pipeline else pipeline)

/-- Reads what follows a pipeline, joined by signs. -/
def moreJoined : Nat → Command → Reading Command
  | 0, first => pure first
  | fuel + 1, first => do
      match ← token lists with
      | .both => do
          expect .laterCommand
          let second ← pipeline lists
          moreJoined fuel (.join .both first second)
      | .either => do
          expect .laterCommand
          let second ← pipeline lists
          moreJoined fuel (.join .either first second)
      | _ => do
          giveBack
          pure first

def joined : Reading Command := do
  let first ← pipeline lists
  moreJoined lists endurance first

def inBackground (command : Command) : Command :=
  match command with
  | .pipeline commands _ => .pipeline commands true
  | .redirected line command redirections => .background line command redirections
  | command => .background 0 command []

/-- Puts a command behind others. -/
def follow (before : Option Command) (command : Command) : Command :=
  match before with
  | none => command
  | some first => .join .next first command

/-- Reads commands one after the other. -/
def listWith (place : Place) : Nat → Bool → Option Command → Reading (Option Command)
  | 0, _, before => pure before
  | fuel + 1, mayEnd, before => do
      let isLine := place == .line
      expect (if isLine then .command else .laterCommand)
      match ← token lists with
      | .newline => do
          documents lists
          pure before
      | .ending => do
          documents lists
          giveBack
          modify fun cursor => { cursor with token := .ending }
          pure before
      | found => do
          giveBack
          if mayEnd && found.endsList then pure before
          else
            let command ← joined lists
            let last ← token lists
            let all := follow before (if last == .background then inBackground command else command)
            match last with
            | .newline => do
                giveBack
                listWith place fuel (!isLine) (some all)
            | .ending => do
                giveBack
                listWith place fuel (!isLine) (some all)
            | .background => listWith place fuel (!isLine) (some all)
            | .semicolon => listWith place fuel (!isLine) (some all)
            | _ =>
                if isLine then unexpected none
                else
                  giveBack
                  pure (some all)

end Tokens

def nestingDepth : Nat := 10000

/-- Reads a list of commands, nested so deep at most. -/
def listAt : Nat → Lists
  | 0, _ => wrong "too deeply nested"
  | depth + 1, place =>
      listWith (listAt depth) place endurance (place == .possiblyEmpty) none

def list : Lists := listAt nestingDepth

/-! ## Lines -/

/-- What the next line of a script comes to. -/
structure Line where
  /-- There may be none on a line. -/
  command : Option Command
  /-- The script has come to its end without a command. -/
  isEnd : Bool
  /-- The command is the last of the script. -/
  isLast : Bool
  source : Source
  documents : Documents

def start (source : Source) (aliases : List (Bytes × Bytes)) (documents : Documents) : Cursor where
  source := source
  aliases := aliases
  expected := .nothing
  token := .ending
  isReturned := false
  word := []
  isQuoted := false
  direction := .input
  descriptor := 0
  dropsTabs := false
  documents := documents
  awaited := []

def readLine (source : Source) (aliases : List (Bytes × Bytes)) (documents : Documents) :
    Except (Halt × Source) Line :=
  match (list .line).run (start source aliases documents) with
  | .error (reason, cursor) => .error (reason, cursor.source)
  | .ok (command, cursor) =>
      let isLast := cursor.isReturned && cursor.token == .ending
      .ok ⟨command, isLast && command.isNone, isLast, cursor.source, cursor.documents⟩

/-- Reads a text in which only substitutions count.  If the end of the script around
it has been read and not taken account of, a command inside meets it first; the
second answer is whether none did. -/
def readText (text : Bytes) (isAtEnd : Bool) (aliases : List (Bytes × Bytes))
    (documents : Documents) : Except (Halt × Source) (Word × Bool × Documents) :=
  let reading : Reading Word := do
    let first ← next
    let (scan, _) ← WordReader.readAll (list .possiblyEmpty) (Grammar.documents list) .text .double
      first
    pure scan.out.reverse
  match reading.run { start (Source.ofText text) aliases documents with isReturned := isAtEnd } with
  | .error (reason, cursor) => .error (reason, cursor.source)
  | .ok (word, cursor) => .ok (word, isAtEnd && cursor.isReturned, cursor.documents)

end PipelineShell.Machine.Script.Grammar
