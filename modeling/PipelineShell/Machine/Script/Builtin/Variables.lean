/-
# Machine.Script.Builtin.Variables -- variables, parameters and options

Variables are listed in the order of their names, their values between quotes, so
that a shell can read them back.
-/
import PipelineShell.Machine.Script.Builtin.Basic

namespace PipelineShell.Machine.Script

set_option autoImplicit false

/-! ## The options of the shell -/

namespace ShellOption

/-- The options by name and letter, in the order in which they are listed.  Some have
no letter; they are kept under digits. -/
def table : List (String × Char) :=
  [("errexit", 'e'), ("noglob", 'f'), ("ignoreeof", 'I'), ("interactive", 'i'), ("monitor", 'm'),
    ("noexec", 'n'), ("stdin", 's'), ("xtrace", 'x'), ("verbose", 'v'), ("vi", 'V'),
    ("emacs", 'E'), ("noclobber", 'C'), ("allexport", 'a'), ("notify", 'b'), ("nounset", 'u'),
    ("privileged", 'p'), ("nolog", '0'), ("debug", '1')]

/-- The options that are on, the last in the table first. -/
def arranged (letters : List Char) : List Char :=
  (table.map (·.2)).reverse.filter letters.contains

def put (letter : Char) (isOn : Bool) : Sh Unit := Sh.change fun shell =>
  let others := shell.options.filter (· != letter)
  { shell with options := arranged (if isOn then letter :: others else others) }

/-- There is no terminal, so that jobs cannot be controlled. -/
def checkMonitor : Sh Unit := do
  if ← Sh.hasOption 'm' then
    Sh.warn (ascii "can't access tty; job control turned off")
    put 'm' false

/-- Turns the option of a letter on or off.  Of the two ways of editing lines only
one can be on. -/
def set (b : UInt8) (isOn : Bool) : Sh Unit := do
  let letter := charOf b
  if letter.isDigit || !table.any (·.2 == letter) then
    Sh.fail (ascii "Illegal option -" ++ [b])
  else
    put letter isOn
    if isOn && letter == 'V' then put 'E' false
    if isOn && letter == 'E' then put 'V' false

/-- Turns the option of a name on or off. -/
def setNamed (name : Bytes) (isOn : Bool) : Sh Unit := do
  match table.find? fun entry => ascii entry.1 == name with
  | some (_, letter) => put letter isOn
  | none => Sh.fail (ascii "Illegal option -o " ++ name)

/-- Prints all options: for people, or as commands. -/
def list (forPeople : Bool) : Sh Unit := do
  let options ← Sh.look (·.options)
  if forPeople then Sh.print (ascii "Current option settings\n")
  Sh.print (table.flatMap fun entry =>
    let isOn := options.contains entry.2
    if forPeople then
      ascii entry.1 ++ List.replicate (16 - entry.1.length) (byteOf ' ') ++
        ascii (if isOn then "on\n" else "off\n")
    else ascii ("set " ++ (if isOn then "-o " else "+o ") ++ entry.1 ++ "\n"))

/-- What the options of a command line come to. -/
structure Chosen where
  /-- The command is among the words. -/
  hasCommand : Bool
  isLogin : Bool
  /-- The options were ended by a dash: by `-` alone, or by two. -/
  endedBy : Option Nat
  rest : List Bytes

/-- Takes the letters of one word; the words behind it are the names of options with
names.  With `starts`, the shell is being started and there are further letters. -/
def chooseLetters (starts isOn : Bool) : Bytes → Chosen → Sh Chosen
  | [], chosen => pure chosen
  | b :: letters, chosen => do
      if b == byteOf 'c' && starts then
        chooseLetters starts isOn letters { chosen with hasCommand := true }
      else if b == byteOf 'l' && starts then
        chooseLetters starts isOn letters { chosen with isLogin := true }
      else if b == byteOf 'o' then
        match chosen.rest with
        | [] => do
            list isOn
            chooseLetters starts isOn letters chosen
        | name :: rest => do
            setNamed name isOn
            chooseLetters starts isOn letters { chosen with rest }
      else
        set b isOn
        chooseLetters starts isOn letters chosen

/-- Takes the options in front of words. -/
def choose (starts : Bool) : Nat → Chosen → Sh Chosen
  | 0, chosen => pure chosen
  | fuel + 1, chosen =>
      match chosen.rest with
      | [] => pure chosen
      | word :: rest =>
          let mark := word.head?
          if mark == some (byteOf '-') && (word.length == 1 || word == ascii "--") then
            pure { chosen with endedBy := some word.length, rest }
          else if mark == some (byteOf '-') || mark == some (byteOf '+') then do
            let chosen ← chooseLetters starts (mark == some (byteOf '-')) word.tail
              { chosen with rest }
            choose starts fuel chosen
          else pure chosen

end ShellOption

namespace Builtin

open Sh (change fail look print)

/-! ## Listing -/

def comesBefore (a b : Bytes) : Bool := precedes a b

def listVariables (word : Bytes) (isListed : Variable → Bool) : Sh Unit := do
  let listed := ((← look (·.store)).filter isListed).mergeSort fun a b =>
    comesBefore a.name b.name
  print (listed.flatMap fun v =>
    (if word.isEmpty then [] else word ++ ascii " ") ++ v.name ++
      (match v.value with
        | some value => ascii "=" ++ singleQuoted value
        | none => []) ++ ascii "\n")

/-! ## Setting and unsetting -/

/-- Exports variables, or makes them read-only. -/
def mark (readOnly : Bool) : Simple := fun name words => do
  let (flags, words) ← options "p" words
  if !flags.isEmpty || words.isEmpty then
    listVariables name fun v => if readOnly then v.isReadOnly else v.isExported
  else
    for word in words do
      let value := (Sh.splitAssignment word).2
      match value, ← Sh.findVariable word with
      | none, some v =>
          Sh.put { v with
            isExported := v.isExported || !readOnly
            isReadOnly := v.isReadOnly || readOnly }
      | _, _ => do
          Sh.assign (← Sh.variableName word) value (!readOnly) readOnly false
  pure 0

def localize : Simple := fun _ words => do
  if (← look (·.scopes)).isEmpty then fail (ascii "not in a function")
  else
    for word in words do
      Sh.makeLocal word false
    pure 0

/-- Takes the values of variables away, or drops functions. -/
def unset : Simple := fun _ words => do
  let (flags, words) ← options "vf" words
  let isFunction := flags.getLast?.any (·.letter == 'f')
  for word in words do
    if !isFunction then Sh.unsetVariable word
    else
      match (← look (·.found)).lookup word with
      | some (.function _ _) => Sh.forget word
      | _ => pure ()
  pure 0

/-! ## Parameters -/

def setParameters (words : List Bytes) : Sh Unit := change fun shell =>
  { shell with parameters := ⟨words, 1, none⟩ }

/-- Sets options and parameters; without words, lists the variables. -/
def set : Simple := fun _ words => do
  if words.isEmpty then listVariables [] (·.value.isSome)
  else
    let chosen ← ShellOption.choose false (words.length + 1) ⟨false, false, none, words⟩
    if chosen.endedBy == some 1 then
      ShellOption.put 'x' false
      ShellOption.put 'v' false
    ShellOption.checkMonitor
    if chosen.endedBy == some 2 || !chosen.rest.isEmpty then setParameters chosen.rest
  pure 0

def shift : Simple := fun _ words => do
  let n ← match words with
    | word :: _ => Sh.number word
    | [] => pure 1
  let parameters ← look (·.parameters.words)
  if parameters.length < n then fail (ascii "can't shift that many")
  else
    setParameters (parameters.drop n)
    pure 0

/-! ## Reading options -/

structure OptionReading where
  /-- The letter found; a question mark if it is wrong. -/
  found : UInt8
  /-- Nothing is left. -/
  isOver : Bool
  nextWord : Nat
  offset : Option Nat

/-- Takes the value of the variable for the words of options away, or sets it. -/
def setWord (value : Option Bytes) : Sh Unit :=
  match value with
  | some value => Sh.setVariable (ascii "OPTARG") value
  | none => Sh.unsetVariable (ascii "OPTARG")

/-- A fault among options: it is complained about, unless the list of letters begins
with a colon. -/
def optionFault (letters : Bytes) (letter : UInt8) (complaint : Bytes) : Sh Unit := do
  if letters.head? == some (byteOf ':') then setWord (some [letter])
  else
    grumble complaint
    setWord none

def readOption (letters : Bytes) (words : List Bytes) (nextWord : Nat) (offset : Option Nat) :
    Sh OptionReading := do
  let exhausted (nextWord : Nat) : Sh OptionReading := pure ⟨byteOf '?', true, nextWord, none⟩
  -- What is left of the word before.
  let current := match offset with
    | some n =>
        if nextWord ≤ 1 then []
        else
          let word := words[nextWord - 2]?.getD []
          if word.length < n then [] else word.drop n
    | none => []
  let start : Sh (Option (Bytes × Nat)) :=
    if !current.isEmpty then pure (some (current, nextWord))
    else
      match words[nextWord - 1]? with
      | some (b :: letter :: more) =>
          if b == byteOf '-' then pure (some (letter :: more, nextWord + 1)) else pure none
      | _ => pure none
  match ← start with
  | none => exhausted nextWord
  | some (text, nextWord) =>
    if current.isEmpty && text == ascii "-" then exhausted nextWord
    else
      match text with
      | [] => exhausted nextWord
      | letter :: rest =>
        let word := words[nextWord - 2]?.getD []
        let offsetOf (rest : Bytes) : Option Nat := some (word.length - rest.length)
        match takesWord? (charOf letter) (letters.map charOf) with
        | none => do
            optionFault letters letter (ascii "Illegal option -" ++ [letter])
            pure ⟨byteOf '?', false, nextWord, offsetOf rest⟩
        | some false => do
            setWord (some [])
            pure ⟨letter, false, nextWord, offsetOf rest⟩
        | some true =>
          if !rest.isEmpty then do
            setWord (some rest)
            pure ⟨letter, false, nextWord, none⟩
          else
            match words[nextWord - 1]? with
            | some value => do
                setWord (some value)
                pure ⟨letter, false, nextWord + 1, none⟩
            | none => do
                optionFault letters letter (ascii "No arg for -" ++ [letter] ++ ascii " option")
                let found := if letters.head? == some (byteOf ':') then byteOf ':' else byteOf '?'
                pure ⟨found, false, nextWord, offsetOf rest⟩

def getOption : Simple := fun _ words => do
  match ← operands words with
  | letters :: name :: given => do
      let parameters ← look (·.parameters)
      let words := if given.isEmpty then parameters.words else given
      let isBeyond := words.length + 1 < parameters.nextWord
      let (nextWord, offset) := if isBeyond then (1, none)
        else (parameters.nextWord, parameters.offset)
      let reading ← readOption letters words nextWord offset
      let optind := ascii "OPTIND"
      match ← Sh.findVariable optind with
      | some v =>
          if v.isReadOnly then fail (optind ++ ascii ": is read only")
          else Sh.put { v with value := some (Ascii.decimal reading.nextWord) }
      | none => Sh.put ⟨optind, some (Ascii.decimal reading.nextWord), false, false, true⟩
      Sh.setVariable name [reading.found]
      change fun shell => { shell with parameters :=
        { shell.parameters with nextWord := reading.nextWord, offset := reading.offset } }
      pure (if reading.isOver then 1 else 0)
  | _ => fail (ascii "Usage: getopts optstring var [arg...]")

/-! ## Reading a line -/

structure LineReading where
  /-- The text so far, the latest first. -/
  text : List Glyph
  /-- The stretches that may be split, the latest first. -/
  regions : List Region
  /-- Where the stretch begins that is not complete. -/
  start : Nat
  /-- There was a backslash just before. -/
  isEscaped : Bool

def LineReading.close (reading : LineReading) : LineReading :=
  let size := reading.text.length
  { reading with regions := ⟨reading.start, size, false⟩ :: reading.regions, start := size }

/-- Reads a line byte by byte, so that what follows is left for others.  Answers
whether the line was complete. -/
def readBytes (escapes : Bool) : Sh (LineReading × Bool) :=
  Sh.rounds (⟨[], [], 0, false⟩, false) (⟨[], [], 0, false⟩ : LineReading) fun reading => do
    match ← Sh.ask (.read 0 1) with
    | .error _ => pure (.inr (reading.close, false))
    | .ok [] => pure (.inr (reading.close, false))
    | .ok (b :: _) =>
        if b == 0 then pure (.inl reading)
        else if reading.isEscaped then
          let text := if b == byteOf '\n' then reading.text else .plain b :: reading.text
          pure (.inl { reading with text, start := text.length, isEscaped := false })
        else if escapes && b == byteOf '\\' then
          pure (.inl { reading.close with isEscaped := true })
        else if b == byteOf '\n' then pure (.inr (reading.close, true))
        else pure (.inl { reading with text := .plain b :: reading.text })

/-- Gives variables the fields of a line; those without a field become empty. -/
def setFields : List Bytes → List (List Glyph) → Sh Unit
  | [], _ => pure ()
  | name :: names, fields => do
      Sh.setVariable name (Glyph.bytes (fields.head?.getD []))
      setFields names fields.tail

def read : Simple := fun _ words => do
  let (flags, names) ← options "p:r" words
  if names.isEmpty then fail (ascii "arg count")
  else
    let (reading, isWhole) ← readBytes (!flags.any (·.letter == 'r'))
    let separators := (← Sh.setting? "IFS").getD Fields.usualSeparators
    setFields names (Fields.split separators reading.text.reverse.toArray
      reading.regions.reverse (some names.length))
    pure (if isWhole then 0 else 1)

end Builtin

end PipelineShell.Machine.Script
