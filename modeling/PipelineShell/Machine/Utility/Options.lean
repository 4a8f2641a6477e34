/-
# Machine.Utility.Options -- the options of programs

Options are letters behind a dash, or long names behind two; a word `--` ends
them.  `read` takes the words of a program apart into options and operands, in
order, up to the first fault.  Letters may stand together, and an argument may
stand in the same word as its option or in the next; a long name may be cut short
as long as only one option can be meant.
-/
import PipelineShell.Text.Ascii

namespace PipelineShell.Machine.Utility.Options

set_option autoImplicit false

/-- Whether an option has an argument. -/
inductive Need where
  | never
  | always
  | sometimes
  deriving DecidableEq, Repr

/-- A long name: the option is that of a letter or, if it has none, of a character
that no letter uses. -/
structure Long where
  name : String
  need : Need
  code : Char

/-- The options that a program has. -/
structure Spec where
  letters : List (Char × Need)
  long : List Long
  /-- Options are looked for only in front of the first operand. -/
  endsAtOperand : Bool

/-- Letters of options without an argument. -/
def plain (letters : String) : List (Char × Need) := letters.toList.map (·, .never)

def taking (letters : String) : List (Char × Need) := letters.toList.map (·, .always)

/-- What a word of a program comes to. -/
inductive Item where
  | option (code : Char) (argument : Option Bytes)
  | operand (word : Bytes)
  /-- Something is wrong; nothing after it is read. -/
  | fault (message : Bytes)
  deriving DecidableEq, Repr

/-! ## Letters -/

def invalid (letter : UInt8) : Item :=
  .fault (ascii "invalid option -- '" ++ [letter] ++ ascii "'")

def lacking (letter : UInt8) : Item :=
  .fault (ascii "option requires an argument -- '" ++ [letter] ++ ascii "'")

/-- Reads the letters of one word.  The second answer is an option that takes its
argument from the next word. -/
def readLetters (spec : Spec) : Bytes → List Item × Option (Char × UInt8)
  | [] => ([], none)
  | letter :: rest =>
      let c := charOf letter
      match spec.letters.lookup c with
      | none => ([invalid letter], none)
      | some .never =>
          let (items, open?) := readLetters spec rest
          (.option c none :: items, open?)
      | some .sometimes =>
          ([.option c (if rest.isEmpty then none else some rest)], none)
      | some .always =>
          if rest.isEmpty then ([], some (c, letter)) else ([.option c (some rest)], none)

/-! ## Long names -/

def spelled (name : Bytes) : Bytes := ascii "'--" ++ name ++ ascii "'"

/-- The long options that a name, possibly cut short, can mean. -/
def candidates (spec : Spec) (name : Bytes) : List Long :=
  match spec.long.filter (fun option => ascii option.name == name) with
  | exact :: _ => [exact]
  | [] => spec.long.filter fun option => name.isPrefixOf (ascii option.name)

/-- Reads one long option; the second answer is one that takes its argument from
the next word. -/
def readLong (spec : Spec) (word : Bytes) : List Item × Option (Char × Bytes) :=
  let name := word.takeWhile (· != byteOf '=')
  let argument := if name.length < word.length then some (word.drop (name.length + 1)) else none
  match candidates spec name with
  | [] => ([.fault (ascii "unrecognized option " ++ spelled name)], none)
  | first :: others =>
      if others.all (fun (other : Long) => other.code == first.code && other.need == first.need) then
        let full := ascii first.name
        match first.need, argument with
        | .never, some _ =>
            ([.fault (ascii "option " ++ spelled full ++ ascii " doesn't allow an argument")], none)
        | .always, none => ([], some (first.code, full))
        | _, _ => ([.option first.code argument], none)
      else
        ([.fault (ascii "option " ++ spelled name ++ ascii " is ambiguous; possibilities:" ++
          (first :: others).flatMap fun (option : Long) =>
            ascii " " ++ spelled (ascii option.name))], none)

/-! ## All words -/

def endsInFault (items : List Item) : Bool :=
  match items.getLast? with
  | some (.fault _) => true
  | _ => false

def read (spec : Spec) : List Bytes → List Item
  | [] => []
  | word :: rest =>
      if word == ascii "--" then rest.map .operand
      else if (ascii "--").isPrefixOf word then
        match readLong spec (word.drop 2) with
        | (_, some (code, name)) =>
            match rest with
            | [] => [.fault (ascii "option " ++ spelled name ++ ascii " requires an argument")]
            | argument :: rest => .option code (some argument) :: read spec rest
        | (items, none) => if endsInFault items then items else items ++ read spec rest
      else if word.head? == some (byteOf '-') && 1 < word.length then
        match readLetters spec word.tail with
        | (items, some (code, letter)) =>
            match rest with
            | [] => items ++ [lacking letter]
            | argument :: rest => items ++ .option code (some argument) :: read spec rest
        | (items, none) => if endsInFault items then items else items ++ read spec rest
      else if spec.endsAtOperand then .operand word :: rest.map .operand
      else .operand word :: read spec rest

def operands (items : List Item) : List Bytes :=
  items.filterMap fun
    | .operand word => some word
    | _ => none

/-- The codes of the options among some items. -/
def codes (items : List Item) : List Char :=
  items.filterMap fun
    | .option code _ => some code
    | _ => none

def fault? (items : List Item) : Option Bytes :=
  items.findSome? fun
    | .fault message => some message
    | _ => none

end PipelineShell.Machine.Utility.Options
