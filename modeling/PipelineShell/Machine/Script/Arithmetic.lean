/-
# Machine.Script.Arithmetic -- expressions with whole numbers

Numbers have 64 bits and wrap around.  An expression is evaluated while it is
read; the parts that do not count, such as the second operand of `1 || x`, are
read without being evaluated.
-/
import PipelineShell.Machine.Script.Shell

namespace PipelineShell.Machine.Script.Arithmetic

set_option autoImplicit false

/-! ## Signs -/

inductive Operator where
  | times
  | divide
  | remainder
  | plus
  | minus
  | shiftLeft
  | shiftRight
  | less
  | lessEqual
  | greater
  | greaterEqual
  | equal
  | unequal
  | both
  | exclusive
  | either
  deriving DecidableEq, Repr

inductive Sign where
  | number (n : Int)
  | name (name : Bytes)
  | operator (operator : Operator)
  /-- An assignment, possibly with an operator. -/
  | assign (operator : Option Operator)
  | and
  | or
  | not
  | complement
  | opening
  | closing
  | question
  | colon
  | ending
  | unknown
  deriving DecidableEq, Repr

/-- Signs of more than one character come before those that they begin with. -/
def signs : List (String × Sign) :=
  [("<<=", .assign (some .shiftLeft)), (">>=", .assign (some .shiftRight)),
    ("<<", .operator .shiftLeft), (">>", .operator .shiftRight), ("<=", .operator .lessEqual),
    (">=", .operator .greaterEqual), ("==", .operator .equal), ("!=", .operator .unequal),
    ("&&", .and), ("||", .or), ("&=", .assign (some .both)), ("|=", .assign (some .either)),
    ("^=", .assign (some .exclusive)), ("*=", .assign (some .times)),
    ("/=", .assign (some .divide)), ("%=", .assign (some .remainder)),
    ("+=", .assign (some .plus)), ("-=", .assign (some .minus)), ("<", .operator .less),
    (">", .operator .greater), ("=", .assign none), ("&", .operator .both),
    ("|", .operator .either), ("^", .operator .exclusive), ("*", .operator .times),
    ("/", .operator .divide), ("%", .operator .remainder), ("+", .operator .plus),
    ("-", .operator .minus), ("!", .not), ("~", .complement), ("(", .opening), (")", .closing),
    ("?", .question), (":", .colon)]

/-- The least and the greatest number. -/
def least : Int := -9223372036854775808
def greatest : Int := 9223372036854775807

def wrap (n : Int) : Int := n.bmod (Nat.pow 2 64)

/-- Digits at the front of a text as a number; those behind a zero are octal, those
behind `0x` hexadecimal. -/
def readDigits (text : Bytes) : Nat × Bytes :=
  let isHex := (ascii "0x").isPrefixOf (text.map Ascii.lower) &&
    (text.drop 2).head?.any Ascii.isHexDigit
  let (base, digits) :=
    if isHex then (16, (text.drop 2).takeWhile Ascii.isHexDigit)
    else if text.head? == some (byteOf '0') then (8, text.takeWhile Ascii.isOctalDigit)
    else (10, text.takeWhile Ascii.isDigit)
  (Ascii.valueIn base digits, text.drop (digits.length + if isHex then 2 else 0))

def readSign (text : Bytes) : Sign × Bytes :=
  let text := text.dropWhile fun b => Ascii.isBlank b || b == byteOf '\n'
  match text with
  | [] => (.ending, [])
  | b :: _ =>
      if Ascii.isDigit b then
        let (n, rest) := readDigits text
        (.number (min (n : Int) greatest), rest)
      else if Ascii.beginsName b then
        let name := text.takeWhile Ascii.isNameByte
        (.name name, text.drop name.length)
      else
        match signs.find? fun entry => (ascii entry.1).isPrefixOf text with
        | some (spelled, sign) => (sign, text.drop spelled.length)
        | none => (.unknown, text)

/-! ## Operators -/

def Operator.rank : Operator → Nat
  | .times => 0
  | .divide => 0
  | .remainder => 0
  | .plus => 1
  | .minus => 1
  | .shiftLeft => 2
  | .shiftRight => 2
  | .less => 3
  | .lessEqual => 3
  | .greater => 3
  | .greaterEqual => 3
  | .equal => 4
  | .unequal => 4
  | .both => 5
  | .exclusive => 6
  | .either => 7

def loosest : Nat := 8

def truth (b : Bool) : Int := if b then 1 else 0

/-- The bits of a number as a number without a sign. -/
def bits (n : Int) : Nat := (n % Int.pow 2 64).toNat

/-- What an operator comes to; nothing for a division by zero. -/
def Operator.apply (operator : Operator) (a b : Int) : Option Int :=
  match operator with
  | .times => some (wrap (a * b))
  | .divide => if b == 0 then none else some (wrap (a.tdiv b))
  | .remainder => if b == 0 then none else some (a.tmod b)
  | .plus => some (wrap (a + b))
  | .minus => some (wrap (a - b))
  | .shiftLeft => some (wrap (a * Int.pow 2 (b % 64).toNat))
  | .shiftRight => some (a.fdiv (Int.pow 2 (b % 64).toNat))
  | .less => some (truth (a < b))
  | .lessEqual => some (truth (a ≤ b))
  | .greater => some (truth (b < a))
  | .greaterEqual => some (truth (b ≤ a))
  | .equal => some (truth (a == b))
  | .unequal => some (truth (a != b))
  | .both => some (wrap (bits a &&& bits b))
  | .exclusive => some (wrap (bits a ^^^ bits b))
  | .either => some (wrap (bits a ||| bits b))

/-! ## Evaluation -/

/-- Where the evaluation is: the whole expression, the signs still to come, and the
sign that has been looked at. -/
structure Place where
  whole : Bytes
  rest : Bytes
  sign : Sign

abbrev Eval := StateT Place Sh

def wrong {α : Type} (message : String) : Eval α := do
  let place ← get
  Sh.fail (ascii ("arithmetic expression: " ++ message ++ ": \"") ++ place.whole ++ ascii "\"")

def next : Eval Sign := do
  let place ← get
  let (sign, rest) := readSign place.rest
  set { place with rest }
  pure sign

def last : Eval Sign := do pure (← get).sign

def setLast (sign : Sign) : Eval Unit := modify fun place => { place with sign }

def apply (operator : Operator) (a b : Int) : Eval Int := do
  if a == least && b == -1 && (operator == .divide || operator == .remainder) then
    let pid : Nat ← liftM (Sh.ask .self)
    let _ ← liftM (Sh.ask (.signal pid 8))
  match operator.apply a b with
  | some n => pure n
  | none => wrong "division by zero"

def valueOf (name : Bytes) : Eval Int := do
  let text := (← liftM (Sh.value? name)).getD []
  let body := text.dropWhile Ascii.isSpace
  let negative := body.head? == some (byteOf '-')
  let body := if negative || body.head? == some (byteOf '+') then body.tail else body
  if text.all Ascii.isSpace then pure 0
  else if !body.head?.any Ascii.isDigit then liftM (Sh.badNumber (α := Int) text)
  else
    let (n, rest) := readDigits body
    let value : Int := if negative then -(n : Int) else n
    if !rest.all Ascii.isSpace || value < least || greatest < value then
      liftM (Sh.badNumber (α := Int) text)
    else pure value

def store (name : Bytes) (n : Int) : Eval Int := do
  liftM (Sh.setVariable name (Ascii.signed n))
  pure n

/-- The parts of an expression, from the loosest to the tightest.  Each of them is
given the first sign and, but for the first, the sign behind it; `counts` says
whether it is evaluated. -/
structure Parts where
  assignment : Sign → Bool → Eval Int
  conditional : Sign → Sign → Bool → Eval Int
  disjunction : Sign → Sign → Bool → Eval Int
  conjunction : Sign → Sign → Bool → Eval Int
  /-- Operators that bind more tightly than a rank, behind a first operand. -/
  operators : Int → Operator → Nat → Bool → Eval Int
  primary : Sign → Sign → Bool → Eval Int

/-- The parts when nothing more can be nested. -/
def Parts.none : Parts :=
  let stop : Eval Int := wrong "expecting primary"
  ⟨fun _ _ => stop, fun _ _ _ => stop, fun _ _ _ => stop, fun _ _ _ => stop,
    fun _ _ _ _ => stop, fun _ _ _ => stop⟩

/-- The parts, given those one level deeper. -/
def Parts.around (parts : Parts) : Parts where
  assignment first counts := do
    let second ← next
    match first, second with
    | .name name, .assign operator => do
        let result ← parts.assignment (← next) counts
        if !counts then pure result
        else
          match operator with
          | .none => store name result
          | .some operator => do
              let value ← apply operator (← valueOf name) result
              store name value
    | _, _ => parts.conditional first second counts
  conditional first second counts := do
    let a ← parts.disjunction first second counts
    if (← last) != .question then pure a
    else
      let b ← parts.assignment (← next) (counts && a != 0)
      if (← last) != .colon then wrong "expecting ':'"
      else
        let first ← next
        let c ← parts.conditional first (← next) (counts && a == 0)
        pure (if a != 0 then b else c)
  disjunction first second counts := do
    let a ← parts.conjunction first second counts
    if (← last) != .or then pure a
    else
      let first ← next
      let b ← parts.disjunction first (← next) (counts && a == 0)
      pure (truth (a != 0 || b != 0))
  conjunction first second counts := do
    let a ← parts.primary first second counts
    let a ← match ← last with
      | .operator operator => parts.operators a operator loosest counts
      | _ => pure a
    if (← last) != .and then pure a
    else
      let first ← next
      let b ← parts.conjunction first (← next) (counts && a != 0)
      pure (truth (a != 0 && b != 0))
  operators a operator rank counts := do
    let first ← next
    let b ← parts.primary first (← next) counts
    let b ← match ← last with
      | .operator inner =>
          if inner.rank < operator.rank then parts.operators b inner operator.rank counts
          else pure b
      | _ => pure b
    let a ← if counts then apply operator a b else pure b
    match ← last with
    | .operator other =>
        if other.rank < rank then parts.operators a other rank counts else pure a
    | _ => pure a
  primary first second counts := do
    match first with
    | .opening => do
        let value ← parts.assignment second counts
        if (← last) != .closing then wrong "expecting ')'"
        else
          setLast (← next)
          pure value
    | .number n => do
        setLast second
        pure n
    | .name name => do
        setLast second
        if counts then valueOf name else pure 0
    | .operator .plus => do parts.primary second (← next) counts
    | .operator .minus => do pure (wrap (-(← parts.primary second (← next) counts)))
    | .not => do pure (truth ((← parts.primary second (← next) counts) == 0))
    | .complement => do pure (-(← parts.primary second (← next) counts) - 1)
    | _ => wrong "expecting primary"

/-- The parts, nested so deep at most. -/
def parts : Nat → Parts
  | 0 => .none
  | depth + 1 =>
      { assignment := fun a b => (parts depth).around.assignment a b
        conditional := fun a b c => (parts depth).around.conditional a b c
        disjunction := fun a b c => (parts depth).around.disjunction a b c
        conjunction := fun a b c => (parts depth).around.conjunction a b c
        operators := fun a b c d => (parts depth).around.operators a b c d
        primary := fun a b c => (parts depth).around.primary a b c }

def evaluate (text : Bytes) : Sh Int := do
  let action : Eval Int := do
    let value ← (parts (8 * text.length + 64)).assignment (← next) true
    if (← last) != .ending then wrong "expecting EOF" else pure value
  let (value, _) ← action.run ⟨text, text, .ending⟩
  pure value

end PipelineShell.Machine.Script.Arithmetic
