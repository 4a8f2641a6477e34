/-
# Machine.Script.Builtin.Test -- conditions

A condition is made of words: operators with one operand behind them or with two
around them, joined by `-a` and `-o`, negated by `!` and grouped by parentheses.
Whether a word is an operator depends on the words behind it; with three words or
four the first decision is made by their number alone (`Condition.evaluate`).
-/
import PipelineShell.Machine.Script.Builtin.Basic

namespace PipelineShell.Machine.Script

set_option autoImplicit false

namespace Condition

open Sh (ask fail)

/-! ## Words -/

/-- What a word of a condition is. -/
inductive Token where
  | ending
  | operand
  | unary (letter : Char)
  | binary (text : String)
  | negation
  | both
  | either
  | opening
  | closing
  deriving DecidableEq, Repr

def unaryLetters : List Char := "rwxefdcbpugkstznhOGLS".toList

def binaryTexts : List String :=
  ["=", "!=", "<", ">", "-eq", "-ne", "-ge", "-gt", "-le", "-lt", "-nt", "-ot", "-ef"]

def operator? (word : Bytes) : Option Token :=
  match word.map charOf with
  | ['!'] => some .negation
  | ['('] => some .opening
  | [')'] => some .closing
  | ['-', 'a'] => some .both
  | ['-', 'o'] => some .either
  | chars =>
      match binaryTexts.find? (·.toList == chars) with
      | some text => some (.binary text)
      | none =>
          match chars with
          | ['-', letter] => if unaryLetters.contains letter then some (.unary letter) else none
          | _ => none

/-- Whether a word could be an operator with two operands. -/
def isBinary (word : Bytes) : Bool :=
  match operator? word with
  | some (.binary _) => true
  | _ => false

def first (words : List Bytes) : Token :=
  match words with
  | [] => .ending
  | word :: rest =>
      match operator? word with
      | none => .operand
      | some (.unary letter) =>
          let standsAlone := match rest with
            | [] => true
            | [_] => false
            | next :: _ => isBinary next
          if standsAlone then .operand else .unary letter
      | some .opening => if rest.isEmpty then .operand else .opening
      | some token => token

/-! ## Operators -/

def number (text : Bytes) : Sh Int := do
  match Sh.integer? text with
  | some n => pure n
  | none => Sh.badNumber text

def statusOf (path : Bytes) (throughLast : Bool) : Sh (Option FileStatus) := do
  match ← ask (.status path throughLast) with
  | .ok status => pure (some status)
  | .error _ => pure none

/-- Whether a file can be used in some way. -/
def may (path : Bytes) (permission : Permissions) : Sh Bool := do
  match ← ask (.may path permission) with
  | .ok () => pure true
  | .error _ => pure false

def applyUnary (letter : Char) (word : Bytes) : Sh Bool := do
  let check (test : FileStatus → Bool) : Sh Bool := do
    pure ((← statusOf word true).any test)
  let hasBit (bit : Nat) : Sh Bool := check (Permissions.allows ·.permissions bit)
  match letter with
  | 'z' => pure word.isEmpty
  | 'n' => pure !word.isEmpty
  | 't' => do
      let _ ← number word
      pure false
  | 'r' => may word mayRead
  | 'w' => may word mayWrite
  | 'x' => may word mayRun
  | 'f' => check (·.kind == .regular)
  | 'd' => check (·.kind == .directory)
  | 'c' => check (·.kind == .device)
  | 'b' => pure false
  | 'p' => check (·.kind == .pipe)
  | 'S' => pure false
  | 'h' => do pure ((← statusOf word false).any (·.kind == .link))
  | 'L' => do pure ((← statusOf word false).any (·.kind == .link))
  | 's' => check (0 < ·.size)
  | 'u' => hasBit 0o4000
  | 'g' => hasBit 0o2000
  | 'k' => hasBit 0o1000
  | _ => check fun _ => true

def compare (test : Int → Int → Bool) (a b : Bytes) : Sh Bool := do
  let m ← number a
  let n ← number b
  pure (test m n)

def compareFiles (test : FileStatus → FileStatus → Bool) (a b : Bytes) : Sh Bool := do
  match ← statusOf a true with
  | none => pure false
  | some m =>
      match ← statusOf b true with
      | none => pure false
      | some n => pure (test m n)

/-- Applies an operator with two operands. -/
def applyBinary (text : String) (a b : Bytes) : Sh Bool :=
  match text with
  | "=" => pure (a == b)
  | "!=" => pure (a != b)
  | "<" => pure (precedes a b && a != b)
  | ">" => pure (precedes b a && a != b)
  | "-eq" => compare (· == ·) a b
  | "-ne" => compare (· != ·) a b
  | "-ge" => compare (fun m n => n ≤ m) a b
  | "-gt" => compare (fun m n => n < m) a b
  | "-le" => compare (fun m n => m ≤ n) a b
  | "-lt" => compare (fun m n => m < n) a b
  | "-nt" => compareFiles (fun m n => n.changed < m.changed) a b
  | "-ot" => compareFiles (fun m n => m.changed < n.changed) a b
  | _ => compareFiles (fun m n => m.identity == n.identity) a b

/-! ## Conditions -/

def refuse {α : Type} (word : Bytes) (message : String) : Sh α :=
  fail ((if word.isEmpty then [] else word ++ ascii ": ") ++ ascii message)

/-- The condition in parentheses, read at the next level of nesting. -/
abbrev Nested := Token → List Bytes → Sh (Bool × List Bytes)

/-- Evaluates one operator with its operands, or a word by itself.  The answers are
its value and the words from its last one on. -/
def primary (nested : Nested) (token : Token) (words : List Bytes) : Sh (Bool × List Bytes) := do
  match token with
  | .ending => pure (false, words)
  | .opening =>
      let inside := words.tail
      let next := first inside
      if next == .closing then pure (false, inside)
      else
        let (value, last) ← nested next inside
        if first last.tail == .closing then pure (value, last.tail)
        else refuse [] "closing paren expected"
  | .unary letter =>
      match words with
      | _ :: word :: rest => do pure (← applyUnary letter word, word :: rest)
      | _ => refuse (words.headD []) "argument expected"
  | _ =>
      match first words.tail with
      | .binary text =>
          match words with
          | a :: _ :: b :: rest => do pure (← applyBinary text a b, b :: rest)
          | _ => refuse (ascii text) "argument expected"
      | _ => pure (!(words.headD []).isEmpty, words)

def negated (nested : Nested) : Nat → Token → List Bytes → Sh (Bool × List Bytes)
  | 0, _, words => pure (false, words)
  | fuel + 1, token, words =>
      if token != .negation then primary nested token words
      else do
        let next := first words.tail
        let (value, last) ← negated nested fuel next (if next == .ending then words else words.tail)
        pure (!value, last)

/-- Evaluates conditions of which all must hold. -/
def conjunction (nested : Nested) : Nat → Bool → Token → List Bytes → Sh (Bool × List Bytes)
  | 0, value, _, words => pure (value, words)
  | fuel + 1, before, token, words => do
      let (value, last) ← negated nested (words.length + 1) token words
      let value := before && value
      if first last.tail == .both then
        let rest := last.drop 2
        conjunction nested fuel value (first rest) rest
      else pure (value, last)

/-- Evaluates conditions of which one must hold. -/
def disjunction (nested : Nested) : Nat → Bool → Token → List Bytes → Sh (Bool × List Bytes)
  | 0, value, _, words => pure (value, words)
  | fuel + 1, before, token, words => do
      let (value, last) ← conjunction nested (words.length + 1) true token words
      let value := before || value
      if first last.tail == .either then
        let rest := last.drop 2
        disjunction nested fuel value (first rest) rest
      else pure (value, last)

/-- Evaluates a condition, nested so deep at most. -/
def conditionAt : Nat → Nested
  | 0, _, words => pure (false, words)
  | depth + 1, token, words =>
      disjunction (conditionAt depth) (words.length + 1) false token words

def finish (negates : Bool) (token : Token) (words : List Bytes) : Sh Bool := do
  let (value, last) ← conditionAt (words.length + 1) token words
  match last with
  | word :: _ :: _ => refuse word "unexpected operator"
  | _ => pure (value != negates)

/-- Evaluates the words of a condition.  With three words an operator in the middle
counts first; then, with three words or four, parentheses around them and a negation
in front.  However many negations are taken off like that, the condition is negated
once. -/
def evaluate : Nat → Bool → List Bytes → Sh Bool
  | 0, negates, _ => pure negates
  | fuel + 1, negates, words => do
      let isFew := words.length == 3 || words.length == 4
      if words.isEmpty then pure negates
      else if words.length == 3 && isBinary (words[1]?.getD []) then
        finish negates .operand words
      else if isFew && words.head? == some (ascii "(") && words.getLast? == some (ascii ")") then
        let inside := words.tail.dropLast
        finish negates (first inside) inside
      else if isFew && words.head? == some (ascii "!") then evaluate fuel true words.tail
      else finish negates (first words) words

end Condition

namespace Builtin

/-- Evaluates a condition; under the name of a bracket, another one has to close it. -/
def test : Simple := fun name words => do
  let isBracket := name.head? == some (byteOf '[')
  if isBracket && words.getLast? != some (ascii "]") then Sh.fail (ascii "missing ]")
  else
    let words := if isBracket then words.dropLast else words
    let value ← Condition.evaluate (words.length + 1) false words
    pure (if value then 0 else 1)

end Builtin

end PipelineShell.Machine.Script
