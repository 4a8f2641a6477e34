/-
# Machine.Script.Builtin.Limits -- what a process may use

The mask of permissions is read and set in octal digits or by letters.  Limits on
resources are only shown: the machine does not keep any.
-/
import PipelineShell.Machine.Script.Builtin.Basic

namespace PipelineShell.Machine.Script.Builtin

set_option autoImplicit false

open Sh (ask fail print)

/-! ## The mask of permissions -/

def allPermissions : Nat := 0o777

def without (permissions others : Nat) : Nat :=
  permissions &&& (allPermissions ^^^ (others &&& allPermissions))

def showPermissions (permissions : Nat) : Bytes :=
  let part (who : String) (shift : Nat) : String :=
    let bits := permissions / Nat.pow 2 shift
    who ++ "=" ++ (if bits / 4 % 2 == 1 then "r" else "") ++ (if bits / 2 % 2 == 1 then "w" else "") ++
      (if bits % 2 == 1 then "x" else "")
  ascii (part "u" 6 ++ "," ++ part "g" 3 ++ "," ++ part "o" 0)

/-- The sorts of users that a letter stands for, as one permission of each. -/
def usersOf? (b : UInt8) : Option Nat :=
  [('a', 0o111), ('u', 0o100), ('g', 0o010), ('o', 0o001)].lookup (charOf b)

def permissionsOf? (before : Nat) (b : UInt8) : Option Nat :=
  [('r', 4), ('w', 2), ('x', 1), ('u', before / 64 % 8), ('g', before / 8 % 8), ('o', before % 8),
    ('X', if before &&& 0o111 == 0 then 0 else 1), ('s', 0)].lookup (charOf b)

/-- Permissions changed as a text of letters asks; nothing if the text is wrong.  The
sorts of users stay the same until a comma. -/
def changePermissions (before : Nat) : Nat → Nat → Nat → Bytes → Option Nat
  | 0, _, _, _ => none
  | _ + 1, _, permissions, [] => some permissions
  | fuel + 1, users, permissions, text =>
      let who := text.takeWhile fun b => (usersOf? b).isSome
      let users := who.foldl (fun users b => users ||| (usersOf? b).getD 0) users
      let users := if users == 0 then 0o111 else users
      match text.drop who.length with
      | [] => some permissions
      | operator :: rest =>
          let letters := rest.takeWhile fun b => (permissionsOf? before b).isSome
          let bits := letters.foldl (fun bits b => bits ||| (permissionsOf? before b).getD 0) 0
          let value := bits * users
          let next? := match charOf operator with
            | '-' => some (without permissions value)
            | '=' => some (value ||| without permissions (users * 7))
            | '+' => some (permissions ||| value)
            | _ => none
          match next?, rest.drop letters.length with
          | none, _ => none
          | some permissions, [] => some permissions
          | some permissions, b :: more =>
              if b == byteOf ',' then changePermissions before fuel 0 permissions more
              else if (ascii "=+-").contains b then
                changePermissions before fuel users permissions (b :: more)
              else none

def mask : Simple := fun _ words => do
  let (flags, words) ← options "S" words
  let mask : Nat ← ask .creationMask
  match words with
  | [] => do
      printLine (if flags.isEmpty then
        let digits := Ascii.inBase 8 mask
        List.replicate (4 - digits.length) (byteOf '0') ++ digits
      else showPermissions (without allPermissions mask))
      pure 0
  | word :: _ =>
      if word.head?.any Ascii.isDigit then
        if word.all Ascii.isOctalDigit then
          ask (.setCreationMask (Ascii.valueIn 8 word &&& allPermissions))
          pure 0
        else Sh.badNumber word
      else
        let before := without allPermissions mask
        match changePermissions before (word.length + 1) 0 before word with
        | some permissions => do
            ask (.setCreationMask (without allPermissions permissions))
            pure 0
        | none => fail (ascii "Illegal mode: " ++ word)

/-! ## Limits -/

/-- The limits by letter, what they count, and what they are; nothing if there is
no limit. -/
def limits : List (Char × String × Option Nat) :=
  [('t', "time(seconds)", none), ('f', "file(blocks)", none), ('d', "data(kbytes)", none),
    ('s', "stack(kbytes)", some 8192), ('c', "coredump(blocks)", some 0),
    ('m', "memory(kbytes)", none), ('l', "locked memory(kbytes)", some 8192),
    ('p', "process", none), ('n', "nofiles", some 1048576), ('v', "vmemory(kbytes)", none),
    ('w', "locks", none), ('r', "rtprio", some 0)]

def showLimit (limit : Option Nat) : Bytes :=
  match limit with
  | some n => Ascii.decimal n
  | none => ascii "unlimited"

def showLimits : Simple := fun _ words => do
  let (flags, words) ← options "HSatfdscmlpnvwr" words
  let letters := (flags.map (·.letter)).filter fun letter => letter != 'H' && letter != 'S'
  let letter := (letters.filter (· != 'a')).getLast?.getD 'f'
  match words with
  | [] => do
      if letters.contains 'a' then
        for (_, text, limit) in limits do
          printLine (ascii text ++ List.replicate (20 - text.length) (byteOf ' ') ++ ascii " " ++
            showLimit limit)
      else printLine (showLimit ((limits.lookup letter).bind (·.2)))
      pure 0
  | word :: others =>
      if letters.contains 'a' || !others.isEmpty then fail (ascii "too many arguments")
      else if word == ascii "unlimited" || word.all Ascii.isDigit then pure 0
      else fail (ascii "bad number")

/-- Shows how much time has been used up: none. -/
def showTimes : Simple := fun _ _ => do
  print (ascii "0m0.000000s 0m0.000000s\n0m0.000000s 0m0.000000s\n")
  pure 0

end PipelineShell.Machine.Script.Builtin
