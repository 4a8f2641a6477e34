/-
# Machine.Script.Pattern -- patterns for texts and names

In a pattern `*` stands for any text, `?` for any byte, and a set in brackets for
one of its members; a backslash takes the meaning of the next byte away.  A
bracket that is not closed stands for itself.
-/
import PipelineShell.Text.Ascii

namespace PipelineShell.Machine.Script.Pattern

set_option autoImplicit false

/-- The order of bytes in ranges: those above 127 come first. -/
def rank (b : UInt8) : Int := if b < 128 then b.toNat else (b.toNat : Int) - 256

/-- The class whose name, with the closing signs, a text begins with; and the rest. -/
def classAt (text : Bytes) : Option ((UInt8 → Bool) × Bytes) :=
  Ascii.classes.findSome? fun (name, isMember) =>
    let spelled := ascii (":" ++ name ++ ":]")
    if spelled.isPrefixOf text then some (isMember, text.drop spelled.length) else none

/-- Whether a byte is in a set, given what stands behind its opening bracket; and
the rest of the pattern.  `none` if the set is not closed. -/
def member (b : UInt8) : Nat → Bool → Bytes → Option (Bool × Bytes)
  | 0, _, _ => none
  | _ + 1, _, [] => none
  | fuel + 1, found, c :: rest =>
      let goOn (found : Bool) (rest : Bytes) : Option (Bool × Bytes) :=
        match rest with
        | [] => none
        | d :: after => if d == byteOf ']' then some (found, after) else member b fuel found rest
      let single (c : UInt8) (rest : Bytes) : Option (Bool × Bytes) :=
        match rest with
        | dash :: d :: after =>
            if dash == byteOf '-' && d != byteOf ']' then
              let (d, after) := if d == byteOf '\\' then (after.headD 0, after.tail) else (d, after)
              goOn (found || (rank c ≤ rank b && rank b ≤ rank d)) after
            else goOn (found || b == c) rest
        | _ => goOn (found || b == c) rest
      if c == byteOf '[' then
        match classAt rest with
        | some (isMember, rest) => goOn (found || isMember b) rest
        | none => single c rest
      else if c == byteOf '\\' then
        match rest with
        | [] => none
        | d :: rest => single d rest
      else single c rest

def matchesAt : Nat → Bytes → Bytes → Bool
  | 0, _, _ => false
  | _ + 1, [], text => text.isEmpty
  | fuel + 1, c :: rest, text =>
      let literal (c : UInt8) (rest : Bytes) : Bool :=
        match text with
        | [] => false
        | b :: text => b == c && matchesAt fuel rest text
      match charOf c with
      | '\\' =>
          match rest with
          | [] => literal c []
          | d :: rest => literal d rest
      | '?' =>
          match text with
          | [] => false
          | _ :: text => matchesAt fuel rest text
      | '*' =>
          let rest := rest.dropWhile (· == byteOf '*')
          if rest.isEmpty then true
          else (List.range (text.length + 1)).any fun n => matchesAt fuel rest (text.drop n)
      | '[' =>
          match text with
          | [] => false
          | b :: after =>
              let inverts := rest.head? == some (byteOf '!')
              match member b (rest.length + 1) false (if inverts then rest.tail else rest) with
              | none => literal c rest
              | some (found, rest) => found != inverts && matchesAt fuel rest after
      | _ => literal c rest

/-- Whether a pattern matches the whole of a text. -/
def fits (pattern text : Bytes) : Bool := matchesAt (pattern.length + text.length + 1) pattern text

/-- Whether there is a sign in a text that could make it a pattern. -/
def hasSign (text : Bytes) : Bool := text.any fun b => (ascii "*?[").contains b

end PipelineShell.Machine.Script.Pattern
