/-
# Machine.Script.Filenames -- the files that a pattern names

A pattern is followed directory by directory: a part without signs is followed as
it is, a part with signs is replaced by every name in the directory that it fits.
Names that begin with a dot are found only if the dot is in the pattern.
-/
import PipelineShell.Machine.Script.Pattern
import PipelineShell.Machine.Script.Shell

namespace PipelineShell.Machine.Script.Filenames

set_option autoImplicit false

/-- Whether the bracket in front of a text is closed in the same part of a path. -/
def closesBracket (text : Bytes) : Bool :=
  go (text.length + 1) (if text.head? == some (byteOf '!') then text.tail else text)
where
  go : Nat → Bytes → Bool
    | 0, _ => false
    | fuel + 1, text =>
        let text := if text.head? == some (byteOf '\\') then text.tail else text
        match text with
        | [] => false
        | b :: rest =>
            if b == Path.slash then false
            else if rest.head? == some (byteOf ']') then true
            else go fuel rest

/-- A pattern, taken apart at its first part with signs: what stands in front of
that part, the part, and what follows the slash behind it if there is one. -/
structure Cut where
  front : Bytes
  part : Bytes
  rest : Option Bytes

/-- Takes a pattern apart; nothing if there are no signs in it. -/
def cut (pattern : Bytes) : Option Cut :=
  go (pattern.length + 1) pattern [] [] false
where
  /-- `front` and `part` are kept backwards. -/
  go : Nat → Bytes → Bytes → Bytes → Bool → Option Cut
    | 0, _, _, _, _ => none
    | _ + 1, [], front, part, isPattern =>
        if isPattern then some ⟨front.reverse, part.reverse, none⟩ else none
    | fuel + 1, b :: rest, front, part, isPattern =>
        if b == byteOf '*' || b == byteOf '?' then go fuel rest front (b :: part) true
        else if b == byteOf '[' then
          go fuel rest front (b :: part) (isPattern || closesBracket rest)
        else
          let (escape, b, rest) := match rest with
            | c :: after => if b == byteOf '\\' then ([b], c, after) else ([], b, rest)
            | [] => ([], b, rest)
          if b == Path.slash then
            if isPattern then some ⟨front.reverse, part.reverse, some rest⟩
            else go fuel rest (b :: escape ++ part ++ front) [] false
          else go fuel rest front (b :: escape ++ part) isPattern

/-- A pattern without the backslashes that quote its bytes. -/
def bare : Bytes → Bytes
  | [] => []
  | [b] => [b]
  | b :: c :: rest => if b == byteOf '\\' then c :: bare rest else b :: bare (c :: rest)

/-- The files that a pattern names, in a directory that is given by a path with its
slash.  In each directory there are only names that fit. -/
def search : Nat → Bytes → Bytes → Sh (List Bytes)
  | 0, _, _ => pure []
  | fuel + 1, directory, pattern =>
      match cut pattern with
      | none => do
          if directory.isEmpty then pure []
          else
            let path := directory ++ bare pattern
            match ← Sh.ask (.status path false) with
            | .ok _ => pure [path]
            | .error _ => pure []
      | some found => do
          let front := directory ++ bare found.front
          match ← Sh.ask (.namesIn (if front.isEmpty then ascii "." else front)) with
          | .error _ => pure []
          | .ok names =>
              let showsDots := (bare found.part).head? == some (byteOf '.')
              let fitting := (ascii "." :: ascii ".." :: names).filter fun name =>
                (showsDots || name.head? != some (byteOf '.')) && Pattern.fits found.part name
              match found.rest with
              | none => pure (fitting.map (front ++ ·))
              | some rest => below fuel (fitting.map fun name => front ++ name ++ [Path.slash]) rest
where
  below (fuel : Nat) : List Bytes → Bytes → Sh (List Bytes)
    | [], _ => pure []
    | directory :: others, rest => do
        let here ← search fuel directory rest
        let there ← below fuel others rest
        pure (here ++ there)

def named (pattern : Bytes) : Sh (List Bytes) := do
  let found ← search (pattern.length + 1) [] pattern
  pure (found.mergeSort precedes)

end PipelineShell.Machine.Script.Filenames
