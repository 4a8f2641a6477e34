/-
# Machine.Utility.Exchange -- turning bytes into others

A set of bytes is written as a text with ranges, classes and repetitions; it is
read in two passes, escapes first (`unescape`) and then constructs (`readSet`).
A set is a list of `Piece`s, because two sets are matched piece by piece where
they change between capitals and small letters (`walk`).  Bytes are exchanged,
dropped, or squeezed, by tables of 256 entries.
-/
import PipelineShell.Machine.Utility.Basic

namespace PipelineShell.Machine.Utility.Exchange

set_option autoImplicit false

open PipelineShell.Machine.Action (ask exit readOnce repeatedly)

/-! ## Reading sets -/

/-- A byte of a set as it is written, and whether a backslash stood before it. -/
structure Mark where
  byte : UInt8
  isEscaped : Bool
  deriving DecidableEq, Repr

/-- A text with its escapes read, and the warnings that go with it. -/
def unescape : Nat → Bytes → List Mark × List Bytes
  | 0, _ => ([], [])
  | fuel + 1, text =>
      let put (byte : UInt8) (isEscaped : Bool) (rest : Bytes) :=
        let (marks, warnings) := unescape fuel rest
        ((⟨byte, isEscaped⟩ : Mark) :: marks, warnings)
      match text with
      | [] => ([], [])
      | b :: rest =>
        if b != byteOf '\\' then put b false rest
        else
          match rest with
          | [] =>
              ([⟨b, false⟩],
                [ascii "warning: an unescaped backslash at end of string is not portable"])
          | c :: after =>
              match charOf c with
              | 'a' => put 7 true after
              | 'b' => put 8 true after
              | 'f' => put 12 true after
              | 'n' => put 10 true after
              | 'r' => put 13 true after
              | 't' => put 9 true after
              | 'v' => put 11 true after
              | _ =>
                if !Ascii.isOctalDigit c then put c true after
                else
                  let digits := (rest.take 3).takeWhile Ascii.isOctalDigit
                  let value := Ascii.valueIn 8 digits
                  if value < 256 then put value.toUInt8 true (rest.drop digits.length)
                  else
                    let front := digits.take 2
                    let (marks, warnings) := put (Ascii.valueIn 8 front).toUInt8 true (rest.drop 2)
                    (marks, (ascii "warning: the ambiguous octal escape \\" ++ digits ++
                      ascii " is being\n\tinterpreted as the 2-byte sequence \\0" ++ front ++
                      ascii ", " ++ digits.drop 2) :: warnings)

/-- Which letters a class consists of. -/
inductive Case where
  | lower
  | upper
  deriving DecidableEq, Repr

inductive Construct where
  | one (byte : UInt8)
  | range (first last : UInt8)
  | classOf (name : Bytes) (test : UInt8 → Bool)
  | equals (byte : UInt8)
  /-- Without a number, as often as it takes. -/
  | repetition (byte : UInt8) (count : Option Nat)

def shown (bytes : Bytes) : Bytes :=
  bytes.flatMap fun b =>
    if b == byteOf '\\' then ascii "\\\\"
    else
      match Quoting.escape? b with
      | some text => byteOf '\\' :: text
      | none => [b]

/-- Whether a mark is a certain byte that is not escaped. -/
def Mark.is (mark : Mark) (c : Char) : Bool := mark.byte == byteOf c && !mark.isEscaped

/-- The marks up to a delimiter and a closing bracket, and those behind. -/
def upToDelimiter (delimiter : Char) : List Mark → Option (List Mark × List Mark)
  | a :: b :: rest =>
      if a.is delimiter && b.is ']' then some ([], rest)
      else (upToDelimiter delimiter (b :: rest)).map fun found => (a :: found.1, found.2)
  | _ => none

def isStarred (marks : List Mark) : Bool :=
  match marks with
  | star :: rest =>
      star.is '*' &&
        match rest.dropWhile fun mark => Ascii.isDigit mark.byte with
        | closing :: _ => closing.is ']'
        | [] => false
  | [] => false

/-- The most that a repetition can ask for. -/
def mostRepetitions : Nat := 18446744073709551614

/-- A repetition behind an opening bracket, and what follows it; or a complaint. -/
def repetition? (marks : List Mark) : Option (Except Bytes (Construct × List Mark)) :=
  match marks with
  | repeated :: star :: rest =>
      if !star.is '*' then none
      else
        let count := rest.takeWhile fun mark => !mark.isEscaped && mark.byte != byteOf ']'
        match rest.drop count.length with
        | closing :: after =>
            if !closing.is ']' then none
            else
              let digits := count.map (·.byte)
              let octal := digits.head? == some (byteOf '0')
              let isNumeral := digits.all (if octal then Ascii.isOctalDigit else Ascii.isDigit)
              let n := Ascii.valueIn (if octal then 8 else 10) digits
              if digits.isEmpty then some (.ok (.repetition repeated.byte none, after))
              else if !isNumeral || mostRepetitions < n then
                some (.error (ascii "invalid repeat count " ++ Quoting.sign (shown digits) ++
                  ascii " in [c*n] construct"))
              else some (.ok (.repetition repeated.byte (if n == 0 then none else some n), after))
        | [] => none
  | _ => none

/-- The construct that begins with a bracket and a colon or equals sign. -/
def bracket? (kind : Char) (inner : List Mark) : Except Bytes Construct :=
  let bytes := inner.map (·.byte)
  if kind == ':' then
    if bytes.isEmpty then .error (ascii "missing character class name '[::]'")
    else
      match Ascii.class? bytes with
      | some test => .ok (.classOf bytes test)
      | none => .error (ascii "invalid character class " ++ Quoting.sign (shown bytes))
  else
    match bytes with
    | [] => .error (ascii "missing equivalence class character '[==]'")
    | [b] => .ok (.equals b)
    | _ => .error (shown bytes ++ ascii ": equivalence class operand must be a single character")

def readSet : Nat → List Mark → Except Bytes (List Construct)
  | 0, _ => .ok []
  | fuel + 1, marks =>
      let plain : Except Bytes (List Construct) :=
        match marks with
        | first :: dash :: last :: rest =>
            if dash.is '-' then
              if first.byte ≤ last.byte then do
                let others ← readSet fuel rest
                .ok (.range first.byte last.byte :: others)
              else
                .error (ascii "range-endpoints of '" ++ shown [first.byte] ++ ascii "-" ++
                  shown [last.byte] ++ ascii "' are in reverse collating sequence order")
            else do
              let others ← readSet fuel (dash :: last :: rest)
              .ok (.one first.byte :: others)
        | few => .ok (few.map fun mark => .one mark.byte)
      let starred (inner : List Mark) : Except Bytes (List Construct) :=
        match repetition? inner with
        | none => plain
        | some (.error complaint) => .error complaint
        | some (.ok (construct, rest)) => do
            let others ← readSet fuel rest
            .ok (construct :: others)
      match marks with
      | opening :: kind :: third :: rest =>
          if !opening.is '[' then plain
          else if kind.is ':' || kind.is '=' then
            match upToDelimiter (charOf kind.byte) (third :: rest) with
            | none => starred (kind :: third :: rest)
            | some (inner, after) =>
              match bracket? (charOf kind.byte) inner with
              | .ok construct => do
                  let others ← readSet fuel after
                  .ok (construct :: others)
              | .error complaint =>
                  if !inner.isEmpty && isStarred (third :: rest) then
                    starred (kind :: third :: rest)
                  else .error complaint
          else starred (kind :: third :: rest)
      | _ => plain

/-! ## Sets as bytes -/

def between (first last : UInt8) : Bytes :=
  (List.range (last.toNat + 1 - first.toNat)).map fun n => (first.toNat + n).toUInt8

def everyByte : Bytes := (List.range 256).map Nat.toUInt8

/-- Bytes that belong together. -/
structure Piece where
  bytes : Bytes
  letters : Option Case

def longestPiece : Nat := 66000

/-- The bytes of a construct, a repetition without a number standing for `filling`
bytes. -/
def Construct.piece (filling : Nat) : Construct → Piece
  | .one b => ⟨[b], none⟩
  | .range first last => ⟨between first last, none⟩
  | .classOf name test =>
      ⟨everyByte.filter test,
        if name == ascii "lower" then some .lower
        else if name == ascii "upper" then some .upper
        else none⟩
  | .equals b => ⟨[b], none⟩
  | .repetition b count => ⟨List.replicate (min longestPiece (count.getD filling)) b, none⟩

/-- How many bytes a construct stands for. -/
def Construct.size : Construct → Nat
  | .repetition _ count => count.getD 0
  | other => (other.piece 0).bytes.length

def isOpenEnded : Construct → Bool
  | .repetition _ none => true
  | _ => false

def sizeOf (set : List Construct) : Nat := (set.map Construct.size).foldl (· + ·) 0

def piecesOf (filling : Nat) (set : List Construct) : List Piece :=
  (set.map (Construct.piece filling)).filter fun piece => !piece.bytes.isEmpty

def bytesOf (filling : Nat) (set : List Construct) : Bytes :=
  (piecesOf filling set).flatMap (·.bytes)

def membership (bytes : Bytes) : Array Bool :=
  bytes.foldl (fun table b => table.setIfInBounds b.toNat true) (Array.replicate 256 false)

def complementOf (table : Array Bool) : Array Bool := table.map (!·)

/-- One pair of bytes that stand at the same position of two sets. -/
structure Pair where
  source : Option UInt8
  image : Option UInt8
  sourceCase : Option Case
  imageCase : Option Case
  /-- The bytes are the first of their pieces. -/
  sourceBegins : Bool
  imageBegins : Bool

/-- The first byte of some pieces, the letters it belongs to, and what follows. -/
def nextOf : List Piece → Option UInt8 × Option Case × List Piece
  | [] => (none, none, [])
  | piece :: rest =>
      match piece.bytes with
      | [] => (none, none, rest)
      | [b] => (some b, piece.letters, rest)
      | b :: more => (some b, piece.letters, ⟨more, piece.letters⟩ :: rest)

/-- Goes through two sets side by side.  Where the second has letters of one case,
both go on to their next pieces at once. -/
def walk : Nat → Bool → Bool → List Piece → List Piece → List Pair
  | 0, _, _, _, _ => []
  | fuel + 1, sourceBegins, imageBegins, sources, images =>
      let (source, sourceCase, moreSources) := nextOf sources
      let (image, imageCase, moreImages) := nextOf images
      let pair : Pair := ⟨source, image, sourceCase, imageCase, sourceBegins, imageBegins⟩
      if source.isNone || image.isNone then [pair]
      else if imageCase.isSome then
        pair :: walk fuel true true sources.tail images.tail
      else
        pair :: walk fuel (moreSources.length < sources.length)
          (moreImages.length < images.length) moreSources moreImages

/-- Two sets side by side, from their starts. -/
def pairsOf (sources images : List Piece) : List Pair :=
  let size (pieces : List Piece) := (pieces.map (·.bytes.length)).foldl (· + ·) 0
  walk (min (size sources) (size images) + 1) true true sources images

/-! ## What is asked for -/

/-- What is done to the bytes. -/
structure Deed where
  /-- What each byte becomes. -/
  table : Array UInt8
  drops : Array Bool
  squeezes : Array Bool

/-- The options of the program. -/
structure Asked where
  complement : Bool
  delete : Bool
  squeeze : Bool
  truncate : Bool

def spec : Options.Spec where
  letters := Options.plain "AcCdst"
  long := [⟨"complement", .never, 'c'⟩, ⟨"delete", .never, 'd'⟩,
    ⟨"squeeze-repeats", .never, 's'⟩, ⟨"truncate-set1", .never, 't'⟩] ++ commonLong
  endsAtOperand := true

def nothing : Array Bool := Array.replicate 256 false

def unchanged : Array UInt8 := everyByte.toArray

/-- The table that takes each byte of a pair to the other; whole cases are changed
at once. -/
def tableOf (pairs : List Pair) : Array UInt8 :=
  pairs.foldl (fun table pair =>
    let change (test : UInt8 → Bool) (become : UInt8 → UInt8) : Array UInt8 :=
      (everyByte.filter test).foldl (fun table b => table.setIfInBounds b.toNat (become b)) table
    match pair.sourceCase, pair.imageCase, pair.source, pair.image with
    | some .lower, some .upper, _, _ => change Ascii.isLower Ascii.upper
    | some .upper, some .lower, _, _ => change Ascii.isUpper Ascii.lower
    | _, _, some a, some b => table.setIfInBounds a.toNat b
    | _, _, _, _ => table) unchanged

/-- The table that takes the bytes outside a set, in order, to those of another. -/
def tableOfComplement (members : Array Bool) (images : Bytes) : Array UInt8 :=
  let outside := everyByte.filter fun b => !((members[b.toNat]?).getD false)
  (outside.zip images).foldl (fun table pair => table.setIfInBounds pair.1.toNat pair.2) unchanged

def hasOtherClass (set : List Construct) : Bool :=
  set.any fun
    | .classOf name _ => name != ascii "upper" && name != ascii "lower"
    | _ => false

def hasClass (set : List Construct) : Bool :=
  set.any fun
    | .classOf _ _ => true
    | _ => false

def hasEquals (set : List Construct) : Bool :=
  set.any fun
    | .equals _ => true
    | _ => false

/-- The second set, made as long as the first by repeating its last byte. -/
def extend (sourceSize imageSize : Nat) (set : List Construct) : Except Bytes (List Construct) :=
  let repeating (b : UInt8) : Except Bytes (List Construct) :=
    .ok (set ++ [.repetition b (some (sourceSize - imageSize))])
  match set.getLast? with
  | some (.one b) => repeating b
  | some (.range _ last) => repeating last
  | some (.repetition b _) => repeating b
  | some (.equals b) => repeating b
  | some (.classOf _ _) =>
      .error (ascii ("when translating with string1 longer than string2,\n" ++
        "the latter string must not end with a character class"))
  | none => .error (ascii "when not truncating set1, string2 must be non-empty")

/-- By how much the lengths of two sets exceed what counts: letters that change
their case count as one. -/
def excess (pairs : List Pair) : Nat := 25 * (pairs.filter (·.imageCase.isSome)).length

/-- Whether letters of one case stand across from something else. -/
def isMisaligned (pairs : List Pair) : Bool :=
  pairs.any fun pair =>
    pair.imageBegins && pair.imageCase.isSome && !(pair.sourceBegins && pair.sourceCase.isSome)

/-- The table that takes one set to another, with the second set as it is used; or
a complaint. -/
def exchange (asked : Asked) (sources images : List Construct) :
    Except Bytes (Array UInt8 × Bytes) := do
  let members := membership (bytesOf 0 sources)
  let sourceSize := if asked.complement then members.toList.count false else sizeOf sources
  let fixedSize := sizeOf images
  let openEnds := (images.filter isOpenEnded).length
  if 1 < openEnds then .error (ascii "only one [c*] repeat construct may appear in string2")
  else if hasEquals images then
    .error (ascii "[=c=] expressions may not appear in string2 when translating")
  else if hasOtherClass images then
    .error (ascii ("when translating, the only character classes that may appear in\n" ++
      "string2 are 'upper' and 'lower'"))
  else
    let fills := openEnds == 1 && fixedSize ≤ sourceSize
    let filling := if fills then sourceSize - fixedSize else 0
    let imageSize := if fills then sourceSize else fixedSize
    let pairs :=
      if asked.complement || !hasClass images then []
      else pairsOf (piecesOf 0 sources) (piecesOf filling images)
    if isMisaligned pairs then
      .error (ascii "misaligned [:upper:] and/or [:lower:] construct")
    else
      let sourceLength := sourceSize - excess pairs
      let imageLength := imageSize - excess pairs
      let isShort := imageLength < sourceLength && !asked.truncate
      let images ←
        if !isShort then .ok images
        else if imageLength == 0 then
          .error (ascii "when not truncating set1, string2 must be non-empty")
        else extend sourceLength imageLength images
      let imageLength := if isShort then sourceLength else imageLength
      let bytes := bytesOf filling images
      if asked.complement && hasClass sources &&
          !(imageLength == sourceLength && bytes.all (bytes.head? == some ·)) then
        .error (ascii ("when translating with complemented character classes,\n" ++
          "string2 must map all characters in the domain to one"))
      else if asked.complement then .ok (tableOfComplement members bytes, bytes)
      else .ok (tableOf (pairsOf (piecesOf 0 sources) (piecesOf filling images)), bytes)

/-- What the sets and the options come to, or a complaint. -/
def deed (asked : Asked) (first : List Construct) (second : Option (List Construct)) :
    Except Bytes Deed := do
  let members := membership (bytesOf 0 first)
  let chosen := if asked.complement then complementOf members else members
  if first.any isOpenEnded then
    .error (ascii "the [c*] repeat construct may not appear in string1")
  else
    match second with
    | none =>
        if asked.delete then .ok ⟨unchanged, chosen, nothing⟩ else .ok ⟨unchanged, nothing, chosen⟩
    | some images =>
      if asked.delete then
        if 1 < (images.filter isOpenEnded).length then
          .error (ascii "only one [c*] repeat construct may appear in string2")
        else if images.any isOpenEnded then
          .error (ascii "the [c*] construct may appear in string2 only when translating")
        else .ok ⟨unchanged, chosen, membership (bytesOf 0 images)⟩
      else do
        let (table, bytes) ← exchange asked first images
        .ok ⟨table, nothing, if asked.squeeze then membership bytes else nothing⟩

/-! ## At work -/

/-- What is written for some bytes, the last byte that was written being known. -/
def Deed.apply (deed : Deed) (last : Option UInt8) (bytes : Bytes) : Bytes × Option UInt8 :=
  let (written, last) := bytes.foldl (fun (written, last) b =>
    if (deed.drops[b.toNat]?).getD false then (written, last)
    else
      let b := (deed.table[b.toNat]?).getD b
      if last == some b && (deed.squeezes[b.toNat]?).getD false then (written, last)
      else (b :: written, some b)) (([] : Bytes), last)
  (written.reverse, last)

/-- The constructs of a word, or complains and ends. -/
def parse (invocation : Invocation) (word : Bytes) : Action (List Construct) := do
  let (marks, warnings) := unescape (word.length + 1) word
  for warning in warnings do invocation.complain warning
  match readSet (marks.length + 1) marks with
  | .ok set => pure set
  | .error complaint => invocation.die complaint 1

/-- Complains about the number of words. -/
def miscounted {α : Type} (invocation : Invocation) (complaint hint : Bytes) : Action α := do
  invocation.complain complaint
  if !hint.isEmpty then
    let _ ← Action.writeAll 2 (hint ++ ascii "\n")
  invocation.refuse 1

def copy (invocation : Invocation) (deed : Deed) : Action Unit :=
  repeatedly () (none : Option UInt8) fun last => do
    match ← readOnce 0 8192 with
    | .error number => invocation.die (because (ascii "read error") number) 1
    | .ok [] => pure (.inr ())
    | .ok bytes =>
        let (text, last) := deed.apply last bytes
        invocation.emit text 1
        pure (.inl last)

def run (invocation : Invocation) : Action Nat := do
  let items ← invocation.items spec 1
  endForCommon items
  let has (c : Char) := (Options.codes items).contains c
  let asked : Asked := ⟨has 'c' || has 'C', has 'd', has 's', has 't'⟩
  let operands := Options.operands items
  let fewest := if asked.delete == asked.squeeze then 2 else 1
  let most := if asked.delete && !asked.squeeze then 1 else 2
  if operands.length < fewest then
    match operands.getLast? with
    | none => miscounted invocation (ascii "missing operand") []
    | some last =>
        miscounted invocation (ascii "missing operand after " ++ Quoting.sign last)
          (ascii (if asked.squeeze then
            "Two strings must be given when both deleting and squeezing repeats."
            else "Two strings must be given when translating."))
  else if most < operands.length then
    miscounted invocation
      (ascii "extra operand " ++ Quoting.sign (operands.getD most []))
      (if operands.length == 2 then
        ascii "Only one string may be given when deleting without squeezing repeats."
        else [])
  else
    let first ← parse invocation (operands.headD [])
    let second ← match operands with
      | [_, word] => do
          let set ← parse invocation word
          pure (some set)
      | _ => pure none
    match deed asked first second with
    | .error complaint => invocation.die complaint 1
    | .ok deed =>
        copy invocation deed
        match ← ask (.close 0) with
        | .ok () => pure 0
        | .error number => invocation.die (because (ascii "standard input") number) 1

end PipelineShell.Machine.Utility.Exchange
