/-
# Machine.Utility.Sort.Key -- what lines are ordered by

A `Key` is a part of a line and a way to compare two such parts.  Its part is
given by fields and characters (`Key.part`); its ways to compare are in
`Key.compareParts`.  `Key.read` reads a key as it is written behind `-k`.
-/
import PipelineShell.Text.Floating
import PipelineShell.Machine.Utility.Quoting

namespace PipelineShell.Machine.Utility.Sort

set_option autoImplicit false

/-- How parts are compared, apart from byte by byte. -/
inductive Kind where
  /-- By a decimal number at the front. -/
  | numeric
  /-- By any number at the front. -/
  | general
  /-- By a number with a unit. -/
  | human
  /-- By the name of a month. -/
  | month
  /-- Numbers inside a name count as numbers. -/
  | version
  | random
  deriving DecidableEq, Repr

/-- Which bytes count. -/
inductive Kept where
  | all
  /-- Blanks, letters and digits. -/
  | dictionary
  /-- What can be printed. -/
  | printable
  deriving DecidableEq, Repr

/-- How parts of lines are put in order. -/
structure Manner where
  kinds : List Kind
  kept : Kept
  /-- Small letters count as capital ones. -/
  folds : Bool
  /-- Blanks in front do not count, at the start of a part and at its end. -/
  skipsAtStart : Bool
  skipsAtEnd : Bool
  reversed : Bool
  deriving DecidableEq, Repr

def Manner.usual : Manner := ⟨[], .all, false, false, false, false⟩

/-- A place in a line: fields to be skipped, and then characters. -/
structure Mark where
  field : Nat
  character : Nat
  deriving DecidableEq, Repr

/-- A part of a line, and its order. -/
structure Key where
  /-- `none` is the start of the line. -/
  start : Option Mark
  /-- `none` is the end of the line. -/
  stop : Option Mark
  order : Manner
  deriving DecidableEq, Repr

def Key.whole (order : Manner) : Key := ⟨none, none, order⟩

/-! ## Parts -/

def isGap (b : UInt8) : Bool := Ascii.isBlank b || b == 0x0A

/-- Skips one field of the rest of a line; `past` asks to skip its separator as
well. -/
def skipField (separator : Option UInt8) (past : Bool) (line : Bytes) : Bytes :=
  match separator with
  | some b =>
      let rest := line.dropWhile (· != b)
      if past then rest.drop 1 else rest
  | none => (line.dropWhile isGap).dropWhile (!isGap ·)

def fromMark (separator : Option UInt8) (skips : Bool) (line : Bytes) (mark : Mark) : Bytes :=
  let rest := (List.range mark.field).foldl (fun rest _ =>
    if rest.isEmpty then rest else skipField separator true rest) line
  (if skips then rest.dropWhile isGap else rest).drop mark.character

def behindMark (separator : Option UInt8) (skips : Bool) (line : Bytes) (mark : Mark) : Bytes :=
  let fields := if mark.character == 0 then mark.field + 1 else mark.field
  let rest := (List.range fields).foldl (fun rest n =>
    if rest.isEmpty then rest
    else skipField separator (n + 1 < fields || mark.character != 0) rest) line
  if mark.character == 0 then rest
  else (if skips then rest.dropWhile isGap else rest).drop mark.character

def Key.part (key : Key) (separator : Option UInt8) (line : Bytes) : Bytes :=
  let front := match key.start with
    | some mark => fromMark separator key.order.skipsAtStart line mark
    | none => if key.order.skipsAtStart then line.dropWhile isGap else line
  match key.stop with
  | none => front
  | some mark =>
      let rest := behindMark separator key.order.skipsAtEnd line mark
      front.take (front.length - rest.length)

/-! ## Comparing -/

/-- Byte by byte; what is shorter comes first. -/
def compareBytes : Bytes → Bytes → Ordering
  | [], [] => .eq
  | [], _ :: _ => .lt
  | _ :: _, [] => .gt
  | a :: s, b :: t => if a < b then .lt else if b < a then .gt else compareBytes s t

/-- A decimal number: its sign, the digits before the point and those behind it,
without zeros that do not count. -/
def decimalParts (text : Bytes) : Bool × Bytes × Bytes :=
  let text := text.dropWhile isGap
  let negative := text.head? == some (byteOf '-')
  let text := if negative then text.tail else text
  let whole := text.takeWhile Ascii.isDigit
  let rest := text.drop whole.length
  let places := if rest.head? == some (byteOf '.') then rest.tail.takeWhile Ascii.isDigit else []
  (negative, whole.dropWhile (· == byteOf '0'),
    (places.reverse.dropWhile (· == byteOf '0')).reverse)

/-- Compares decimal numbers without a sign. -/
def compareDigits (a b : Bytes × Bytes) : Ordering :=
  if a.1.length < b.1.length then .lt
  else if b.1.length < a.1.length then .gt
  else (compareBytes a.1 b.1).then (compareBytes a.2 b.2)

def compareNumeric (a b : Bytes) : Ordering :=
  let ((signA, digitsA), (signB, digitsB)) := (decimalParts a, decimalParts b)
  let isZero (digits : Bytes × Bytes) := digits.1.isEmpty && digits.2.isEmpty
  let (negativeA, negativeB) := (signA && !isZero digitsA, signB && !isZero digitsB)
  match negativeA, negativeB with
  | false, false => compareDigits digitsA digitsB
  | true, true => compareDigits digitsB digitsA
  | true, false => .lt
  | false, true => .gt

/-- Compares numbers in any notation; what is no number comes first. -/
def compareGeneral (a b : Bytes) : Ordering :=
  match Floating.ofText .extended a, Floating.ofText .extended b with
  | none, none => .eq
  | none, some _ => .lt
  | some _, none => .gt
  | some x, some y =>
      if x.value.less y.value then .lt
      else if y.value.less x.value then .gt
      else if x.value.size == .notANumber && y.value.size != .notANumber then .lt
      else if y.value.size == .notANumber && x.value.size != .notANumber then .gt
      else .eq

/-- The rank of the unit behind a number: negative numbers have negative ranks. -/
def unitRank (text : Bytes) : Int :=
  let text := text.dropWhile isGap
  let negative := text.head? == some (byteOf '-')
  let text := if negative then text.tail else text
  let number := text.takeWhile fun b => Ascii.isDigit b || b == byteOf '.'
  let isZero := number.all fun b => b == byteOf '0' || b == byteOf '.'
  let rank := match (text.drop number.length).head? with
    | some b =>
        let c := if b == byteOf 'k' then 'K' else charOf b
        ((" KMGTPEZYRQ".toList.idxOf? c).filter (0 < ·)).getD 0
    | none => 0
  if isZero then 0 else if negative then -(rank : Int) else rank

def compareHuman (a b : Bytes) : Ordering :=
  (compare (unitRank a) (unitRank b)).then (compareNumeric a b)

/-- The number of the month whose name a text begins with; zero without one. -/
def monthOf (text : Bytes) : Nat :=
  let word := ((text.dropWhile isGap).take 3).map Ascii.upper
  let names := ["JAN", "FEB", "MAR", "APR", "MAY", "JUN", "JUL", "AUG", "SEP", "OCT", "NOV", "DEC"]
  ((names.idxOf? (String.ofList (word.map charOf))).map (· + 1)).getD 0

/-- The rank of a byte in the order of versions: a tilde comes before the end, and
letters before other signs. -/
def versionRank (b : Option UInt8) : Int :=
  match b with
  | none => 0
  | some b =>
      if Ascii.isDigit b then 0
      else if Ascii.isAlpha b then b.toNat
      else if b == byteOf '~' then -1
      else b.toNat + 256

/-- Compares what is between numbers, and then numbers, and so on. -/
def compareRuns : Nat → Bytes → Bytes → Ordering
  | 0, _, _ => .eq
  | fuel + 1, a, b =>
      if a.isEmpty && b.isEmpty then .eq
      else
        let isText (text : Bytes) := text.head?.any (!Ascii.isDigit ·)
        if isText a || isText b then
          let (x, y) := (versionRank a.head?, versionRank b.head?)
          if x != y then compare x y
          else compareRuns fuel (if isText a then a.tail else a) (if isText b then b.tail else b)
        else
          let (a, b) := (a.dropWhile (· == byteOf '0'), b.dropWhile (· == byteOf '0'))
          let (x, y) := (a.takeWhile Ascii.isDigit, b.takeWhile Ascii.isDigit)
          (compare x.length y.length).then
            ((compareBytes x y).then (compareRuns fuel (a.drop x.length) (b.drop y.length)))

/-- Whether some bytes are one suffix of a file name: a dot, and then letters and
digits that do not begin with a digit. -/
def isSuffix (text : Bytes) : Bool :=
  match text with
  | dot :: first :: rest =>
      dot == byteOf '.' && (Ascii.isAlpha first || first == byteOf '~') &&
        rest.all fun b => Ascii.isAlnum b || b == byteOf '~'
  | _ => false

def stemLength (name : Bytes) : Nat :=
  let dots := (List.range name.length).filter fun n => name[n]? == some (byteOf '.') && 0 < n
  let suffixes (start : Nat) : Bool :=
    let marks := dots.filter (start ≤ ·)
    (marks.zip (marks.tail ++ [name.length])).all fun entry =>
      isSuffix ((name.drop entry.1).take (entry.2 - entry.1))
  ((dots.find? suffixes).getD name.length)

def compareVersion (a b : Bytes) : Ordering :=
  let compareAll (a b : Bytes) := compareRuns (a.length + b.length + 1) a b
  if a == b then .eq
  else if a.isEmpty then .lt
  else if b.isEmpty then .gt
  else
    let isDot (text : Bytes) := text.head? == some (byteOf '.')
    let special (text : Bytes) : Nat :=
      if text == ascii "." then 0 else if text == ascii ".." then 1
      else if isDot text then 2 else 3
    if special a != special b then compare (special a) (special b)
    else
      let (a, b) := if isDot a then (a.tail, b.tail) else (a, b)
      let (x, y) := (a.take (stemLength a), b.take (stemLength b))
      if x == y then compareAll a b
      else (compareAll x y).then (compareAll a b)

def Manner.counted (order : Manner) (part : Bytes) : Bytes :=
  let kept := match order.kept with
    | .all => part
    | .dictionary => part.filter fun b => Ascii.isBlank b || Ascii.isAlnum b || b == 0x0A
    | .printable => part.filter Ascii.isPrint
  if order.folds then kept.map Ascii.upper else kept

def Manner.compareParts (order : Manner) (a b : Bytes) : Ordering :=
  let (a, b) := (order.counted a, order.counted b)
  let answer := match order.kinds with
    | .numeric :: _ => compareNumeric a b
    | .general :: _ => compareGeneral a b
    | .human :: _ => compareHuman a b
    | .month :: _ => compare (monthOf a) (monthOf b)
    | .version :: _ => compareVersion a b
    | _ => compareBytes a b
  if order.reversed then answer.swap else answer

/-- Compares two lines by keys, the first that tells them apart. -/
def compareByKeys (separator : Option UInt8) (keys : List Key) (a b : Bytes) : Ordering :=
  keys.foldl (fun answer key =>
    answer.then (key.order.compareParts (key.part separator a) (key.part separator b))) .eq

/-! ## Letters -/

def kind? (letter : Char) : Option Kind :=
  [('n', Kind.numeric), ('g', .general), ('h', .human), ('M', .month), ('V', .version),
    ('R', .random)].lookup letter

/-- The order that a letter asks for; `atEnd` if it stands behind the end of a
part.  `none` if the letter means nothing. -/
def Manner.letter? (order : Manner) (atStart atEnd : Bool) (letter : Char) :
    Option Manner :=
  match letter with
  | 'b' => some { order with
      skipsAtStart := order.skipsAtStart || atStart, skipsAtEnd := order.skipsAtEnd || atEnd }
  | 'd' => some { order with kept := .dictionary }
  | 'f' => some { order with folds := true }
  | 'i' => some { order with kept := if order.kept == .all then .printable else order.kept }
  | 'r' => some { order with reversed := true }
  | _ => (kind? letter).map fun kind =>
      { order with kinds := if order.kinds.contains kind then order.kinds else kind :: order.kinds }

/-- Takes account of letters up to the first that means nothing. -/
def Manner.letters (order : Manner) (atStart atEnd : Bool) : Bytes → Manner × Bytes
  | [] => (order, [])
  | b :: rest =>
      match order.letter? atStart atEnd (charOf b) with
      | some order => order.letters atStart atEnd rest
      | none => (order, b :: rest)

/-- The letters of options that cannot go together. -/
def Manner.clash? (order : Manner) : Option Bytes :=
  let has (kind : Kind) := order.kinds.contains kind
  let several := ([has .numeric, has .general, has .human, has .month,
    has .version || has .random || order.kept != .all].count true)
  if several ≤ 1 then none
  else
    some (ascii (String.ofList ([('d', order.kept == .dictionary), ('f', order.folds),
      ('g', has .general), ('h', has .human), ('i', order.kept == .printable),
      ('M', has .month), ('n', has .numeric), ('R', has .random),
      ('V', has .version)].filterMap fun entry => if entry.2 then some entry.1 else none)))

/-- The order a key has if it says nothing about that itself. -/
def Key.inherit (key : Key) (general : Manner) : Key :=
  if key.order == .usual then { key with order := general } else key

/-! ## Reading keys -/

/-- Reads a count; the text is that of the whole rest. -/
def readCount (fault : String) (text : Bytes) : Except Bytes (Nat × Bytes) :=
  let body := text.dropWhile Ascii.isSpace
  let body := if body.head? == some (byteOf '+') then body.tail else body
  let digits := body.takeWhile Ascii.isDigit
  if digits.isEmpty then
    .error (ascii fault ++ ascii ": invalid count at start of " ++ Quoting.sign text)
  else .ok (Ascii.value digits, body.drop digits.length)

def Key.read (text : Bytes) : Except Bytes Key := do
  let wrong (fault : String) : Except Bytes Key :=
    .error (ascii fault ++ ascii ": invalid field specification " ++ Quoting.sign text)
  let (field, rest) ← readCount "invalid number at field start" text
  if field == 0 then wrong "field number is zero"
  else
    let (character, rest) ←
      if rest.head? == some (byteOf '.') then readCount "invalid number after '.'" rest.tail
      else .ok (1, rest)
    if character == 0 then wrong "character offset is zero"
    else
      let start := if field == 1 && character == 1 then none
        else some ⟨field - 1, character - 1⟩
      let (order, rest) := Manner.usual.letters true false rest
      if rest.head? != some (byteOf ',') then
        if rest.isEmpty then .ok ⟨start, none, order⟩ else wrong "stray character in field spec"
      else
        let (field, rest) ← readCount "invalid number after ','" rest.tail
        if field == 0 then wrong "field number is zero"
        else
          let (character, rest) ←
            if rest.head? == some (byteOf '.') then readCount "invalid number after '.'" rest.tail
            else .ok (0, rest)
          let (order, rest) := order.letters false true rest
          if rest.isEmpty then .ok ⟨start, some ⟨field - 1, character⟩, order⟩
          else wrong "stray character in field spec"

end PipelineShell.Machine.Utility.Sort
