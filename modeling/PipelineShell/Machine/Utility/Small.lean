/-
# Machine.Utility.Small -- programs that do little

Showing the environment, showing the working directory, resting, and saying the
same again and again.
-/
import PipelineShell.Machine.Utility.Basic
import PipelineShell.Machine.Utility.Echo
import PipelineShell.Text.Floating

namespace PipelineShell.Machine.Utility

set_option autoImplicit false

open PipelineShell.Machine.Action (ask exit repeatedly writeAll)

/-! ## The environment -/

namespace Environment

def spec : Options.Spec where
  letters := Options.plain "0"
  long := [⟨"null", .never, '0'⟩] ++ commonLong
  endsAtOperand := true

def run (invocation : Invocation) : Action Nat := do
  let items ← invocation.items spec 2
  endForCommon items
  let ending : Bytes := if (Options.codes items).contains '0' then [0] else ascii "\n"
  match Options.operands items with
  | [] =>
      invocation.emit (invocation.environment.flatMap (· ++ ending)) 2
      pure 0
  | names =>
      let found (name : Bytes) : List Bytes :=
        if name.contains (byteOf '=') then []
        else (invocation.environment.filter ((name ++ ascii "=").isPrefixOf ·)).map
          (·.drop (name.length + 1))
      invocation.emit ((names.flatMap found).flatMap (· ++ ending)) 2
      pure (if names.all fun name => !(found name).isEmpty then 0 else 1)

end Environment

/-! ## The working directory -/

namespace WorkingDirectory

def spec : Options.Spec where
  letters := Options.plain "LP"
  long := [⟨"logical", .never, 'L'⟩, ⟨"physical", .never, 'P'⟩] ++ commonLong
  endsAtOperand := false

/-- The path in the environment, if it leads to the working directory without going
by dots. -/
def logical (invocation : Invocation) : Action (Option Bytes) := do
  match invocation.setting? (ascii "PWD") with
  | none => pure none
  | some path =>
      let names := Path.names ⟨path⟩
      if path.head? != some Path.slash || names.contains (ascii ".") ||
          names.contains (ascii "..") then pure none
      else
        match ← ask (.status path true), ← ask (.status (ascii ".") true) with
        | .ok there, .ok here =>
            pure (if there.identity == here.identity then some path else none)
        | _, _ => pure none

def run (invocation : Invocation) : Action Nat := do
  let items ← invocation.items spec 1
  endForCommon items
  if !(Options.operands items).isEmpty then
    invocation.complain (ascii "ignoring non-option arguments")
  let strict := (invocation.setting? (ascii "POSIXLY_CORRECT")).isSome
  let way := (Options.codes items).getLast?.getD (if strict then 'L' else 'P')
  let named ← if way == 'L' then logical invocation else pure none
  match named with
  | some path =>
      invocation.emit (path ++ ascii "\n") 1
      pure 0
  | none =>
    match ← ask .directory with
    | .ok path =>
        invocation.emit (path ++ ascii "\n") 1
        pure 0
    | .error number =>
        invocation.die (because (ascii "couldn't find directory entry in '..' with matching i-node")
          number) 1

end WorkingDirectory

/-! ## Resting -/

namespace Rest

def spec : Options.Spec where
  letters := []
  long := commonLong
  endsAtOperand := true

def unit? (text : Bytes) : Option Nat :=
  match text.map charOf with
  | [] => some 1
  | ['s'] => some 1
  | ['m'] => some 60
  | ['h'] => some 3600
  | ['d'] => some 86400
  | _ => none

def longest : Nat := 1000000000000000

def milliseconds? (text : Bytes) : Option Nat := do
  let reading ← Floating.ofText .double text
  let unit ← unit? reading.rest
  match reading.value.size with
  | .notANumber => none
  | .infinite => if reading.value.negative then none else some longest
  | .finite mantissa exponent =>
      if reading.value.negative && mantissa != 0 then none
      else if 64 < exponent then some longest
      else
        let (numerator, denominator) := Floating.fraction (mantissa * unit * 1000) exponent
        some (min longest ((numerator + denominator - 1) / denominator))

def complainAll (invocation : Invocation) : List Bytes → Action Unit
  | [] => pure ()
  | word :: rest => do
      if (milliseconds? word).isNone then
        invocation.complain (ascii "invalid time interval " ++ Quoting.sign word)
      complainAll invocation rest

def run (invocation : Invocation) : Action Nat := do
  let items ← invocation.items spec 1
  endForCommon items
  match Options.operands items with
  | [] => invocation.misuse (ascii "missing operand") 1
  | words =>
      complainAll invocation words
      if words.any fun word => (milliseconds? word).isNone then invocation.refuse 1
      else
        let now : Nat ← ask .time
        let _ ← ask (.restUntil (now + (words.filterMap milliseconds?).foldl (· + ·) 0))
        pure 0

end Rest

/-! ## Again and again -/

namespace Again

def spec : Options.Spec where
  letters := []
  long := commonLong
  endsAtOperand := true

/-- How much is written at once, about. -/
def blockSize : Nat := 8192

def run (invocation : Invocation) : Action Nat := do
  let items ← invocation.items spec 1
  endForCommon items
  let words := Options.operands items
  let line := Echo.joined (if words.isEmpty then [ascii "y"] else words) ++ ascii "\n"
  let block := (List.replicate (blockSize / line.length + 1) line).flatten
  repeatedly 1 () fun _ => do
    match ← writeAll 1 block with
    | .ok () => pure (.inl ())
    | .error number =>
        invocation.complain (because (ascii "standard output") number)
        pure (.inr 1)

end Again

end PipelineShell.Machine.Utility
