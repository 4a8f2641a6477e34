/-
# Machine.Script.Builtin.Control -- leaving loops, functions and the shell

These commands change which command comes next: they skip the rest of loops and
functions, end the shell, run a program instead of it, or evaluate further text.
-/
import PipelineShell.Machine.Script.Builtin.Basic

namespace PipelineShell.Machine.Script.Builtin

set_option autoImplicit false

open Sh (ask change fail look)

def leaveLoops (skip : Skip) : Simple := fun _ words => do
  let n ← match words with
    | word :: _ => do
        let n ← Sh.number word
        if n == 0 then Sh.badNumber word else pure n
    | [] => pure 1
  let depth ← look (·.loopDepth)
  if 0 < depth then change fun shell => { shell with skip, skipCount := min n depth }
  pure 0

def leaveFunction : Simple := fun _ words => do
  match words with
  | word :: _ => do
      let status ← Sh.number word
      change fun shell => { shell with skip := .function }
      pure status
  | [] => do
      change fun shell => { shell with skip := .functionAsIs }
      look (·.status)

def leaveShell : Simple := fun _ words => do
  match words with
  | word :: _ => do
      let status ← Sh.number word
      change fun shell => { shell with kept := some status }
  | [] => pure ()
  Sh.raise .exit

/-- Runs a program instead of the shell. -/
def become : Simple := fun _ words => do
  if words.isEmpty then pure 0
  else Search.run (← Search.list) 0 words

def evaluate (evaluator : Evaluator) (manner : Manner) : Simple := fun _ words => do
  if words.isEmpty then pure 0
  else evaluator.text ((ascii " ").intercalate words) { manner with exits := false }

/-- The path of a file of commands: a name is looked up in the search list. -/
def findScript (name : Bytes) : Sh Bytes := do
  if name.contains Path.slash then pure name
  else go (Search.places (← Search.list) name)
where
  go : List Bytes → Sh Bytes
    | [] => fail (name ++ ascii ": not found")
    | place :: rest => do
        match ← ask (.status place true) with
        | .ok status => if status.kind == .regular then pure place else go rest
        | .error _ => go rest

/-- Moves a descriptor out of the way of those that scripts use. -/
def moveAway (descriptor : Nat) : Sh Nat := do
  if Redirection.firstKept ≤ descriptor then
    ask (.closeOnRun descriptor)
    pure descriptor
  else
    match ← ask (.copyAbove descriptor Redirection.firstKept) with
    | .ok spare => do
        let _ ← ask (.close descriptor)
        pure spare
    | .error number =>
        fail (Ascii.decimal descriptor ++ ascii ": " ++ ascii (Errno.description number))

def openScript (path : Bytes) : Sh Nat := do
  moveAway (← Redirection.openFile path .reading)

def include_ (evaluator : Evaluator) : Simple := fun _ words => do
  match ← operands words with
  | [] => pure 0
  | name :: _ => do
      let path ← findScript name
      let descriptor ← openScript path
      change fun shell => { shell with command := some path }
      let outcome ← Sh.attempt (evaluator.file descriptor)
      let _ ← ask (.close descriptor)
      match outcome with
      | .ok status => pure status
      | .error why => Sh.raise why

end PipelineShell.Machine.Script.Builtin
