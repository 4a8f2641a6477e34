/-
# Machine.Script.Redirection -- where descriptors lead

The words of redirections are expanded first (`prepare`); then the redirections
are made one after the other (`applyAll`).  What a descriptor led to before is
kept under a high number, so that it can be brought back (`undo`).
-/
import PipelineShell.Machine.Script.Expansion

namespace PipelineShell.Machine.Script

set_option autoImplicit false

/-- A redirection whose word has been expanded. -/
inductive Redirection.Ready where
  | file (direction : Direction) (descriptor : Nat) (name : Bytes)
  | copy (descriptor : Nat) (source : Option Nat)
  | document (descriptor : Nat) (expands : Bool) (number : Nat)

namespace Redirection

open Sh (ask attempt change fail lift look raise)

def Ready.descriptor : Ready → Nat
  | .file _ descriptor _ => descriptor
  | .copy descriptor _ => descriptor
  | .document descriptor _ _ => descriptor

/-! ## Complaints -/

/-- Why something failed; what is missing is said in words of its own. -/
def reason (number : Int) (ifMissing : String) : Bytes :=
  ascii (if number == Errno.noEntry || number == Errno.notDirectory then ifMissing
    else Errno.description number)

def refuse {α : Type} (name : Bytes) (creates : Bool) (number : Int) : Sh α :=
  if creates then
    fail (ascii "cannot create " ++ name ++ ascii ": " ++ reason number "Directory nonexistent")
  else fail (ascii "cannot open " ++ name ++ ascii ": " ++ reason number "No such file")

def openFile (name : Bytes) (access : Access) : Sh Nat := do
  match ← ask (.openFile name access 0o666) with
  | .ok descriptor => pure descriptor
  | .error number => refuse name access.creates number

/-! ## Words -/

def prepare (evaluator : Evaluator) : Redirection → Sh Ready
  | .file direction descriptor word => do
      let text ← Expansion.single evaluator word .fileName
      if direction != .outputCopy && direction != .inputCopy then
        pure (.file direction descriptor text)
      else
        match text with
        | [b] =>
            if Ascii.isDigit b then pure (.copy descriptor (some (Ascii.digitValue b)))
            else if b == byteOf '-' then pure (.copy descriptor none)
            else wrongNumber
        | _ => wrongNumber
  | .copy _ descriptor source => pure (.copy descriptor source)
  | .document descriptor expands number => pure (.document descriptor expands number)
where
  wrongNumber : Sh Ready := do
    change fun shell => { shell with line := shell.readTo }
    fail (ascii "Syntax error: Bad fd number")

def prepareAll (evaluator : Evaluator) : List Redirection → Sh (List Ready)
  | [] => pure []
  | first :: rest => do
      let ready ← prepare evaluator first
      let others ← prepareAll evaluator rest
      pure (ready :: others)

/-! ## Opening -/

def creating : Access := { Access.writing with creates := true, truncates := true }

/-- Opens a file that must not be there yet, unless it is no regular file. -/
def openNew (name : Bytes) : Sh Nat := do
  match ← ask (.status name true) with
  | .error _ => openFile name { Access.writing with creates := true, isNew := true }
  | .ok status =>
      if status.kind == .regular then refuse name true Errno.fileExists
      else openFile name .writing

/-- How much is written to a pipe before anyone reads from it. -/
def documentLimit : Nat := 4096

/-- Opens a document.  A long one is written by a process of its own. -/
def openDocument (evaluator : Evaluator) (expands : Bool) (number : Nat) : Sh Nat := do
  let (reader, writer) : Nat × Nat ← ask .openPipe
  let word := ((← look (·.documents))[number]?).getD []
  let text ← if expands then Expansion.single evaluator word .document
    else pure (Word.unquoted word)
  if text.length ≤ documentLimit then
    let _ ← lift (Action.writeAll writer text)
  else
    let _ ← lift (Action.split (Action.program do
      let _ ← Action.ask (.close reader)
      Action.ask (.arrange Signal.interrupt .ignored)
      Action.ask (.arrange Signal.quit .ignored)
      Action.ask (.arrange Signal.hangup .ignored)
      let _ ← Action.writeAll writer text
      pure 0))
  let _ ← ask (.close writer)
  pure reader

/-- What a redirection leads to: a descriptor, or nothing if it only closes. -/
def open? (evaluator : Evaluator) : Ready → Sh (Option Nat)
  | .copy _ source => pure source
  | .document _ expands number => do
      let reader ← openDocument evaluator expands number
      pure (some reader)
  | .file direction _ name => do
      let descriptor ← match direction with
        | .input => openFile name .reading
        | .both => openFile name { Access.reading with writes := true, creates := true }
        | .append => openFile name { Access.writing with creates := true, appends := true }
        | .output => do
            if ← Sh.hasOption 'C' then openNew name else openFile name creating
        | _ => openFile name creating
      pure (some descriptor)

/-! ## Redirecting -/

/-- Copies under which descriptors are kept begin with this number. -/
def firstKept : Nat := 10

/-- Keeps what a descriptor leads to, if the innermost command has not done so. -/
def save (descriptor : Nat) (opened : Option Nat) : Sh Unit := do
  match ← look (·.redirected) with
  | [] => pure ()
  | kept :: outer =>
      if kept.any (·.1 == descriptor) then pure ()
      else
        let spare ← if opened == some descriptor then pure none
          else
            match ← ask (.copyAbove descriptor firstKept) with
            | .ok spare => do
                let _ ← ask (.close descriptor)
                pure (some spare)
            | .error _ => pure none
        change fun shell => { shell with redirected := ((descriptor, spare) :: kept) :: outer }

/-- Makes a descriptor lead to what was opened. -/
def attach (ready : Ready) (opened : Option Nat) : Sh Unit := do
  match opened with
  | none => do
      let _ ← ask (.close ready.descriptor)
  | some source =>
      if source == ready.descriptor then pure ()
      else
        match ← ask (.copyOnto source ready.descriptor) with
        | .error number =>
            fail (Ascii.decimal source ++ ascii ": " ++ ascii (Errno.description number))
        | .ok () =>
            match ready with
            | .copy _ _ => pure ()
            | _ => do
                let _ ← ask (.close source)

/-- Makes redirections in order.  With `saves`, what was there before is kept. -/
def applyAll (evaluator : Evaluator) (saves : Bool) : List Ready → Sh Unit
  | [] => pure ()
  | ready :: rest => do
      let opened ← open? evaluator ready
      let isIdle := match ready with
        | .copy descriptor source => source == some descriptor
        | _ => false
      if !isIdle then
        if saves then save ready.descriptor opened
        attach ready opened
      applyAll evaluator saves rest

/-- Makes redirections that will be undone.  Answers whether that was possible. -/
def tryAll (evaluator : Evaluator) (list : List Ready) : Sh Bool := do
  match ← attempt (applyAll evaluator true list) with
  | .ok () => pure true
  | .error .error => pure false
  | .error why => raise why

/-- Begins to keep what redirections change. -/
def start : Sh Unit := change fun shell => { shell with redirected := [] :: shell.redirected }

/-- Where what a descriptor led to before the last redirections has been kept. -/
def keptCopy? (descriptor : Nat) : Sh (Option Nat) :=
  look fun shell => (shell.redirected.head?.bind (·.lookup descriptor)).join

/-- Brings descriptors back to what they were; if they are to stay as they are, only
the copies are dropped. -/
def bringBack (stays : Bool) : List (Nat × Option Nat) → Sh Unit
  | [] => pure ()
  | (descriptor, none) :: rest => do
      if !stays then
        let _ ← ask (.close descriptor)
      bringBack stays rest
  | (descriptor, some spare) :: rest => do
      if !stays then
        let _ ← ask (.copyOnto spare descriptor)
      let _ ← ask (.close spare)
      bringBack stays rest

def undo (stays : Bool) : Sh Unit := do
  match ← look (·.redirected) with
  | [] => pure ()
  | kept :: outer => do
      change fun shell => { shell with redirected := outer }
      bringBack stays kept

/-- Undoes redirections until those of so many commands are left. -/
def undoTo (left : Nat) : Nat → Sh Unit
  | 0 => pure ()
  | fuel + 1 => do
      if left < (← look (·.redirected.length)) then
        undo false
        undoTo left fuel

end Redirection

end PipelineShell.Machine.Script
