/-
# Builtin.Execution -- what each builtin does

`Invocation.execute` does the work of a builtin against an output stream and the
context.  It answers the bytes that the stream accepted, and either a status or a
complaint.  A builtin never reads its input.
-/
import PipelineShell.Builtin.Invocation
import PipelineShell.Output

namespace PipelineShell.Builtin

set_option autoImplicit false

variable {W : Type} [Host W]

/-! ## Printing -/

/-- The status of a builtin that only prints. -/
def printed (written : Bytes × Except IoError Unit) : Bytes × Except Complaint ExitCode :=
  (written.1, match written.2 with
    | .ok () => .ok 0
    | .error fault => .error (.ofIo fault))

def printDirectory (output : OutputHandle) :
    StateM (Context W) (Bytes × Except Complaint ExitCode) := do
  let directory ← Context.ask (·.directory.display)
  printed <$> Context.act (Output.writeLine output directory)

def echoText (words : List String) : Bytes := Utf8.encode (" ".intercalate words)

def printWords (output : OutputHandle) (noNewline : Bool) (words : List String) :
    StateM (Context W) (Bytes × Except Complaint ExitCode) :=
  printed <$> Context.act (Output.writePieces output
    (echoText words :: if noNewline then [] else [[0x0A]]))

/-! ## The process listing -/

/-- The processes that are listed, in the order in which they are. -/
def listed (table : List ProcessEntry) : List ProcessEntry :=
  (table.filter (!·.isThread)).mergeSort (fun a b => a.pid ≤ b.pid)

/-- The line of one process: its number, a tab, its name. -/
def processLine (entry : ProcessEntry) : List Bytes :=
  [Utf8.encode (toString entry.pid), [0x09], Utf8.encode entry.name, [0x0A]]

def printProcesses (output : OutputHandle) :
    StateM (Context W) (Bytes × Except Complaint ExitCode) := do
  let table ← Context.look Host.processes
  printed <$> Context.act (Output.writePieces output ((listed table).flatMap processLine))

/-! ## Changing directory -/

def cdComplaint (what : String) (path : Path) (cause : IoError) : Complaint :=
  ⟨["cd: can't " ++ what ++ " " ++ path.display, cause.message]⟩

/-- The directory that `cd` is asked for: its operand, or else the home
directory. -/
def destination (session : Session) (process : Environment) (home : Option Path) :
    Option String → Option Path
  | some target =>
      if target.isEmpty then session.homeDirectory process home else some (Path.ofString target)
  | none => session.homeDirectory process home

/-- Moves session and process to a directory that is taken relative to the
session's. -/
def enter (target : Path) : StateM (Context W) (Except Complaint ExitCode) := do
  let path ← Context.ask (·.directory.join target)
  match ← Context.look (Host.canonicalize path) with
  | .error fault => pure (.error (cdComplaint "canonicalize" path fault))
  | .ok canonical =>
    match ← Context.act (Host.changeDirectory canonical) with
    | .error fault => pure (.error (cdComplaint "chdir to" canonical fault))
    | .ok () =>
      Context.modifySession fun session => { session with directory := canonical }
      pure (.ok 0)

def changeDirectory (operand : Option String) :
    StateM (Context W) (Except Complaint ExitCode) := do
  let process ← Context.look Host.environment
  let account ← Context.look Host.account
  match ← Context.ask (destination · process account.home operand) with
  | none => pure (.error ⟨["cd: no target and HOME not set"]⟩)
  | some target => enter target

/-! ## Killing and leaving -/

/-- Kills the one process that the words name; other words ask for nothing. -/
def terminate (words : List String) : StateM (Context W) (Except Complaint ExitCode) := do
  match Invocation.target? words with
  | none => pure (.ok 0)
  | some pid =>
    match ← Context.act (Host.terminate pid) with
    | .ok () => pure (.ok 0)
    | .error number =>
      pure (.error ⟨["kill: (" ++ toString pid ++ ")",
        Errno.symbol number ++ ": " ++ Errno.description number]⟩)

/-- Records in the session that the shell is to end. -/
def requestExit (operand : Option String) : StateM (Context W) (Except Complaint ExitCode) := do
  let code := Invocation.exitCode operand
  Context.modifySession fun session => { session with exitCode := some code }
  pure (.ok code)

/-! ## All of them -/

def Invocation.execute (invocation : Invocation) (output : OutputHandle) :
    StateM (Context W) (Bytes × Except Complaint ExitCode) :=
  match invocation with
  | .pwd => printDirectory output
  | .echo noNewline words => printWords output noNewline words
  | .cd target => (([], ·)) <$> changeDirectory target
  | .ps => printProcesses output
  | .kill words => (([], ·)) <$> terminate words
  | .exit code => (([], ·)) <$> requestExit code

end PipelineShell.Builtin
