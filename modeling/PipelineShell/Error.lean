/-
# Error -- what can go wrong, and what the shell says about it

Three kinds of failure are kept apart.

* `IoError` is a failure of the operating system or of a stream.
* `ShellError` is a failure of a stage or of a line.  Each constructor is a
  cause; `ShellError.message` holds all the wording and `ShellError.exitCode` the
  status that stands for it.
* `Complaint` is what a builtin reports about its own work: it is written to the
  builtin's error stream and never becomes a `ShellError`.
-/
import PipelineShell.Errno
import PipelineShell.Text.Utf8

namespace PipelineShell

set_option autoImplicit false

/-- The status with which a command ends: 0 for success. -/
abbrev ExitCode := Int

/-! ## Failures of the operating system -/

/-- Kinds of stream failure that have no number. -/
inductive IoKind where
  | notFound
  | permissionDenied
  | connectionRefused
  | connectionReset
  | alreadyExists
  | wouldBlock
  | invalidInput
  | invalidData
  | timedOut
  | writeZero
  | interrupted
  | unsupported
  | unexpectedEof
  | outOfMemory
  | brokenPipe
  | other
  deriving DecidableEq, Repr

def IoKind.message : IoKind → String
  | .notFound => "entity not found"
  | .permissionDenied => "permission denied"
  | .connectionRefused => "connection refused"
  | .connectionReset => "connection reset"
  | .alreadyExists => "entity already exists"
  | .wouldBlock => "operation would block"
  | .invalidInput => "invalid input parameter"
  | .invalidData => "invalid data"
  | .timedOut => "timed out"
  | .writeZero => "write zero"
  | .interrupted => "operation interrupted"
  | .unsupported => "unsupported"
  | .unexpectedEof => "unexpected end of file"
  | .outOfMemory => "out of memory"
  | .brokenPipe => "broken pipe"
  | .other => "other error"

/-- A failure of the operating system or of a stream: a numbered error, a bare
kind, or one that carries its own words. -/
inductive IoError where
  | os (number : Int)
  | plain (kind : IoKind)
  | other (message : String)
  deriving DecidableEq, Repr

namespace IoError

def message : IoError → String
  | .os number => Errno.description number ++ " (os error " ++ toString number ++ ")"
  | .plain kind => kind.message
  | .other message => message

/-- A call that was interrupted may simply be made again. -/
def isInterruption : IoError → Bool
  | .os number => number == 4
  | .plain kind => kind == .interrupted
  | .other _ => false

/-- A writer that accepts nothing of a non-empty offer. -/
def wroteNothing : IoError := .other "failed to write whole buffer"

/-- A path that contains a NUL byte names no file. -/
def nulInPath : IoError := .other "file name contained an unexpected NUL byte"

/-- A word that contains a NUL byte cannot be passed to a program. -/
def nulInWord : IoError := .other "nul byte found in provided data"

/-- Text was expected and the bytes are not UTF-8. -/
def notText : IoError := .other "stream did not contain valid UTF-8"

/-- A program that could not be started before cannot be started now. -/
def notStarted : IoError := .other "could not be started"

end IoError

/-! ## Failures of a stage or a line -/

/-- Why a line, or one stage of it, failed. -/
inductive ShellError where
  /-- The line holds nothing but white space. -/
  | emptyLine
  /-- The stage at this index has no words. -/
  | emptyStage (index : Nat)
  /-- No pipe could be made for the output of the stage. -/
  | pipe (name : String) (cause : IoError)
  /-- No program of this name was found. -/
  | notFound (name : String)
  /-- The program was found and could not be started. -/
  | spawn (name : String) (cause : IoError)
  /-- The program ended with a status other than 0, having written `stdout`. -/
  | exited (name : String) (code : ExitCode) (stdout : Bytes)
  /-- Output was asked of a command whose standard output is bound elsewhere. -/
  | stdoutBound (name : String)
  /-- The command was started before it had its arguments. -/
  | notParsed (name : String)
  /-- The command was started a second time. -/
  | alreadyRun (name : String)
  /-- A stream failed. -/
  | io (cause : IoError)
  deriving DecidableEq, Repr

namespace ShellError

def message : ShellError → String
  | .emptyLine => "empty command line"
  | .emptyStage index => "syntax error: stage " ++ toString index ++ " of the pipeline is empty"
  | .pipe name cause => name ++ ": failed to create pipe: " ++ cause.message
  | .notFound name => name ++ ": command not found"
  | .spawn name cause => name ++ ": " ++ cause.message
  | .exited name code _ => name ++ ": exited with status " ++ toString code
  | .stdoutBound name => name ++ ": stdout already bound"
  | .notParsed name => name ++ ": arguments were not parsed"
  | .alreadyRun name => name ++ ": command already ran"
  | .io cause => "IO error: " ++ cause.message

/-- The status of a stage that failed with this error: 127 if there is no such
program, 126 if it could not be started, its own status if it ended with one,
and otherwise 1. -/
def exitCode : ShellError → ExitCode
  | .notFound _ => 127
  | .spawn _ _ => 126
  | .exited _ code _ => code
  | _ => 1

end ShellError

/-! ## Reports of builtins -/

/-- A builtin's report: what it tried, and below it what stood in the way. -/
structure Complaint where
  /-- From the outermost context to the innermost cause. -/
  causes : List String
  deriving DecidableEq, Repr

namespace Complaint

def message (complaint : Complaint) : String :=
  ": ".intercalate complaint.causes

def ofIo (cause : IoError) : Complaint := ⟨[cause.message]⟩

end Complaint

end PipelineShell
