/-
# Machine.Signal -- signals, their names and what they do

Signals are numbers from 1 to 64.  `Signal.reaction` says what a signal does to a
process that has made no arrangement for it, `Signal.name` and `Signal.number?`
are the short names, and `Signal.description` is the sentence that announces a
process that was ended by one.
-/
import PipelineShell.Text.Ascii

namespace PipelineShell.Machine.Signal

set_option autoImplicit false

/-- What a signal does to a process by itself. -/
inductive Reaction where
  | nothing
  | ending
  | stopping
  | resuming
  deriving DecidableEq, Repr

def last : Nat := 64

def hangup : Nat := 1
def interrupt : Nat := 2
def quit : Nat := 3
def kill : Nat := 9
def segment : Nat := 11
def brokenPipe : Nat := 13
def terminate : Nat := 15
def childEnded : Nat := 17
def resume : Nat := 18
def stop : Nat := 19

/-- Numbers, short names and descriptions of the signals that have a name. -/
def table : List (Nat × String × String) :=
  [(1, "HUP", "Hangup"), (2, "INT", "Interrupt"), (3, "QUIT", "Quit"),
    (4, "ILL", "Illegal instruction"), (5, "TRAP", "Trace/breakpoint trap"), (6, "ABRT", "Aborted"),
    (7, "BUS", "Bus error"), (8, "FPE", "Floating point exception"), (9, "KILL", "Killed"),
    (10, "USR1", "User defined signal 1"), (11, "SEGV", "Segmentation fault"),
    (12, "USR2", "User defined signal 2"), (13, "PIPE", "Broken pipe"), (14, "ALRM", "Alarm clock"),
    (15, "TERM", "Terminated"), (16, "16", "Stack fault"), (17, "CHLD", "Child exited"),
    (18, "CONT", "Continued"), (19, "STOP", "Stopped (signal)"), (20, "TSTP", "Stopped"),
    (21, "TTIN", "Stopped (tty input)"), (22, "TTOU", "Stopped (tty output)"),
    (23, "URG", "Urgent I/O condition"), (24, "XCPU", "CPU time limit exceeded"),
    (25, "XFSZ", "File size limit exceeded"), (26, "VTALRM", "Virtual timer expired"),
    (27, "PROF", "Profiling timer expired"), (28, "WINCH", "Window changed"),
    (29, "IO", "I/O possible"), (30, "PWR", "Power failure"), (31, "SYS", "Bad system call")]

/-- The first of the signals without a fixed use. -/
def firstFree : Nat := 34

/-- The name of a signal without a fixed use: counted from the nearer end. -/
def freeName (number : Nat) : String :=
  let (fromFirst, toLast) := (number - firstFree, last - number)
  if fromFirst == 0 then "RTMIN"
  else if toLast == 0 then "RTMAX"
  else if fromFirst ≤ 15 then "RTMIN+" ++ toString fromFirst
  else "RTMAX-" ++ toString toLast

/-- The short name of a signal; its number if it has none. -/
def name (number : Nat) : String :=
  match table.lookup number with
  | some (name, _) => name
  | none => if firstFree ≤ number && number ≤ last then freeName number else toString number

def description (number : Nat) : String :=
  match table.lookup number with
  | some (_, text) => text
  | none =>
      if firstFree ≤ number && number ≤ last then
        "Real-time signal " ++ toString (number - firstFree)
      else "Unknown signal " ++ toString number

def reaction (number : Nat) : Reaction :=
  if number == 17 || number == 23 || number == 28 then .nothing
  else if number == 18 then .resuming
  else if number == 19 || number == 20 || number == 21 || number == 22 then .stopping
  else .ending

/-- The two signals for which no process can make arrangements. -/
def isSovereign (number : Nat) : Bool := number == kill || number == stop

/-- The signal of a number in digits, or of a name in letters of either case.  The
names are those from `first` on. -/
def number? (first : Nat) (text : Bytes) : Option Nat :=
  match (Ascii.natural? text).filter (· ≤ last) with
  | some number => some number
  | none =>
      let wanted := text.map Ascii.upper
      (List.range (last + 1)).find? fun number =>
        first ≤ number &&
          (if number == 0 then ascii "EXIT" else ascii (name number)) == wanted

end PipelineShell.Machine.Signal
