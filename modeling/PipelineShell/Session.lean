/-
# Session -- the state that the commands of a shell share

A session holds the variables that commands see, the directory they work in, the
names shown in the prompt, and the exit code that `exit` asks for.  A variable
that the session does not hold is looked up in the environment of the process,
so a variable that is removed from the session may shine through again; the
environment given to a program is the map that `Session.value?` describes
(`Session.get?_childEnvironment`).
-/
import PipelineShell.Error
import PipelineShell.Path

namespace PipelineShell

set_option autoImplicit false

abbrev Environment := List (String × String)

namespace Environment

def get? (environment : Environment) (name : String) : Option String :=
  environment.lookup name

def erase (environment : Environment) (name : String) : Environment :=
  environment.filter (·.1 != name)

def insert (environment : Environment) (name value : String) : Environment :=
  environment.erase name ++ [(name, value)]

/-- `below`, with the variables of `above` in front of it. -/
def overlay (above below : Environment) : Environment :=
  above ++ below.filter fun entry => (above.get? entry.1).isNone

/-- A variable of `above` hides one of `below`. -/
theorem get?_overlay (above below : Environment) (name : String) :
    (above.overlay below).get? name = (above.get? name).or (below.get? name) := by
  have kept : ∀ below : Environment, above.get? name = none →
      List.lookup name (below.filter fun entry => (above.get? entry.1).isNone) =
        below.lookup name := by
    intro below absent
    induction below with
    | nil => rfl
    | cons entry below ih =>
      obtain ⟨key, value⟩ := entry
      by_cases same : name == key
      · obtain rfl : name = key := beq_iff_eq.1 same
        simp [absent]
      · by_cases h : (above.get? key).isNone <;> simp [List.lookup_cons, h, same, ih]
  simp only [overlay, get?, List.lookup_append] at kept ⊢
  cases found : List.lookup name above with
  | some value => rfl
  | none => rw [kept below found]

end Environment

/-- The state shared by the commands of one shell. -/
structure Session where
  bindings : Environment
  directory : Path
  user : String
  group : String
  exitCode : Option ExitCode
  deriving DecidableEq, Repr

namespace Session

/-- A variable of the session, or else of the process. -/
def value? (session : Session) (process : Environment) (name : String) : Option String :=
  (session.bindings.get? name).or (process.get? name)

def setVariable (session : Session) (name value : String) : Session :=
  { session with bindings := session.bindings.insert name value }

def removeVariable (session : Session) (name : String) : Session :=
  { session with bindings := session.bindings.erase name }

def childEnvironment (session : Session) (process : Environment) : Environment :=
  session.bindings.overlay process

/-- A program sees the variables that the session sees. -/
theorem get?_childEnvironment (session : Session) (process : Environment) (name : String) :
    (session.childEnvironment process).get? name = session.value? process name :=
  Environment.get?_overlay _ _ _

/-- The home directory: `HOME` unless it is unset or empty, and otherwise the one
in the user's account. -/
def homeDirectory (session : Session) (process : Environment) (account : Option Path) :
    Option Path :=
  match session.value? process "HOME" with
  | some home => if home.isEmpty then account else some (Path.ofString home)
  | none => account

def prompt (session : Session) : String :=
  session.user ++ "@" ++ session.group ++ ":" ++ session.directory.display ++ "$ "

end Session

end PipelineShell
