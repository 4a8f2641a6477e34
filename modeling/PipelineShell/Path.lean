/-
# Path -- names of files

A path is a list of bytes in which slashes separate names.  Joining is textual
(`Path.join`): nothing is normalised, so that an error can show the path that was
asked for.  `Path.components` does normalise: repeated and trailing slashes and
inner dots vanish, which is what makes `tool/` one component and `./tool` two.
-/
import PipelineShell.Text.Blank
import PipelineShell.Text.Utf8

namespace PipelineShell

set_option autoImplicit false

/-- The name of a file, absolute if it begins with a slash. -/
structure Path where
  bytes : Bytes
  deriving DecidableEq, Repr

namespace Path

def slash : UInt8 := 0x2F

/-- The byte that separates the entries of a search list. -/
def colon : UInt8 := 0x3A

def ofString (text : String) : Path := ⟨Utf8.encode text⟩

/-- The path as text, with malformed parts shown as U+FFFD. -/
def display (path : Path) : String := Utf8.decodeLossy path.bytes

def root : Path := ⟨[slash]⟩

def isAbsolute (path : Path) : Bool := path.bytes.head? == some slash

def isEmpty (path : Path) : Bool := path.bytes.isEmpty

/-- `name`, taken relative to `base`.  An absolute name stands for itself. -/
def join (base name : Path) : Path :=
  if name.isAbsolute then name
  else if base.isEmpty || base.bytes.getLast? == some slash then ⟨base.bytes ++ name.bytes⟩
  else ⟨base.bytes ++ slash :: name.bytes⟩

/-! ## Components -/

/-- A step of a path. -/
inductive Component where
  | root
  | current
  | parent
  | normal (name : Bytes)
  deriving DecidableEq, Repr

def Component.path : Component → Path
  | .root => .root
  | .current => ⟨[0x2E]⟩
  | .parent => ⟨[0x2E, 0x2E]⟩
  | .normal name => ⟨name⟩

def names (path : Path) : List Bytes :=
  (Text.segments slash path.bytes).filter (!·.isEmpty)

/-- The component that a name stands for; a dot inside a path stands for none. -/
def componentOf (name : Bytes) : Option Component :=
  if name == [0x2E] then none
  else if name == [0x2E, 0x2E] then some .parent
  else some (.normal name)

/-- The steps of a path.  A dot counts only where a relative path begins. -/
def components (path : Path) : List Component :=
  let inner := path.names.filterMap componentOf
  if path.isAbsolute then .root :: inner
  else if path.names.head? == some [0x2E] then .current :: inner
  else inner

/-! ## Search lists -/

/-- The directories of a search list, in order.  An empty list is one empty
directory. -/
def searchList (text : Bytes) : List Path :=
  (Text.segments colon text).map Path.mk

end Path

end PipelineShell
