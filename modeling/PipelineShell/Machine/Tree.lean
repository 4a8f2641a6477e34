/-
# Machine.Tree -- files, directories and links

A tree of files is a list of places with what stands there; a place is the list
of names that leads to it from the root.  `Tree.resolve` follows a path from a
directory: names must be present and short enough, everything but the last must
be a directory, and at most forty links are followed.  `Tree.canonical` names the
place that a path leads to by its one path without links and dots.
-/
import PipelineShell.Errno
import PipelineShell.Path

namespace PipelineShell.Machine

set_option autoImplicit false

abbrev Place := List Bytes

def Place.path (place : Place) : Path :=
  if place.isEmpty then .root else ⟨place.flatMap (Path.slash :: ·)⟩

/-- What the owner of a file may do with it, and further marks, in the usual
twelve bits. -/
abbrev Permissions := Nat

def Permissions.allows (permissions bit : Nat) : Bool := (permissions / bit) % 2 == 1

def mayRead : Nat := 0o400

def mayWrite : Nat := 0o200

def mayRun : Nat := 0o100

/-- What stands at a place. -/
inductive Node where
  | directory
  /-- Everything on the machine belongs to its one user, so only the owner's
  permissions count. -/
  | file (content : Bytes) (permissions : Permissions) (changed : Nat)
  /-- A program of the machine itself. -/
  | program (name : String)
  /-- A device that swallows what is written and has nothing to read. -/
  | null
  /-- A device that is always full. -/
  | full
  /-- A device from which zeros can be read without end. -/
  | zero
  /-- Whatever the process that asks has open under a number. -/
  | descriptor (number : Nat)
  | link (target : Path)
  deriving DecidableEq, Repr

/-- A tree of files.  The root is always a directory. -/
structure Tree where
  nodes : List (Place × Node)
  deriving Repr

namespace Tree

def find? (tree : Tree) (place : Place) : Option Node :=
  if place.isEmpty then some .directory else tree.nodes.lookup place

def isDirectory (tree : Tree) (place : Place) : Bool :=
  tree.find? place == some .directory

/-- Puts a node at a place, instead of what stood there. -/
def put (tree : Tree) (place : Place) (node : Node) : Tree :=
  ⟨(place, node) :: tree.nodes.filter (·.1 != place)⟩

def erase (tree : Tree) (place : Place) : Tree :=
  ⟨tree.nodes.filter (·.1 != place)⟩

def namesIn (tree : Tree) (place : Place) : List Bytes :=
  tree.nodes.filterMap fun entry =>
    if entry.1.length == place.length + 1 && entry.1.dropLast == place then entry.1.getLast?
    else none

/-- Whether anything stands inside a directory. -/
def isOccupied (tree : Tree) (place : Place) : Bool := !(tree.namesIn place).isEmpty

/-- Makes a directory and those that lead to it, where they are missing. -/
def makeDirectories (tree : Tree) (place : Place) : Tree :=
  (List.range place.length).foldl (fun tree n =>
    let above := place.take (n + 1)
    if (tree.find? above).isSome then tree else tree.put above .directory) tree

/-! ## Following paths -/

def longestName : Nat := 255

/-- The longest path that can be asked for, the closing NUL included. -/
def longestPath : Nat := 4096

def linkBudget : Nat := 40

/-- Where following a list of names comes to a halt. -/
inductive Halt where
  | arrived (place : Place)
  | failed (number : Int)
  /-- At a link in a directory, with names still to follow. -/
  | linked (directory : Place) (target : Path) (rest : List Bytes)

/-- The names of a path; a slash at the end asks for a directory, as a dot
would. -/
def stepsOf (path : Path) : List Bytes :=
  if path.bytes.getLast? == some Path.slash then path.names ++ [[0x2E]] else path.names

/-- Follows names from a directory, up to the first link.  A last name that is a
link is followed only if `throughLast`. -/
def advance (tree : Tree) (throughLast : Bool) : Place → List Bytes → Halt
  | place, [] => .arrived place
  | place, name :: rest =>
      if name == [0x2E] then tree.advance throughLast place rest
      else if name == [0x2E, 0x2E] then tree.advance throughLast place.dropLast rest
      else if longestName < name.length then .failed Errno.nameTooLong
      else
        match tree.find? (place ++ [name]) with
        | none => .failed Errno.noEntry
        | some .directory => tree.advance throughLast (place ++ [name]) rest
        | some (.link target) =>
            if rest.isEmpty && !throughLast then .arrived (place ++ [name])
            else .linked place target rest
        | some _ =>
            if rest.isEmpty then .arrived (place ++ [name]) else .failed Errno.notDirectory

/-- Follows names and links, of which at most `links`. -/
def follow (tree : Tree) (throughLast : Bool) : Nat → Place → List Bytes → Except Int Place
  | links, place, names =>
      match tree.advance throughLast place names with
      | .arrived place => .ok place
      | .failed number => .error number
      | .linked directory target rest =>
        match links with
        | 0 => .error Errno.tooManyLinks
        | links + 1 =>
          tree.follow throughLast links (if target.isAbsolute then [] else directory)
            (stepsOf target ++ rest)

/-- The place that a path leads to, taken relative to a directory; a link at the
end is followed only if `throughLast`. -/
def locate (tree : Tree) (throughLast : Bool) (directory : Place) (path : Path) :
    Except Int Place :=
  if path.isEmpty then .error Errno.noEntry
  else if path.bytes.contains 0 then .error Errno.noEntry
  else if longestPath ≤ path.bytes.length then .error Errno.nameTooLong
  else tree.follow throughLast linkBudget (if path.isAbsolute then [] else directory) (stepsOf path)

def resolve (tree : Tree) (directory : Place) (path : Path) : Except Int Place :=
  tree.locate true directory path

/-- The canonical path of what a path leads to.  A relative path needs a directory
that still exists. -/
def canonical (tree : Tree) (directory : Place) (path : Path) : Except Int Path :=
  if path.isEmpty then .error Errno.noEntry
  else if !path.isAbsolute && !tree.isDirectory directory then .error Errno.noEntry
  else
    (tree.follow true linkBudget (if path.isAbsolute then [] else directory) (stepsOf path)).map
      Place.path

def nodeAt (tree : Tree) (directory : Place) (path : Path) : Except Int (Place × Node) := do
  let place ← tree.resolve directory path
  match tree.find? place with
  | some node => .ok (place, node)
  | none => .error Errno.noEntry

/-- What a path leads to, without its place. -/
def find (tree : Tree) (directory : Place) (path : Path) : Except Int Node :=
  (tree.nodeAt directory path).map (·.2)

/-- What a path leads to, a link at its end being left alone. -/
def linkAt (tree : Tree) (directory : Place) (path : Path) : Except Int (Place × Node) := do
  let place ← tree.locate false directory path
  match tree.find? place with
  | some node => .ok (place, node)
  | none => .error Errno.noEntry

def isFile (tree : Tree) (directory : Place) (path : Path) : Bool :=
  match tree.nodeAt directory path with
  | .ok (_, .file _ _ _) => true
  | .ok (_, .program _) => true
  | _ => false

def directoryAt (tree : Tree) (directory : Place) (path : Path) : Except Int Place :=
  match tree.nodeAt directory path with
  | .ok (place, .directory) => .ok place
  | .ok _ => .error Errno.notDirectory
  | .error number => if (stepsOf path).all (· == [0x2E]) && !path.isAbsolute && !path.isEmpty
      then .ok directory else .error number

/-- The place at which a path names a file that may be made there: its directory
exists, and links at the end have been followed. -/
def targetAt (tree : Tree) (directory : Place) (path : Path) : Except Int Place :=
  if path.isEmpty || path.bytes.contains 0 then .error Errno.noEntry
  else if longestPath ≤ path.bytes.length then .error Errno.nameTooLong
  else
    let rec go : Nat → Place → List Bytes → Except Int Place
      | links, from?, names =>
        match names.getLast? with
        | none => .ok from?
        | some last => do
          let above ← tree.follow true linkBudget from? names.dropLast
          if !tree.isDirectory above then
            .error (if (tree.find? above).isSome then Errno.notDirectory else Errno.noEntry)
          else if last == [0x2E] || last == [0x2E, 0x2E] then
            tree.follow true linkBudget above [last]
          else if longestName < last.length then .error Errno.nameTooLong
          else
            match tree.find? (above ++ [last]) with
            | some (.link target) =>
                match links with
                | 0 => .error Errno.tooManyLinks
                | links + 1 => go links (if target.isAbsolute then [] else above) (stepsOf target)
            | _ => .ok (above ++ [last])
    go linkBudget (if path.isAbsolute then [] else directory) (stepsOf path)

end Tree

end PipelineShell.Machine
