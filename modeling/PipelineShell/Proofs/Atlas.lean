/-
# Proofs.Atlas -- a world with a map

`Atlas` is a `Host` in which paths lead somewhere or nowhere: the map says which of them
are directories, files, directories that nobody may enter, and links.  It is known where
the process is, and what was written to the standard error of the shell.  Only so many
pipes can be opened.  The concrete runs in which it matters where a path leads take place
here.
-/
import PipelineShell.Command

namespace PipelineShell

set_option autoImplicit false

/-- What stands on the map under a path. -/
inductive Place where
  | directory
  | file
  /-- A directory that nobody may enter. -/
  | locked
  | link (target : Path)
  deriving DecidableEq, Repr

/-- The state of the world with a map. -/
structure Atlas where
  places : List (Path × Place)
  /-- Where the process is. -/
  directory : Path
  /-- So many more pipes can be opened. -/
  pipes : Nat
  /-- The text on the standard error of the shell. -/
  errorText : Bytes
  deriving DecidableEq, Repr

namespace Atlas

def place? (world : Atlas) (path : Path) : Option Place := world.places.lookup path

/-- The path stands on the map for something other than a link. -/
def isDirect (world : Atlas) (path : Path) : Bool :=
  match world.place? path with
  | some (.link _) => false
  | some _ => true
  | none => false

/-- Follows a link, if the path is one. -/
def follow (world : Atlas) (path : Path) : Path :=
  match world.place? path with
  | some (.link target) => target
  | _ => path

/-- Moves the process, if it may enter. -/
def move (path : Path) : StateM Atlas (Except IoError Unit) := fun world =>
  match world.place? path with
  | some .directory => (.ok (), { world with directory := path })
  | some .locked => (.error (.os 13), world)
  | some _ => (.error (.os 20), world)
  | none => (.error (.os 2), world)

end Atlas

instance : Host Atlas where
  canonicalize path world :=
    if world.isDirect (world.follow path) then .ok (world.follow path) else .error (.os 2)
  isFile path world := world.place? path == some .file
  currentDirectory world := .ok world.directory
  changeDirectory := Atlas.move
  environment _ := []
  account _ := ⟨"user", "group", none⟩
  processes _ := []
  terminate _ := pure (.ok ())
  openPipe world :=
    match world.pipes with
    | 0 => (.error (.os 24), world)
    | pipes + 1 => (.ok pipes, { world with pipes })
  read _ _ := pure (.ok [])
  readToEnd _ := pure (.ok [])
  write output bytes world :=
    (.ok bytes.length,
      if output = .standardError then { world with errorText := world.errorText ++ bytes }
      else world)
  interruptionsLeft _ _ := 0
  flush _ := pure (.ok ())
  closeInput _ := pure ()
  closeOutput _ := pure ()
  deliver _ _ := pure 0
  finishDelivery _ := pure (.ok ())
  spawn _ := pure (.ok ⟨1, none⟩)
  capture _ := pure (.ok ([], .exited 0))
  wait _ := pure (.ok (.exited 0))
  kill _ := pure (.ok ())

namespace Atlas

/-- A session and a world in which the process is in the root, with this map. -/
def context (places : List (String × Place)) (pipes : Nat) : Context Atlas :=
  ⟨⟨[], .root, "user", "group", none⟩,
    ⟨places.map fun entry => (.ofString entry.1, entry.2), .root, pipes, []⟩, []⟩

end Atlas

end PipelineShell
