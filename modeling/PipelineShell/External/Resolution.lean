/-
# External.Resolution -- from a word to a program

An absolute path, and a relative one of several components, stand for the file
that they name, the latter as seen from the session's directory.  A path of one
component is looked for in the directories of a search list, and the first file
wins.  The empty path stands for nothing.
-/
import PipelineShell.Path

namespace PipelineShell.External

set_option autoImplicit false

def fileAt? (isFile : Path → Bool) (path : Path) : Option Path :=
  if isFile path then some path else none

/-- The first file of this name in a list of directories. -/
def searchIn (isFile : Path → Bool) (directories : List Path) (name : Path) : Option Path :=
  directories.findSome? fun directory => fileAt? isFile (directory.join name)

/-- The program that a word stands for, given which paths are files, the search
list and the directory it will run in. -/
def resolve (isFile : Path → Bool) (search : Bytes) (directory word : Path) : Option Path :=
  if word.isAbsolute then fileAt? isFile word
  else
    match word.components with
    | [] => none
    | [single] => searchIn isFile (Path.searchList search) single.path
    | _ => fileAt? isFile (directory.join word)

end PipelineShell.External
