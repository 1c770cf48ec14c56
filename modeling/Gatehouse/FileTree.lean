import Gatehouse.Fault
import Gatehouse.Text.Split

/-!
# File trees

A directory tree as far as the service depends on it: which paths are directories, which are
files, and what the files hold.  Log files are opened for appending and the directories above
them are made when they are missing.

A path is cut at its slashes; empty parts and single dots do not count, and two dots step back.
-/

namespace Gatehouse

set_option autoImplicit false

/-! ## Paths -/

/-- A path from the root of the tree. -/
structure FilePath where
  parts : List String
  /-- Whether the path ends in a slash, and so can only name a directory. -/
  endsInSlash : Bool
  deriving DecidableEq, Repr

namespace FilePath

/-- Adds a part to a path that is kept with its last part first. -/
def push (reversed : List String) (part : String) : List String :=
  if part == "" || part == "." then reversed
  else if part == ".." then reversed.drop 1
  else part :: reversed

/-- Reads a path. -/
def ofString (text : String) : FilePath :=
  let parts := Text.splitOn '/' text.toList
  ⟨(parts.foldl (fun reversed part => push reversed (String.ofList part)) []).reverse,
   text.toList.getLast? == some '/'⟩

/-- The path of the directory that holds what a path names. -/
def parent (path : FilePath) : List String :=
  path.parts.dropLast

end FilePath

/-! ## Trees -/

/-- What a path of a tree names. -/
inductive FileNode where
  | directory
  | file (content : String)
  deriving DecidableEq, Repr

/-- A directory tree; the root is always there. -/
structure FileTree where
  nodes : List (List String × FileNode)

namespace FileTree

/-- What a path names, the root being a directory. -/
def node? (tree : FileTree) (parts : List String) : Option FileNode :=
  if parts.isEmpty then some .directory
  else (tree.nodes.find? fun node => node.1 == parts).map Prod.snd

/-- Sets what a path names. -/
def set (tree : FileTree) (parts : List String) (node : FileNode) : FileTree :=
  ⟨(parts, node) :: tree.nodes.filter fun other => !(other.1 == parts)⟩

/-- The fault of walking down a path, if one of its parts is missing or is a file. -/
def walkFault? (tree : FileTree) (done : List String) : List String → Option FileFault
  | [] => none
  | part :: rest =>
      let here := done ++ [part]
      match tree.node? here with
      | none => some .notFound
      | some (.file _) => some .notADirectory
      | some .directory => walkFault? tree here rest

/-- Makes the missing directories of a path. -/
def makeDirectories (tree : FileTree) (done : List String) :
    List String → Except FileFault FileTree
  | [] => .ok tree
  | part :: rest =>
      let here := done ++ [part]
      match tree.node? here with
      | none => (tree.set here .directory).makeDirectories here rest
      | some (.file _) => .error .notADirectory
      | some .directory => tree.makeDirectories here rest

/-- Makes the directories above a path unless the one that holds it is there. -/
def makeParents (tree : FileTree) (path : FilePath) : Except FileFault FileTree :=
  if (tree.node? path.parent).isSome then .ok tree else tree.makeDirectories [] path.parent

/-- Opens a file for writing and makes it if it is missing; the directories above it must be
there. -/
def openFile (tree : FileTree) (path : FilePath) : Except FileFault (String × FileTree) :=
  match tree.walkFault? [] path.parent with
  | some fault => .error fault
  | none =>
      match tree.node? path.parts with
      | some .directory => .error .isADirectory
      | some (.file content) =>
          if path.endsInSlash then .error .isADirectory else .ok (content, tree)
      | none =>
          if path.endsInSlash then .error .isADirectory
          else .ok ("", tree.set path.parts (.file ""))

/-- Appends to a log file and gives its whole content.  Directories that were missing stay made even
if the file then cannot be opened. -/
def appendLog (tree : FileTree) (path addition : String) : Except Fault String × FileTree :=
  let location := FilePath.ofString path
  match tree.makeParents location with
  | .error fault => (.error (.file fault), tree)
  | .ok tree =>
      match tree.openFile location with
      | .error fault => (.error (.file fault), tree)
      | .ok (content, tree) =>
          let content := content ++ addition
          (.ok content, tree.set location.parts (.file content))

end FileTree

end Gatehouse
