import CouchLoad.Text.Split
import CouchLoad.Text.Utf8

/-!
# Files

What can be read is a partial function from paths to bytes. A tree of files is one way to give
such a function: a path is walked component by component from the working directory.
-/

namespace CouchLoad

/-- Why a file cannot be read. -/
inductive FileFault where
  | notFound
  | isADirectory
  | notADirectory
  | permissionDenied
  | invalidData
  /-- A name holds the null character. -/
  | invalidInput
  /-- A name is too long. -/
  | invalidFilename
  /-- Any other fault, in the words of the file system. -/
  | other (details : String)
  deriving DecidableEq, Repr

/-- The wording of the fault. -/
def FileFault.message : FileFault → String
  | .notFound => "No such file or directory (os error 2)"
  | .isADirectory => "Is a directory (os error 21)"
  | .notADirectory => "Not a directory (os error 20)"
  | .permissionDenied => "permission denied"
  | .invalidData => "stream did not contain valid UTF-8"
  | .invalidInput => "file name contained an unexpected NUL byte"
  | .invalidFilename => "File name too long (os error 36)"
  | .other details => details

/-- The greatest number of bytes of a name in a path. -/
def longestName : Nat := 255

/-- The greatest number of bytes of a path. -/
def longestPath : Nat := 4095

/-- What is wrong with a path, whatever files there are. -/
def FileFault.ofPath? (path : String) : Option FileFault :=
  if path.isEmpty then some .notFound
  else if path.toList.contains '\x00' then some .invalidInput
  else if longestPath < path.utf8ByteSize then some .invalidFilename
  else none

/-- The bytes at every path that can be read. -/
abbrev Files := String → Except FileFault (List UInt8)

/-- The text of a file. -/
def Files.readText (files : Files) (path : String) : Except FileFault (List Char) :=
  match files path with
  | .error fault => .error fault
  | .ok bytes =>
    match Text.utf8Decode? bytes with
    | some text => .ok text
    | none => .error .invalidData

/-- A file with its bytes, or a directory. -/
inductive FileNode where
  | file (bytes : List UInt8)
  | directory
  deriving DecidableEq, Repr

/-- Files and directories by the components of their paths. -/
structure FileTree where
  nodes : List (List (List Char) × FileNode)

namespace FileTree

/-- The components of a path, empty ones and the present directory left out. -/
def components (path : List Char) : List (List Char) :=
  (Text.splitAtEach '/' path).filter fun name => name ≠ [] && name ≠ ['.']

/-- The place where a path starts. The root of all files is above the working directory. -/
def origin (path : List Char) : List (List Char) :=
  if path.head? = some '/' then [['.', '.']] else []

/-- A tree with the given entries, of which a later one replaces an earlier one. -/
def ofList (entries : List (String × FileNode)) : FileTree :=
  ⟨(entries.map fun (path, node) => (origin path.toList ++ components path.toList, node)).reverse⟩

/-- Whether a component leads to the directory above. -/
def isUpward (name : List Char) : Bool :=
  name = ['.', '.']

/-- What stands at a place of the tree. The directories above an entry need no entry, and the
working directory and those above it are always there. -/
def node? (tree : FileTree) (place : List (List Char)) : Option FileNode :=
  match tree.nodes.lookup place with
  | some node => some node
  | none =>
    if place.all isUpward || tree.nodes.any fun entry => place.isPrefixOf entry.1 then
      some .directory
    else none

/-- Walk the components of a path from a place that has been reached. Only directories lead on. -/
def walk (tree : FileTree) (place : List (List Char)) :
    List (List Char) → Except FileFault FileNode
  | [] =>
    match tree.node? place with
    | some node => .ok node
    | none => .error .notFound
  | name :: names =>
    match tree.node? place with
    | none => .error .notFound
    | some (.file _) => .error .notADirectory
    | some .directory =>
      if name = [] || name = ['.'] then walk tree place names
      else if isUpward name then
        walk tree (if place.all isUpward then place ++ [name] else place.dropLast) names
      else if longestName < Text.utf8Length name then .error .invalidFilename
      else walk tree (place ++ [name]) names

/-- The files of the tree by their paths relative to its working directory. -/
def files (tree : FileTree) : Files := fun path =>
  match FileFault.ofPath? path with
  | some fault => .error fault
  | none =>
    match tree.walk (origin path.toList) (Text.splitAtEach '/' path.toList) with
    | .error fault => .error fault
    | .ok .directory => .error .isADirectory
    | .ok (.file bytes) => .ok bytes

end FileTree

end CouchLoad
