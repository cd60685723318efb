import BuildConfig.Entries
import BuildConfig.Text.Blank

namespace BuildConfig

/-- A file or a directory. The text of a file is missing when its bytes are not UTF-8. -/
inductive FileNode where
  | file (text : Option String)
  | directory (children : List (String × FileNode))

/-- The files that a run can see: the path and the entries of the outermost directory that is known,
and the path of the project directory. -/
structure Workspace where
  root : String
  children : List (String × FileNode)
  directory : String

/-- Why a file cannot be read. -/
inductive FileFault where
  | notFound
  | notADirectory
  | isADirectory
  | nameTooLong
  | nulInName
  | notText
  deriving DecidableEq

/-- The words of the operating system for a fault. -/
def FileFault.message : FileFault → String
  | .notFound => "No such file or directory (os error 2)"
  | .notADirectory => "Not a directory (os error 20)"
  | .isADirectory => "Is a directory (os error 21)"
  | .nameTooLong => "File name too long (os error 36)"
  | .nulInName => "file name contained an unexpected NUL byte"
  | .notText => "stream did not contain valid UTF-8"

/-- A path as seen from a directory; an absolute one stays as it is. -/
def joinPath (directory path : String) : String :=
  match path.toList.head?, directory.toList.getLast? with
  | some '/', _ => path
  | _, some '/' => directory ++ path
  | _, _ => directory ++ "/" ++ path

/-- The names between the slashes of a path. -/
def pathNames (path : List Char) : List String :=
  (Text.fields '/' path).map String.ofList

/-- The extension of the last name of a path: what comes after its last dot, unless that dot comes
first. -/
def pathExtension? (path : String) : Option String :=
  let names := (pathNames path.toList).filter fun name => name != "" && name != "."
  match names.getLast? with
  | none => none
  | some ".." => none
  | some name =>
    let reversed := name.toList.reverse
    match reversed.dropWhile (· != '.') with
    | _ :: _ :: _ => some (String.ofList (reversed.takeWhile (· != '.')).reverse)
    | _ => none

namespace FileNode

/-- Puts a node at the end of a path of names; directories on the way are made. -/
def place (node : FileNode) : List String → List (String × FileNode) → List (String × FileNode)
  | [], children => children
  | [name], children => Entries.insert children name node
  | name :: next :: rest, children =>
    let inner := match Entries.get? children name with
      | some (.directory inner) => inner
      | _ => []
    Entries.insert children name (.directory (node.place (next :: rest) inner))

/-- Follows names from a node whose parent directories are given, nearest first. A slash at the end
asks for a directory. Above the outermost directory there is nothing to be found. -/
def follow (parents : List FileNode) (node : FileNode) : List String → Except FileFault FileNode
  | [] => .ok node
  | name :: rest =>
    match node with
    | .file _ => .error .notADirectory
    | .directory children =>
      if name = "" ∨ name = "." then follow parents node rest
      else if name = ".." then
        match parents with
        | parent :: others => follow others parent rest
        | [] => follow [] (.directory []) rest
      else if 255 < name.utf8ByteSize then .error .nameTooLong
      else match Entries.get? children name with
        | some child => follow (node :: parents) child rest
        | none => .error .notFound

end FileNode

namespace Workspace

/-- What is at a path. Nothing is to be found outside of the outermost directory. -/
def find (files : Workspace) (path : String) : Except FileFault FileNode :=
  let cs := path.toList
  if cs.contains '\x00' then .error .nulInName
  else if files.root.toList.isPrefixOf cs then
    FileNode.follow [] (.directory files.children) (pathNames (cs.drop files.root.length))
  else .error .notFound

/-- Whether there is something at a path; it is a fault when that cannot be told. -/
def contains (files : Workspace) (path : String) : Except FileFault Bool :=
  match files.find path with
  | .ok _ => .ok true
  | .error .notFound => .ok false
  | .error fault => .error fault

/-- The text of the file at a path. -/
def read (files : Workspace) (path : String) : Except FileFault String :=
  match files.find path with
  | .ok (.file (some text)) => .ok text
  | .ok (.file none) => .error .notText
  | .ok (.directory _) => .error .isADirectory
  | .error fault => .error fault

/-- The path of a file of the project. -/
def pathOf (files : Workspace) (path : String) : String :=
  joinPath files.directory path

end Workspace

end BuildConfig
