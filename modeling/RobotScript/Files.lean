import RobotScript.Report

/-! # Files and paths

    What a run needs of a file system, and a file system in memory. -/

namespace RobotScript

/-! ## Files

    What a run needs of a file system, in any monad: to know whether there is a
    regular file at a path, and to read a file. -/

/-- Access to files by their paths. -/
structure FileSystem (m : Type → Type) where
  /-- Is there a regular file at the path? -/
  isFile : String → m Bool
  /-- The bytes of the file at the path. -/
  read : String → m (Except IoError ByteArray)

/-- The text that bytes stand for. -/
def textOfBytes (content : Except IoError ByteArray) : Except IoError String :=
  match content with
  | .error e => .error e
  | .ok bytes =>
    match String.fromUTF8? bytes with
    | some text => .ok text
    | none => .error .invalidData

namespace FileSystem

variable {m : Type → Type} [Monad m]

/-- The text of the file at the path. -/
def readText (files : FileSystem m) (path : String) : m (Except IoError String) := do
  return textOfBytes (← files.read path)

/-- The first of some paths at which there is a regular file. -/
def firstFile? (files : FileSystem m) : List String → m (Option String)
  | [] => pure none
  | path :: more => do
    if ← files.isFile path then return some path else files.firstFile? more

end FileSystem

/-- The path of `name` inside the directory `dir`. -/
def joinPath (dir name : String) : String :=
  if dir.isEmpty || dir.endsWith "/" then dir ++ name else dir ++ "/" ++ name

/-- The directory for a user's settings: the one that is named, if its path is absolute, else
    `.config` in the home directory. -/
def userConfigDir? (named home : Option String) : Option String :=
  (named.filter (·.startsWith "/")).or (home.map (joinPath · ".config"))

/-! ## Files in memory

    A file system held as a tree of directories, with a current directory.
    Paths are walked part by part: every part but the last has to lead to a
    directory, `.` and an empty part stay where they are, and `..` goes back to
    the directory the walk came from. -/

/-- A file or a directory. -/
inductive FileNode where
  | file (content : ByteArray)
  | directory (entries : List (String × FileNode))

namespace FileNode

/-- A directory without entries. -/
def emptyDirectory : FileNode := directory []

/-- The entry of a directory. -/
def entry? : FileNode → String → Option FileNode
  | .file _, _ => none
  | .directory entries, name => entries.lookup name

/-- Put a node at a path below this one; directories on the way are made as needed. -/
def insert (node : FileNode) (path : List String) (new : FileNode) : FileNode :=
  match path with
  | [] =>
    match new, node with
    | .directory [], .directory entries => .directory entries
    | new, _ => new
  | name :: more =>
    let child := ((node.entry? name).getD emptyDirectory).insert more new
    match node with
    | .file _ => .directory [(name, child)]
    | .directory entries => .directory ((name, child) :: entries.filter (·.1 != name))

/-- Walk along the parts of a path; `above` holds the directories the walk came from. -/
def walk (node : FileNode) (above : List FileNode) : List String → Except IoError FileNode
  | [] => .ok node
  | part :: parts =>
    match node with
    | .file _ => .error .notDirectory
    | .directory entries =>
      if part = "" ∨ part = "." then walk node above parts
      else if part = ".." then
        match above with
        | [] => walk node [] parts
        | parent :: rest => walk parent rest parts
      else
        match entries.lookup part with
        | none => .error .notFound
        | some child => walk child (node :: above) parts

end FileNode

/-- A tree of files with a current directory. -/
structure FileTree where
  root : FileNode
  /-- The absolute path of the current directory. -/
  current : String

namespace FileTree

/-- The parts of a path, which slashes separate. -/
def parts (path : String) : List String := (path.toList.splitOn '/').map String.ofList

/-- The file or directory at a path. -/
def resolve (t : FileTree) (path : String) : Except IoError FileNode :=
  if path.isEmpty then .error .notFound
  else if path.startsWith "/" then t.root.walk [] (parts path)
  else t.root.walk [] (parts t.current ++ parts path)

/-- The bytes of the file at a path. -/
def read (t : FileTree) (path : String) : Except IoError ByteArray :=
  match t.resolve path with
  | .error e => .error e
  | .ok (.file content) => .ok content
  | .ok (.directory _) => .error .isDirectory

/-- Is there a file at the path? -/
def isFile (t : FileTree) (path : String) : Bool :=
  match t.resolve path with
  | .ok (.file _) => true
  | _ => false

/-- Access to the files of the tree. -/
def fileSystem (t : FileTree) : FileSystem Id := ⟨t.isFile, t.read⟩

/-- Put a node at a path below the current directory. -/
def insert (t : FileTree) (path : String) (new : FileNode) : FileTree :=
  { t with root := t.root.insert ((parts t.current ++ parts path).filter (· != "")) new }

end FileTree

end RobotScript
