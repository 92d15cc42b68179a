/-!
# File trees

Files and directories as a value. A path is a text of names between slashes; it is walked name by
name from the working directory, or from the root when it begins with a slash. A name can only be
looked up in a directory, a single dot stays where it is, and two dots go up.

The system may refuse what a tree holds: the content of a file, the listing of a directory, or one
of its entries.
-/

namespace WireSchema

/-- Why a file cannot be read or written. -/
inductive FileError
  /-- Nothing has the name. -/
  | notFound
  /-- Something on the way is no directory. -/
  | notDirectory
  /-- What is named is a directory. -/
  | isDirectory
  /-- The content is no text. -/
  | invalidUtf8
  /-- The name cannot be that of a file. -/
  | invalidName
  /-- Any other reason, in the words of the system. -/
  | system (words : String)
deriving DecidableEq

/-- An error in words. -/
def FileError.message : FileError → String
  | notFound => "No such file or directory (os error 2)"
  | notDirectory => "Not a directory (os error 20)"
  | isDirectory => "Is a directory (os error 21)"
  | invalidUtf8 => "stream did not contain valid UTF-8"
  | invalidName => "file name contained an unexpected NUL byte"
  | system words => words

/-- What stands at a place. -/
inductive FileNode
  | file (content : ByteArray)
  /-- A file that can be neither read nor written. -/
  | locked (e : FileError)
  | directory
  /-- A directory whose entries cannot be listed. -/
  | closed (e : FileError)
  /-- An entry of a directory of which nothing but an error can be learned. -/
  | broken (e : FileError)

namespace FileNode

/-- Is it a directory, whether it can be listed or not? -/
def isDirectory : FileNode → Bool
  | directory => true
  | closed _ => true
  | _ => false

/-- Is it a file, whether it can be read or not? -/
def isFile : FileNode → Bool
  | file _ => true
  | locked _ => true
  | _ => false

/-- Why no content can be written to it. -/
def refusal? : FileNode → Option FileError
  | file _ => none
  | locked e => some e
  | directory => some .isDirectory
  | closed _ => some .isDirectory
  | broken e => some e

/-- The name of an entry in the listing of its directory, or why it cannot be read. -/
def entry (name : String) : FileNode → Except FileError String
  | broken e => .error e
  | _ => .ok name

end FileNode

/-- Files and directories, by the names on the way from the root, and the working directory. -/
structure FileTree where
  nodes : List (List String × FileNode)
  workingDir : List String

/-- The names of a path. A path that ends in a slash has an empty name at its end. -/
def pathNames (path : String) : List String :=
  (path.toList.splitOn '/').map String.ofList

/-- A name below a directory, as a path. -/
def joinPath (dir name : String) : String :=
  if dir.endsWith "/" then dir ++ name else dir ++ "/" ++ name

namespace FileTree

/-- A tree with nothing but its working directory. -/
def empty (workingDir : List String) : FileTree :=
  ⟨[], workingDir⟩

/-- What stands at a place. The root and the working directory are always there. -/
def node? (t : FileTree) (place : List String) : Option FileNode :=
  if place.isPrefixOf t.workingDir then
    some (((t.nodes.lookup place).filter FileNode.isDirectory).getD .directory)
  else t.nodes.lookup place

/-- The place that a name leads to from another: the empty name and a single dot stay, two dots go
    up, and any other name goes down. -/
def enter (place : List String) (name : String) : List String :=
  if name == "" || name == "." then place
  else if name == ".." then place.dropLast
  else place ++ [name]

/-- Walks along names from a place. Each name is looked up in a directory; the last one need not
    exist. -/
def walk (t : FileTree) (place : List String) : List String → Except FileError (List String)
  | [] => .ok place
  | name :: rest =>
    match t.node? place with
    | none => .error .notFound
    | some (.broken e) => .error e
    | some (.file _) | some (.locked _) => .error .notDirectory
    | some .directory | some (.closed _) => t.walk (enter place name) rest

/-- The place that names lead to. -/
def locate (t : FileTree) (path : String) (names : List String) :
    Except FileError (List String) :=
  if path.toList.contains '\x00' then .error .invalidName
  else if path == "" then .error .notFound
  else t.walk (if path.startsWith "/" then [] else t.workingDir) names

/-- What a path names. -/
def find (t : FileTree) (path : String) : Except FileError FileNode := do
  let place ← t.locate path (pathNames path)
  match t.node? place with
  | some node => return node
  | none => throw .notFound

/-- Does a path name a directory? -/
def isDirectory (t : FileTree) (path : String) : Bool :=
  match t.find path with
  | .ok node => node.isDirectory
  | .error _ => false

/-- Does a path name a file? -/
def isFile (t : FileTree) (path : String) : Bool :=
  match t.find path with
  | .ok node => node.isFile
  | .error _ => false

/-- The content of a file. -/
def read (t : FileTree) (path : String) : Except FileError ByteArray := do
  match ← t.find path with
  | .file content => return content
  | .directory => throw .isDirectory
  | .locked e | .closed e | .broken e => throw e

/-- The content of a file as text. -/
def readText (t : FileTree) (path : String) : Except FileError String := do
  match String.fromUTF8? (← t.read path) with
  | some text => return text
  | none => throw .invalidUtf8

/-- The entries directly below a place, in no particular order. -/
def entriesAt (t : FileTree) (place : List String) : List (Except FileError String) :=
  t.nodes.filterMap fun (names, node) =>
    if names.dropLast == place then names.getLast?.map fun name => node.entry name else none

/-- The entries of a directory. -/
def entriesIn (t : FileTree) (path : String) :
    Except FileError (List (Except FileError String)) := do
  let place ← t.locate path (pathNames path)
  match t.node? place with
  | some (.closed e) => throw e
  | _ => return t.entriesAt place

/-- A tree with one node put in the place of what was there. -/
def put (t : FileTree) (place : List String) (node : FileNode) : FileTree :=
  { t with nodes := (place, node) :: t.nodes.filter fun (names, _) => names != place }

/-- Writes a file, new or in the place of an old one. Its directory has to exist. A path that ends
    in a slash asks for a directory, whatever is there. -/
def write (t : FileTree) (path : String) (content : ByteArray) : Except FileError FileTree := do
  let names := pathNames path
  let stripped := (names.reverse.dropWhile (· == "")).reverse
  let place ← t.locate path stripped
  if stripped.length < names.length then throw .isDirectory
  match (t.node? place).bind FileNode.refusal? with
  | some e => throw e
  | none => return t.put place (.file content)

/-- A tree with a node where names lead from a place, and directories on the way to it where there
    is nothing yet. -/
def plant (t : FileTree) (node : FileNode) (place : List String) : List String → FileTree
  | [] => t.put place node
  | name :: rest =>
    let t := if (t.node? place).isSome then t else t.put place .directory
    t.plant node (enter place name) rest

end FileTree

end WireSchema
