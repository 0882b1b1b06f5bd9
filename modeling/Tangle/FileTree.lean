import Tangle.Text.Utf8

/-!
# File trees

A file tree maps locations to files and directories. A location is the list of names that leads to
it from the root; the root itself is always a directory. Paths are looked up from a working
directory, name by name, as a file system does it.
-/

namespace Tangle

/-- What a file holds: a text, or octets that spell none. -/
inductive Contents where
  | text (text : Text)
  | octets (octets : List UInt8)
  deriving Repr, DecidableEq

namespace Contents

/-- The contents with the given octets. -/
def ofOctets (octets : List UInt8) : Contents :=
  match Utf8.text? octets with
  | some spelled => .text spelled
  | none => .octets octets

/-- The contents as text, faulty octets replaced. -/
def shown : Contents → Text
  | .text t => t
  | .octets o => Utf8.lossyText o

end Contents

/-- A file or a directory. -/
inductive Node where
  | file (contents : Contents)
  | directory
  deriving Repr, DecidableEq

/-- The names that lead to a file or directory from the root. -/
abbrev Location := List Text

/-- Why a file system refuses an operation. -/
inductive IoFault where
  | notFound
  | notADirectory
  | isADirectory
  /-- The file is no text. -/
  | invalidData
  /-- A name is too long. -/
  | invalidFilename
  /-- A name holds a zero character. -/
  | invalidInput
  deriving Repr, DecidableEq

/-- The files and directories below the root. -/
structure FileTree where
  nodes : List (Location × Node)
  deriving Repr

namespace FileTree

/-- The tree with the root alone. -/
def empty : FileTree := ⟨[]⟩

/-- What is at a location. -/
def node? (tree : FileTree) (location : Location) : Option Node :=
  if location.isEmpty then some .directory
  else (tree.nodes.find? fun entry => entry.1 = location).map (·.2)

/-- Puts a node at a location, in place of what is there. -/
def put (tree : FileTree) (location : Location) (node : Node) : FileTree :=
  if tree.nodes.any fun entry => entry.1 = location then
    ⟨tree.nodes.map fun entry => if entry.1 = location then (location, node) else entry⟩
  else ⟨tree.nodes ++ [(location, node)]⟩

/-- Takes away what is at a location and below it. -/
def remove (tree : FileTree) (location : Location) : FileTree :=
  ⟨tree.nodes.filter fun entry => !location.isPrefixOf entry.1⟩

/-- Makes the directories on the way to a location and at it, where nothing is yet. -/
def makeDirectories (tree : FileTree) (location : Location) : FileTree :=
  (List.range (location.length + 1)).foldl
    (fun tree n =>
      let here := location.take n
      if (tree.node? here).isSome then tree else tree.put here .directory)
    tree

/-- The greatest number of octets in a name. -/
def nameBound : Nat := 255

/-- Follows names from a location. Each name is looked up in a directory that exists; whether the
last one exists is left open. -/
def follow (tree : FileTree) : Location → List Text → Except IoFault Location
  | here, [] => .ok here
  | here, name :: more =>
    match tree.node? here with
    | none => .error .notFound
    | some (.file _) => .error .notADirectory
    | some .directory =>
      if name.isEmpty || name = ['.'] then follow tree here more
      else if name = ['.', '.'] then follow tree here.dropLast more
      else if nameBound < Utf8.size name then .error .invalidFilename
      else follow tree (here ++ [name]) more

/-- The location that a path leads to from the working directory `here`. -/
def locate (tree : FileTree) (here : Location) (path : Text) : Except IoFault Location :=
  if path.isEmpty then .error .notFound
  else if path.contains '\x00' then .error .invalidInput
  else follow tree (if path.head? = some '/' then [] else here) (path.splitOn '/')

/-- What a path leads to. -/
def find (tree : FileTree) (here : Location) (path : Text) : Except IoFault Node :=
  match tree.locate here path with
  | .error fault => .error fault
  | .ok location =>
    match tree.node? location with
    | some node => .ok node
    | none => .error .notFound

/-- Whether a path leads to a file. -/
def isFile (tree : FileTree) (here : Location) (path : Text) : Bool :=
  match tree.find here path with
  | .ok (.file _) => true
  | _ => false

/-- Whether a path leads to a directory. -/
def isDirectory (tree : FileTree) (here : Location) (path : Text) : Bool :=
  match tree.find here path with
  | .ok .directory => true
  | _ => false

/-- Whether a path leads to anything. -/
def has (tree : FileTree) (here : Location) (path : Text) : Bool :=
  match tree.find here path with
  | .ok _ => true
  | .error _ => false

/-- The text of the file that a path leads to. -/
def readText (tree : FileTree) (here : Location) (path : Text) : Except IoFault Text :=
  match tree.find here path with
  | .error fault => .error fault
  | .ok .directory => .error .isADirectory
  | .ok (.file (.octets _)) => .error .invalidData
  | .ok (.file (.text text)) => .ok text

/-- Writes a text to the file that a path leads to, which need not exist. -/
def writeText (tree : FileTree) (here : Location) (path text : Text) : Except IoFault FileTree :=
  match tree.locate here path with
  | .error fault => .error fault
  | .ok location =>
    match tree.node? location with
    | some .directory => .error .isADirectory
    | _ => .ok (tree.put location (.file (.text text)))

/-- The names of the files in the directory that a path leads to. -/
def fileNames (tree : FileTree) (here : Location) (path : Text) : Except IoFault (List Text) :=
  match tree.locate here path with
  | .error fault => .error fault
  | .ok location =>
    match tree.node? location with
    | none => .error .notFound
    | some (.file _) => .error .notADirectory
    | some .directory =>
      .ok <| tree.nodes.filterMap fun entry =>
        match entry.2 with
        | .file _ =>
          if entry.1.dropLast = location && !entry.1.isEmpty then entry.1.getLast? else none
        | .directory => none

end FileTree

end Tangle
