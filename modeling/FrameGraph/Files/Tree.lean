import FrameGraph.Files.Path

/-!
# A tree of files

Directories and files under one root, each named by the list of the names that lead to it. Files are
created, emptied and written to, and never removed, so the names of an open file keep naming it.
-/

namespace FrameGraph

/-! ### Faults -/

/-- Why a file or directory cannot be reached or made. -/
inductive FileFault
  | notFound
  | exists
  | notDirectory
  | isDirectory
  | nameTooLong
  | zeroByte
  deriving DecidableEq, Repr

/-- The wording of a fault, with its number. -/
def FileFault.message : FileFault → String
  | .notFound => "No such file or directory (os error 2)"
  | .exists => "File exists (os error 17)"
  | .notDirectory => "Not a directory (os error 20)"
  | .isDirectory => "Is a directory (os error 21)"
  | .nameTooLong => "File name too long (os error 36)"
  | .zeroByte => "file name contained an unexpected NUL byte"

/-! ### Trees -/

/-- What a name leads to. -/
inductive FileNode
  | directory
  | file (bytes : List UInt8)
  deriving DecidableEq, Repr

/-- Everything below the root, and the directory from which relative paths start. -/
structure FileTree where
  home : List String := []
  nodes : List (List String × FileNode) := []
  deriving DecidableEq, Repr

namespace FileTree

/-- What is found at a place; the root is a directory. -/
def node? (t : FileTree) (place : List String) : Option FileNode :=
  if place.isEmpty then some .directory else t.nodes.lookup place

def put (t : FileTree) (place : List String) (node : FileNode) : FileTree :=
  { t with nodes := (place, node) :: t.nodes.filter fun n => n.1 != place }

def read? (t : FileTree) (place : List String) : Option (List UInt8) :=
  match t.node? place with
  | some (.file bytes) => some bytes
  | _ => none

/-- The files in a directory and below it, by the rest of their names. -/
def filesBelow (t : FileTree) (place : List String) : List (List String × List UInt8) :=
  t.nodes.filterMap fun
    | (names, .file bytes) =>
      if place.isPrefixOf names then some (names.drop place.length, bytes) else none
    | _ => none

/-! ### Finding the way -/

def maxName : Nat := 255

/-- Go from a directory to one that is named in it. -/
def enter (t : FileTree) (place : List String) (name : String) : Except FileFault (List String) :=
  if name == "." then .ok place
  else if name == ".." then .ok place.dropLast
  else if maxName < name.utf8ByteSize then .error .nameTooLong
  else match t.node? (place ++ [name]) with
    | some .directory => .ok (place ++ [name])
    | some (.file _) => .error .notDirectory
    | none => .error .notFound

def start (t : FileTree) (path : String) : List String :=
  if Path.isAbsolute path then [] else t.home

/-- The directory that holds the last part of a path, and that part. -/
def locate (t : FileTree) (path : String) : Except FileFault (List String × Option String) := do
  if path.toList.contains '\x00' then throw .zeroByte
  if path.isEmpty then throw .notFound
  match (Path.parts path).getLast? with
  | none => return (t.start path, none)
  | some last =>
    let place ← (Path.parts path).dropLast.foldlM t.enter (t.start path)
    if last == "." || last == ".." then return (← t.enter place last, none)
    else if maxName < last.utf8ByteSize then throw .nameTooLong
    else return (place, some last)

def find? (t : FileTree) (path : String) : Option FileNode :=
  match t.locate path with
  | .ok (place, none) => t.node? place
  | .ok (place, some name) =>
    match t.node? (place ++ [name]) with
    | some (.file bytes) => if Path.endsOpen path then none else some (.file bytes)
    | node => node
  | .error _ => none

def isDirectory (t : FileTree) (path : String) : Bool := t.find? path == some .directory

/-! ### Making directories -/

def makeDirectory (t : FileTree) (path : String) : Except FileFault FileTree := do
  match ← t.locate path with
  | (_, none) => throw .exists
  | (place, some name) =>
    if (t.node? (place ++ [name])).isSome then throw .exists
    else return t.put (place ++ [name]) .directory

/-- Make a directory and all those that lead to it; `fuel` bounds their number. What was made before
a fault stays. -/
def makeDirectories : (fuel : Nat) → FileTree → String → Except FileFault Unit × FileTree
  | 0, t, _ => (.error .notFound, t)
  | fuel + 1, t, path =>
    if path.isEmpty then (.ok (), t)
    else match t.makeDirectory path with
      | .ok t => (.ok (), t)
      | .error .notFound =>
        match Path.parent? path with
        | none => (.error .notFound, t)
        | some above =>
          match makeDirectories fuel t above with
          | (.error e, t) => (.error e, t)
          | (.ok (), t) =>
            match t.makeDirectory path with
            | .ok t => (.ok (), t)
            | .error e => if t.isDirectory path then (.ok (), t) else (.error e, t)
      | .error e => if t.isDirectory path then (.ok (), t) else (.error e, t)

/-- Make the directory of a path and all those that lead to it. -/
def makePath (t : FileTree) (path : String) : Except FileFault Unit × FileTree :=
  makeDirectories (path.length + 1) t path

/-! ### Writing files -/

/-- Make a file, or empty the one that is there; the result is its place. -/
def createFile (t : FileTree) (path : String) : Except FileFault (List String × FileTree) := do
  match ← t.locate path with
  | (_, none) => throw .isDirectory
  | (place, some name) =>
    let place := place ++ [name]
    if Path.endsOpen path then throw .isDirectory
    else match t.node? place with
      | some .directory => throw .isDirectory
      | _ => return (place, t.put place (.file []))

/-- Write bytes into a file from an offset on. Bytes missing before the offset become zero. -/
def writeAt (t : FileTree) (place : List String) (offset : Nat) (new : List UInt8) : FileTree :=
  let old := (t.read? place).getD []
  let before := old.take offset
  t.put place (.file (before ++ List.replicate (offset - before.length) 0 ++ new
    ++ old.drop (offset + new.length)))

end FileTree

end FrameGraph
