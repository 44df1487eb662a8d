import ApiDiscovery.Files.Store
import ApiDiscovery.Text.Utf8

/-!
# File trees

A file tree holds files and directories at places, which are lists of names from the root, and has a
working directory. Reading, writing and making directories follow a path name by name; what is on
the way has to be a directory.
-/

namespace ApiDiscovery.Files

/-! ## Trees -/

/-- A place in a tree: the names from the root. -/
abbrev Place := List String

/-- What can be at a place. -/
inductive Entry where
  | file (bytes : List UInt8)
  | directory
  deriving DecidableEq, Repr

/-- Files and directories, and the working directory. What is above an entry is a directory. -/
structure Tree where
  entries : List (Place × Entry)
  working : Place
  deriving Repr

namespace Tree

/-- Something is at a place or below it. -/
def isAbove (place : Place) (t : Tree) : Bool :=
  place.isPrefixOf t.working || t.entries.any fun e => place.isPrefixOf e.1

/-- What is at a place. -/
def at? (t : Tree) (place : Place) : Option Entry :=
  match t.entries.lookup place with
  | some entry => some entry
  | none => if isAbove place t then some .directory else none

/-- The tree with an entry at a place, in place of what was there. -/
def put (t : Tree) (place : Place) (entry : Entry) : Tree :=
  { t with entries := (place, entry) :: t.entries.filter fun e => e.1 ≠ place }

/-! ## Paths in trees -/

/-- The number of bytes of a text. -/
def size (s : String) : Nat := (Text.Utf8.encode s.toList).length

/-- The place that a name leads to from a place, which has to be a directory. -/
def enter (t : Tree) (place : Place) (name : String) : Except Reason Place :=
  match t.at? place with
  | none => .error .missing
  | some (.file _) => .error .noDirectory
  | some .directory =>
    if name = ".." then .ok place.dropLast
    else if 255 < size name then .error .nameTooLong
    else .ok (place ++ [name])

/-- The place that names lead to one after another. -/
def walk (t : Tree) (place : Place) : List String → Except Reason Place
  | [] => .ok place
  | name :: rest => (t.enter place name).bind fun next => t.walk next rest

/-- The place of a path; nothing has to be there. -/
def locate (t : Tree) (path : Path) : Except Reason Place :=
  if path.text.toList.contains '\x00' then .error .nullCharacter
  else if 4096 ≤ size path.text then .error .nameTooLong
  else t.walk (if path.start = .working then t.working else []) path.names

/-- A path leads to a directory. -/
def isDirectory (t : Tree) (path : Path) : Bool :=
  match t.locate path with
  | .ok place => t.at? place = some .directory
  | .error _ => false

/-! ## Operations -/

/-- The bytes of the file at a path. -/
def read (t : Tree) (path : Path) : Except Reason (List UInt8) :=
  (t.locate path).bind fun place =>
    match t.at? place with
    | none => .error .missing
    | some .directory => .error .directory
    | some (.file bytes) => .ok bytes

/-- The tree with a file written at a path, over one that is there. -/
def write (t : Tree) (path : Path) (bytes : List UInt8) : Except Reason Tree :=
  (t.locate path).bind fun place =>
    match t.at? place with
    | some .directory => .error .directory
    | _ => .ok (t.put place (.file bytes))

/-- The tree with a directory made in one that is there. -/
def makeDirectory (t : Tree) (path : Path) : Except Reason Tree :=
  (t.locate path).bind fun place =>
    match t.at? place with
    | some _ => .error .taken
    | none => .ok (t.put place .directory)

/-- The outcome of a change, and the tree that it leads to: the same one if it failed. -/
def change (t : Tree) : Except Reason Tree → Except Reason Unit × Tree
  | .ok changed => (.ok (), changed)
  | .error reason => (.error reason, t)

/-- A tree as a store that is changed by what is done with it. -/
def store : Store (StateM Tree) where
  read path := fun t => (t.read path, t)
  write path bytes := fun t => t.change (t.write path bytes)
  makeDirectory path := fun t => t.change (t.makeDirectory path)
  isDirectory path := fun t => (t.isDirectory path, t)

end Tree
end ApiDiscovery.Files
