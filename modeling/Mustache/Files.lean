import Mustache.Error
import Mustache.Text.Wildcard
import Mustache.Tree

/-!
# The file tree

Templates are read from files, and the persistent cache is a directory of files. The files form a
tree below a root; a path that leaves the root leads nowhere.

## Main definitions

* `Mustache.Location` — a path, taken apart at its slashes.
* `Mustache.Content` — the content of a file: bytes, or a stored template tree.
* `Mustache.FileTree` — the files and directories below the root.
* `Mustache.FileTree.resolve` — follows a path to its place in the tree.

## Implementation notes

The tree is a table of places, each a list of names from the root. There are no links, so a place
has one name.
-/

namespace Mustache

/-! ## Paths -/

/-- A path: below the root, or outside of the tree. -/
inductive Location where
  /-- The names on the way from the root, the parent directory written with two points. -/
  | below (names : List String)
  /-- A path that starts elsewhere. -/
  | elsewhere (path : String)
  deriving DecidableEq, Repr, Inhabited

/-- The names in a path. Empty ones, and single points, say nothing. -/
def namesIn (path : String) : List String :=
  (Text.fieldsOf '/' path).filter fun name => name != "" && name != "."

namespace Location

/-- The root. -/
def root : Location := below []

/-- A path that continues another, unless it starts at the top. -/
def join (base : Location) (path : String) : Location :=
  if path.startsWith "/" then elsewhere path
  else
    match base with
    | below names => below (names ++ namesIn path)
    | elsewhere p => elsewhere ("/".intercalate (p :: namesIn path))

/-- The last name of the path. -/
def name : Location → String
  | below names => names.getLastD ""
  | elsewhere path => (namesIn path).getLastD ""

/-- The path up to its last name. -/
def parent : Location → Location
  | below names => below names.dropLast
  | elsewhere path => elsewhere path

/-- The path as text, for a root that is written as given. -/
def text (rootText : String) : Location → String
  | below names => "/".intercalate (rootText :: names)
  | elsewhere path => path

/-- The names of a path from last to first, with one more name that may be a parent step. -/
def follow (reached : List String) (name : String) : List String :=
  if name == ".." then reached.tail else name :: reached

/-- The path with each parent step taken back. -/
def straightened : Location → Location
  | below names => below (names.foldl follow []).reverse
  | elsewhere path => elsewhere path

/-- How many bytes the path of the root takes up. -/
def rootSize : Nat := 16

/-- How many bytes the path takes up. -/
def byteSize : Location → Nat
  | below names => names.foldl (fun n name => n + 1 + name.utf8ByteSize) rootSize
  | elsewhere path => path.utf8ByteSize

/-- Whether the path could be one of a file: no name holds the character that ends paths. -/
def isAdmissible : Location → Bool
  | below names => names.all fun name => !name.toList.contains '\x00'
  | elsewhere path => !path.toList.contains '\x00'

end Location

/-! ## Files -/

/-- The content of a file. -/
inductive Content where
  | bytes (bs : List UInt8)
  /-- A template tree that the cache has stored. -/
  | stored (tree : Tree)
  deriving Inhabited

/-- Whether the file is not empty. -/
def Content.hasBytes : Content → Bool
  | bytes bs => !bs.isEmpty
  | stored _ => true

/-- What is at a place of the tree. -/
inductive Entry where
  | file (content : Content) (mode : Nat)
  | directory
  deriving Inhabited

/-- Whether the entry is a directory. -/
def Entry.isDirectory : Entry → Bool
  | directory => true
  | file _ _ => false

/-- The files and directories below a root. -/
structure FileTree where
  /-- How the root is written. -/
  rootText : String
  /-- The places below the root that are taken. -/
  entries : List (List String × Entry)
  deriving Inhabited

namespace FileTree

/-- The mode of a file that is created without one: readable by all, writable by the owner. -/
def usualMode : Nat := 0o644

/-- The mode of a directory. -/
def directoryMode : Nat := 0o755

/-- The mode of a file that only its owner can read and write. -/
def ownerMode : Nat := 0o600

/-- Whether a mode lets the owner read the file. -/
def isReadable (mode : Nat) : Bool := mode.testBit 8

/-- Whether a mode lets the owner write the file. -/
def isWritable (mode : Nat) : Bool := mode.testBit 7

/-- A tree without files. -/
def empty (rootText : String) : FileTree := ⟨rootText, []⟩

/-- What is at a place. -/
def at? (t : FileTree) (place : List String) : Option Entry :=
  if place.isEmpty then some .directory else t.entries.lookup place

/-- The tree with an entry at a place. -/
def put (t : FileTree) (place : List String) (e : Entry) : FileTree :=
  { t with entries := (place, e) :: t.entries.filter fun x => x.1 != place }

/-- The tree without what is at a place. -/
def remove (t : FileTree) (place : List String) : FileTree :=
  { t with entries := t.entries.filter fun x => x.1 != place }

/-- The longest name that a file can have, in bytes. -/
def nameLimit : Nat := 255

/-- What the size of a path has to stay below, in bytes. -/
def pathLimit : Nat := 4096

/-- Follows the names from a place that is taken. -/
def resolveFrom (t : FileTree) (place : List String) : List String → Except FileFault (List String)
  | [] => .ok place
  | name :: names =>
    match t.at? place with
    | none => .error .noEntry
    | some (.file _ _) => .error .notADirectory
    | some .directory =>
      if name == ".." then
        if place.isEmpty then .error .noEntry else resolveFrom t place.dropLast names
      else if name.utf8ByteSize > nameLimit then .error .nameTooLong
      else resolveFrom t (place ++ [name]) names

/-- The place to which a path leads; its last name need not be taken. -/
def resolve (t : FileTree) (l : Location) : Except FileFault (List String) :=
  if pathLimit ≤ l.byteSize then .error .nameTooLong
  else
    match l with
    | .below names => t.resolveFrom [] names
    | .elsewhere _ => .error .noEntry

/-- The place and the entry to which a path leads. -/
def find (t : FileTree) (l : Location) : Except FileFault (List String × Entry) :=
  match t.resolve l with
  | .error e => .error e
  | .ok place =>
    match t.at? place with
    | none => .error .noEntry
    | some e => .ok (place, e)

/-- Whether the entry at the end of a path passes a test; a path that leads nowhere does not, and
one with a name that is too long cannot be followed. -/
def test (t : FileTree) (l : Location) (p : Entry → Bool) : Except FileFault Bool :=
  match t.find l with
  | .ok (_, e) => .ok (p e)
  | .error .nameTooLong => .error .nameTooLong
  | .error _ => .ok false

/-- Whether the path leads to a directory. -/
def isDirectory (t : FileTree) (l : Location) : Except FileFault Bool := t.test l Entry.isDirectory

/-- Whether the path leads to a file. -/
def isFile (t : FileTree) (l : Location) : Except FileFault Bool :=
  t.test l fun e => !e.isDirectory

/-- The content of the file at the end of a path. -/
def read (t : FileTree) (l : Location) : Except FileFault Content :=
  match t.find l with
  | .error e => .error e
  | .ok (_, .directory) => .error .isADirectory
  | .ok (_, .file content mode) => if isReadable mode then .ok content else .error .denied

/-- The names in the directory at a place. -/
def namesAt (t : FileTree) (place : List String) : List String :=
  t.entries.filterMap fun e => if e.1.dropLast == place then e.1.getLast? else none

/-- The names in the directory at the end of a path, sorted. -/
def list (t : FileTree) (l : Location) : Except FileFault (List String) :=
  match t.find l with
  | .error e => .error e
  | .ok (_, .file _ _) => .error .notADirectory
  | .ok (place, .directory) => .ok ((t.namesAt place).mergeSort fun s u => decide (s ≤ u))

/-- The mode of the file at the end of a path. -/
def mode (t : FileTree) (l : Location) : Except FileFault Nat :=
  match t.find l with
  | .error e => .error e
  | .ok (_, .directory) => .ok directoryMode
  | .ok (_, .file _ mode) => .ok mode

/-- Writes content to the file at the end of a path, which need not be there. A file that is there
keeps its mode. -/
def write (t : FileTree) (l : Location) (content : Content) : Except FileFault FileTree :=
  match t.resolve l with
  | .error e => .error e
  | .ok place =>
    match t.at? place with
    | some .directory => .error .isADirectory
    | some (.file _ mode) =>
      if isWritable mode then .ok (t.put place (.file content mode)) else .error .denied
    | none => .ok (t.put place (.file content usualMode))

/-- Changes the mode of the file at the end of a path. -/
def setMode (t : FileTree) (l : Location) (mode : Nat) : FileTree :=
  match t.find l with
  | .ok (place, .file content _) => t.put place (.file content mode)
  | _ => t

/-- Makes one directory. -/
def makeDirectory (t : FileTree) (l : Location) : Except FileFault FileTree :=
  match t.resolve l with
  | .error e => .error e
  | .ok place =>
    match t.at? place with
    | some _ => .error .alreadyThere
    | none => .ok (t.put place .directory)

/-- Makes a directory with those above it, the number of which bounds the recursion. A directory
that is there already will do. On failure the path of the directory that cannot be made is told,
and the directories above it stay. -/
def makeDirectories (t : FileTree) (l : Location) : (above : Nat) →
    FileTree × Option (FileFault × Location)
  | 0 => (t, some (.noEntry, l))
  | above + 1 =>
    match t.makeDirectory l with
    | .ok t' => (t', none)
    | .error .noEntry =>
      match makeDirectories t l.parent above with
      | (t', some e) => (t', some e)
      | (t', none) =>
        match t'.makeDirectory l with
        | .ok t'' => (t'', none)
        | .error e =>
          match t'.isDirectory l with
          | .ok true => (t', none)
          | _ => (t', some (e, l))
    | .error e =>
      match t.isDirectory l with
      | .ok true => (t, none)
      | _ => (t, some (e, l))

/-- Moves a file from a directory to the end of a path, in place of a file that is there. A
directory cannot be replaced; if the file comes from below it the fault is that it is not empty. -/
def moveTo (t : FileTree) (source l : Location) (e : Entry) : Except FileFault FileTree :=
  match t.resolve l with
  | .error fault => .error fault
  | .ok place =>
    match t.at? place, t.resolve source with
    | some .directory, .ok inside =>
      .error (if place.isPrefixOf inside then .notEmpty else .isADirectory)
    | some .directory, .error _ => .error .isADirectory
    | _, _ => .ok (t.put place e)

/-- What is to be put into a tree. -/
inductive Delivery where
  | file (bs : List UInt8)
  | directory
  deriving Inhabited

/-- The tree with a delivery at the end of a path below the root, and with the directories above
it; and the fault that has cut this short. -/
def install (t : FileTree) (names : List String) (d : Delivery) : FileTree × Option FileFault :=
  let l : Location := .below names
  match d with
  | .directory =>
    match t.makeDirectories l (names.length + 1) with
    | (t, failure) => (t, failure.map Prod.fst)
  | .file bs =>
    match t.makeDirectories l.parent (names.length + 1) with
    | (t, some (fault, _)) => (t, some fault)
    | (t, none) =>
      match t.write l (.bytes bs) with
      | .ok t => (t, none)
      | .error fault => (t, some fault)

end FileTree

end Mustache
