import Mustache.Files
import Mustache.Log
import Mustache.Value.Operations

/-!
# Persistent caches

A persistent cache keeps the trees of parsed templates under the keys of the templates, in memory
or as the files of a directory. A file is written under a temporary name first and then moved to
its place, so that a reader never sees half of it.

## Main definitions

* `Mustache.CacheDirectory` — a directory of stored trees.
* `Mustache.Cache` — the kinds of cache.

## Implementation notes

The name of a file is a text, so that its bytes in UTF-8 tell it from all others and two keys never
share a file. Names with lone surrogates, for which neither holds, are left out.
-/

namespace Mustache

/-- A directory of stored trees. -/
structure CacheDirectory where
  location : Location
  /-- The mode that files get; it has to be an integer. -/
  mode : Value
  /-- The logger, `none` if something else has been put in its place. -/
  logger : Option Logger
  deriving Inhabited

/-- The kinds of cache. -/
inductive Cache where
  | disabled
  /-- Trees by key, in the order of their first insertion. -/
  | memory (trees : List (String × Tree))
  | directory (d : CacheDirectory)
  /-- A value with callable members for the purpose. -/
  | custom (v : Value)
  deriving Inhabited

/-- The ending of the names of cache files. -/
def cacheSuffix : String := ".mtree"

/-- What the random part of a temporary name is written as. -/
def temporarySuffix : String := ".RANDOM.tmp"

/-- The length of a temporary name beyond that of the name of the file. -/
def temporaryLength : Nat := 13

namespace CacheDirectory

/-- A directory of stored trees; null stands for the usual mode. -/
def make (location : Location) (mode : Value) (logger : Logger) : CacheDirectory :=
  match mode with
  | .null => { location, mode := .int FileTree.usualMode, logger := some logger }
  | mode => { location, mode, logger := some logger }

/-- The path of the file for a key. -/
def fileFor (d : CacheDirectory) (key : String) : Location := d.location.join (key ++ cacheSuffix)

/-- The path under which a file is written first. -/
def temporaryFor (d : CacheDirectory) (path : Location) : Location :=
  match d.location.straightened with
  | .below names => .below (names ++ [path.name ++ temporarySuffix])
  | .elsewhere p => .elsewhere (p ++ "/" ++ path.name ++ temporarySuffix)

/-- The tree under a key; `none` if there is no file or if it is not a stored tree. -/
def load? (d : CacheDirectory) (t : FileTree) (key : String) : Option Tree :=
  match t.read (d.fileFor key) with
  | .ok (.stored tree) => some tree
  | _ => none

/-- What a mode has to stay below, and the negation of which it must not fall below. -/
def modeLimit : Nat := 1 <<< 31

/-- The mode as that of a file: only the last twelve bits count. -/
def fileMode (d : CacheDirectory) : Except Fault Nat :=
  match d.mode.whole? with
  | none => .error .wrongKind
  | some n =>
    if n < -modeLimit ∨ modeLimit ≤ n then .error .overflow else .ok (n % 0o10000).toNat

/-- The places of the files of the cache. -/
def places (d : CacheDirectory) (t : FileTree) : Except FileFault (List (List String)) :=
  match t.find d.location with
  | .error .nameTooLong => .error .nameTooLong
  | .error _ | .ok (_, .file _ _) => .ok []
  | .ok (place, .directory) =>
    .ok (((t.namesAt place).filter fun name => name.endsWith cacheSuffix).map fun name =>
      place ++ [name])

/-- How many files there are, and whether any of them has content. -/
def stats (d : CacheDirectory) (t : FileTree) : Except FileFault (Nat × Bool) :=
  (d.places t).map fun places =>
    (places.length, places.any fun place => match t.at? place with
      | some (.file content _) => content.hasBytes
      | some .directory => true
      | none => false)

/-- The tree without the files of the cache, and their number. A directory among them cannot be
removed. -/
def clear (d : CacheDirectory) (t : FileTree) : FileTree × Except FileFault Nat :=
  match d.places t with
  | .error e => (t, .error e)
  | .ok places => go t 0 places
where
  /-- Removes the files at the given places one by one. -/
  go (t : FileTree) (count : Nat) : List (List String) → FileTree × Except FileFault Nat
    | [] => (t, .ok count)
    | place :: places =>
      match t.at? place with
      | some .directory => (t, .error .isADirectory)
      | _ => go (t.remove place) (count + 1) places

end CacheDirectory

/-- Whether there is no cache. -/
def Cache.isDisabled : Cache → Bool
  | disabled => true
  | _ => false

/-- A list of trees with one more, in the place of an old one under the same key. -/
def storeTree (trees : List (String × Tree)) (key : String) (tree : Tree) : List (String × Tree) :=
  match trees with
  | [] => [(key, tree)]
  | (k, old) :: rest => if k = key then (k, tree) :: rest else (k, old) :: storeTree rest key tree

/-- A short rendition of the cache. -/
def Cache.summary (rootText : String) : Cache → Option String
  | disabled => none
  | memory trees => some ("<MemoryCache " ++ toString trees.length ++ " entries>")
  | directory d => some ("<FileSystemCache " ++ Text.quoted (d.location.text rootText) ++ ">")
  | custom v => some v.quoted

end Mustache
