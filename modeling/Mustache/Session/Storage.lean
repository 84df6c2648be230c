import Mustache.Session.Call
import Mustache.Value.Order

/-!
# Storing trees

The operations of persistent caches: looking up a tree, storing one, and clearing the cache. A
tree is written to a temporary file, which then takes the place of the file for the key; if this
fails the temporary file is removed again.

## Main definitions

* `Mustache.Cache.load` — the tree under a key.
* `Mustache.Cache.dump` — stores a tree.
* `Mustache.Cache.clear`, `Mustache.Cache.stats` — the cache as a whole.
-/

namespace Mustache

/-- Refuses what cannot be the path of a file. -/
def checkPath (l : Location) : Action Unit :=
  if l.isAdmissible then pure () else throw .wrongValue

namespace CacheDirectory

/-- Reports an event to the logger of the cache. -/
def log (d : CacheDirectory) (level : Level) (message : String) (fields : Fields) : Action Unit :=
  match d.logger with
  | some logger => logEvent logger level message fields
  | none => throw .noAttribute

/-- Makes sure that the directory is there. -/
def ensure (d : CacheDirectory) : Action Unit := do
  let t := (← get).files
  let path := d.location.text t.rootText
  match t.isDirectory d.location with
  | .error e => throw (.file e)
  | .ok true => pure ()
  | .ok false =>
    d.log .info "Creating template cache directory: \"%(directory)s\""
      [("directory", .text path)]
    checkPath d.location
    let depth := match d.location with
      | .below names => names.length + 1
      | .elsewhere _ => 1
    let (t', failure) := t.makeDirectories d.location depth
    modify fun s => { s with files := t' }
    match failure with
    | none => pure ()
    | some (fault, l) =>
      throw (.template (.unwrittenCache (.directory path ⟨fault, l.text t.rootText, none⟩)))

/-- Moves the temporary file, which holds the tree, to its place, and gives it its mode. -/
def place (d : CacheDirectory) (path temporary : Location) (tree : Tree) : Action Unit := do
  let t := (← get).files
  match t.moveTo d.location path (.file (.stored tree) FileTree.ownerMode) with
  | .ok t' =>
    modify fun s => { s with files := t' }
    let mode ← liftFault d.fileMode
    modify fun s => { s with files := s.files.setMode path mode }
  | .error fault =>
    let source := temporary.text t.rootText
    let target := path.text t.rootText
    d.log .error
      "Unable to rename temp cache file: \"%(temp_name)s\" -> \"%(filename)s\""
      [("temp_name", .text source), ("filename", .text target)]
    throw (.template (.unwrittenCache (.file target ⟨fault, source, some target⟩)))

/-- Refuses a path that cannot be one of a file. If its name alone could be one, the temporary file
has been written, and stays. -/
def refuse (path temporary : Location) (tree : Tree) : Action Unit := do
  if path.isAdmissible then pure ()
  else
    let t := (← get).files
    match t.write temporary (.stored tree) with
    | .ok t' => modify fun s => { s with files := t'.setMode temporary FileTree.ownerMode }
    | .error _ => pure ()
    throw .wrongValue

/-- Stores a tree under a key. -/
def dump (d : CacheDirectory) (key : String) (tree : Tree) : Action Unit := do
  let path := d.fileFor key
  d.ensure
  let rootText := (← get).files.rootText
  d.log .debug "Writing \"%(class_name)s\" to template cache: \"%(filename)s\""
    [("class_name", .text key), ("filename", .text (path.text rootText))]
  if path.name.toList.contains '\x00' then throw .wrongValue
  let temporary := d.temporaryFor path
  if path.name.utf8ByteSize + temporaryLength > FileTree.nameLimit ||
      temporary.byteSize ≥ FileTree.pathLimit then
    throw (.template (.unwrittenCache (.file (path.text rootText)
      ⟨.nameTooLong, temporary.text rootText, none⟩)))
  refuse path temporary tree
  d.place path temporary tree

end CacheDirectory

namespace Cache

/-- The tree under a key, null if there is none; a cache made by the user may answer anything. -/
def load (below : Below) (c : Cache) (key : String) : Action Value := do
  match c with
  | disabled => pure .null
  | memory trees => pure ((trees.lookup key).elim .null .tree)
  | directory d =>
    checkPath (d.fileFor key)
    pure ((d.load? (← get).files key).elim .null .tree)
  | custom v => v.callMember below "load" [.text key]

/-- Stores a tree under a key, and answers the cache as it is then. -/
def dump (below : Below) (c : Cache) (key : String) (tree : Tree) : Action Cache := do
  match c with
  | disabled => pure disabled
  | memory trees => pure (memory (storeTree trees key tree))
  | directory d =>
    d.dump key tree
    pure c
  | custom v =>
    let _ ← v.callMember below "dump" [.text key, .tree tree]
    pure c

/-- Clears the cache; answers it as it is then, and how many trees it held. A cache made by the
user may answer anything for the number. -/
def clear (below : Below) (c : Cache) : Action (Cache × Value) := do
  match c with
  | disabled => throw .noAttribute
  | memory trees => pure (memory [], .int trees.length)
  | directory d =>
    let (t, result) := d.clear (← get).files
    modify fun s => { s with files := t }
    match result with
    | .ok count => pure (c, .int count)
    | .error e => throw (.file e)
  | custom v => do pure (c, ← v.callMember below "clear" [])

/-- How many trees the cache holds, and whether they take up space in files. A cache made by the
user answers a table with the number of trees and the space. -/
def stats (below : Below) (c : Cache) : Action (Value × Bool) := do
  match c with
  | disabled => throw .noAttribute
  | memory trees => pure (.int trees.length, false)
  | directory d =>
    match d.stats (← get).files with
    | .ok (count, hasBytes) => pure (.int count, hasBytes)
    | .error e => throw (.file e)
  | custom v =>
    let answer ← v.callMember below "stats" []
    let count ← liftFault (answer.item (.text "file_count"))
    let space ← liftFault (answer.item (.text "total_bytes"))
    match Value.lessNumber? (.int 0) space with
    | some hasBytes => pure (count, hasBytes)
    | none => throw .wrongKind

/-- The mode of the files of a cache, null if it has none. -/
def fileMode (below : Below) (c : Cache) : Action Value := do
  match c with
  | directory d => pure d.mode
  | custom v => do pure ((← v.member? below "file_mode").getD .null)
  | _ => pure .null

/-- The cache with another logger, if it reports events itself. -/
def withLogger (c : Cache) (logger : Option Logger) : Cache :=
  match c with
  | directory d => directory { d with logger }
  | c => c

end Cache

end Mustache
