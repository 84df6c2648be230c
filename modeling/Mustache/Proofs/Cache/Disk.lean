import Mustache.Proofs.Cache.Directory
import Mustache.Proofs.Files.Grown

/-!
# Disks that refuse

A disk may be full, broken or protected, and refuse any step that a write to a directory of stored
trees takes: to make a directory, to create the temporary file, to write it, to rename it, to remove
it, or to change the mode of the result. Here the write is taken apart into these steps. A disk that
refuses nothing leaves only the failures that can be told from the file tree, and on it the write is
the one of the directory.

## Main definitions

* `Mustache.Disk` — what a disk refuses, and how it names temporary files.
* `Mustache.CacheDirectory.ensureOn`, `Mustache.CacheDirectory.placeOn` — making sure that the
  directory is there, and renaming the temporary file.
* `Mustache.CacheDirectory.dumpOn` — storing a tree on a disk.

## Main results

* `Mustache.CacheDirectory.dumpOn_sound` — on a disk that refuses nothing a tree is stored as ever.
-/

namespace Mustache

/-! ## Steps on the disk -/

namespace FileTree

/-- Creates an empty file that only its owner can use, at the end of a path that leads to a free
place. -/
def create (t : FileTree) (l : Location) : Except FileFault (List String × FileTree) :=
  match t.resolve l with
  | .error e => .error e
  | .ok place =>
    match t.at? place with
    | some _ => .error .alreadyThere
    | none => .ok (place, t.put place (.file (.bytes []) ownerMode))

/-- Moves what is at a place, in a directory, to the end of a path. -/
def rename (t : FileTree) (place : List String) (source l : Location) : Except FileFault FileTree :=
  match t.at? place with
  | none => .error .noEntry
  | some e => (t.remove place).moveTo source l e

end FileTree

/-- A step that can be refused. -/
inductive DiskStep where
  | makeDirectory (l : Location)
  | create (l : Location)
  | write (place : List String) (tree : Tree)
  | rename (place : List String) (l : Location)
  | remove (place : List String)
  | setMode (l : Location) (mode : Nat)

/-- Why a step fails: the file tree does not allow it, or the disk refuses it. -/
inductive DiskFault where
  | tree (fault : FileFault)
  /-- The reason in the words of the disk. -/
  | refused (reason : String)

namespace DiskFault

/-- The report on a directory that cannot be made, since the one at another path cannot be. -/
def inDirectory (path other : String) : DiskFault → UnwrittenCache
  | tree fault => .directory path ⟨fault, other, none⟩
  | refused reason =>
    .stated ("Failed to create cache directory '" ++ path ++ "': " ++ reason) (some path)

/-- The report on a file that cannot be written. -/
def inFile (path source : String) (target : Option String) : DiskFault → UnwrittenCache
  | tree fault => .file path ⟨fault, source, target⟩
  | refused reason =>
    .stated ("Failed to write cache file '" ++ path ++ "': " ++ reason) (some path)

end DiskFault

/-- **A disk**: what it refuses in a file tree, and what it chooses by itself. -/
structure Disk where
  /-- The random part of the name of the next temporary file. -/
  random : FileTree → String
  /-- Why a step is refused, `none` if it is not. -/
  refusal : DiskStep → FileTree → Option String
  /-- The bytes that are in a file when writing it is refused. -/
  begun : FileTree → List UInt8

namespace Disk

/-- A disk that refuses nothing. -/
def sound : Disk where
  random _ := "RANDOM"
  refusal _ _ := none
  begun _ := []

/-- A disk that lets a file be removed. -/
def Removes (disk : Disk) : Prop := ∀ place t, disk.refusal (.remove place) t = none

section

variable (disk : Disk) (t : FileTree)

/-- A step that the file tree may not allow. -/
def attempt {α : Type} (step : DiskStep) (act : Except FileFault α) : Except DiskFault α :=
  match disk.refusal step t with
  | some reason => .error (.refused reason)
  | none => act.mapError .tree

/-- Makes one directory. -/
def makeDirectory (l : Location) : Except DiskFault FileTree :=
  disk.attempt t (.makeDirectory l) (t.makeDirectory l)

/-- Creates the temporary file. -/
def create (l : Location) : Except DiskFault (List String × FileTree) :=
  disk.attempt t (.create l) (t.create l)

/-- Writes a tree to the temporary file. If this is refused, a part of it may have been written. -/
def write (place : List String) (tree : Tree) : FileTree × Option DiskFault :=
  match disk.refusal (.write place tree) t with
  | some reason =>
    (t.put place (.file (.bytes (disk.begun t)) FileTree.ownerMode), some (.refused reason))
  | none => (t.put place (.file (.stored tree) FileTree.ownerMode), none)

/-- Renames the temporary file. -/
def rename (place : List String) (source l : Location) : Except DiskFault FileTree :=
  disk.attempt t (.rename place l) (t.rename place source l)

/-- Removes a file, if this is not refused. -/
def remove (place : List String) : FileTree :=
  match disk.refusal (.remove place) t with
  | some _ => t
  | none => t.remove place

/-- Changes the mode of a file, if this is not refused. -/
def setMode (l : Location) (mode : Nat) : FileTree :=
  match disk.refusal (.setMode l mode) t with
  | some _ => t
  | none => t.setMode l mode

end

/-- Makes a directory with those above it, the number of which bounds the recursion. A directory
that is there already will do, whatever is said against making it. -/
def makeDirectories (disk : Disk) (t : FileTree) (l : Location) : (above : Nat) →
    FileTree × Option (DiskFault × Location)
  | 0 => (t, some (.tree .noEntry, l))
  | above + 1 =>
    match disk.makeDirectory t l with
    | .ok t' => (t', none)
    | .error (.tree .noEntry) =>
      match makeDirectories disk t l.parent above with
      | (t', some e) => (t', some e)
      | (t', none) =>
        match disk.makeDirectory t' l with
        | .ok t'' => (t'', none)
        | .error e =>
          match t'.isDirectory l with
          | .ok true => (t', none)
          | _ => (t', some (e, l))
    | .error e =>
      match t.isDirectory l with
      | .ok true => (t, none)
      | _ => (t, some (e, l))

/-- Removes the temporary file, and reports why nothing is stored. -/
def giveUp (disk : Disk) (place : List String) (e : UnwrittenCache) : Action Unit := do
  modify fun s => { s with files := disk.remove s.files place }
  throw (.template (.unwrittenCache e))

end Disk

/-! ## Storing a tree -/

namespace CacheDirectory

/-- The path of a temporary file with the given random part in its name. -/
def temporaryNamed (d : CacheDirectory) (path : Location) (random : String) : Location :=
  let ending := "." ++ random ++ ".tmp"
  match d.location.straightened with
  | .below names => .below (names ++ [path.name ++ ending])
  | .elsewhere p => .elsewhere (p ++ "/" ++ path.name ++ ending)

/-- Makes sure that the directory is there. -/
def ensureOn (disk : Disk) (d : CacheDirectory) : Action Unit := do
  let t := (← get).files
  let path := d.location.text t.rootText
  match t.isDirectory d.location with
  | .error e => throw (.file e)
  | .ok true => pure ()
  | .ok false =>
    d.log .info "Creating template cache directory: \"%(directory)s\""
      [("directory", .text path)]
    checkPath d.location
    let depth := match d.location with
      | .below names => names.length + 1
      | .elsewhere _ => 1
    let (t', failure) := disk.makeDirectories t d.location depth
    modify fun s => { s with files := t' }
    match failure with
    | none => pure ()
    | some (fault, l) =>
      throw (.template (.unwrittenCache (fault.inDirectory path (l.text t.rootText))))

/-- Moves the temporary file, which holds the tree, to its place, and gives it its mode. -/
def placeOn (disk : Disk) (d : CacheDirectory) (path temporary : Location) (place : List String) :
    Action Unit := do
  let t := (← get).files
  match disk.rename t place d.location path with
  | .ok t' =>
    modify fun s => { s with files := t' }
    let mode ← liftFault d.fileMode
    modify fun s => { s with files := disk.setMode s.files path mode }
  | .error fault =>
    let source := temporary.text t.rootText
    let target := path.text t.rootText
    d.log .error
      "Unable to rename temp cache file: \"%(temp_name)s\" -> \"%(filename)s\""
      [("temp_name", .text source), ("filename", .text target)]
    disk.giveUp place (fault.inFile target source (some target))

/-- Writes the tree to the temporary file, and moves this to its place. A path that cannot be one of
a file is noticed only then. -/
def fillOn (disk : Disk) (d : CacheDirectory) (path temporary : Location) (place : List String)
    (tree : Tree) : Action Unit := do
  let t := (← get).files
  let (t', failure) := disk.write t place tree
  modify fun s => { s with files := t' }
  match failure with
  | some fault =>
    disk.giveUp place
      (fault.inFile (path.text t.rootText) (temporary.text t.rootText) none)
  | none =>
    checkPath path
    d.placeOn disk path temporary place

/-- Stores a tree under a key. -/
def dumpOn (disk : Disk) (d : CacheDirectory) (key : String) (tree : Tree) : Action Unit := do
  let path := d.fileFor key
  d.ensureOn disk
  let t := (← get).files
  let target := path.text t.rootText
  d.log .debug "Writing \"%(class_name)s\" to template cache: \"%(filename)s\""
    [("class_name", .text key), ("filename", .text target)]
  if path.name.toList.contains '\x00' then throw .wrongValue
  let temporary := d.temporaryNamed path (disk.random t)
  if path.name.utf8ByteSize + temporaryLength > FileTree.nameLimit ||
      temporary.byteSize ≥ FileTree.pathLimit then
    throw (.template (.unwrittenCache (.file target
      ⟨.nameTooLong, temporary.text t.rootText, none⟩)))
  match disk.create t temporary with
  | .error fault =>
    throw (.template (.unwrittenCache (fault.inFile target (temporary.text t.rootText) none)))
  | .ok (place, t') =>
    modify fun s => { s with files := t' }
    d.fillOn disk path temporary place tree

/-! ## A disk that refuses nothing -/

theorem makeDirectories_sound (t : FileTree) (l : Location) (above : Nat) :
    Disk.sound.makeDirectories t l above =
      ((t.makeDirectories l above).1,
        (t.makeDirectories l above).2.map fun failure => (.tree failure.1, failure.2)) := by
  have hone (t : FileTree) (l : Location) :
      Disk.sound.makeDirectory t l = (t.makeDirectory l).mapError .tree := rfl
  induction above generalizing l with
  | zero => rfl
  | succ above ih =>
    rw [Disk.makeDirectories, FileTree.makeDirectories, hone, ih]
    -- Whatever the fault, it remains to see whether the directory is there.
    have hthere (t : FileTree) (e : FileFault) :
        (match t.isDirectory l with
          | .ok true => (t, none)
          | _ => (t, some (DiskFault.tree e, l))) =
          ((match t.isDirectory l with
              | .ok true => (t, none)
              | _ => (t, some (e, l))).1,
            (match t.isDirectory l with
              | .ok true => (t, none)
              | _ => (t, some (e, l))).2.map fun failure : FileFault × Location =>
                (DiskFault.tree failure.1, failure.2)) := by
      rcases t.isDirectory l with e | _ | _ <;> rfl
    cases t.makeDirectory l with
    | ok t' => rfl
    | error e =>
      cases e with
      | noEntry =>
        dsimp only [Except.mapError]
        cases t.makeDirectories l.parent above with
        | mk t' failure =>
          cases failure with
          | some failure => rfl
          | none =>
            dsimp only [Option.map]
            rw [hone]
            cases t'.makeDirectory l with
            | ok t'' => rfl
            | error e => exact hthere t' e
      | _ => exact hthere t _

variable {d : CacheDirectory} {s : Session}

theorem ensureOn_sound (d : CacheDirectory) : d.ensureOn .sound = d.ensure := by
  unfold ensureOn ensure
  simp only [makeDirectories_sound]
  refine congrArg (get >>= ·) (funext fun s => ?_)
  rcases s.files.isDirectory d.location with e | _ | _
  · rfl
  · refine congrArg (_ >>= ·) (funext fun _ => congrArg (_ >>= ·) (funext fun _ =>
      congrArg (_ >>= ·) (funext fun _ => ?_)))
    generalize (s.files.makeDirectories d.location _).2 = failure
    cases failure <;> rfl
  · rfl

theorem temporaryNamed_sound (d : CacheDirectory) (path : Location) (t : FileTree) :
    d.temporaryNamed path (Disk.sound.random t) = d.temporaryFor path := by
  have hname : "." ++ "RANDOM" ++ ".tmp" = temporarySuffix := by decide
  show d.temporaryNamed path "RANDOM" = _
  rw [temporaryNamed, hname]
  rfl

section

variable {d : CacheDirectory} {path temporary : Location} {tree : Tree} {place : List String}
  {s : Session} {logger : Logger}

/-- An event that the logger of the cache takes leaves all but the records as it is, whatever the
files. -/
theorem exists_log_eq (hlogger : d.logger = some logger) (hserves : logger.Serves s.levels)
    (level : Level) {message : String} {fields : Fields} (hevent : IsEvent message fields) :
    ∃ records, ∀ files, d.log level message fields { s with files } =
      .ok () { s with files, records } := by
  obtain ⟨record, hrecord⟩ := hserves level message fields hevent
  refine ⟨record.toList ++ s.records, fun files => ?_⟩
  unfold log
  rw [hlogger]
  exact logEvent_eq_of_ok (s := { s with files }) hrecord

variable (hfree : s.files.at? place = none)

include hfree

/-- The temporary file is renamed as the tree is put in its place. -/
theorem rename_sound (source : Location) (e : Entry) :
    Disk.sound.rename (s.files.put place e) place source path =
      (s.files.moveTo source path e).mapError .tree := by
  show (FileTree.rename _ _ _ _).mapError DiskFault.tree = _
  rw [FileTree.rename, FileTree.at?_put_self hfree, FileTree.remove_put_of_free hfree]

/-- A temporary file that is renamed leaves the tree in its place; one that is not is removed, and
nothing is left of it. -/
theorem placeOn_sound (hlogger : d.logger = some logger) (hserves : logger.Serves s.levels) :
    d.placeOn .sound path temporary place
        { s with files := s.files.put place (.file (.stored tree) FileTree.ownerMode) } =
      d.place path temporary tree s := by
  unfold placeOn CacheDirectory.place
  rw [get_bind, get_bind]
  dsimp only
  rw [rename_sound hfree]
  cases s.files.moveTo d.location path (.file (.stored tree) FileTree.ownerMode) with
  | ok t' => rfl
  | error fault =>
    obtain ⟨records, hlog⟩ := exists_log_eq hlogger hserves .error
      (.unmoved (temporary.text s.files.rootText) (path.text s.files.rootText))
    have hremove : Disk.sound.remove
        (s.files.put place (.file (.stored tree) FileTree.ownerMode)) place = s.files :=
      FileTree.remove_put_of_free hfree _
    dsimp only [Except.mapError]
    rw [FileTree.rootText_put, bind_of_ok (hlog _), bind_of_ok (hlog s.files), Disk.giveUp,
      modify_bind]
    dsimp only
    rw [hremove]
    rfl

/-- A tree is written to the temporary file, which then takes its place, or stays if there can be no
such place. -/
theorem fillOn_sound (hresolve : s.files.resolve temporary = .ok place)
    (hlogger : d.logger = some logger) (hserves : logger.Serves s.levels) :
    d.fillOn .sound path temporary place tree
        { s with files := s.files.put place (.file (.bytes []) FileTree.ownerMode) } =
      (refuse path temporary tree >>= fun _ => d.place path temporary tree) s := by
  have hwrite : s.files.write temporary (.stored tree) =
      .ok (s.files.put place (.file (.stored tree) FileTree.usualMode)) := by
    unfold FileTree.write
    rw [hresolve]
    dsimp only
    rw [hfree]
  have hfill : (s.files.put place (.file (.bytes []) FileTree.ownerMode)).put place
      (.file (.stored tree) FileTree.ownerMode) =
        s.files.put place (.file (.stored tree) FileTree.ownerMode) := FileTree.put_put _ _ _ _
  unfold fillOn refuse
  rw [get_bind]
  dsimp only [Disk.write, Disk.sound]
  rw [modify_bind, hfill]
  dsimp only
  unfold checkPath
  by_cases hpath : path.isAdmissible = true
  · rw [if_pos hpath, if_pos hpath]
    exact placeOn_sound hfree hlogger hserves
  · rw [if_neg hpath, if_neg hpath, bind_assoc, get_bind, hwrite, bind_assoc, modify_bind,
      FileTree.setMode_put_of_free hfree hresolve]
    rfl

end

/-- **On a disk that refuses nothing a tree is stored as ever**, if the name of the temporary file
leads to a free place in the directory and the logger takes the events of the library. -/
theorem dumpOn_sound {d : CacheDirectory} {logger : Logger} (hlogger : d.logger = some logger)
    (hserves : ∀ levels, logger.Serves levels) {key : String} {s : Session}
    (hnamed : ∀ s', d.ensure s = .ok () s' → ∃ place,
      s'.files.resolve (d.temporaryFor (d.fileFor key)) = .ok place ∧ s'.files.at? place = none)
    (tree : Tree) : d.dumpOn .sound key tree s = d.dump key tree s := by
  unfold dumpOn dump
  rw [ensureOn_sound]
  cases hensure : d.ensure s with
  | error e s' => rw [bind_of_error hensure, bind_of_error hensure]
  | ok _ s' =>
    obtain ⟨place, hresolve, hfree⟩ := hnamed s' hensure
    obtain ⟨records, hlog⟩ := exists_log_eq hlogger (hserves s'.levels) .debug
      (.writing key ((d.fileFor key).text s'.files.rootText))
    rw [bind_of_ok hensure, bind_of_ok hensure, get_bind, get_bind, bind_of_ok (hlog s'.files),
      bind_of_ok (hlog s'.files), temporaryNamed_sound]
    dsimp only
    split
    · rfl
    · split
      · rfl
      · have hcreate : Disk.sound.create s'.files (d.temporaryFor (d.fileFor key)) =
            .ok (place, s'.files.put place (.file (.bytes []) FileTree.ownerMode)) := by
          show (FileTree.create _ _).mapError DiskFault.tree = _
          rw [FileTree.create, hresolve]
          dsimp only
          rw [hfree]
          rfl
        rw [hcreate]
        exact fillOn_sound (s := { s' with records }) hfree hresolve hlogger (hserves _)

end CacheDirectory

end Mustache
