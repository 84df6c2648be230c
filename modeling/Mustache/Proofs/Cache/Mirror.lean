import Mustache.Proofs.Files.Directory

/-!
# A directory as a table

A cache in memory is a table of trees by key. A cache in a directory keeps the same trees in files,
one for each key. Storing a tree goes through a temporary name and a mode that is set later, and
clearing the cache goes by the endings of names; still every call answers what the table answers,
and leaves behind a directory in which there is exactly one file for each key of the table.

## Main definitions

* `Mustache.CacheDirectory.Admits` — keys that can be names of files.
* `Mustache.CacheDirectory.Works` — a directory on which no call fails.
* `Mustache.CacheDirectory.Holds` — the directory is there, and holds the trees of a table.
* `Mustache.CacheDirectory.Mirrors` — the directory may also be absent, if the table is empty.
* `Mustache.CacheCall` — the calls of a cache, and what they answer.

## Main results

* `Mustache.CacheDirectory.exists_dump_eq` — storing a tree.
* `Mustache.CacheDirectory.exists_clear_eq` — clearing the directory.
* `Mustache.CacheDirectory.mirrors_of_calls` — any calls are answered as by a table.
-/

namespace Mustache

/-! ## Keys -/

/-- **A key that can be the name of a file**: it holds neither the character that separates names
nor the one that ends paths, and neither the file nor the temporary file has a name or a path that
is too long. -/
structure CacheDirectory.Admits (d : CacheDirectory) (key : String) : Prop where
  unseparated : '/' ∉ key.toList
  unended : '\x00' ∉ key.toList
  name : (key ++ cacheSuffix).utf8ByteSize + temporaryLength ≤ FileTree.nameLimit
  path : (d.fileFor key).byteSize < FileTree.pathLimit
  temporary : (d.temporaryFor (d.fileFor key)).byteSize < FileTree.pathLimit

/-- Files for different keys have different names. -/
theorem fileName_inj {key key' : String} : key ++ cacheSuffix = key' ++ cacheSuffix ↔ key = key' :=
  String.append_left_inj cacheSuffix

theorem two_lt_length_fileName (key : String) : 2 < (key ++ cacheSuffix).toList.length := by
  rw [String.toList_append, List.length_append]
  have hsuffix : cacheSuffix.toList.length = 6 := by decide
  omega

/-- The name of a file is never a parent step, or one that says nothing. -/
theorem fileName_ne {key short : String} (h : short.toList.length ≤ 2) :
    key ++ cacheSuffix ≠ short := by
  rintro rfl
  exact absurd (two_lt_length_fileName key) (Nat.not_lt.2 h)

theorem endsWith_fileName (key : String) : (key ++ cacheSuffix).endsWith cacheSuffix = true := by
  rw [String.endsWith_eq_endsWith_toSlice, String.Slice.endsWith_string_iff]
  simp

/-- A key without slashes makes a path of one name. -/
theorem namesIn_fileName {key : String} (h : '/' ∉ key.toList) :
    namesIn (key ++ cacheSuffix) = [key ++ cacheSuffix] := by
  have hslash : '/' ∉ (key ++ cacheSuffix).toList := by
    rw [String.toList_append, List.mem_append]
    rintro (hmem | hmem)
    · exact h hmem
    · exact absurd hmem (by decide)
  rw [namesIn, Text.fieldsOf, Text.fields_of_notMem hslash, List.map_singleton, String.ofList_toList,
    List.filter_singleton]
  have hempty : key ++ cacheSuffix ≠ "" := fileName_ne (by decide)
  have hpoint : key ++ cacheSuffix ≠ "." := fileName_ne (by decide)
  rw [bne_iff_ne.2 hempty, bne_iff_ne.2 hpoint]
  rfl

theorem startsWith_fileName {key : String} (h : '/' ∉ key.toList) :
    (key ++ cacheSuffix).startsWith "/" = false := by
  rw [Bool.eq_false_iff]
  intro hstarts
  rw [String.startsWith_eq_startsWith_toSlice, String.Slice.startsWith_string_iff,
    String.copy_toSlice, String.toList_append] at hstarts
  obtain ⟨rest, hrest⟩ := hstarts
  have hmem : '/' ∈ key.toList ++ cacheSuffix.toList := by simp [← hrest]
  rcases List.mem_append.1 hmem with hmem | hmem
  · exact h hmem
  · exact absurd hmem (by decide)

namespace CacheDirectory

variable {d : CacheDirectory} {key : String}

/-- The file for a key stands in the directory itself. -/
theorem fileFor_eq {names : List String} (h : d.location = .below names)
    (hkey : '/' ∉ key.toList) : d.fileFor key = .below (names ++ [key ++ cacheSuffix]) := by
  rw [fileFor, h, Location.join, startsWith_fileName hkey, namesIn_fileName hkey]
  rfl

theorem Admits.size_fileName (h : d.Admits key) :
    (key ++ cacheSuffix).utf8ByteSize ≤ FileTree.nameLimit :=
  Nat.le_trans (Nat.le_add_right _ _) h.name

/-- The path of the file for a key leads to a place in the directory. -/
theorem Admits.resolve_fileFor (h : d.Admits key) {t : FileTree} {place : List String}
    (hfind : t.find d.location = .ok (place, .directory)) :
    t.resolve (d.fileFor key) = .ok (place ++ [key ++ cacheSuffix]) := by
  obtain ⟨hresolve, hat⟩ := FileTree.find_eq_ok_iff.1 hfind
  obtain ⟨names, hlocation, hnames⟩ := FileTree.exists_below_of_resolve hresolve
  have hsize := h.path
  rw [fileFor_eq hlocation h.unseparated] at hsize ⊢
  rw [FileTree.resolve_below hsize, FileTree.resolveFrom_append, hnames]
  exact t.resolveFrom_singleton hat (fileName_ne (by decide)) h.size_fileName

/-- Where there is no directory there is no file in it. -/
theorem Admits.load?_of_missing (h : d.Admits key) {t : FileTree}
    (hmissing : t.isDirectory d.location = .ok false) : d.load? t key = none := by
  cases hread : t.read (d.fileFor key) with
  | error e => rw [load?, hread]
  | ok content =>
    exfalso
    have hfind : ∃ place content mode, t.find (d.fileFor key) = .ok (place, .file content mode) := by
      unfold FileTree.read at hread
      split at hread
      · simp at hread
      · simp at hread
      · next place content mode hfind => exact ⟨_, _, _, hfind⟩
    obtain ⟨place, content, mode, hfind⟩ := hfind
    obtain ⟨hresolve, -⟩ := FileTree.find_eq_ok_iff.1 hfind
    cases hlocation : d.location with
    | below names =>
      rw [fileFor_eq hlocation h.unseparated] at hresolve
      obtain ⟨above, habove⟩ := FileTree.exists_find_of_resolve_snoc hresolve
      rw [hlocation, FileTree.isDirectory_of_find habove] at hmissing
      simp at hmissing
    | elsewhere path =>
      obtain ⟨names, hpath, -⟩ := FileTree.exists_below_of_resolve hresolve
      rw [fileFor, hlocation, Location.join, startsWith_fileName h.unseparated] at hpath
      simp at hpath

/-! ## Directories that hold a table -/

/-- **A directory on which no call fails**: the logger takes the events of the library, and the mode
of the files is one that lets them be read. -/
structure Works (d : CacheDirectory) (levels : Levels) (mode : Nat) : Prop where
  logger : ∃ logger, d.logger = some logger ∧ logger.Serves levels
  location : d.location.isAdmissible = true
  fileMode : d.fileMode = .ok mode
  readable : FileTree.isReadable mode = true

/-- **The directory is there and holds the trees of a table**: there is exactly one file for each
key, of the given mode, and nothing else. -/
structure Holds (d : CacheDirectory) (mode : Nat) (t : FileTree) (trees : List (String × Tree))
    (place : List String) : Prop where
  found : t.find d.location = .ok (place, .directory)
  listed : (t.namesAt place).Perm ((trees.map Prod.fst).map (· ++ cacheSuffix))
  files : ∀ key tree, trees.lookup key = some tree →
    t.at? (place ++ [key ++ cacheSuffix]) = some (.file (.stored tree) mode)
  distinct : (trees.map Prod.fst).Nodup

/-- The directory can be made, with nothing in it. -/
structure CanBeMade (d : CacheDirectory) (t : FileTree) : Prop where
  missing : t.isDirectory d.location = .ok false
  made : ∃ names t' place, d.location = .below names ∧
    t.makeDirectories d.location (names.length + 1) = (t', none) ∧
    t'.find d.location = .ok (place, .directory) ∧ t'.namesAt place = []

/-- **The directory is a table**: it holds the trees, or it is absent and the table is empty. -/
inductive Mirrors (d : CacheDirectory) (mode : Nat) (t : FileTree) :
    List (String × Tree) → Prop
  | absent (h : d.CanBeMade t) : Mirrors d mode t []
  | there {trees : List (String × Tree)} {place : List String} (h : d.Holds mode t trees place) :
    Mirrors d mode t trees

/-- A directory can be made below the root where nothing stands in the way. -/
theorem canBeMade_of_isClear {t : FileTree} {names : List String} (hlocation : d.location = .below names)
    (hclear : t.IsClear names) (hmissing : t.isDirectory d.location = .ok false)
    (hempty : t.namesAt names = []) : d.CanBeMade t where
  missing := hmissing
  made := by
    obtain ⟨t', hmake, hmade⟩ := FileTree.exists_makeDirectories_eq hclear
    refine ⟨names, t', names, hlocation, by rw [hlocation]; exact hmake, ?_, ?_⟩
    · rw [hlocation]
      exact FileTree.find_eq_ok_iff.2
        ⟨(FileTree.resolve_below hclear.size).trans hmade.found, hmade.directory⟩
    · refine (hmade.listed names fun hfront => ?_).trans hempty
      -- Only the root is on the way to the directory above, and the root is there.
      rcases List.eq_nil_or_concat names with rfl | ⟨front, last, rfl⟩
      · rw [hlocation] at hmissing
        exact absurd hmissing (by simp [FileTree.isDirectory, FileTree.test, FileTree.find,
          FileTree.resolve, FileTree.resolveFrom, FileTree.at?, Entry.isDirectory,
          Location.byteSize, Location.rootSize, FileTree.pathLimit])
      · have hlength : (front.concat last).length ≤ (front.concat last).length - 1 :=
          hfront.length_le.trans_eq List.length_dropLast
        rw [List.length_concat] at hlength
        omega

namespace Holds

variable {mode : Nat} {t : FileTree} {trees : List (String × Tree)} {place : List String}
  (h : d.Holds mode t trees place)

include h

/-- A file is there for the keys of the table only. -/
theorem isSome_lookup_of_at? {e : Entry} (hat : t.at? (place ++ [key ++ cacheSuffix]) = some e) :
    (trees.lookup key).isSome = true := by
  have hmem := h.listed.mem_iff.1 (FileTree.mem_namesAt_of_at? hat)
  obtain ⟨key', hkey', hname⟩ := List.mem_map.1 hmem
  obtain rfl := fileName_inj.1 hname
  obtain ⟨entry, hentry, rfl⟩ := List.mem_map.1 hkey'
  rw [List.lookup_isSome_iff]
  exact ⟨entry, hentry, by simp⟩

/-- What stands in the directory under the name of a file is no directory. -/
theorem at?_fileName_ne_directory (key : String) :
    t.at? (place ++ [key ++ cacheSuffix]) ≠ some .directory := by
  intro hat
  obtain ⟨tree, htree⟩ := Option.isSome_iff_exists.1 (h.isSome_lookup_of_at? hat)
  rw [h.files key tree htree] at hat
  simp at hat

/-- **The directory answers what the table holds.** -/
theorem load?_eq (hkey : d.Admits key) (hmode : FileTree.isReadable mode = true) :
    d.load? t key = trees.lookup key := by
  have hresolve := hkey.resolve_fileFor h.found
  cases hlookup : trees.lookup key with
  | some tree =>
    have hfind : t.find (d.fileFor key) =
        .ok (place ++ [key ++ cacheSuffix], .file (.stored tree) mode) :=
      FileTree.find_eq_ok_iff.2 ⟨hresolve, h.files key tree hlookup⟩
    rw [load?, FileTree.read, hfind]
    dsimp only
    rw [if_pos hmode]
  | none =>
    have hat : t.at? (place ++ [key ++ cacheSuffix]) = none := by
      cases hat : t.at? (place ++ [key ++ cacheSuffix]) with
      | none => rfl
      | some e =>
        have hsome := h.isSome_lookup_of_at? hat
        rw [hlookup] at hsome
        simp at hsome
    rw [load?, FileTree.read, FileTree.find, hresolve]
    dsimp only
    rw [hat]

/-- All files of the directory are files of the cache. -/
theorem places_eq : d.places t =
    .ok ((t.namesAt place).map fun name => place ++ [name]) := by
  have hall : (t.namesAt place).filter (fun name => name.endsWith cacheSuffix) =
      t.namesAt place := by
    refine List.filter_eq_self.2 fun name hname => ?_
    obtain ⟨key, -, rfl⟩ := List.mem_map.1 (h.listed.mem_iff.1 hname)
    exact endsWith_fileName key
  rw [places, h.found]
  dsimp only
  rw [hall]

theorem length_namesAt : (t.namesAt place).length = trees.length := by
  rw [h.listed.length_eq, List.length_map, List.length_map]

end Holds

/-! ## Storing a tree -/

/-- The keys of a table in which a tree has been stored. -/
theorem perm_keys_storeTree {trees : List (String × Tree)} (h : (trees.map Prod.fst).Nodup)
    (key : String) (tree : Tree) : ((storeTree trees key tree).map Prod.fst).Perm
      (key :: (trees.map Prod.fst).filter (· != key)) := by
  induction trees with
  | nil => exact .refl _
  | cons entry rest ih =>
    obtain ⟨k, old⟩ := entry
    rw [List.map_cons, List.nodup_cons] at h
    rw [storeTree]
    by_cases hk : k = key
    · subst hk
      have hrest : (rest.map Prod.fst).filter (· != k) = rest.map Prod.fst :=
        List.filter_eq_self.2 fun k' hk' => by
          rw [bne_iff_ne]
          rintro rfl
          exact h.1 hk'
      rw [if_pos rfl, List.map_cons, List.map_cons, List.filter_cons_of_neg (by simp), hrest]
    · rw [if_neg hk, List.map_cons, List.map_cons, List.filter_cons_of_pos (by simpa using hk)]
      exact ((ih h.2).cons k).trans (.swap _ _ _)

/-- Putting a file into the directory leaves the directory where it is. -/
theorem Holds.find_put {mode : Nat} {t : FileTree} {trees : List (String × Tree)}
    {place : List String} (h : d.Holds mode t trees place) (key : String) (e : Entry) :
    (t.put (place ++ [key ++ cacheSuffix]) e).find d.location = .ok (place, .directory) := by
  refine FileTree.find_of_directories (fun place' hat => ?_) h.found
  rw [FileTree.at?_put]
  split
  · rfl
  · split
    · next hplace => exact absurd (hplace ▸ hat) (h.at?_fileName_ne_directory key)
    · exact hat

/-- A file that is put into the directory under the name for a key stands for the tree. -/
theorem Holds.put {mode : Nat} {t : FileTree} {trees : List (String × Tree)} {place : List String}
    (h : d.Holds mode t trees place) (key : String) (tree : Tree) :
    d.Holds mode (t.put (place ++ [key ++ cacheSuffix]) (.file (.stored tree) mode))
      (storeTree trees key tree) place where
  found := h.find_put key _
  listed := by
    have hkeys := (perm_keys_storeTree h.distinct key tree).map (· ++ cacheSuffix)
    have hothers := h.listed.filter (· != key ++ cacheSuffix)
    have hname : ((· != key ++ cacheSuffix) ∘ (· ++ cacheSuffix)) = (· != key) := by
      funext key'
      rw [Function.comp_apply, Bool.eq_iff_iff, bne_iff_ne, bne_iff_ne, ne_eq, fileName_inj]
    rw [List.filter_map, hname] at hothers
    rw [FileTree.namesAt_put]
    exact (hothers.cons (key ++ cacheSuffix)).trans hkeys.symm
  files key' tree' hlookup := by
    rw [lookup_storeTree] at hlookup
    rw [FileTree.at?_put, if_neg (by simp)]
    split at hlookup
    · next hkey => rw [if_pos (by rw [hkey]), Option.some.inj hlookup]
    · next hkey =>
      have hne : place ++ [key' ++ cacheSuffix] ≠ place ++ [key ++ cacheSuffix] := fun heq =>
        hkey (fileName_inj.1 (List.append_singleton_inj.1 heq).2)
      rw [if_neg hne]
      exact h.files key' tree' hlookup
  distinct := by
    rw [(perm_keys_storeTree h.distinct key tree).nodup_iff, List.nodup_cons]
    exact ⟨by simp, h.distinct.filter _⟩

/-! ## Calls to the file system -/

section

variable {levels : Levels} {mode : Nat} (hd : d.Works levels mode) {s : Session}
  (hlevels : s.levels = levels) {trees : List (String × Tree)}

include hd

theorem Works.isAdmissible_fileFor (hkey : d.Admits key) {names : List String}
    (hlocation : d.location = .below names) : (d.fileFor key).isAdmissible = true := by
  have hname : '\x00' ∉ (key ++ cacheSuffix).toList := by
    rw [String.toList_append, List.mem_append]
    rintro (hmem | hmem)
    · exact hkey.unended hmem
    · exact absurd hmem (by decide)
  have hnames := hd.location
  rw [hlocation] at hnames
  rw [fileFor, hlocation]
  exact Location.isAdmissible_join (by simpa [Location.isAdmissible] using hnames) hname

include hlevels

theorem Works.exists_log_eq (level : Level) {message : String} {fields : Fields}
    (hevent : IsEvent message fields) :
    ∃ records, d.log level message fields s = .ok () { s with records } := by
  obtain ⟨logger, hlogger, hserves⟩ := hd.logger
  rw [log, hlogger]
  exact exists_logEvent_eq (hlevels ▸ hserves) level hevent

/-- **The directory is there, or it is made.** -/
theorem exists_ensure_eq (h : d.Mirrors mode s.files trees) : ∃ files records place,
    d.ensure s = .ok () { s with files, records } ∧ d.Holds mode files trees place := by
  unfold ensure
  rw [get_bind]
  dsimp only
  cases h with
  | there h =>
    rw [FileTree.isDirectory_of_find h.found]
    exact ⟨s.files, s.records, _, rfl, h⟩
  | absent h =>
    obtain ⟨names, t', place, hlocation, hmake, hfound, hempty⟩ := h.made
    obtain ⟨records, hlog⟩ := hd.exists_log_eq hlevels .info
      (.makingDirectory (d.location.text s.files.rootText))
    have hcheck : checkPath d.location { s with records } = .ok () { s with records } := by
      rw [checkPath, if_pos hd.location]
      rfl
    rw [h.missing]
    dsimp only
    rw [bind_of_ok hlog, bind_of_ok hcheck]
    rw [hlocation] at hmake ⊢
    dsimp only
    rw [hmake]
    exact ⟨t', records, place, rfl, hlocation ▸ hfound, hempty ▸ .refl _, by simp, .nil⟩

omit hlevels in
/-- The file is moved to its place, and given its mode. -/
theorem exists_place_eq_put {place : List String} (h : d.Holds mode s.files trees place)
    (hkey : d.Admits key) (temporary : Location) (tree : Tree) : ∃ files,
    d.place (d.fileFor key) temporary tree s = .ok () { s with files } ∧
      d.Holds mode files (storeTree trees key tree) place := by
  let t' := s.files.put (place ++ [key ++ cacheSuffix]) (.file (.stored tree) FileTree.ownerMode)
  have hresolve := hkey.resolve_fileFor h.found
  have hmove : s.files.moveTo d.location (d.fileFor key)
      (.file (.stored tree) FileTree.ownerMode) = .ok t' := by
    rw [FileTree.moveTo, hresolve]
    dsimp only
    split
    · next hat _ => exact absurd hat (h.at?_fileName_ne_directory key)
    · next hat _ => exact absurd hat (h.at?_fileName_ne_directory key)
    · rfl
  have hfind : t'.find (d.fileFor key) =
      .ok (place ++ [key ++ cacheSuffix], .file (.stored tree) FileTree.ownerMode) := by
    refine FileTree.find_eq_ok_iff.2 ⟨hkey.resolve_fileFor (h.find_put key _), ?_⟩
    rw [FileTree.at?_put, if_neg (by simp), if_pos rfl]
  have hmode : t'.setMode (d.fileFor key) mode =
      s.files.put (place ++ [key ++ cacheSuffix]) (.file (.stored tree) mode) := by
    rw [FileTree.setMode, hfind]
    exact FileTree.put_put _ _ _ _
  refine ⟨t'.setMode (d.fileFor key) mode, ?_, hmode ▸ h.put key tree⟩
  unfold CacheDirectory.place
  rw [get_bind]
  dsimp only
  rw [hmove]
  dsimp only
  rw [hd.fileMode]
  rfl

/-- **Storing a tree** in the directory stores it in the table. -/
theorem exists_dump_eq (h : d.Mirrors mode s.files trees) (hkey : d.Admits key) (tree : Tree) :
    ∃ files records, d.dump key tree s = .ok () { s with files, records } ∧
      d.Mirrors mode files (storeTree trees key tree) := by
  obtain ⟨files, records, place, hensure, hholds⟩ := exists_ensure_eq hd hlevels h
  obtain ⟨names, hlocation, -⟩ := FileTree.exists_below_of_resolve
    (FileTree.find_eq_ok_iff.1 hholds.found).1
  obtain ⟨records', hlog⟩ := hd.exists_log_eq (s := { s with files, records }) hlevels .debug
    (.writing key ((d.fileFor key).text files.rootText))
  have hadmissible := hd.isAdmissible_fileFor hkey hlocation
  have hended : ¬ (d.fileFor key).name.toList.contains '\x00' = true := by
    rw [Location.contains_name_eq_false hadmissible]
    simp
  have hname : (d.fileFor key).name = key ++ cacheSuffix := by
    rw [fileFor_eq hlocation hkey.unseparated]
    simp [Location.name]
  have hlong : ¬ ((decide ((d.fileFor key).name.utf8ByteSize + temporaryLength >
      FileTree.nameLimit) || decide ((d.temporaryFor (d.fileFor key)).byteSize ≥
      FileTree.pathLimit)) = true) := by
    have hfits := hkey.name
    have htemporary := hkey.temporary
    rw [hname, Bool.or_eq_true, decide_eq_true_iff, decide_eq_true_iff]
    omega
  obtain ⟨files', hplace, hholds'⟩ := exists_place_eq_put hd
    (s := { s with files, records := records' }) hholds hkey
    (d.temporaryFor (d.fileFor key)) tree
  refine ⟨files', records', ?_, .there hholds'⟩
  unfold dump
  dsimp only
  rw [bind_of_ok hensure, get_bind, bind_of_ok hlog,
    if_neg hended]
  dsimp only
  rw [if_neg hlong]
  unfold refuse
  rw [if_pos hadmissible]
  exact hplace

end

/-- The files of the directory are removed one by one, and nothing else. -/
theorem exists_go_eq (t : FileTree) (count : Nat) {place names : List String}
    (h : ∀ name ∈ names, t.at? (place ++ [name]) ≠ some .directory) :
    ∃ t', clear.go t count (names.map fun name => place ++ [name]) =
        (t', .ok (count + names.length)) ∧
      t'.namesAt place = (t.namesAt place).filter (fun name => !names.contains name) ∧
      ∀ place', t.at? place' = some .directory → t'.at? place' = some .directory := by
  induction names generalizing t count with
  | nil => exact ⟨t, rfl, by simp, fun _ hat => hat⟩
  | cons name names ih =>
    have hname := h name List.mem_cons_self
    have hothers : ∀ other ∈ names,
        (t.remove (place ++ [name])).at? (place ++ [other]) ≠ some .directory := by
      intro other hother
      rw [FileTree.at?_remove _ (by simp)]
      split
      · simp
      · exact h other (List.mem_cons_of_mem _ hother)
    obtain ⟨t', hgo, hlisted, hkept⟩ := ih (t.remove (place ++ [name])) (count + 1) hothers
    refine ⟨t', ?_, ?_, fun place' hat => hkept place' ?_⟩
    · rw [List.map_cons, clear.go]
      split
      · next hat => exact absurd hat hname
      · rw [hgo, List.length_cons, Nat.add_assoc, Nat.add_comm 1]
    · rw [hlisted, FileTree.namesAt_remove, List.filter_filter]
      refine List.filter_congr fun other _ => ?_
      rw [List.contains_cons, Bool.not_or, Bool.and_comm]
      rfl
    · by_cases hnil : place' = []
      · rw [hnil]
        rfl
      · have hne : place' ≠ place ++ [name] := fun heq => hname (heq ▸ hat)
        rw [FileTree.at?_remove _ hnil, if_neg hne]
        exact hat

variable {mode : Nat} {t : FileTree} {trees : List (String × Tree)}

/-- The directory is below the root. -/
theorem Mirrors.exists_location_eq (h : d.Mirrors mode t trees) :
    ∃ names, d.location = .below names := by
  cases h with
  | absent h =>
    obtain ⟨names, t', place, hlocation, -⟩ := h.made
    exact ⟨names, hlocation⟩
  | there h =>
    obtain ⟨names, hlocation, -⟩ := FileTree.exists_below_of_resolve
      (FileTree.find_eq_ok_iff.1 h.found).1
    exact ⟨names, hlocation⟩

/-- **Looking a key up** in the directory finds what the table holds. -/
theorem Mirrors.load?_eq (h : d.Mirrors mode t trees) (hkey : d.Admits key)
    (hreadable : FileTree.isReadable mode = true) : d.load? t key = trees.lookup key := by
  cases h with
  | absent h => exact hkey.load?_of_missing h.missing
  | there h => exact h.load?_eq hkey hreadable

/-- Where there is no directory there are no files to be cleared or counted. -/
theorem places_of_missing (h : t.isDirectory d.location = .ok false) : d.places t = .ok [] := by
  unfold FileTree.isDirectory FileTree.test at h
  unfold places
  split at h
  · next place e hfind =>
    cases e with
    | directory => simp [Entry.isDirectory] at h
    | file content mode => rw [hfind]
  · simp at h
  · next e hne hfind =>
    rw [hfind]
    cases e with
    | nameTooLong => exact absurd rfl hne
    | _ => rfl

/-- **Clearing** the directory clears the table; both answer how many trees there were. -/
theorem exists_clear_eq (h : d.Mirrors mode t trees) :
    ∃ t', d.clear t = (t', .ok trees.length) ∧ d.Mirrors mode t' [] := by
  cases h with
  | absent h =>
    refine ⟨t, ?_, .absent h⟩
    rw [clear, places_of_missing h.missing]
    rfl
  | @there _ place h =>
    have hfiles : ∀ name ∈ t.namesAt place, t.at? (place ++ [name]) ≠ some .directory := by
      intro name hname
      obtain ⟨key, -, rfl⟩ := List.mem_map.1 (h.listed.mem_iff.1 hname)
      exact h.at?_fileName_ne_directory key
    obtain ⟨t', hgo, hlisted, hkept⟩ := exists_go_eq t 0 hfiles
    refine ⟨t', ?_, .there ⟨FileTree.find_of_directories hkept h.found, ?_, by simp, .nil⟩⟩
    · rw [clear, h.places_eq]
      dsimp only
      rw [hgo, Nat.zero_add, h.length_namesAt]
    · rw [hlisted, List.filter_eq_nil_iff.2 fun name hname => by simpa using hname]
      exact .refl _

/-- **Counting** the files counts the entries of the table. -/
theorem exists_stats_eq (h : d.Mirrors mode t trees) :
    ∃ hasBytes, d.stats t = .ok (trees.length, hasBytes) := by
  cases h with
  | absent h =>
    rw [stats, places_of_missing h.missing]
    exact ⟨_, rfl⟩
  | there h =>
    rw [stats, h.places_eq, Except.map, List.length_map, h.length_namesAt]
    exact ⟨_, rfl⟩

end CacheDirectory

/-! ## Calls -/

/-- **A call of a cache.** -/
inductive CacheCall where
  | load (key : String)
  | dump (key : String) (tree : Tree)
  | clear
  | stats

/-- What a call answers. -/
inductive CacheAnswer where
  /-- A tree, or null if there is none. -/
  | loaded (v : Value)
  | dumped
  /-- How many trees there were. -/
  | cleared (count : Value)
  /-- How many trees there are. -/
  | counted (count : Value)

namespace CacheCall

/-- A call, with the cache as it is then. -/
def act (below : Below) (c : Cache) : CacheCall → Action (Cache × CacheAnswer)
  | load key => do pure (c, .loaded (← c.load below key))
  | dump key tree => do pure (← c.dump below key tree, .dumped)
  | clear => do
    let (c', count) ← c.clear below
    pure (c', .cleared count)
  | stats => do
    let (count, _) ← c.stats below
    pure (c, .counted count)

/-- One call after the other, with all answers. -/
def run (below : Below) (c : Cache) : List CacheCall → Action (Cache × List CacheAnswer)
  | [] => pure (c, [])
  | call :: calls => do
    let (c', answer) ← call.act below c
    let (c'', answers) ← run below c' calls
    pure (c'', answer :: answers)

/-- The keys of a call can be names of files. -/
def Admitted (d : CacheDirectory) : CacheCall → Prop
  | load key | dump key _ => d.Admits key
  | clear | stats => True

end CacheCall

namespace CacheDirectory

variable {d : CacheDirectory} {levels : Levels} {mode : Nat}

/-- **A call of the directory is answered as by the table.** -/
theorem mirrors_of_call (hd : d.Works levels mode) {trees : List (String × Tree)} {s : Session}
    (hlevels : s.levels = levels) (h : d.Mirrors mode s.files trees) (call : CacheCall)
    (hcall : call.Admitted d) (below : Below) : ∃ files records trees' answer,
      call.act below (.directory d) s = .ok (.directory d, answer) { s with files, records } ∧
      (∀ s', call.act below (.memory trees) s' = .ok (.memory trees', answer) s') ∧
      d.Mirrors mode files trees' := by
  cases call with
  | load key =>
    obtain ⟨names, hlocation⟩ := h.exists_location_eq
    refine ⟨s.files, s.records, trees, .loaded ((trees.lookup key).elim .null .tree), ?_,
      fun s' => rfl, h⟩
    have hcheck : checkPath (d.fileFor key) s = .ok () s := by
      rw [checkPath, if_pos (hd.isAdmissible_fileFor hcall hlocation)]
      rfl
    have hcache : (Cache.directory d).load below key s =
        .ok ((trees.lookup key).elim .null .tree) s := by
      unfold Cache.load
      dsimp only
      rw [bind_of_ok hcheck, get_bind,
        h.load?_eq hcall hd.readable]
      rfl
    exact bind_of_ok hcache
  | dump key tree =>
    obtain ⟨files, records, hdump, hmirrors⟩ := exists_dump_eq hd hlevels h hcall tree
    refine ⟨files, records, _, .dumped, ?_, fun s' => rfl, hmirrors⟩
    have hcache : (Cache.directory d).dump below key tree s =
        .ok (.directory d) { s with files, records } := bind_of_ok hdump
    exact bind_of_ok hcache
  | clear =>
    obtain ⟨t', hclear, hmirrors⟩ := exists_clear_eq h
    refine ⟨t', s.records, [], .cleared (.int trees.length), ?_, fun s' => rfl, hmirrors⟩
    have hcache : (Cache.directory d).clear below s =
        .ok (.directory d, .int trees.length) { s with files := t' } := by
      unfold Cache.clear
      dsimp only
      rw [get_bind, hclear]
      rfl
    exact bind_of_ok hcache
  | stats =>
    obtain ⟨hasBytes, hstats⟩ := exists_stats_eq h
    refine ⟨s.files, s.records, trees, .counted (.int trees.length), ?_, fun s' => rfl, h⟩
    have hcache : (Cache.directory d).stats below s =
        .ok (.int trees.length, hasBytes) s := by
      unfold Cache.stats
      dsimp only
      rw [get_bind, hstats]
      rfl
    exact bind_of_ok hcache

/-- **A directory is a table**, whatever is done with both: they give the same answers, and
afterwards the directory holds exactly one file for each key of the table, of the given mode, and no
temporary file. -/
theorem mirrors_of_calls (hd : d.Works levels mode) {trees : List (String × Tree)} {s : Session}
    (hlevels : s.levels = levels) (h : d.Mirrors mode s.files trees) (calls : List CacheCall)
    (hcalls : ∀ call ∈ calls, call.Admitted d) (below : Below) : ∃ files records trees' answers,
      CacheCall.run below (.directory d) calls s =
        .ok (.directory d, answers) { s with files, records } ∧
      (∀ s', CacheCall.run below (.memory trees) calls s' = .ok (.memory trees', answers) s') ∧
      d.Mirrors mode files trees' := by
  induction calls generalizing s trees with
  | nil => exact ⟨s.files, s.records, trees, [], rfl, fun _ => rfl, h⟩
  | cons call calls ih =>
    obtain ⟨files, records, trees', answer, hrun, hmemory, hmirrors⟩ :=
      mirrors_of_call hd hlevels h call (hcalls call List.mem_cons_self) below
    obtain ⟨files', records', trees'', answers, hruns, hmemories, hmirrors'⟩ :=
      ih (s := { s with files, records }) hlevels hmirrors
        fun other hother => hcalls other (List.mem_cons_of_mem _ hother)
    refine ⟨files', records', trees'', answer :: answers, ?_, fun s' => ?_, hmirrors'⟩
    · rw [CacheCall.run, bind_of_ok hrun]
      dsimp only
      rw [bind_of_ok hruns]
      rfl
    · rw [CacheCall.run, bind_of_ok (hmemory s')]
      dsimp only
      rw [bind_of_ok (hmemories s')]
      rfl

/-- A directory below the root, with a logger. -/
def fresh (logger : Logger) : CacheDirectory := .make (.below ["c"]) .null logger

/-- It can be made where nothing has been written. -/
theorem canBeMade_fresh (logger : Logger) : (fresh logger).CanBeMade (default : Session).files := by
  have hclear : (default : Session).files.IsClear ["c"] := by
    refine ⟨by decide, by decide, fun place hplace => ?_⟩
    rcases List.prefix_cons_iff.1 hplace with rfl | ⟨rest, rfl, hrest⟩
    · exact .inr rfl
    · rw [List.prefix_nil.1 hrest]
      exact .inl rfl
  exact canBeMade_of_isClear rfl hclear rfl rfl

/-- Short keys can be names of its files. -/
theorem admits_fresh (logger : Logger) {key : String} (hunseparated : '/' ∉ key.toList)
    (hunended : '\x00' ∉ key.toList) (hname : (key ++ cacheSuffix).utf8ByteSize ≤ 20) :
    (fresh logger).Admits key := by
  have hfile := fileFor_eq (d := fresh logger) rfl hunseparated
  refine ⟨hunseparated, hunended, Nat.le_trans (Nat.add_le_add_right hname _) (by decide), ?_, ?_⟩
  · rw [hfile, FileTree.byteSize_snoc]
    refine Nat.lt_of_le_of_lt (Nat.add_le_add_left hname _) (by decide)
  · have htemporary : (fresh logger).temporaryFor ((fresh logger).fileFor key) =
        .below (["c"] ++ [key ++ cacheSuffix ++ temporarySuffix]) := by
      rw [hfile]
      rfl
    rw [htemporary, FileTree.byteSize_snoc, String.utf8ByteSize_append]
    have hsuffix : temporarySuffix.utf8ByteSize = 11 := by decide
    have hfront : (Location.below ["c"]).byteSize = 18 := by decide
    rw [hsuffix, hfront, FileTree.pathLimit]
    omega

/-- Two keys, one of which is empty and the other one looks like a name of a file, in a directory
that is not there yet. -/
theorem mirrors_of_calls_suffixes : ∃ (d : CacheDirectory) (s : Session), d.CanBeMade s.files ∧
    ∀ tree tree' : Tree, ∃ files records,
      CacheCall.run ground (.directory d)
          [.dump "" tree, .dump "a.mtree" tree, .dump "" tree', .load "", .load ".mtree", .stats] s =
        .ok (.directory d, [.dumped, .dumped, .dumped, .loaded (.tree tree'), .loaded .null,
          .counted (.int 2)]) { s with files, records } ∧
      d.Mirrors FileTree.usualMode files [("", tree'), ("a.mtree", tree)] := by
  let s : Session := default
  have hd : (fresh .own).Works s.levels FileTree.usualMode :=
    ⟨⟨.own, rfl, Logger.serves_of_adapters_eq_nil rfl _⟩, by decide, rfl, by decide⟩
  refine ⟨fresh .own, s, canBeMade_fresh .own, fun tree tree' => ?_⟩
  obtain ⟨files, records, trees, answers, hrun, hmemory, hmirrors⟩ :=
    mirrors_of_calls hd rfl (.absent (canBeMade_fresh .own)) [.dump "" tree, .dump "a.mtree" tree,
      .dump "" tree', .load "", .load ".mtree", .stats] (by
        simp only [List.forall_mem_cons, CacheCall.Admitted]
        have hempty : (fresh .own).Admits "" :=
          admits_fresh .own (by decide) (by decide) (by decide)
        exact ⟨hempty, admits_fresh .own (by decide) (by decide) (by decide), hempty, hempty,
          admits_fresh .own (by decide) (by decide) (by decide), trivial, by simp⟩) ground
  obtain ⟨hanswer, -⟩ := EStateM.Result.ok.inj ((hmemory s).symm.trans rfl)
  obtain ⟨hmemory', rfl⟩ := Prod.mk.inj hanswer
  obtain rfl := Cache.memory.inj hmemory'
  exact ⟨files, records, hrun, hmirrors⟩

/-- If the logger refuses the event of making the directory, a tree is not stored there, but it is
in a table. -/
theorem exists_dump_refused : ∃ (d : CacheDirectory) (s : Session), d = fresh .refusing ∧
    s = { (default : Session) with levels := [("moustache", .debug)] } ∧ d.CanBeMade s.files ∧
      d.Admits "a" ∧ (∃ e s', CacheCall.run ground (.directory d) [.dump "a" ⟨[], []⟩] s =
        .error e s') ∧
        ∀ s', CacheCall.run ground (.memory []) [.dump "a" ⟨[], []⟩] s' =
          .ok (.memory [("a", ⟨[], []⟩)], [.dumped]) s' :=
  ⟨_, _, rfl, rfl, canBeMade_fresh .refusing,
    admits_fresh .refusing (by decide) (by decide) (by decide),
    exists_eq_error_of_isOk (by decide +kernel), fun _ => rfl⟩

end CacheDirectory

end Mustache
