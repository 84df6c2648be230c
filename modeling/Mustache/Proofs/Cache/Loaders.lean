import Mustache.Proofs.Cache.Stored
import Mustache.Proofs.Cache.Uncached

/-!
# Loaders and the files of caches

Caches write files of their own, and make the directory for them if it is not there yet. Once it is,
all that they leave behind are files with the ending of cache files. So a search for files with
another ending finds the same, whatever the caches have left behind, and loaders that are made of
such searches suit.

## Main definitions

* `Mustache.FileTree.CachesApart` — file trees that differ in cache files only.

## Main results

* `Mustache.CacheDirectory.cachesApart_dump` — storing a tree writes a cache file only.
* `Mustache.FileSearch.find_of_cachesApart` — a search for other files finds the same.
* `Mustache.Loader.suits_files`, `Mustache.Loader.suits_choice` — loaders that suit.
-/

namespace Mustache

/-! ## File trees that differ in cache files -/

/-- A place of which the name has the ending of cache files. -/
def IsCachePlace (place : List String) : Prop :=
  ∃ front name, place = front ++ [name] ∧ cacheSuffix.toList <:+ name.toList

namespace FileTree

/-- **File trees that differ in cache files only**: they have the same directories, and the same
files where no cache file could be. -/
structure CachesApart (t t' : FileTree) : Prop where
  rootText : t'.rootText = t.rootText
  places : ∀ place, t'.at? place = t.at? place ∨
    IsCachePlace place ∧ t.at? place ≠ some .directory ∧ t'.at? place ≠ some .directory

variable {t t' t'' : FileTree}

namespace CachesApart

theorem refl (t : FileTree) : t.CachesApart t := ⟨rfl, fun _ => .inl rfl⟩

theorem trans (h : t.CachesApart t') (h' : t'.CachesApart t'') : t.CachesApart t'' := by
  refine ⟨h'.rootText.trans h.rootText, fun place => ?_⟩
  rcases h.places place with hsame | ⟨hplace, hdir, hdir'⟩
  · rw [← hsame]
    exact h'.places place
  · rcases h'.places place with hsame' | ⟨-, -, hdir''⟩
    · exact .inr ⟨hplace, hdir, hsame' ▸ hdir'⟩
    · exact .inr ⟨hplace, hdir, hdir''⟩

/-- A cache file may be written where there is no directory. -/
theorem put {place : List String} (hplace : IsCachePlace place)
    (hdir : t.at? place ≠ some .directory) (content : Content) (mode : Nat) :
    t.CachesApart (t.put place (.file content mode)) := by
  refine ⟨rfl, fun place' => ?_⟩
  rw [at?_put]
  split
  · next hempty =>
    left
    unfold at?
    rw [if_pos hempty]
  · split
    · next hsame =>
      subst hsame
      exact .inr ⟨hplace, hdir, by simp⟩
    · exact .inl rfl

theorem setMode {l : Location} (hplace : ∀ place, t.resolve l = .ok place → IsCachePlace place)
    (mode : Nat) : t.CachesApart (t.setMode l mode) := by
  unfold FileTree.setMode
  split
  · next hfind =>
    obtain ⟨hresolve, hat⟩ := find_eq_ok_iff.1 hfind
    exact put (hplace _ hresolve) (by simp [hat]) _ _
  · exact refl t

/-- **A path is followed alike**: to the same place, or nowhere. -/
theorem resolveFrom (h : t.CachesApart t') (names : List String) (place : List String) :
    t'.resolveFrom place names = t.resolveFrom place names ∨
      ∃ fault fault', t.resolveFrom place names = .error fault ∧
        t'.resolveFrom place names = .error fault' ∧ fault ≠ .nameTooLong ∧
          fault' ≠ .nameTooLong := by
  -- Where there is no directory, the path leads nowhere.
  have hstop {t : FileTree} {name : String} {names place : List String}
      (hdir : t.at? place ≠ some .directory) :
      ∃ fault, t.resolveFrom place (name :: names) = .error fault ∧ fault ≠ .nameTooLong := by
    rw [FileTree.resolveFrom]
    split
    · exact ⟨_, rfl, by simp⟩
    · exact ⟨_, rfl, by simp⟩
    · next hat => exact absurd hat hdir
  induction names generalizing place with
  | nil => exact .inl rfl
  | cons name names ih =>
    rcases h.places place with hsame | ⟨-, hdir, hdir'⟩
    · rw [FileTree.resolveFrom, FileTree.resolveFrom, hsame]
      split
      · exact .inl rfl
      · exact .inl rfl
      · split
        · split
          · exact .inl rfl
          · exact ih _
        · split
          · exact .inl rfl
          · exact ih _
    · obtain ⟨fault, hrun, hfault⟩ := hstop hdir
      obtain ⟨fault', hrun', hfault'⟩ := hstop hdir'
      exact .inr ⟨fault, fault', hrun, hrun', hfault, hfault'⟩

theorem resolve (h : t.CachesApart t') (l : Location) : t'.resolve l = t.resolve l ∨
    ∃ fault fault', t.resolve l = .error fault ∧ t'.resolve l = .error fault' ∧
      fault ≠ .nameTooLong ∧ fault' ≠ .nameTooLong := by
  unfold FileTree.resolve
  split
  · exact .inl rfl
  · cases l with
    | below names => exact h.resolveFrom names []
    | elsewhere path => exact .inl rfl

/-- **A file that is no cache file is there again**, with the same content. -/
theorem isFile_read (h : t.CachesApart t') {l : Location}
    (hplace : ∀ place, t.resolve l = .ok place → ¬ IsCachePlace place) :
    t'.isFile l = t.isFile l ∧ (t.isFile l = .ok true → t'.read l = t.read l) := by
  rcases h.resolve l with hsame | ⟨fault, fault', hrun, hrun', hfault, hfault'⟩
  · have hfind : t'.find l = t.find l := by
      unfold find
      rw [hsame]
      cases hrun : t.resolve l with
      | error fault => rfl
      | ok place =>
        dsimp only
        rcases h.places place with hat | ⟨hcache, -⟩
        · rw [hat]
        · exact absurd hcache (hplace place hrun)
    unfold isFile test read
    rw [hfind]
    exact ⟨rfl, fun _ => rfl⟩
  · -- A path that leads nowhere, and not because of its length, leads to no file.
    have hnone {t : FileTree} {fault : FileFault} (hrun : t.resolve l = .error fault)
        (hfault : fault ≠ .nameTooLong) : t.isFile l = .ok false := by
      unfold isFile test find
      rw [hrun]
      cases fault <;> first | rfl | exact absurd rfl hfault
    rw [hnone hrun hfault, hnone hrun' hfault']
    exact ⟨rfl, fun h => by simp at h⟩

/-- Directories are the same. -/
theorem isDirectory (h : t.CachesApart t') {l : Location} (hdir : t.isDirectory l = .ok true) :
    t'.isDirectory l = .ok true := by
  obtain ⟨place, hresolve, hat⟩ : ∃ place, t.resolve l = .ok place ∧
      t.at? place = some .directory := by
    unfold FileTree.isDirectory test at hdir
    split at hdir
    · next place e hfind =>
      cases e with
      | file content mode => simp [Entry.isDirectory] at hdir
      | directory => exact ⟨place, find_eq_ok_iff.1 hfind⟩
    · simp at hdir
    · simp at hdir
  have hresolve' : t'.resolve l = .ok place := by
    rcases h.resolve l with hsame | ⟨fault, fault', hrun, -⟩
    · exact hsame.trans hresolve
    · rw [hrun] at hresolve
      simp at hresolve
  have hat' : t'.at? place = some .directory := by
    rcases h.places place with hsame | ⟨-, hdir, -⟩
    · exact hsame.trans hat
    · exact absurd hat hdir
  unfold FileTree.isDirectory test
  rw [find_eq_ok_iff.2 ⟨hresolve', hat'⟩]
  rfl

end CachesApart

end FileTree

/-! ## Storing a tree -/

/-- **Storing a tree writes a cache file only**, if the directory is there. -/
theorem CacheDirectory.cachesApart_dump (d : CacheDirectory) {t : FileTree}
    (hdir : t.isDirectory d.location = .ok true) {p text : String} {tree : Tree}
    (hpath : (d.fileFor (p ++ digest text)).isAdmissible = true) :
    KeepsFiles t.CachesApart (d.dump (p ++ digest text) tree) := by
  have hplace (t' : FileTree) (place : List String)
      (h : t'.resolve (d.fileFor (p ++ digest text)) = .ok place) : IsCachePlace place := by
    obtain ⟨front, name, hfront, hends⟩ := exists_place_eq h
    rw [String.toList_append] at hends
    exact ⟨front, name, hfront, (List.suffix_append _ _).trans hends⟩
  have hensure : KeepsFiles t.CachesApart d.ensure := by
    refine .get fun s hs => ?_
    dsimp only
    rw [hs.isDirectory hdir]
    exact .pure _
  exact keepsFiles_dump d hensure hpath
    (fun t' place mode ht hresolve hat => ht.trans (.put (hplace t' place hresolve) hat _ mode))
    fun t' mode ht => ht.trans (.setMode (hplace t') mode)

/-! ## Searches -/

namespace FileSearch

/-- **A search for files that have another ending than cache files**, without a slash. -/
structure AvoidsCaches (s : FileSearch) : Prop where
  slash : '/' ∉ s.extension.toList
  long : 2 < s.extension.toList.length
  left : ¬ s.extension.toList <:+ cacheSuffix.toList
  right : ¬ cacheSuffix.toList <:+ s.extension.toList

/-- The path of the file for a template ends with the extension. -/
theorem exists_fileName_eq (s : FileSearch) (name : String) :
    ∃ p, s.fileName name = p ++ s.extension := by
  unfold fileName
  split
  · exact ⟨name, rfl⟩
  · next h =>
    rw [Bool.and_eq_true, not_and_or] at h
    by_cases hempty : s.extension = ""
    · exact ⟨name, by rw [hempty, String.append_empty]⟩
    · have hends : name.endsWith s.extension = true := by
        rcases h with h | h
        · exact absurd (by simpa using h) hempty
        · simpa using h
      rw [String.endsWith_eq_endsWith_toSlice, String.Slice.endsWith_string_iff] at hends
      obtain ⟨p, hp⟩ := hends
      exact ⟨String.ofList p, String.toList_inj.1 (by simp [hp])⟩

/-- **A search for other files finds the same**, whatever the caches have left behind. -/
theorem find_of_cachesApart {s : FileSearch} (hs : s.AvoidsCaches) {t t' : FileTree}
    (h : t.CachesApart t') (name : String) : s.find t' name = s.find t name := by
  have hplace (base : Location) (place : List String)
      (hresolve : t.resolve (base.join (s.fileName name)) = .ok place) :
      ¬ IsCachePlace place := by
    obtain ⟨p, hp⟩ := s.exists_fileName_eq name
    rw [hp] at hresolve
    obtain ⟨front, last, rfl, hends⟩ := FileTree.exists_place_of_join hs.slash hs.long hresolve
    rintro ⟨front', last', hsame, hends'⟩
    obtain ⟨-, rfl⟩ := List.append_singleton_inj.1 hsame
    rcases List.suffix_or_suffix_of_suffix hends hends' with hleft | hright
    · exact hs.left hleft
    · exact hs.right hright
  have hgo (paths : List Location) : find.go s t' name paths = find.go s t name paths := by
    induction paths with
    | nil =>
      unfold find.go
      rw [h.rootText]
    | cons base others ih =>
      obtain ⟨hfile, hread⟩ := h.isFile_read (hplace base)
      unfold find.go
      dsimp only
      rw [hfile, ih, h.rootText]
      split
      · rfl
      · cases hrun : t.isFile (base.join (s.fileName name)) with
        | error fault => rfl
        | ok found =>
          cases found with
          | false => rfl
          | true =>
            rw [hread hrun]
  exact hgo s.paths

/-- What is found is a text, and its origin is the path. -/
theorem exists_of_find_eq_ok {s : FileSearch} {t : FileTree} {name : String} {found : Found}
    (h : s.find t name = .ok found) : ∃ text path, found = ⟨.text text, .text path⟩ := by
  unfold find at h
  generalize s.paths = paths at h
  induction paths with
  | nil => simp [find.go] at h
  | cons base others ih =>
    unfold find.go at h
    dsimp only at h
    split at h
    · exact ih h
    · split at h
      · simp at h
      · exact ih h
      · split at h
        · simp at h
        · split at h
          · simp at h
          · exact ⟨_, _, (Except.ok.inj h).symm⟩

end FileSearch

/-! ## Loaders -/

namespace Loader

variable {trees : FileTree → Prop}

/-- The loader for which the name is the source suits. -/
theorem suits_verbatim : Loader.verbatim.Suits trees where
  answers depth name s s' found h := by
    obtain ⟨rfl, -⟩ := pure_eq_ok_iff.1 h
    exact ⟨⟨_, rfl⟩, trivial⟩
  undisturbed search hsearch := absurd hsearch List.not_mem_nil

/-- A table of texts suits. -/
theorem suits_table {entries : Entries}
    (h : ∀ name source, entries.find? name = some source → ∃ x, source = .text x) :
    (Loader.table entries).Suits trees where
  answers depth name s s' found hrun := by
    obtain ⟨hfind, -⟩ := liftFault_eq_ok_iff.1 hrun
    unfold findInTable at hfind
    split at hfind
    · next source hsource =>
      obtain rfl := Except.ok.inj hfind
      exact ⟨h name source hsource, trivial⟩
    · simp at hfind
  undisturbed search hsearch := absurd hsearch List.not_mem_nil

/-- **Files suit**, if the search for them finds the same whatever the caches leave behind. -/
theorem suits_files {search : FileSearch}
    (h : ∀ t t', trees t → trees t' → ∀ name, search.find t' name = search.find t name) :
    (Loader.files search).Suits trees where
  answers depth name s s' found hrun := by
    obtain ⟨s₁, s₂, -, hrest⟩ := bind_eq_ok_iff.1 hrun
    obtain ⟨hfind, -⟩ := liftFault_eq_ok_iff.1 hrest
    obtain ⟨text, path, rfl⟩ := FileSearch.exists_of_find_eq_ok hfind
    exact ⟨⟨text, rfl⟩, trivial⟩
  undisturbed search' hsearch t t' ht ht' name := by
    obtain rfl := List.mem_singleton.1 hsearch
    exact h t t' ht ht' name

/-- **Loaders that are tried in order suit** if each of them does. -/
theorem suits_choice {loaders : List Loader} (h : ∀ l ∈ loaders, l.Suits trees) :
    (Loader.choice loaders).Suits trees where
  answers depth name s s' found hrun := by
    have hfirst (ls : List Loader) (hls : ∀ l ∈ ls, l.Suits trees) (s s' : Session)
        (hrun : findFirst (level depth) name ls s = .ok (some found) s') :
        (∃ x, found.source = .text x) ∧ found.origin.IsName := by
      induction ls generalizing s with
      | nil =>
        obtain ⟨hnone, -⟩ := pure_eq_ok_iff.1 hrun
        simp at hnone
      | cons l ls ih =>
        obtain ⟨answer, s₁, htry, hrest⟩ := bind_eq_ok_iff.1 hrun
        cases answer with
        | none => exact ih (fun l hl => hls l (List.mem_cons_of_mem _ hl)) s₁ hrest
        | some found' =>
          obtain ⟨hsame, -⟩ := pure_eq_ok_iff.1 hrest
          obtain rfl := Option.some.inj hsame
          exact (hls l List.mem_cons_self).answers depth name s s₁ _ (eq_ok_of_attempt htry)
    obtain ⟨answer, s₁, htry, hrest⟩ := bind_eq_ok_iff.1 hrun
    cases answer with
    | none =>
      have hfault : EStateM.Result.error _ s₁ = EStateM.Result.ok found s' := hrest
      simp at hfault
    | some found' =>
      obtain ⟨rfl, -⟩ := pure_eq_ok_iff.1 hrest
      exact hfirst loaders h s s₁ htry
  undisturbed search hsearch t t' ht ht' name := by
    have hmem (ls : List Loader) (hls : ∀ l ∈ ls, l.Suits trees) (hsearch : search ∈ searchesOf ls) :
        search.find t' name = search.find t name := by
      induction ls with
      | nil => exact absurd hsearch List.not_mem_nil
      | cons l ls ih =>
        rcases List.mem_append.1 hsearch with hsearch | hsearch
        · exact (hls l List.mem_cons_self).undisturbed search hsearch t t' ht ht' name
        · exact ih (fun l hl => hls l (List.mem_cons_of_mem _ hl)) hsearch
    exact hmem loaders h hsearch

end Loader

end Mustache
