import Mustache.Proofs.Cache.Stored

/-!
# Directories

What a directory lists is what stands one name below its place. Putting a file into it adds the
name, or leaves the names as they are if the file is there already, and removing a file takes its
name away. Paths that lead somewhere still do so as long as the directories stay.

## Main definitions

* `Mustache.FileTree.IsClear` — a path on which nothing stands in the way of directories.

## Main results

* `Mustache.FileTree.namesAt_put`, `Mustache.FileTree.namesAt_remove` — the names in a directory.
* `Mustache.FileTree.resolveFrom_of_directories` — paths through directories that stay.
* `Mustache.FileTree.exists_makeDirectories_eq` — directories are made where nothing stands in the
  way.
-/

namespace Mustache

namespace FileTree

/-! ## Entries -/

theorem at?_of_ne_nil (t : FileTree) {place : List String} (h : place ≠ []) :
    t.at? place = t.entries.lookup place := by
  rw [at?, if_neg (by simpa using h)]

theorem at?_snoc (t : FileTree) (place : List String) (name : String) :
    t.at? (place ++ [name]) = t.entries.lookup (place ++ [name]) :=
  t.at?_of_ne_nil (by simp)

/-- What stands in a directory can be put there only once. -/
theorem put_put (t : FileTree) (place : List String) (e e' : Entry) :
    (t.put place e).put place e' = t.put place e' := by
  simp [put, List.filter_filter]

@[simp] theorem rootText_put (t : FileTree) (place : List String) (e : Entry) :
    (t.put place e).rootText = t.rootText := rfl

/-- What is at a place after something has been removed there or elsewhere. -/
theorem at?_remove (t : FileTree) {place place' : List String} (h : place' ≠ []) :
    (t.remove place).at? place' = if place' = place then none else t.at? place' := by
  rw [at?_of_ne_nil _ h, at?_of_ne_nil _ h]
  unfold remove
  dsimp only
  induction t.entries with
  | nil => simp
  | cons entry entries ih =>
    by_cases hentry : entry.1 = place
    · rw [List.filter_cons_of_neg (by simpa using hentry), ih, List.lookup_cons]
      by_cases hplace : place' = place
      · rw [if_pos hplace, if_pos hplace]
      · rw [if_neg hplace, if_neg hplace,
          show (place' == entry.1) = false by simpa [hentry] using hplace]
    · rw [List.filter_cons_of_pos (by simpa using hentry), List.lookup_cons, List.lookup_cons, ih]
      by_cases hplace : place' = entry.1
      · have hne : place' ≠ place := fun h => hentry (hplace.symm.trans h)
        rw [if_neg hne, if_neg hne, beq_iff_eq.2 hplace]
      · rw [show (place' == entry.1) = false by simpa using hplace]

/-! ## Names -/

/-- What stands in a directory is listed. -/
theorem mem_namesAt_of_at? {t : FileTree} {place : List String} {name : String} {e : Entry}
    (h : t.at? (place ++ [name]) = some e) : name ∈ t.namesAt place := by
  rw [at?_snoc] at h
  obtain ⟨before, after, hentries, -⟩ := List.lookup_eq_some_iff.1 h
  refine List.mem_filterMap.2 ⟨(place ++ [name], e), by simp [hentries], by simp⟩

/-- The name under which an entry is listed in a directory. -/
theorem listed_iff {place : List String} {entry : List String × Entry} {name : String} :
    (if entry.1.dropLast == place then entry.1.getLast? else none) = some name ↔
      entry.1 = place ++ [name] := by
  constructor
  · intro h
    split at h
    · next hplace =>
      rw [beq_iff_eq] at hplace
      rw [← hplace]
      exact (List.dropLast_append_getLast? name h).symm
    · simp at h
  · intro h
    simp [h]

/-- A directory after a file has been removed from it. -/
theorem namesAt_remove (t : FileTree) (place : List String) (name : String) :
    (t.remove (place ++ [name])).namesAt place = (t.namesAt place).filter (· != name) := by
  unfold namesAt remove
  dsimp only
  induction t.entries with
  | nil => rfl
  | cons entry entries ih =>
    rw [List.filterMap_cons]
    by_cases hentry : entry.1 = place ++ [name]
    · rw [List.filter_cons_of_neg (by simpa using hentry), ih, listed_iff.2 hentry]
      simp
    · rw [List.filter_cons_of_pos (by simpa using hentry), List.filterMap_cons, ih]
      split
      · rfl
      · next other hname =>
        have hne : other ≠ name := fun h => hentry (h ▸ listed_iff.1 hname)
        rw [List.filter_cons_of_pos (by simpa using hne)]

/-- A directory after a file has been put into it. -/
theorem namesAt_put (t : FileTree) (place : List String) (name : String) (e : Entry) :
    (t.put (place ++ [name]) e).namesAt place =
      name :: (t.namesAt place).filter (· != name) := by
  rw [← namesAt_remove]
  unfold namesAt put
  rw [List.filterMap_cons, listed_iff.2 rfl]
  rfl

/-! ## Paths -/

theorem resolveFrom_append (t : FileTree) (place names more : List String) :
    t.resolveFrom place (names ++ more) =
      (t.resolveFrom place names).bind fun reached => t.resolveFrom reached more := by
  induction names generalizing place with
  | nil => rfl
  | cons name names ih =>
    rw [List.cons_append, resolveFrom, resolveFrom]
    split
    · rfl
    · rfl
    · split
      · split
        · rfl
        · exact ih _
      · split
        · rfl
        · exact ih _

/-- A path is followed to the place of its front first. -/
theorem exists_of_resolveFrom_append {t : FileTree} {place names more reached : List String}
    (h : t.resolveFrom place (names ++ more) = .ok reached) :
    ∃ front, t.resolveFrom place names = .ok front ∧ t.resolveFrom front more = .ok reached := by
  rw [resolveFrom_append] at h
  cases hfront : t.resolveFrom place names with
  | error e =>
    rw [hfront] at h
    simp [Except.bind] at h
  | ok front =>
    rw [hfront] at h
    exact ⟨front, rfl, h⟩

/-- The place to which a name leads from a directory. -/
def stepFrom (place : List String) (name : String) : Except FileFault (List String) :=
  if name == ".." then if place.isEmpty then .error .noEntry else .ok place.dropLast
  else if name.utf8ByteSize > nameLimit then .error .nameTooLong
  else .ok (place ++ [name])

/-- A name leads a step back, or a step on. -/
theorem stepFrom_cases {place next : List String} {name : String}
    (h : stepFrom place name = .ok next) :
    name = ".." ∧ place ≠ [] ∧ next = place.dropLast ∨ name ≠ ".." ∧ next = place ++ [name] := by
  unfold stepFrom at h
  split at h
  · next hparent =>
    split at h
    · simp at h
    · next hempty =>
      exact .inl ⟨by simpa using hparent, by simpa using hempty, (Except.ok.inj h).symm⟩
  · next hparent =>
    split at h
    · simp at h
    · exact .inr ⟨by simpa using hparent, (Except.ok.inj h).symm⟩

/-- **A path leads somewhere** if its first name does, from a directory, and the others do from
there. -/
theorem resolveFrom_cons_eq_ok_iff {t : FileTree} {place reached names : List String}
    {name : String} :
    t.resolveFrom place (name :: names) = .ok reached ↔
      t.at? place = some .directory ∧
        ∃ next, stepFrom place name = .ok next ∧ t.resolveFrom next names = .ok reached := by
  rw [resolveFrom]
  unfold stepFrom
  rcases hat : t.at? place with _ | ⟨_, _⟩ | _
  · simp
  · simp
  · dsimp only
    split
    · split <;> simp
    · split <;> simp

/-- A path that leads somewhere goes through directories, and leads there as long as they stay. -/
theorem resolveFrom_of_directories {t t' : FileTree}
    (h : ∀ place, t.at? place = some .directory → t'.at? place = some .directory)
    {place reached names : List String} (hresolve : t.resolveFrom place names = .ok reached) :
    t'.resolveFrom place names = .ok reached := by
  induction names generalizing place with
  | nil => exact hresolve
  | cons name names ih =>
    obtain ⟨hat, next, hnext, hrest⟩ := resolveFrom_cons_eq_ok_iff.1 hresolve
    exact resolveFrom_cons_eq_ok_iff.2 ⟨h place hat, next, hnext, ih hrest⟩

/-- Paths lead where they did as long as the directories stay. -/
theorem resolve_of_directories {t t' : FileTree}
    (h : ∀ place, t.at? place = some .directory → t'.at? place = some .directory)
    {l : Location} {place : List String} (hresolve : t.resolve l = .ok place) :
    t'.resolve l = .ok place := by
  obtain ⟨hsize, names, rfl, hnames⟩ := resolve_eq_ok_iff.1 hresolve
  exact resolve_eq_ok_iff.2 ⟨hsize, names, rfl, resolveFrom_of_directories h hnames⟩

theorem find_of_directories {t t' : FileTree}
    (h : ∀ place, t.at? place = some .directory → t'.at? place = some .directory)
    {l : Location} {place : List String} (hfind : t.find l = .ok (place, .directory)) :
    t'.find l = .ok (place, .directory) := by
  obtain ⟨hresolve, hat⟩ := find_eq_ok_iff.1 hfind
  exact find_eq_ok_iff.2 ⟨resolve_of_directories h hresolve, h place hat⟩

/-- A step into a directory. -/
theorem resolveFrom_singleton (t : FileTree) {place : List String} {name : String}
    (hat : t.at? place = some .directory) (hparent : name ≠ "..")
    (hlong : name.utf8ByteSize ≤ nameLimit) :
    t.resolveFrom place [name] = .ok (place ++ [name]) := by
  rw [resolveFrom, hat]
  dsimp only
  rw [if_neg (by simpa using hparent), if_neg (Nat.not_lt.2 hlong), resolveFrom]

theorem resolve_below {t : FileTree} {names : List String}
    (h : (Location.below names).byteSize < pathLimit) :
    t.resolve (.below names) = t.resolveFrom [] names := by
  rw [resolve, if_neg (Nat.not_le.2 h)]

/-- A path that leads to a directory passes the test for one. -/
theorem isDirectory_of_find {t : FileTree} {l : Location} {place : List String}
    (h : t.find l = .ok (place, .directory)) : t.isDirectory l = .ok true := by
  rw [isDirectory, test, h]
  rfl

theorem resolveFrom_of_resolve {t : FileTree} {names place : List String}
    (h : t.resolve (.below names) = .ok place) : t.resolveFrom [] names = .ok place := by
  obtain ⟨_, hbelow, hnames⟩ := exists_below_of_resolve h
  obtain rfl := Location.below.inj hbelow
  exact hnames

theorem byteSize_snoc (names : List String) (name : String) :
    (Location.below (names ++ [name])).byteSize =
      (Location.below names).byteSize + 1 + name.utf8ByteSize := by
  simp [Location.byteSize]

/-- What a path leads into is a directory. -/
theorem exists_find_of_resolve_snoc {t : FileTree} {names place : List String} {name : String}
    (h : t.resolve (.below (names ++ [name])) = .ok place) :
    ∃ above, t.find (.below names) = .ok (above, .directory) := by
  have hfront : (Location.below names).byteSize < pathLimit := by
    have hsize := (resolve_eq_ok_iff.1 h).1
    rw [byteSize_snoc] at hsize
    omega
  obtain ⟨above, habove, hlast⟩ := exists_of_resolveFrom_append (resolveFrom_of_resolve h)
  have hat : t.at? above = some .directory := (resolveFrom_cons_eq_ok_iff.1 hlast).1
  exact ⟨above, find_eq_ok_iff.2 ⟨(resolve_below hfront).trans habove, hat⟩⟩

/-! ## Making directories -/

/-- The names in a directory stay the same when something is put elsewhere. -/
theorem namesAt_put_of_ne (t : FileTree) {place place' : List String} {name : String}
    (h : place' ≠ place) (e : Entry) :
    (t.put (place ++ [name]) e).namesAt place' = t.namesAt place' := by
  have hnot : (if (place ++ [name]).dropLast == place' then (place ++ [name]).getLast? else none) =
      none := by
    rw [if_neg (by simpa using h.symm)]
  unfold namesAt put
  dsimp only
  rw [List.filterMap_cons, hnot]
  dsimp only
  induction t.entries with
  | nil => rfl
  | cons entry entries ih =>
    by_cases hentry : entry.1 = place ++ [name]
    · rw [List.filter_cons_of_neg (by simpa using hentry), ih, List.filterMap_cons, hentry, hnot]
    · rw [List.filter_cons_of_pos (by simpa using hentry), List.filterMap_cons,
        List.filterMap_cons, ih]

/-- **A path on which nothing stands in the way of directories**: there are no parent steps, nothing
is too long, and at each place on the way there is a directory or nothing. -/
structure IsClear (t : FileTree) (names : List String) : Prop where
  plain : ∀ name ∈ names, name ≠ ".." ∧ name.utf8ByteSize ≤ nameLimit
  size : (Location.below names).byteSize < pathLimit
  free : ∀ place, place <+: names → t.at? place = none ∨ t.at? place = some .directory

/-- The path to the directory above is clear, too. -/
theorem IsClear.front {t : FileTree} {names : List String} {name : String}
    (h : t.IsClear (names ++ [name])) : t.IsClear names where
  plain other hother := h.plain other (List.mem_append_left _ hother)
  size := by
    have hsize := h.size
    rw [byteSize_snoc] at hsize
    omega
  free place hplace := h.free place (hplace.trans (List.prefix_append _ _))

/-- A clear path leads to its place, if the directories are there. -/
theorem IsClear.resolveFrom_cases {t : FileTree} {names : List String} (h : t.IsClear names) :
    t.resolveFrom [] names = .ok names ∨ t.resolveFrom [] names = .error .noEntry := by
  induction names using List.reverseRecOn with
  | nil => exact .inl rfl
  | append_singleton names name ih =>
    rw [resolveFrom_append]
    rcases ih h.front with hfront | hfront
    · rw [hfront]
      show t.resolveFrom names [name] = _ ∨ t.resolveFrom names [name] = _
      obtain ⟨hparent, hlong⟩ := h.plain name (by simp)
      rcases h.free names (List.prefix_append _ _) with hat | hat
      · exact .inr (by rw [resolveFrom, hat])
      · exact .inl (t.resolveFrom_singleton hat hparent hlong)
    · exact .inr (by rw [hfront]; rfl)

/-- What making the directories of a path leaves behind: they are there, and nothing else is
changed. -/
structure MadeFrom (t : FileTree) (names : List String) (t' : FileTree) : Prop where
  found : t'.resolveFrom [] names = .ok names
  directory : t'.at? names = some .directory
  others : ∀ place, ¬ place <+: names → t'.at? place = t.at? place
  listed : ∀ place, ¬ place <+: names.dropLast → t'.namesAt place = t.namesAt place

/-- A directory is made in one that is there, or is there already. -/
theorem MadeFrom.snoc {t t' : FileTree} {names : List String} {name : String}
    (h : t.MadeFrom names t') (hclear : t.IsClear (names ++ [name])) :
    (∃ t'', t'.makeDirectory (.below (names ++ [name])) = .ok t'' ∧
      t.MadeFrom (names ++ [name]) t'') ∨
    t'.makeDirectory (.below (names ++ [name])) = .error .alreadyThere ∧
      t.MadeFrom (names ++ [name]) t' := by
  obtain ⟨hparent, hlong⟩ := hclear.plain name (by simp)
  have hresolve : t'.resolveFrom [] (names ++ [name]) = .ok (names ++ [name]) := by
    rw [resolveFrom_append, h.found]
    exact t'.resolveFrom_singleton h.directory hparent hlong
  have hnot : ¬ names ++ [name] <+: names := fun hfront => by
    have hlength := hfront.length_le
    rw [List.length_append, List.length_singleton] at hlength
    omega
  have hnot_of {place : List String} (hplace : ¬ place <+: names ++ [name]) : ¬ place <+: names :=
    fun hfront => hplace (hfront.trans (List.prefix_append _ _))
  have hlisted {place : List String} (hplace : ¬ place <+: (names ++ [name]).dropLast) :
      ¬ place <+: names.dropLast := fun hfront => hplace <| by
    rw [List.dropLast_concat]
    exact hfront.trans (List.dropLast_prefix _)
  rw [makeDirectory, resolve_below hclear.size, hresolve]
  dsimp only
  rcases hclear.free (names ++ [name]) List.prefix_rfl with hat | hat
  · rw [← h.others _ hnot] at hat
    rw [hat]
    refine .inl ⟨_, rfl, ?_⟩
    refine ⟨resolveFrom_of_directories (fun place hplace => ?_) hresolve, ?_, fun place hplace => ?_,
      fun place hplace => ?_⟩
    · rw [at?_put]
      split
      · rfl
      · split
        · rfl
        · exact hplace
    · rw [at?_put, if_neg (by simp), if_pos rfl]
    · have hne : place ≠ names ++ [name] := fun heq => hplace (heq ▸ List.prefix_rfl)
      have hnil : ¬ place.isEmpty = true := fun hempty => hplace <| by
        rw [List.isEmpty_iff.1 hempty]
        exact List.nil_prefix
      rw [at?_put, if_neg hnil, if_neg hne]
      exact h.others place (hnot_of hplace)
    · have hne : place ≠ names := fun heq => hplace <| by
        rw [List.dropLast_concat, heq]
      rw [namesAt_put_of_ne _ hne]
      exact h.listed place (hlisted hplace)
  · rw [← h.others _ hnot] at hat
    rw [hat]
    exact .inr ⟨rfl, hresolve, hat, fun place hplace => h.others place (hnot_of hplace),
      fun place hplace => h.listed place (hlisted hplace)⟩

theorem MadeFrom.isDirectory {t t' : FileTree} {names : List String} (h : t.MadeFrom names t')
    (hsize : (Location.below names).byteSize < pathLimit) :
    t'.isDirectory (.below names) = .ok true :=
  isDirectory_of_find (find_eq_ok_iff.2 ⟨(resolve_below hsize).trans h.found, h.directory⟩)

/-- A tree on the path of which the directory above is there needs no other directory. -/
theorem IsClear.madeFrom_front {t : FileTree} {names : List String} {name : String}
    (h : t.IsClear (names ++ [name]))
    (hresolve : t.resolveFrom [] (names ++ [name]) = .ok (names ++ [name])) :
    t.MadeFrom names t := by
  rw [resolveFrom_append] at hresolve
  rcases h.front.resolveFrom_cases with hfront | hfront
  · rw [hfront] at hresolve
    have hat : t.at? names = some .directory := (resolveFrom_cons_eq_ok_iff.1 hresolve).1
    exact ⟨hfront, hat, fun _ _ => rfl, fun _ _ => rfl⟩
  · rw [hfront] at hresolve
    cases hresolve

/-- **Directories are made where nothing stands in the way.**

**Proof sketch.** Induction on the path, from its end. If the directory above is there, one more is
made in it, or is there already. If it is not, making the directory fails for want of it; the
directories above are made, and then this one. -/
theorem exists_makeDirectories_eq {t : FileTree} {names : List String} (h : t.IsClear names) :
    ∃ t', t.makeDirectories (.below names) (names.length + 1) = (t', none) ∧
      t.MadeFrom names t' := by
  induction names using List.reverseRecOn with
  | nil => exact ⟨t, rfl, rfl, rfl, fun _ _ => rfl, fun _ _ => rfl⟩
  | append_singleton names name ih =>
    have hparent : (Location.below (names ++ [name])).parent = .below names := by
      simp [Location.parent]
    rw [List.length_append, List.length_singleton, makeDirectories, hparent]
    rcases h.resolveFrom_cases with hresolve | hresolve
    · rcases (h.madeFrom_front hresolve).snoc h with ⟨t', hmake, hmade⟩ | ⟨hmake, hmade⟩
      · exact ⟨t', by rw [hmake], hmade⟩
      · exact ⟨t, by rw [hmake]; dsimp only; rw [hmade.isDirectory h.size], hmade⟩
    · have hmake : t.makeDirectory (.below (names ++ [name])) = .error .noEntry := by
        rw [makeDirectory, resolve_below h.size, hresolve]
      obtain ⟨t', hfront, hmadeFront⟩ := ih h.front
      rw [hmake]
      dsimp only
      rw [hfront]
      dsimp only
      rcases hmadeFront.snoc h with ⟨t'', hmake', hmade⟩ | ⟨hmake', hmade⟩
      · exact ⟨t'', by rw [hmake'], hmade⟩
      · exact ⟨t', by rw [hmake']; dsimp only; rw [hmade.isDirectory h.size], hmade⟩

end FileTree

end Mustache
