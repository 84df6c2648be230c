import Mustache.Proofs.Files.Directory

/-!
# File trees with more directories

In a file tree everything stands in a directory. When directories are added where nothing was, all
that has been there stays as it is. What is new may be a step on a path that led nowhere before, but
a path without parent steps cannot come upon an old file by way of a new directory.

## Main definitions

* `Mustache.FileTree.IsClosed` — file trees in which everything stands in a directory.
* `Mustache.FileTree.Grown` — a file tree with more directories on the way to a path.
* `Mustache.FileTree.StepsBack` — a place from which a path takes a parent step.

## Main results

* `Mustache.FileTree.IsClosed.install` — what is put into a closed tree leaves it closed.
* `Mustache.FileTree.Grown.read_eq_ok_iff` — what is read at the end of a path.
-/

namespace Mustache

namespace FileTree

variable {t t' t'' : FileTree}

/-! ## Free places -/

theorem ne_nil_of_free {place : List String} (h : t.at? place = none) : place ≠ [] := by
  rintro rfl
  simp [at?] at h

theorem filter_entries_of_free {place : List String} (h : t.at? place = none) :
    t.entries.filter (fun entry => entry.1 != place) = t.entries := by
  rw [at?_of_ne_nil t (ne_nil_of_free h)] at h
  refine List.filter_eq_self.2 fun entry hentry => ?_
  have hne := List.lookup_eq_none_iff.1 h entry hentry
  rw [bne, Bool.beq_comm]
  simpa using hne

/-- What is put at a free place stands in front of the other entries. -/
theorem entries_put_of_free {place : List String} (h : t.at? place = none) (e : Entry) :
    (t.put place e).entries = (place, e) :: t.entries := by
  rw [put, filter_entries_of_free h]

/-- Taking away what has been put at a free place leaves nothing behind. -/
theorem remove_put_of_free {place : List String} (h : t.at? place = none) (e : Entry) :
    (t.put place e).remove place = t := by
  rw [remove, entries_put_of_free h, List.filter_cons_of_neg (by simp), filter_entries_of_free h]
  rfl

theorem at?_put_self {place : List String} (h : t.at? place = none) (e : Entry) :
    (t.put place e).at? place = some e := by
  rw [at?_put, if_neg (by simpa using ne_nil_of_free h), if_pos rfl]

/-- What is put at a free place leaves everything where it is. -/
theorem at?_put_of_some {place place' : List String} (h : t.at? place = none) (e : Entry)
    {e' : Entry} (hat : t.at? place' = some e') : (t.put place e).at? place' = some e' := by
  have hne : place' ≠ place := fun heq => by simp [heq, h] at hat
  rw [at?_put, if_neg hne]
  split
  · next hnil =>
    rw [List.isEmpty_iff.1 hnil] at hat
    exact hat
  · exact hat

/-! ## Closed trees -/

/-- **Everything stands in a directory.** -/
def IsClosed (t : FileTree) : Prop :=
  ∀ place name e, t.at? (place ++ [name]) = some e → t.at? place = some .directory

theorem isClosed_empty (rootText : String) : (empty rootText).IsClosed := by
  intro place name e hat
  rw [at?_snoc] at hat
  simp [empty] at hat

theorem IsClosed.put (h : t.IsClosed) {place : List String} {name : String} {e : Entry}
    (hdirectory : t.at? place = some .directory)
    (hkeep : e = .directory ∨ t.at? (place ++ [name]) ≠ some .directory) :
    (t.put (place ++ [name]) e).IsClosed := by
  intro place' name' e' hat
  rw [at?_put, if_neg (by simp)] at hat
  rw [at?_put]
  split
  · rfl
  · split at hat
    · next hsame =>
      obtain ⟨rfl, -⟩ := List.append_singleton_inj.1 hsame
      rw [if_neg (by simp), hdirectory]
    · have habove := h place' name' e' hat
      split
      · next hsame => exact hkeep.elim (congrArg some) fun hnot => absurd (hsame ▸ habove) hnot
      · exact habove

/-- A place that is the root, or in a directory. -/
def Stands (t : FileTree) (place : List String) : Prop :=
  place = [] ∨ ∃ front name, place = front ++ [name] ∧ t.at? front = some .directory

theorem IsClosed.stands (h : t.IsClosed) {place : List String} {e : Entry}
    (hat : t.at? place = some e) : t.Stands place := by
  rcases List.eq_nil_or_concat place with rfl | ⟨front, name, rfl⟩
  · exact .inl rfl
  · rw [List.concat_eq_append] at hat ⊢
    exact .inr ⟨front, name, rfl, h front name e hat⟩

/-- A path leads to a place in a directory. -/
theorem IsClosed.stands_of_resolveFrom (h : t.IsClosed) {place reached names : List String}
    (hplace : t.Stands place) (hresolve : t.resolveFrom place names = .ok reached) :
    t.Stands reached := by
  induction names generalizing place with
  | nil => exact Except.ok.inj hresolve ▸ hplace
  | cons name names ih =>
    obtain ⟨hat, next, hnext, hrest⟩ := resolveFrom_cons_eq_ok_iff.1 hresolve
    refine ih ?_ hrest
    rcases stepFrom_cases hnext with ⟨-, hne, rfl⟩ | ⟨-, rfl⟩
    · rcases hplace with rfl | ⟨front, last, rfl, hfront⟩
      · exact absurd rfl hne
      · rw [List.dropLast_concat]
        exact h.stands hfront
    · exact .inr ⟨place, name, rfl, hat⟩

theorem IsClosed.stands_of_resolve (h : t.IsClosed) {l : Location} {place : List String}
    (hresolve : t.resolve l = .ok place) : t.Stands place := by
  obtain ⟨names, -, hresolve⟩ := exists_below_of_resolve hresolve
  exact h.stands_of_resolveFrom (.inl rfl) hresolve

/-- What is put at the end of a path, but not a file in place of a directory. -/
theorem IsClosed.put_of_resolve (h : t.IsClosed) {l : Location} {place : List String}
    (hresolve : t.resolve l = .ok place) {e : Entry} (hat : t.at? place ≠ some .directory) :
    (t.put place e).IsClosed := by
  rcases h.stands_of_resolve hresolve with rfl | ⟨front, name, rfl, hfront⟩
  · exact absurd rfl hat
  · exact h.put hfront (.inr hat)

theorem IsClosed.makeDirectory (h : t.IsClosed) {l : Location}
    (hmake : t.makeDirectory l = .ok t') : t'.IsClosed := by
  obtain ⟨place, hresolve, hat, rfl⟩ := exists_of_makeDirectory hmake
  exact h.put_of_resolve hresolve (by simp [hat])

theorem IsClosed.makeDirectories (h : t.IsClosed) (l : Location) (above : Nat) :
    (t.makeDirectories l above).1.IsClosed :=
  makeDirectories_keeps (fun h hmake => h.makeDirectory hmake) h l above

theorem IsClosed.write (h : t.IsClosed) {l : Location} {content : Content}
    (hwrite : t.write l content = .ok t') : t'.IsClosed := by
  unfold FileTree.write at hwrite
  split at hwrite
  · simp at hwrite
  · next hresolve =>
    split at hwrite
    · simp at hwrite
    · next hat =>
      split at hwrite
      · obtain rfl := Except.ok.inj hwrite
        exact h.put_of_resolve hresolve (by simp [hat])
      · simp at hwrite
    · next hat =>
      obtain rfl := Except.ok.inj hwrite
      exact h.put_of_resolve hresolve (by simp [hat])

/-- **What is put into a closed tree leaves it closed**, also if this is cut short. -/
theorem IsClosed.install (h : t.IsClosed) (names : List String) (d : Delivery) :
    (t.install names d).1.IsClosed := by
  unfold FileTree.install
  cases d with
  | directory => exact h.makeDirectories (.below names) _
  | file bs =>
    have hmade := h.makeDirectories (Location.below names).parent (names.length + 1)
    dsimp only
    split
    · next hrun =>
      rw [hrun] at hmade
      exact hmade
    · next hrun =>
      rw [hrun] at hmade
      split
      · next hwrite => exact hmade.write hwrite
      · exact hmade

/-! ## Trees with more directories -/

/-- A place to which a front part of a path leads. -/
def OnTheWay (t : FileTree) (l : Location) (place : List String) : Prop :=
  ∃ names more, l = .below (names ++ more) ∧ t.resolve (.below names) = .ok place

/-- **The file tree with more directories**, all of them on the way to a path, where nothing was
before. -/
structure Grown (l : Location) (t t' : FileTree) : Prop where
  rootText : t'.rootText = t.rootText
  entries : ∃ made : List (List String), t'.entries = made.map (·, .directory) ++ t.entries ∧
    ∀ place ∈ made, t.at? place = none ∧ t'.OnTheWay l place

theorem lookup_map_append (made : List (List String)) (entries : List (List String × Entry))
    (place : List String) : (made.map (·, Entry.directory) ++ entries).lookup place =
      if place ∈ made then some .directory else entries.lookup place := by
  induction made with
  | nil => rfl
  | cons first made ih =>
    rw [List.map_cons, List.cons_append, List.lookup_cons, ih]
    by_cases hfirst : place = first
    · simp [hfirst]
    · simp [hfirst, beq_eq_false_iff_ne.2 hfirst]

namespace Grown

variable {l : Location}

theorem refl (l : Location) (t : FileTree) : t.Grown l t := ⟨rfl, [], rfl, by simp⟩

/-- What is at a place was there before, or it is a new directory where nothing was. -/
theorem at?_cases (h : Grown l t t') (place : List String) : t'.at? place = t.at? place ∨
    t.at? place = none ∧ t'.at? place = some .directory ∧ t'.OnTheWay l place := by
  obtain ⟨made, hentries, hmade⟩ := h.entries
  by_cases hnil : place = []
  · exact .inl (by rw [hnil]; rfl)
  · rw [at?_of_ne_nil t' hnil, hentries, lookup_map_append, ← at?_of_ne_nil t hnil]
    by_cases hmem : place ∈ made
    · rw [if_pos hmem]
      exact .inr ⟨(hmade place hmem).1, rfl, (hmade place hmem).2⟩
    · exact .inl (if_neg hmem)

/-- What was there stays. -/
theorem at?_of_some (h : Grown l t t') {place : List String} {e : Entry}
    (hat : t.at? place = some e) : t'.at? place = some e := by
  rcases h.at?_cases place with hsame | ⟨hnone, -⟩
  · rw [hsame, hat]
  · rw [hat] at hnone
    simp at hnone

/-- **There are no other files than before.** -/
theorem at?_eq_file_iff (h : Grown l t t') {place : List String} {content : Content} {mode : Nat} :
    t'.at? place = some (.file content mode) ↔ t.at? place = some (.file content mode) := by
  refine ⟨fun hat => ?_, h.at?_of_some⟩
  rcases h.at?_cases place with hsame | ⟨-, hnew, -⟩
  · rw [← hsame, hat]
  · rw [hat] at hnew
    simp at hnew

end Grown

/-- The file that is put at a free place is the one at the end of each path to it. -/
theorem setMode_put_of_free {l : Location} {place : List String} (h : t.at? place = none)
    (hresolve : t.resolve l = .ok place) (content : Content) (mode mode' : Nat) :
    (t.put place (.file content mode)).setMode l mode' = t.put place (.file content mode') := by
  have hfind : (t.put place (.file content mode)).find l = .ok (place, .file content mode) :=
    find_eq_ok_iff.2 ⟨resolve_of_directories (fun _ => at?_put_of_some h _) hresolve,
      at?_put_self h _⟩
  unfold setMode
  rw [hfind]
  exact put_put _ _ _ _

namespace Grown

variable {l : Location}

theorem trans (h : Grown l t t') (h' : Grown l t' t'') : Grown l t t'' := by
  obtain ⟨made, hentries, hmade⟩ := h.entries
  obtain ⟨made', hentries', hmade'⟩ := h'.entries
  refine ⟨h'.rootText.trans h.rootText, made' ++ made, ?_, fun place hplace => ?_⟩
  · rw [hentries', hentries, List.map_append, List.append_assoc]
  · rcases List.mem_append.1 hplace with hplace | hplace
    · obtain ⟨hfree, hway⟩ := hmade' place hplace
      refine ⟨?_, hway⟩
      cases hat : t.at? place with
      | none => rfl
      | some e =>
        rw [h.at?_of_some hat] at hfree
        simp at hfree
    · obtain ⟨hfree, names, more, hl, hresolve⟩ := hmade place hplace
      exact ⟨hfree, names, more, hl, resolve_of_directories (fun _ => h'.at?_of_some) hresolve⟩

/-- One more directory on the way. -/
theorem makeDirectory {names more : List String}
    (hmake : t.makeDirectory (.below names) = .ok t') : Grown (.below (names ++ more)) t t' := by
  obtain ⟨place, hresolve, hfree, rfl⟩ := exists_of_makeDirectory hmake
  refine ⟨rfl, [place], entries_put_of_free hfree _, ?_⟩
  rw [List.forall_mem_singleton]
  exact ⟨hfree, names, more, rfl,
    resolve_of_directories (fun _ => at?_put_of_some hfree _) hresolve⟩

end Grown

/-! ## Parent steps -/

/-- A place from which a path takes a parent step. -/
def StepsBack (t : FileTree) (l : Location) (place : List String) : Prop :=
  ∃ front rest, l = .below (front ++ ".." :: rest) ∧ t.resolveFrom [] front = .ok place

theorem not_stepsBack {names : List String} (h : ".." ∉ names) (place : List String) :
    ¬ t.StepsBack (.below names) place := by
  rintro ⟨front, rest, hnames, -⟩
  exact h (Location.below.inj hnames ▸ List.mem_append_right front List.mem_cons_self)

/-- **A path leads to an old entry in both trees**, if it takes no parent step from a place that has
changed.

**Proof sketch.** Induction on the names. The place that is reached is taken, and in a closed tree
so is the one that a name starts from; one that a parent step starts from is as it was. So every
place on the way is an old directory. -/
theorem IsClosed.resolveFrom_of_stepsBack (h : t.IsClosed) {place reached names : List String}
    (hresolve : t'.resolveFrom place names = .ok reached) (hreached : t.at? reached ≠ none)
    (hsteps : ∀ front rest back, names = front ++ ".." :: rest →
      t'.resolveFrom place front = .ok back → t'.at? back = t.at? back) :
    t.at? place ≠ none ∧ t.resolveFrom place names = .ok reached := by
  induction names generalizing place with
  | nil =>
    obtain rfl := Except.ok.inj hresolve
    exact ⟨hreached, rfl⟩
  | cons name names ih =>
    obtain ⟨hdirectory, next, hnext, hrest⟩ := resolveFrom_cons_eq_ok_iff.1 hresolve
    obtain ⟨htaken, hsame⟩ := ih hrest fun front rest back hnames hback =>
      hsteps (name :: front) rest back (by rw [hnames, List.cons_append])
        (resolveFrom_cons_eq_ok_iff.2 ⟨hdirectory, next, hnext, hback⟩)
    have hat : t.at? place = some .directory := by
      rcases stepFrom_cases hnext with ⟨rfl, -, -⟩ | ⟨-, rfl⟩
      · exact (hsteps [] names place rfl rfl).symm.trans hdirectory
      · obtain ⟨e, he⟩ := Option.ne_none_iff_exists'.1 htaken
        exact h place name e he
    exact ⟨by simp [hat], resolveFrom_cons_eq_ok_iff.2 ⟨hat, next, hnext, hsame⟩⟩

variable {l way : Location}

theorem read_eq_ok_iff {content : Content} : t.read l = .ok content ↔
    ∃ place mode, t.find l = .ok (place, .file content mode) ∧ isReadable mode = true := by
  unfold read
  constructor
  · intro h
    split at h
    · simp at h
    · simp at h
    · next place _ mode hfind =>
      split at h
      · next hmode =>
        obtain rfl := Except.ok.inj h
        exact ⟨place, mode, hfind, hmode⟩
      · simp at h
  · rintro ⟨place, mode, hfind, hmode⟩
    rw [hfind]
    exact if_pos hmode

/-- The files at the ends of paths are the same, unless a path takes a parent step from a new
directory. -/
theorem Grown.find_eq_file_iff (h : Grown way t t') (hclosed : t.IsClosed)
    (hsteps : ∀ place, t'.StepsBack l place → t'.at? place = t.at? place) {place : List String}
    {content : Content} {mode : Nat} :
    t'.find l = .ok (place, .file content mode) ↔ t.find l = .ok (place, .file content mode) := by
  rw [find_eq_ok_iff, find_eq_ok_iff, h.at?_eq_file_iff]
  refine and_congr_left fun hat =>
    ⟨fun hresolve => ?_, resolve_of_directories fun _ => h.at?_of_some⟩
  obtain ⟨hsize, names, rfl, hnames⟩ := resolve_eq_ok_iff.1 hresolve
  refine resolve_eq_ok_iff.2 ⟨hsize, names, rfl, ?_⟩
  exact (hclosed.resolveFrom_of_stepsBack hnames (by simp [hat])
    fun front rest back hfront hback =>
      hsteps back ⟨front, rest, congrArg Location.below hfront, hback⟩).2

/-- **What is read at the end of a path is the same**, unless the path takes a parent step from a
new directory. -/
theorem Grown.read_eq_ok_iff (h : Grown way t t') (hclosed : t.IsClosed)
    (hsteps : ∀ place, t'.StepsBack l place → t'.at? place = t.at? place) {content : Content} :
    t'.read l = .ok content ↔ t.read l = .ok content := by
  simp only [FileTree.read_eq_ok_iff, h.find_eq_file_iff hclosed hsteps]

end FileTree

end Mustache
