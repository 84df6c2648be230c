import Mustache.Proofs.Cache.Sound

/-!
# Trees in files

A directory keeps the tree of a source in a file, of which the name ends with the digest for the
source. The path of the file may lead anywhere, and several directories may share their files, but
the last name tells what the file has to hold. Writing keeps it so.

## Main definitions

* `Mustache.FileTree.StoresOnly` — a file tree in which all stored trees are where they may be.
* `Mustache.MayHold` — the places at which a tree may be stored.

## Main results

* `Mustache.CacheDirectory.holdsTrees_of_storesOnly` — what a directory finds under a key is right.
* `Mustache.CacheDirectory.keepsStored_dump` — storing a tree under its key keeps it so.
-/

namespace Mustache

/-! ## Places -/

namespace FileTree

/-- What is at a place after something has been put there or elsewhere. The root stays a
directory. -/
theorem at?_put (t : FileTree) (place : List String) (e : Entry) (place' : List String) :
    (t.put place e).at? place' =
      if place'.isEmpty then some .directory
      else if place' = place then some e else t.at? place' := by
  unfold at? put
  split
  · rfl
  · dsimp only
    rw [List.lookup_cons]
    by_cases hplace : place' = place
    · rw [if_pos hplace, beq_iff_eq.2 hplace]
    · have hne : (place' == place) = false := beq_eq_false_iff_ne.2 hplace
      rw [if_neg hplace, hne]
      dsimp only
      -- What is taken out of the entries is found under the other place only.
      induction t.entries with
      | nil => rfl
      | cons entry entries ih =>
        rw [List.filter_cons, List.lookup_cons]
        by_cases hentry : entry.1 = place
        · rw [if_neg (by simp [hentry]), hentry, hne, ih]
        · rw [if_pos (by simp [hentry]), List.lookup_cons, ih]

/-- A path that ends with a name, and not with a parent step, leads to a place of this name. -/
theorem exists_resolveFrom_eq {t : FileTree} {names : List String} {name : String}
    (hname : name ≠ "..") {place place' : List String}
    (h : t.resolveFrom place (names ++ [name]) = .ok place') :
    ∃ front, place' = front ++ [name] := by
  induction names generalizing place with
  | nil =>
    rw [List.nil_append, resolveFrom] at h
    split at h
    · simp at h
    · simp at h
    · rw [if_neg (by simpa using hname)] at h
      split at h
      · simp at h
      · exact ⟨place, (Except.ok.inj h).symm⟩
  | cons first names ih =>
    rw [List.cons_append, resolveFrom] at h
    split at h
    · simp at h
    · simp at h
    · split at h
      · split at h
        · simp at h
        · exact ih h
      · split at h
        · simp at h
        · exact ih h

/-- A path that leads to a place starts at the root and is not too long. -/
theorem resolve_eq_ok_iff {t : FileTree} {l : Location} {place : List String} :
    t.resolve l = .ok place ↔
      l.byteSize < pathLimit ∧ ∃ names, l = .below names ∧ t.resolveFrom [] names = .ok place := by
  unfold resolve
  constructor
  · intro h
    split at h
    · simp at h
    · next hsize =>
      refine ⟨Nat.not_le.1 hsize, ?_⟩
      split at h
      · exact ⟨_, rfl, h⟩
      · simp at h
  · rintro ⟨hsize, names, rfl, h⟩
    rw [if_neg (Nat.not_le.2 hsize)]
    exact h

theorem exists_below_of_resolve {t : FileTree} {l : Location} {place : List String}
    (h : t.resolve l = .ok place) :
    ∃ names, l = .below names ∧ t.resolveFrom [] names = .ok place :=
  (resolve_eq_ok_iff.1 h).2

/-- An entry is found at the place to which the path leads. -/
theorem find_eq_ok_iff {t : FileTree} {l : Location} {place : List String} {e : Entry} :
    t.find l = .ok (place, e) ↔ t.resolve l = .ok place ∧ t.at? place = some e := by
  unfold find
  constructor
  · intro h
    split at h
    · simp at h
    · next hresolve =>
      split at h
      · simp at h
      · next hat =>
        obtain ⟨rfl, rfl⟩ := Prod.mk.inj (Except.ok.inj h)
        exact ⟨hresolve, hat⟩
  · rintro ⟨hresolve, hat⟩
    rw [hresolve]
    dsimp only
    rw [hat]

/-- A directory is made at the place to which the path leads, if nothing stands there. -/
theorem exists_of_makeDirectory {t t' : FileTree} {l : Location}
    (hmake : t.makeDirectory l = .ok t') :
    ∃ place, t.resolve l = .ok place ∧ t.at? place = none ∧ t' = t.put place .directory := by
  unfold makeDirectory at hmake
  split at hmake
  · simp at hmake
  · next place hresolve =>
    split at hmake
    · simp at hmake
    · next hfree => exact ⟨place, hresolve, hfree, (Except.ok.inj hmake).symm⟩

/-- **All stored trees are where they may be.** -/
def StoresOnly (mayHold : List String → Tree → Prop) (t : FileTree) : Prop :=
  ∀ place tree mode, t.at? place = some (.file (.stored tree) mode) → mayHold place tree

variable {mayHold : List String → Tree → Prop} {t : FileTree}

/-- Nothing is stored where there are no files. -/
theorem storesOnly_default : (default : FileTree).StoresOnly mayHold := by
  intro place tree mode hat
  cases place with
  | nil => simp [at?] at hat
  | cons part place => exact nomatch hat

theorem StoresOnly.put (h : t.StoresOnly mayHold) {place : List String} {e : Entry}
    (he : ∀ tree mode, e = .file (.stored tree) mode → mayHold place tree) :
    (t.put place e).StoresOnly mayHold := by
  intro place' tree mode hat
  rw [at?_put] at hat
  split at hat
  · simp at hat
  · split at hat
    · next hplace => exact hplace ▸ he tree mode (Option.some.inj hat)
    · exact h place' tree mode hat

theorem StoresOnly.setMode (h : t.StoresOnly mayHold) (l : Location) (mode : Nat) :
    (t.setMode l mode).StoresOnly mayHold := by
  unfold FileTree.setMode
  split
  · next place content mode' hfind =>
    refine h.put fun tree mode'' he => ?_
    obtain ⟨rfl, -⟩ := Entry.file.inj he
    exact h place tree mode' (find_eq_ok_iff.1 hfind).2
  · exact h

theorem StoresOnly.makeDirectory (h : t.StoresOnly mayHold) {l : Location} {t' : FileTree}
    (hmake : t.makeDirectory l = .ok t') : t'.StoresOnly mayHold := by
  obtain ⟨place, -, -, rfl⟩ := exists_of_makeDirectory hmake
  exact h.put fun _ _ he => by simp at he

/-- What making one directory keeps, making directories with all that is missing above them
keeps. -/
theorem makeDirectories_keeps {P : FileTree → Prop}
    (hstep : ∀ {t t' : FileTree} {l : Location}, P t → t.makeDirectory l = .ok t' → P t')
    (h : P t) (l : Location) (above : Nat) : P (t.makeDirectories l above).1 := by
  induction above generalizing l with
  | zero => exact h
  | succ above ih =>
    unfold FileTree.makeDirectories
    split
    · next hmake => exact hstep h hmake
    · have hparent := ih l.parent
      split
      · next hrest => exact hrest ▸ hparent
      · next t' hrest =>
        rw [hrest] at hparent
        split
        · next hmake => exact hstep hparent hmake
        · split <;> exact hparent
    · split <;> exact h

/-- Making directories stores nothing. -/
theorem StoresOnly.makeDirectories (h : t.StoresOnly mayHold) (l : Location) (above : Nat) :
    (t.makeDirectories l above).1.StoresOnly mayHold :=
  makeDirectories_keeps (fun h hmake => h.makeDirectory hmake) h l above

end FileTree

/-! ## Keys -/

/-- **The places at which a tree may be stored**: if the last name ends with the digest for a known
source, the tree is that of the source. -/
def MayHold (labels known : String → Prop) (place : List String) (tree : Tree) : Prop :=
  ∀ front name l x, place = front ++ [name] → labels l → known x →
    (digest (l ++ x) ++ cacheSuffix).toList <:+ name.toList → parse x .null .usual = .ok tree

/-- The last name of a path that ends with a text without slashes ends with this text. -/
theorem exists_namesIn_append_eq (p : String) {ending : String} (hslash : '/' ∉ ending.toList)
    (hlong : 2 < ending.toList.length) : ∃ names name, namesIn (p ++ ending) = names ++ [name] ∧
      name ≠ ".." ∧ ending.toList <:+ name.toList := by
  obtain ⟨front, last, hfields⟩ := Text.exists_fields_append_eq p.toList hslash
  obtain ⟨name, hname⟩ : ∃ name, name = String.ofList (last ++ ending.toList) := ⟨_, rfl⟩
  have hlength : 2 < name.toList.length := by
    rw [hname, String.toList_ofList, List.length_append]
    omega
  -- The name is too long to be left out, or to be a parent step.
  have hne {short : String} (h : short.toList.length ≤ 2) : name ≠ short := by
    rintro rfl
    omega
  have hkeep : (name != "" && name != ".") = true := by
    rw [Bool.and_eq_true, bne_iff_ne, bne_iff_ne]
    exact ⟨hne (by decide), hne (by decide)⟩
  refine ⟨(front.map String.ofList).filter fun name => name != "" && name != ".", name, ?_,
    hne (by decide), ?_⟩
  · rw [namesIn, Text.fieldsOf, String.toList_append, hfields, List.map_append, List.map_singleton,
      ← hname, List.filter_append, List.filter_singleton, hkeep]
    rfl
  · rw [hname, String.toList_ofList]
    exact List.suffix_append _ _

/-- A path that is joined to another one, and that ends with a text without slashes, leads to a
place of which the name ends with this text. -/
theorem FileTree.exists_place_of_join {t : FileTree} {base : Location} {p ending : String}
    (hslash : '/' ∉ ending.toList) (hlong : 2 < ending.toList.length) {place : List String}
    (h : t.resolve (base.join (p ++ ending)) = .ok place) :
    ∃ front name, place = front ++ [name] ∧ ending.toList <:+ name.toList := by
  obtain ⟨names, name, hnames, hname, hends⟩ := exists_namesIn_append_eq p hslash hlong
  obtain ⟨names', hpath, hresolve⟩ := exists_below_of_resolve h
  unfold Location.join at hpath
  split at hpath
  · simp at hpath
  · split at hpath
    · next before _ =>
      obtain rfl := Location.below.inj hpath
      rw [hnames, ← List.append_assoc] at hresolve
      obtain ⟨front, rfl⟩ := exists_resolveFrom_eq hname hresolve
      exact ⟨front, name, rfl, hends⟩
    · simp at hpath

namespace CacheDirectory

/-- The file for a key that ends with a digest is at a place of which the name ends with it. -/
theorem exists_place_eq {d : CacheDirectory} {t : FileTree} {p text : String}
    {place : List String} (h : t.resolve (d.fileFor (p ++ digest text)) = .ok place) :
    ∃ front name, place = front ++ [name] ∧
      (digest text ++ cacheSuffix).toList <:+ name.toList := by
  have hslash : '/' ∉ (digest text ++ cacheSuffix).toList := by
    rw [String.toList_append, List.mem_append]
    rintro (hmem | hmem)
    · exact absurd (isAlphanum_of_mem_digest hmem) (by decide)
    · exact absurd hmem (by decide)
  have hlong : 2 < (digest text ++ cacheSuffix).toList.length := by
    rw [String.toList_append, List.length_append, length_digest]
    omega
  unfold fileFor at h
  rw [String.append_assoc] at h
  exact FileTree.exists_place_of_join hslash hlong h

/-- **What a directory finds under a key is right**, if all stored trees are where they may be. -/
theorem holdsTrees_of_storesOnly {labels known : String → Prop} {t : FileTree}
    (h : t.StoresOnly (MayHold labels known)) (d : CacheDirectory) :
    HoldsTrees labels known (d.load? t) := by
  intro p l x tree hl hx hload
  unfold load? at hload
  split at hload
  · next tree' hread =>
    obtain rfl := Option.some.inj hload
    unfold FileTree.read at hread
    split at hread
    · simp at hread
    · simp at hread
    · next place content mode hfind =>
      split at hread
      · obtain rfl := Except.ok.inj hread
        obtain ⟨hresolve, hat⟩ := FileTree.find_eq_ok_iff.1 hfind
        obtain ⟨front, name, hplace, hends⟩ := exists_place_eq hresolve
        exact h place _ mode hat front name l x hplace hl hx hends
      · simp at hread
  · simp at hload

end CacheDirectory

/-! ## Storing a tree -/

/-- An action that keeps a property of the files. -/
def KeepsFiles {α : Type} (P : FileTree → Prop) (act : Action α) : Prop :=
  ∀ s : Session, P s.files → P (sessionOf (act s)).files

namespace KeepsFiles

variable {α β : Type} {P : FileTree → Prop}

theorem pure (a : α) : KeepsFiles P (Pure.pure a : Action α) := fun _ h => h

theorem throw (e : Fault) : KeepsFiles P (MonadExcept.throw e : Action α) := fun _ h => h

theorem get {next : Session → Action α} (h : ∀ s : Session, P s.files → KeepsFiles P (next s)) :
    KeepsFiles P (MonadState.get >>= next) := fun s hs => h s hs s hs

theorem bind {act : Action α} {next : α → Action β} (h : KeepsFiles P act)
    (hnext : ∀ a, KeepsFiles P (next a)) : KeepsFiles P (act >>= next) := by
  intro s hs
  have hfirst := h s hs
  cases hact : act s with
  | ok a s₁ =>
    rw [hact] at hfirst
    rw [bind_of_ok hact]
    exact hnext a s₁ hfirst
  | error e s₁ =>
    rw [hact] at hfirst
    rw [bind_of_error hact]
    exact hfirst

theorem modify {f : Session → FileTree} (h : ∀ s : Session, P s.files → P (f s)) :
    KeepsFiles P (modify fun s : Session => { s with files := f s }) := fun s hs => h s hs

theorem liftFault (x : Except Fault α) : KeepsFiles P (liftFault x) := by
  cases x with
  | ok a => exact pure a
  | error e => exact throw e

theorem ite {c : Prop} [Decidable c] {act act' : Action α} (h : KeepsFiles P act)
    (h' : KeepsFiles P act') : KeepsFiles P (if c then act else act') := by
  split
  · exact h
  · exact h'

/-- A guard in front of an action. -/
theorem guard {c : Prop} [Decidable c] {e : Fault} {rest : PUnit → Action α}
    (h : KeepsFiles P (rest ⟨⟩)) :
    KeepsFiles P (if c then MonadExcept.throw e >>= rest else rest ⟨⟩) :=
  .ite (.bind (.throw e) fun _ => h) h

theorem logEvent (logger : Logger) (level : Level) (message : String) (fields : Fields) :
    KeepsFiles P (logEvent logger level message fields) := by
  refine .get fun s hs => ?_
  cases logger.record? s.levels level message fields with
  | error e => exact .throw e
  | ok record =>
    cases record with
    | none => exact .pure ()
    | some record => exact fun _ hs => hs

end KeepsFiles

namespace CacheDirectory

section

variable {P : FileTree → Prop} (d : CacheDirectory)

theorem keepsFiles_log (level : Level) (message : String) (fields : Fields) :
    KeepsFiles P (d.log level message fields) := by
  unfold log
  split
  · exact .logEvent _ _ _ _
  · exact .throw _

theorem keepsFiles_ensure (h : ∀ t above, P t → P (t.makeDirectories d.location above).1) :
    KeepsFiles P d.ensure := by
  refine .get fun s hs => ?_
  dsimp only
  split
  · exact .throw _
  · exact .pure _
  · refine .bind (keepsFiles_log d _ _ _) fun _ => .bind (.ite (.pure _) (.throw _)) fun _ =>
      .bind (.modify fun _ _ => h _ _ hs) fun _ => ?_
    split
    · exact .pure _
    · exact .throw _

/-- A tree is moved to its place, which is not that of a directory, and the mode is set. -/
theorem keepsFiles_place {path : Location} (temporary : Location) {tree : Tree}
    (hput : ∀ t place mode, P t → t.resolve path = .ok place → t.at? place ≠ some .directory →
      P (t.put place (.file (.stored tree) mode)))
    (hmode : ∀ t mode, P t → P (t.setMode path mode)) :
    KeepsFiles P (d.place path temporary tree) := by
  refine .get fun s hs => ?_
  dsimp only
  split
  · next t' hmove =>
    refine .bind (.modify fun _ _ => ?_) fun _ => .bind (.liftFault _) fun mode =>
      .modify fun _ hs => hmode _ mode hs
    unfold FileTree.moveTo at hmove
    split at hmove
    · simp at hmove
    · next place hresolve =>
      split at hmove
      · simp at hmove
      · simp at hmove
      · next hfirst hsecond =>
        obtain rfl := Except.ok.inj hmove
        refine hput s.files place _ hs hresolve fun hat => ?_
        cases hsource : s.files.resolve d.location with
        | ok inside => exact hfirst inside hat hsource
        | error fault => exact hsecond fault hat hsource
  · exact .bind (keepsFiles_log d _ _ _) fun _ => .throw _

/-- Storing a tree makes the directory, moves the tree to its place, and sets the mode. -/
theorem keepsFiles_dump {key : String} {tree : Tree} (hensure : KeepsFiles P d.ensure)
    (hpath : (d.fileFor key).isAdmissible = true)
    (hput : ∀ t place mode, P t → t.resolve (d.fileFor key) = .ok place →
      t.at? place ≠ some .directory → P (t.put place (.file (.stored tree) mode)))
    (hmode : ∀ t mode, P t → P (t.setMode (d.fileFor key) mode)) :
    KeepsFiles P (d.dump key tree) := by
  have hrefuse (temporary : Location) : KeepsFiles P (refuse (d.fileFor key) temporary tree) := by
    unfold refuse
    rw [if_pos hpath]
    exact .pure _
  unfold dump
  refine .bind hensure fun _ => .get fun s _ => .bind (keepsFiles_log d _ _ _) fun _ => ?_
  exact .guard <| .guard <| .bind (hrefuse _) fun _ => keepsFiles_place d _ hput hmode

/-- The tree of a known source may be stored at the place for its key: what else might be asked for
there has the same digest. -/
theorem mayHold_of_resolve {labels known : String → Prop}
    (hdistinct : ∀ l l' x y, labels l → labels l' → known x → known y →
      digest (l ++ x) = digest (l' ++ y) → x = y) {p l x : String} (hl : labels l) (hx : known x)
    {tree : Tree} (hparse : parse x .null .usual = .ok tree) {t : FileTree} {place : List String}
    (h : t.resolve (d.fileFor (p ++ digest (l ++ x))) = .ok place) :
    MayHold labels known place tree := by
  intro front name l' y hplace hl' hy hends
  obtain ⟨front', name', hplace', hends'⟩ := exists_place_eq h
  obtain ⟨-, rfl⟩ := List.append_singleton_inj.1 (hplace'.symm.trans hplace)
  have hlength : (digest (l' ++ y) ++ cacheSuffix).toList.length =
      (digest (l ++ x) ++ cacheSuffix).toList.length := by
    simp only [String.toList_append, List.length_append, length_digest]
  have hsame := (List.suffix_of_suffix_length_le hends hends' hlength.le).eq_of_length hlength
  rw [String.toList_append, String.toList_append, List.append_cancel_right_eq] at hsame
  exact hdistinct l' l y x hl' hl hy hx (String.toList_inj.1 hsame) ▸ hparse

/-- **Storing the tree of a known source under its key** leaves all stored trees where they may
be. -/
theorem keepsStored_dump {labels known : String → Prop}
    (hdistinct : ∀ l l' x y, labels l → labels l' → known x → known y →
      digest (l ++ x) = digest (l' ++ y) → x = y) {p l x : String} (hl : labels l) (hx : known x)
    {tree : Tree} (hparse : parse x .null .usual = .ok tree)
    (hpath : (d.fileFor (p ++ digest (l ++ x))).isAdmissible = true) :
    KeepsFiles (FileTree.StoresOnly (MayHold labels known))
      (d.dump (p ++ digest (l ++ x)) tree) := by
  refine keepsFiles_dump d (keepsFiles_ensure d fun t above ht => ht.makeDirectories _ above) hpath
    (fun t place mode ht hresolve _ => ht.put fun tree' mode' he => ?_)
    fun t mode ht => ht.setMode _ mode
  obtain ⟨htree, -⟩ := Entry.file.inj he
  exact Content.stored.inj htree ▸ mayHold_of_resolve d hdistinct hl hx hparse hresolve

end

end CacheDirectory

end Mustache
