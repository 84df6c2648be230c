import Mustache.Proofs.Cache.Loaders
import Mustache.Proofs.Files.Listing

/-!
# Searches for the names that are listed

A search looks for a file in each of the directories in turn, on the path that a name and the
extension make; the extension is not added to a name that ends with it. So a name that is listed
leads to the file in the first directory that has one on this path. It need not lead anywhere: a
name may be listed for a directory, or for a file of which the name ends with the extension twice.

## Main definitions

* `Mustache.FileTree.HasFile` — a file on a path that goes on from a directory.
* `Mustache.FileSearch.First` — the first of the directories that has a file on a path.
* `Mustache.FileSearch.load` — what reading a file gives.
* `Mustache.FileSearch.IsDoubled` — names that end with the extension.

## Main results

* `Mustache.FileTree.IsProper.find_join`, `Mustache.FileTree.IsProper.has_of_find_join` — what is
  found on a path is what stands there.
* `Mustache.FileSearch.Follows.find_of_first`, `Mustache.FileSearch.Follows.find_of_none` — how
  searches end.
* `Mustache.FileSearch.names_loadable` — what is listed and what is found.
-/

namespace Mustache

/-! ## Paths below a directory -/

namespace FileTree

variable {t : FileTree} {names place reached rel : List String} {e : Entry}

/-- A path without parent steps leads to the place of its names. -/
theorem eq_append_of_resolveFrom (hrel : ".." ∉ rel)
    (h : t.resolveFrom place rel = .ok reached) : reached = place ++ rel := by
  induction rel generalizing place with
  | nil =>
    rw [List.append_nil]
    exact (Except.ok.inj h).symm
  | cons name rel ih =>
    rw [List.mem_cons, not_or] at hrel
    obtain ⟨-, next, hnext, hrest⟩ := resolveFrom_cons_eq_ok_iff.1 h
    rcases stepFrom_cases hnext with ⟨hparent, -⟩ | ⟨-, rfl⟩
    · exact absurd hparent.symm hrel.1
    · rw [ih hrel.2 hrest, List.append_assoc, List.singleton_append]

theorem byteSize_le_append (names rel : List String) :
    (Location.below names).byteSize ≤ (Location.below (names ++ rel)).byteSize := by
  induction rel using List.reverseRecOn with
  | nil => rw [List.append_nil]
  | append_singleton rel name ih =>
    rw [← List.append_assoc, byteSize_snoc]
    omega

/-- **What is found on a path below a directory** stands there. -/
theorem has_of_find (hne : rel ≠ []) (hparent : ".." ∉ rel)
    (hfind : t.find (.below (names ++ rel)) = .ok (place, e)) : t.Has (.below names) rel e := by
  obtain ⟨hresolve, hat⟩ := find_eq_ok_iff.1 hfind
  obtain ⟨above, hbase, hrest⟩ := exists_of_resolveFrom_append (resolveFrom_of_resolve hresolve)
  obtain rfl := eq_append_of_resolveFrom hparent hrest
  obtain ⟨first, more, rfl⟩ := List.exists_cons_of_ne_nil hne
  have hdirectory := (resolveFrom_cons_eq_ok_iff.1 hrest).1
  have hsmall := Nat.lt_of_le_of_lt (byteSize_le_append names (first :: more))
    (byteSize_lt_of_find hfind)
  exact ⟨hne, above, find_eq_ok_iff.2 ⟨(resolve_below hsmall).trans hbase, hdirectory⟩, hat⟩

theorem isStep_parent : IsStep ".." := ⟨by decide, by decide, by decide, by decide, by decide⟩

theorem admits_of_isStep {names : List String} (h : ∀ name ∈ names, IsStep name) :
    (Location.below names).isAdmissible = true := by
  refine List.all_eq_true.2 fun name hname => ?_
  simpa using (h name hname).nul

/-- The names on a path to something are steps. -/
theorem IsProper.isStep_of_resolveFrom (ht : t.IsProper)
    (hresolve : t.resolveFrom place names = .ok reached) (hat : t.at? reached = some e) :
    ∀ name ∈ names, IsStep name := by
  induction names generalizing place with
  | nil => simp
  | cons name names ih =>
    obtain ⟨-, next, hnext, hrest⟩ := resolveFrom_cons_eq_ok_iff.1 hresolve
    rw [List.forall_mem_cons]
    refine ⟨?_, ih hrest⟩
    rcases stepFrom_cases hnext with ⟨rfl, -⟩ | ⟨-, rfl⟩
    · exact isStep_parent
    · -- The place of the name is taken: the path ends there, or goes on from there.
      have htaken : ∃ e', t.at? (place ++ [name]) = some e' := by
        cases names with
        | nil =>
          obtain rfl := Except.ok.inj hrest
          exact ⟨e, hat⟩
        | cons second names => exact ⟨_, (resolveFrom_cons_eq_ok_iff.1 hrest).1⟩
      obtain ⟨e', he'⟩ := htaken
      exact (ht.named _ e' he' name (by simp)).toIsStep

/-- A parent step leads to a directory. -/
theorem IsProper.eq_directory_of_find (ht : t.IsProper)
    (h : t.find (.below (names ++ [".."])) = .ok (place, e)) : e = .directory := by
  obtain ⟨hresolve, hat⟩ := find_eq_ok_iff.1 h
  obtain ⟨above, -, hlast⟩ := exists_of_resolveFrom_append (resolveFrom_of_resolve hresolve)
  obtain ⟨hdirectory, next, hnext, hrest⟩ := resolveFrom_cons_eq_ok_iff.1 hlast
  obtain rfl : next = place := Except.ok.inj hrest
  rcases stepFrom_cases hnext with ⟨-, hne, rfl⟩ | ⟨hne, -⟩
  · -- What stands above a directory is a directory, too.
    rw [← List.dropLast_append_getLast hne] at hdirectory
    exact Option.some.inj (hat.symm.trans (ht.closed _ _ _ hdirectory))
  · exact absurd rfl hne

/-- A path that is not too long is followed if the way to its start can be. -/
theorem find_join_ne_nameTooLong {base : Location} (hbase : t.resolve base ≠ .error .nameTooLong)
    (hne : rel ≠ []) (hrel : ∀ name ∈ rel, IsStep name)
    (hsize : (base.join (pathText rel)).byteSize < pathLimit) :
    t.find (base.join (pathText rel)) ≠ .error .nameTooLong := by
  apply find_ne_nameTooLong
  cases base with
  | elsewhere path =>
    rw [Location.join_pathText_elsewhere path hne hrel] at hsize ⊢
    rw [resolve, if_neg (Nat.not_le.2 hsize)]
    simp
  | below names =>
    rw [Location.join_pathText hne hrel] at hsize ⊢
    have hsmall := Nat.lt_of_le_of_lt (byteSize_le_append names rel) hsize
    rw [resolve_below hsmall] at hbase
    rw [resolve_below hsize, resolveFrom_append]
    cases hfront : t.resolveFrom [] names with
    | error fault =>
      rw [hfront] at hbase
      exact hbase
    | ok reached => exact t.resolveFrom_ne_nameTooLong (fun name h => (hrel name h).short) reached

/-- **A file below a directory is found** on the path that goes on from it. -/
theorem IsProper.find_join (ht : t.IsProper) {base : Location} (h : t.Has base rel e)
    (hsize : (base.join (pathText rel)).byteSize < pathLimit) :
    (base.join (pathText rel)).isAdmissible = true ∧
      ∃ place, t.find (base.join (pathText rel)) = .ok (place, e) := by
  obtain ⟨hne, place, hfind, hat⟩ := h
  obtain ⟨hresolve, hdirectory⟩ := find_eq_ok_iff.1 hfind
  obtain ⟨names, rfl, hnames⟩ := exists_below_of_resolve hresolve
  have hrel : ∀ name ∈ rel, IsStep name := fun name hname =>
    (ht.named _ e hat name (List.mem_append_right place hname)).toIsStep
  rw [Location.join_pathText hne hrel] at hsize ⊢
  refine ⟨admits_of_isStep fun name hname => ?_, _, ht.find_below hfind hat hsize⟩
  rcases List.mem_append.1 hname with hname | hname
  · exact ht.isStep_of_resolveFrom hnames hdirectory name hname
  · exact hrel name hname

/-- **What is found on a path that goes on from a directory** stands below it, if it is a file. -/
theorem IsProper.has_of_find_join (ht : t.IsProper) {base : Location} {name : String}
    {content : Content} {mode : Nat} (hrel : ∀ x ∈ rel, IsFileName x) (hname : IsStep name)
    (hfind : t.find (base.join (pathText (rel ++ [name]))) = .ok (place, .file content mode)) :
    t.Has base (rel ++ [name]) (.file content mode) := by
  have hsteps : ∀ x ∈ rel ++ [name], IsStep x :=
    List.forall_mem_append.2 ⟨fun x hx => (hrel x hx).toIsStep, List.forall_mem_singleton.2 hname⟩
  cases base with
  | elsewhere path =>
    rw [Location.join_pathText_elsewhere path (by simp) hsteps] at hfind
    obtain ⟨_, hnames, -⟩ := exists_below_of_resolve (find_eq_ok_iff.1 hfind).1
    cases hnames
  | below names =>
    rw [Location.join_pathText (by simp) hsteps] at hfind
    have hparent : ".." ∉ rel ++ [name] := by
      intro hmem
      rcases List.mem_append.1 hmem with hmem | hmem
      · exact (hrel _ hmem).noParent rfl
      · obtain rfl := List.mem_singleton.1 hmem
        rw [← List.append_assoc] at hfind
        cases ht.eq_directory_of_find hfind
    exact has_of_find (by simp) hparent hfind

/-- A file on a path that goes on from a directory. -/
def HasFile (t : FileTree) (base : Location) (text : String) (content : Content) (mode : Nat) :
    Prop :=
  ∃ rel, pathText rel = text ∧ t.Has base rel (.file content mode)

end FileTree

/-! ## Searches -/

namespace FileSearch

variable {s : FileSearch} {t : FileTree} {base : Location} {n text : String} {content : Content}
  {mode : Nat}

/-- **The first of the directories that has a file on a path.** -/
def First (s : FileSearch) (t : FileTree) (text : String) (base : Location) (content : Content)
    (mode : Nat) : Prop :=
  ∃ front back, s.paths = front ++ base :: back ∧ t.HasFile base text content mode ∧
    ∀ earlier ∈ front, ∀ content' mode', ¬ t.HasFile earlier text content' mode'

/-- What reading a file gives: its text, if it may be read and is written in the charset of the
search. -/
def load (s : FileSearch) (t : FileTree) (path : Location) (content : Content) (mode : Nat) :
    Except Fault Found :=
  if FileTree.isReadable mode then
    (textOf s.encoding content).map fun text => ⟨.text text, .text (path.text t.rootText)⟩
  else .error (.file .denied)

/-- **A path that can be followed from all directories.** -/
structure Follows (s : FileSearch) (t : FileTree) (text : String) : Prop where
  steps : ∃ rel name, pathText (rel ++ [name]) = text ∧ (∀ x ∈ rel, IsFileName x) ∧ IsStep name
  bases : ∀ base ∈ s.paths, t.resolve base ≠ .error .nameTooLong
  sizes : ∀ base ∈ s.paths, (base.join text).byteSize < FileTree.pathLimit

/-- A search goes on where there is no file. -/
theorem Follows.go_of_not_hasFile (ht : t.IsProper) (h : s.Follows t (s.fileName n))
    (hbase : base ∈ s.paths) (hnone : ∀ content mode, ¬ t.HasFile base (s.fileName n) content mode)
    (others : List Location) : find.go s t n (base :: others) = find.go s t n others := by
  obtain ⟨rel, name, htext, hrel, hname⟩ := h.steps
  have hsteps : ∀ x ∈ rel ++ [name], IsStep x :=
    List.forall_mem_append.2 ⟨fun x hx => (hrel x hx).toIsStep, List.forall_mem_singleton.2 hname⟩
  have hlong := FileTree.find_join_ne_nameTooLong (h.bases base hbase) (by simp) hsteps
    (htext ▸ h.sizes base hbase)
  have hfile : t.isFile (base.join (s.fileName n)) = .ok false := by
    rw [FileTree.isFile, FileTree.test, ← htext]
    cases hfind : t.find (base.join (pathText (rel ++ [name]))) with
    | error fault => cases fault <;> first | rfl | exact absurd hfind hlong
    | ok found =>
      obtain ⟨place, e⟩ := found
      cases e with
      | directory => rfl
      | file content mode =>
        exact absurd ⟨_, htext, ht.has_of_find_join hrel hname hfind⟩ (hnone content mode)
  rw [find.go, hfile]
  split <;> rfl

/-- A search ends where there is a file. -/
theorem Follows.go_of_hasFile (ht : t.IsProper) (h : s.Follows t (s.fileName n))
    (hbase : base ∈ s.paths) (hfile : t.HasFile base (s.fileName n) content mode)
    (others : List Location) : find.go s t n (base :: others) =
      s.load t (base.join (s.fileName n)) content mode := by
  have hsize := h.sizes base hbase
  obtain ⟨rel, htext, hhas⟩ := hfile
  rw [← htext] at hsize
  obtain ⟨hadmits, place, hfind⟩ := ht.find_join hhas hsize
  rw [htext] at hadmits hfind
  have hfile : t.isFile (base.join (s.fileName n)) = .ok true := by
    rw [FileTree.isFile, FileTree.test, hfind]
    rfl
  have hread : t.read (base.join (s.fileName n)) =
      if FileTree.isReadable mode then .ok content else .error .denied := by
    rw [FileTree.read, hfind]
  rw [find.go, hadmits, hfile, hread, load]
  cases FileTree.isReadable mode with
  | false => rfl
  | true =>
    cases htext : textOf s.encoding content with
    | error fault => simp [htext, Except.map]
    | ok text => simp [htext, Except.map]

theorem Follows.go_append (ht : t.IsProper) (h : s.Follows t (s.fileName n))
    {front : List Location} (hfront : ∀ base ∈ front, base ∈ s.paths)
    (hnone : ∀ base ∈ front, ∀ content mode, ¬ t.HasFile base (s.fileName n) content mode)
    (back : List Location) : find.go s t n (front ++ back) = find.go s t n back := by
  induction front with
  | nil => rfl
  | cons base front ih =>
    rw [List.forall_mem_cons] at hfront hnone
    rw [List.cons_append, h.go_of_not_hasFile ht hfront.1 hnone.1, ih hfront.2 hnone.2]

/-- **A search ends in the first directory** that has the file. -/
theorem Follows.find_of_first (ht : t.IsProper) (h : s.Follows t (s.fileName n))
    (hfirst : s.First t (s.fileName n) base content mode) :
    s.find t n = s.load t (base.join (s.fileName n)) content mode := by
  obtain ⟨front, back, hpaths, hfile, hnone⟩ := hfirst
  rw [find, hpaths, h.go_append ht (fun base hbase => by simp [hpaths, hbase]) hnone]
  exact h.go_of_hasFile ht (by simp [hpaths]) hfile back

/-- **A search without a file** tells the name and the directories. -/
theorem Follows.find_of_none (ht : t.IsProper) (h : s.Follows t (s.fileName n))
    (hnone : ∀ base ∈ s.paths, ∀ content mode, ¬ t.HasFile base (s.fileName n) content mode) :
    s.find t n = .error (.notFound (.noFile n (s.paths.map fun p => p.text t.rootText))) := by
  have hgo := h.go_append ht (fun _ hbase => hbase) hnone []
  rw [List.append_nil] at hgo
  rw [find, hgo, find.go]

/-- If any of the directories has the file, one of them is the first. -/
theorem exists_first (hbase : base ∈ s.paths) (hfile : t.HasFile base text content mode) :
    ∃ base content mode, s.First t text base content mode := by
  classical
  let has (base : Location) : Bool := ∃ content mode, t.HasFile base text content mode
  obtain ⟨first, hfirst⟩ : ∃ first, s.paths.find? has = some first :=
    Option.isSome_iff_exists.1 (List.find?_isSome.2
      ⟨base, hbase, decide_eq_true ⟨content, mode, hfile⟩⟩)
  obtain ⟨hhas, front, back, hpaths, hnone⟩ := List.find?_eq_some_iff_append.1 hfirst
  obtain ⟨content', mode', hfile'⟩ := of_decide_eq_true hhas
  refine ⟨first, content', mode', front, back, hpaths, hfile', fun earlier hearlier => ?_⟩
  have hnot := hnone earlier hearlier
  rw [Bool.not_eq_true', decide_eq_false_iff_not] at hnot
  exact fun content mode hfile => hnot ⟨content, mode, hfile⟩

/-! ## Names that are listed -/

/-- **A name that ends with the extension itself.** The extension is not added to it again. -/
def IsDoubled (s : FileSearch) (n : String) : Prop :=
  s.extension ≠ "" ∧ n.endsWith s.extension = true

instance (s : FileSearch) (n : String) : Decidable (s.IsDoubled n) :=
  inferInstanceAs (Decidable (s.extension ≠ "" ∧ n.endsWith s.extension = true))

theorem fileName_of_isDoubled (h : s.IsDoubled n) : s.fileName n = n := by
  rw [fileName, if_neg (by simp [h.2])]

theorem fileName_of_not_isDoubled (h : ¬ s.IsDoubled n) : s.fileName n = n ++ s.extension := by
  unfold fileName
  by_cases hempty : s.extension = ""
  · rw [if_neg (by simp [hempty]), hempty, String.append_empty]
  · have hends : n.endsWith s.extension = false := by
      rw [Bool.eq_false_iff]
      exact fun hends => h ⟨hempty, hends⟩
    rw [if_pos (by simp [hempty, hends])]

/-- A name that ends with the extension is a step if it is one of a file with the extension once
more. -/
theorem isStep_of_append {name : String} (hname : IsFileName (name ++ s.extension))
    (hempty : s.extension ≠ "") (hends : s.extension.toList <:+ name.toList) : IsStep name where
  nonempty := by
    rintro rfl
    exact hempty (String.toList_eq_nil_iff.1 (List.suffix_nil.1 hends))
  noPoint := by
    rintro rfl
    -- The extension is the point, so the whole name is the parent step.
    rcases List.suffix_cons_iff.1 hends with hpoint | hnil
    · have hext : s.extension = "." := String.toList_inj.1 hpoint
      exact hname.noParent (by rw [hext]; rfl)
    · exact hempty (String.toList_eq_nil_iff.1 (List.suffix_nil.1 hnil))
  slash := fun hmem => hname.slash (by simp [hmem])
  nul := fun hmem => hname.nul (by simp [hmem])
  short := by
    have hshort := hname.short
    rw [String.utf8ByteSize_append] at hshort
    omega

/-- The path on which a name that is listed is searched for: it differs in its last name from that
for which the name is listed, if at all. -/
theorem exists_snoc_fileName_eq (hs : s.IsLiteral) {rel : List String} (hne : rel ≠ [])
    (hrel : ∀ x ∈ rel, IsFileName x) (htext : pathText rel = n ++ s.extension) :
    ∃ front name last, pathText (front ++ [name]) = s.fileName n ∧ rel = front ++ [last] ∧
      IsStep name ∧ name.utf8ByteSize ≤ last.utf8ByteSize := by
  obtain ⟨front, last, rfl⟩ : ∃ front last, rel = front ++ [last] :=
    ⟨_, _, (List.dropLast_append_getLast hne).symm⟩
  have hlast := hrel last (by simp)
  by_cases hdoubled : s.IsDoubled n
  · -- The last name without the extension is the last one of the name that is listed.
    obtain ⟨start, hstart⟩ : s.extension.toList <:+ last.toList := by
      rw [← suffix_pathText_snoc_iff hs.slash, htext, String.toList_append]
      exact List.suffix_append _ _
    obtain rfl : last = String.ofList start ++ s.extension :=
      String.toList_inj.1 (by simp [hstart])
    have hname : pathText (front ++ [String.ofList start]) = n := by
      obtain ⟨before, -, hbefore⟩ := exists_toList_pathText_eq front
      have hlist := congrArg String.toList htext
      rw [hbefore, String.toList_append, String.toList_append, ← List.append_assoc,
        List.append_left_inj] at hlist
      exact String.toList_inj.1 ((hbefore _).trans hlist)
    have hends : s.extension.toList <:+ (String.ofList start).toList := by
      rw [← suffix_pathText_snoc_iff hs.slash, hname]
      exact endsWith_iff.1 hdoubled.2
    refine ⟨front, _, _, ?_, rfl, isStep_of_append hlast hdoubled.1 hends, ?_⟩
    · rw [fileName_of_isDoubled hdoubled, hname]
    · rw [String.utf8ByteSize_append]
      omega
  · refine ⟨front, last, last, ?_, rfl, hlast.toIsStep, Nat.le_refl _⟩
    rw [fileName_of_not_isDoubled hdoubled, htext]

/-- The path for a name that is listed can be followed from all directories. -/
theorem InReach.follows (hreach : s.InReach t) (hs : s.IsLiteral) (ht : t.IsProper)
    {rel : List String} {e : Entry} (hbase : base ∈ s.paths) (hhas : t.Has base rel e)
    (htext : pathText rel = n ++ s.extension) : s.Follows t (s.fileName n) := by
  obtain ⟨hne, place, -, hat⟩ := id hhas
  have hrel : ∀ x ∈ rel, IsFileName x := fun x hx =>
    ht.named _ e hat x (List.mem_append_right place hx)
  obtain ⟨front, name, last, hname, rfl, hstep, hsize⟩ := exists_snoc_fileName_eq hs hne hrel htext
  have hfront : ∀ x ∈ front, IsFileName x := fun x hx => hrel x (by simp [hx])
  refine ⟨⟨front, name, hname, hfront, hstep⟩, fun other hother => (hreach other hother).1,
    fun other hother => ?_⟩
  rw [← hname]
  exact Nat.lt_of_le_of_lt
    (other.byteSize_join_le (fun x hx => (hfront x hx).toIsStep) hstep
      (hrel last (by simp)).toIsStep hsize)
    ((hreach other hother).2 base hbase _ e hhas)

/-- **What is listed and what is found.** The names that are listed are those of all that stands on
a path with the extension at its end. The search for such a name gives the file on its path in the
first directory that has one, and if none has one, it says so. Every file with the extension at its
end is listed; the search for its name gives this file, unless an earlier directory has a file on
the same path, or the name ends with the extension even so. -/
theorem names_loadable (hs : s.IsLiteral) (ht : t.IsProper) (hreach : s.InReach t) :
    ∃ names, s.names t = .ok names ∧
      (∀ n, n ∈ names ↔ ∃ base ∈ s.paths, ∃ rel e, t.Has base rel e ∧
        pathText rel = n ++ s.extension) ∧
      (∀ n ∈ names,
        (∃ base content mode, s.First t (s.fileName n) base content mode ∧
          s.find t n = s.load t (base.join (s.fileName n)) content mode) ∨
        (∀ base ∈ s.paths, ∀ content mode, ¬ t.HasFile base (s.fileName n) content mode) ∧
          s.find t n = .error (.notFound (.noFile n (s.paths.map fun p => p.text t.rootText)))) ∧
      ∀ text base content mode, s.First t text base content mode →
        s.extension.toList <:+ text.toList →
          ∃ n ∈ names, text = n ++ s.extension ∧
            (¬ s.IsDoubled n → s.find t n = s.load t (base.join text) content mode) := by
  obtain ⟨names, hnames, hmem⟩ := exists_names_eq hs ht hreach
  refine ⟨names, hnames, hmem, fun n hn => ?_, fun text base content mode hfirst hends => ?_⟩
  · obtain ⟨base, hbase, rel, e, hhas, htext⟩ := (hmem n).1 hn
    have hfollows := hreach.follows hs ht hbase hhas htext
    by_cases hsome : ∃ base ∈ s.paths, ∃ content mode,
        t.HasFile base (s.fileName n) content mode
    · obtain ⟨other, hother, content, mode, hfile⟩ := hsome
      obtain ⟨first, content', mode', hfirst⟩ := exists_first hother hfile
      exact .inl ⟨first, content', mode', hfirst, hfollows.find_of_first ht hfirst⟩
    · have hnone : ∀ base ∈ s.paths, ∀ content mode,
          ¬ t.HasFile base (s.fileName n) content mode :=
        fun base hbase content mode hfile => hsome ⟨base, hbase, content, mode, hfile⟩
      exact .inr ⟨hnone, hfollows.find_of_none ht hnone⟩
  · obtain ⟨front, back, hpaths, ⟨rel, hrel, hhas⟩, -⟩ := id hfirst
    obtain ⟨start, hstart⟩ := hends
    have htext : text = String.ofList start ++ s.extension :=
      String.toList_inj.1 (by simp [hstart])
    have hbase : base ∈ s.paths := by simp [hpaths]
    refine ⟨String.ofList start, (hmem _).2 ⟨base, hbase, rel, _, hhas, hrel.trans htext⟩, htext,
      fun hdoubled => ?_⟩
    have hname := (fileName_of_not_isDoubled hdoubled).trans htext.symm
    have hfollows := hreach.follows hs ht hbase hhas (hrel.trans htext)
    rw [← hname] at hfirst ⊢
    exact hfollows.find_of_first ht hfirst

/-- A directory with a template and with a directory of which the name ends like one. -/
def shelf : FileTree :=
  (((FileTree.empty "root").put ["t"] .directory).put ["t", "a.mustache"]
    (.file (.bytes [120]) FileTree.usualMode)).put ["t", "d.mustache"] .directory

/-- The search in that directory. -/
def shelved : FileSearch :=
  ⟨[.below ["t"]], FileSearch.defaultExtension, FileSearch.defaultEncoding⟩

theorem isProper_shelf : shelf.IsProper := by
  have hempty := FileTree.isProper_empty "root"
  have hdirectory := @FileTree.IsProper.put _ hempty [] "t" rfl rfl (by decide) .directory
  have hfile := @FileTree.IsProper.put _ hdirectory ["t"] "a.mustache" rfl rfl (by decide)
    (.file (.bytes [120]) FileTree.usualMode)
  exact @FileTree.IsProper.put _ hfile ["t"] "d.mustache" rfl rfl (by decide) .directory

theorem has_shelf_iff {rel : List String} {e : Entry} : shelf.Has (.below ["t"]) rel e ↔
    rel = ["a.mustache"] ∧ e = .file (.bytes [120]) FileTree.usualMode ∨
      rel = ["d.mustache"] ∧ e = .directory := by
  constructor
  · rintro ⟨hne, place, hfind, hat⟩
    obtain rfl : ["t"] = place := (Prod.mk.inj (Except.ok.inj hfind)).1
    have hmem := FileTree.mem_entries_of_at? (by simp) hat
    simpa [shelf, FileTree.put, FileTree.empty, hne, and_comm, or_comm] using hmem
  · rintro (⟨rfl, rfl⟩ | ⟨rfl, rfl⟩)
    · exact ⟨by simp, ["t"], rfl, rfl⟩
    · exact ⟨by simp, ["t"], rfl, rfl⟩

theorem inReach_shelved : shelved.InReach shelf := by
  intro base hbase
  obtain rfl := List.mem_singleton.1 hbase
  refine ⟨by decide, fun other hother rel e hhas => ?_⟩
  obtain rfl := List.mem_singleton.1 hother
  rcases has_shelf_iff.1 hhas with ⟨rfl, -⟩ | ⟨rfl, -⟩
  · decide +kernel
  · decide +kernel

/-- The template and the directory are listed; the search finds the template only. -/
theorem names_loadable_shelf : shelved.IsLiteral ∧ shelf.IsProper ∧ shelved.InReach shelf ∧
    ∃ names, shelved.names shelf = .ok names ∧ "a" ∈ names ∧ "d" ∈ names ∧
      shelved.find shelf "a" =
        shelved.load shelf (.below ["t", "a.mustache"]) (.bytes [120]) FileTree.usualMode ∧
      shelved.find shelf "d" = .error (.notFound (.noFile "d" ["root/t"])) := by
  have hliteral : shelved.IsLiteral := by decide
  obtain ⟨names, hnames, hmem, hfound, hall⟩ :=
    names_loadable hliteral isProper_shelf inReach_shelved
  have ha : "a" ∈ names := (hmem "a").2 ⟨_, List.mem_singleton_self _, _, _,
    has_shelf_iff.2 (.inl ⟨rfl, rfl⟩), rfl⟩
  have hd : "d" ∈ names := (hmem "d").2 ⟨_, List.mem_singleton_self _, _, _,
    has_shelf_iff.2 (.inr ⟨rfl, rfl⟩), rfl⟩
  refine ⟨hliteral, isProper_shelf, inReach_shelved, names, hnames, ha, hd, ?_, ?_⟩
  · have hfirst : shelved.First shelf "a.mustache" (.below ["t"]) (.bytes [120])
        FileTree.usualMode :=
      ⟨[], [], rfl, ⟨["a.mustache"], rfl, has_shelf_iff.2 (.inl ⟨rfl, rfl⟩)⟩, by simp⟩
    obtain ⟨n, -, htext, hfind⟩ := hall _ _ _ _ hfirst (by decide +kernel)
    have htext : "a" ++ ".mustache" = n ++ ".mustache" := htext
    obtain rfl := (String.append_left_inj ".mustache").1 htext
    have hpath : (Location.below ["t"]).join "a.mustache" = .below ["t", "a.mustache"] := by
      decide +kernel
    exact hpath ▸ hfind (by decide +kernel)
  · rcases hfound "d" hd with ⟨base, content, mode, ⟨front, back, hpaths, hfile, -⟩, -⟩ | ⟨-, hfind⟩
    · obtain ⟨rel, htext, hhas⟩ := hfile
      have hbase : base ∈ shelved.paths := by simp [hpaths]
      obtain rfl := List.mem_singleton.1 hbase
      rcases has_shelf_iff.1 hhas with ⟨rfl, -⟩ | ⟨-, he⟩
      · exact absurd htext (by decide +kernel)
      · cases he
    · exact hfind

end FileSearch

end Mustache
