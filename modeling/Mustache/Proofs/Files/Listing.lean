import Mustache.Loader
import Mustache.Proofs.Files.Grown
import Mustache.Proofs.Text.Occurrence
import Mustache.Proofs.Text.ShownLine

/-!
# The names of template files

The names of the template files below a directory are told from the paths on which something with
the extension stands. An extension in which no character has a meaning of its own in patterns finds
just the names that end with it. Files and directories are found alike.

## Main definitions

* `Mustache.pathText`, `Mustache.IsFileName` — paths as texts, and the names in them.
* `Mustache.FileTree.IsProper` — file trees as they are on a disk.
* `Mustache.FileTree.Has` — what stands on a path below a directory.
* `Mustache.FileSearch.IsLiteral` — an extension that finds the names that end with it.
* `Mustache.FileSearch.InReach` — no path is too long to be followed.

## Main results

* `Mustache.namesIn_pathText` — a path is told from its text.
* `Mustache.PathPattern.exists_select_eq` — the paths to which a pattern for an ending leads.
* `Mustache.FileSearch.exists_names_eq` — the names that are listed.
-/

namespace Mustache

/-! ## Patterns for an ending -/

namespace Text

/-- Characters that stand for themselves fit nothing else. -/
theorem fits_chars_iff {cs ds : List Char} : fits (cs.map .char) ds = true ↔ ds = cs := by
  induction cs generalizing ds with
  | nil => simp [fits]
  | cons c cs ih =>
    cases ds with
    | nil => simp [fits]
    | cons d ds => simp [fits, Wildcard.covers, ih]

theorem someSuffix_iff {test : List Char → Bool} {cs : List Char} :
    someSuffix test cs = true ↔ ∃ ds, ds <:+ cs ∧ test ds = true := by
  induction cs with
  | nil => simp [someSuffix]
  | cons c cs ih =>
    rw [someSuffix, Bool.or_eq_true, ih]
    constructor
    · rintro (h | ⟨ds, hds, h⟩)
      · exact ⟨c :: cs, List.suffix_rfl, h⟩
      · exact ⟨ds, hds.trans (List.suffix_cons c cs), h⟩
    · rintro ⟨ds, hds, h⟩
      rcases List.suffix_cons_iff.1 hds with rfl | hds
      · exact .inl h
      · exact .inr ⟨ds, hds, h⟩

/-- **A pattern for an ending** fits the texts that end with it. -/
theorem fits_stretch_iff {cs ds : List Char} :
    fits (.stretch :: cs.map .char) ds = true ↔ cs <:+ ds := by
  rw [fits, someSuffix_iff]
  simp only [fits_chars_iff]
  constructor
  · rintro ⟨_, hds, rfl⟩
    exact hds
  · intro h
    exact ⟨cs, h, rfl⟩

/-- The pieces of a text in which no character has a meaning of its own. -/
theorem wildcardsFrom_literal {cs : List Char} (h : ∀ c ∈ cs, c ≠ '*' ∧ c ≠ '?' ∧ c ≠ '[') :
    wildcardsFrom cs.length cs = cs.map .char := by
  induction cs with
  | nil => rfl
  | cons c cs ih =>
    rw [List.forall_mem_cons] at h
    rw [List.length_cons, wildcardsFrom, ih h.2, List.map_cons]
    · exact fun heq => h.1.1 heq
    · exact fun heq => h.1.2.1 heq
    · exact fun heq => h.1.2.2 heq

end Text

/-! ## Paths and their texts -/

/-- The text of a path, with slashes between its names. -/
def pathText (names : List String) : String := "/".intercalate names

/-- **A step of a path**: a name, or two points for the directory above. It is not too long and has
none of the characters that take paths apart or end them. -/
structure IsStep (name : String) : Prop where
  nonempty : name ≠ ""
  noPoint : name ≠ "."
  slash : '/' ∉ name.toList
  nul : '\x00' ∉ name.toList
  short : name.utf8ByteSize ≤ FileTree.nameLimit

/-- **A name that a file can have.** -/
structure IsFileName (name : String) : Prop extends IsStep name where
  noParent : name ≠ ".."

instance (name : String) : Decidable (IsFileName name) :=
  decidable_of_iff (name ≠ "" ∧ name ≠ "." ∧ '/' ∉ name.toList ∧ '\x00' ∉ name.toList ∧
      name.utf8ByteSize ≤ FileTree.nameLimit ∧ name ≠ "..")
    ⟨fun ⟨h, h', hs, hn, hl, h''⟩ => ⟨⟨h, h', hs, hn, hl⟩, h''⟩,
      fun ⟨⟨h, h', hs, hn, hl⟩, h''⟩ => ⟨h, h', hs, hn, hl, h''⟩⟩

theorem toList_pathText (names : List String) :
    (pathText names).toList = ['/'].intercalate (names.map String.toList) := by
  rw [pathText, String.toList_intercalate]
  rfl

/-- **A path is told from its text.** -/
theorem namesIn_pathText {names : List String} (hne : names ≠ [])
    (h : ∀ name ∈ names, IsStep name) : namesIn (pathText names) = names := by
  have hfields : Text.fields '/' (pathText names).toList = names.map String.toList := by
    rw [toList_pathText, Text.fields_intercalate (by simpa using hne)]
    intro cs hcs
    obtain ⟨name, hname, rfl⟩ := List.mem_map.1 hcs
    exact (h name hname).slash
  rw [namesIn, Text.fieldsOf, hfields, List.map_map]
  have hid : names.map (String.ofList ∘ String.toList) = names := by
    simp [Function.comp_def]
  rw [hid, List.filter_eq_self]
  intro name hname
  simp [(h name hname).nonempty, (h name hname).noPoint]

/-- The last name stands at the end of the text of a path, behind a slash if there are others. -/
theorem exists_toList_pathText_eq (names : List String) :
    ∃ front, (front = [] ∨ ∃ before, front = before ++ ['/']) ∧
      ∀ name, (pathText (names ++ [name])).toList = front ++ name.toList := by
  induction names with
  | nil => exact ⟨[], .inl rfl, fun name => by simp [toList_pathText]⟩
  | cons first names ih =>
    obtain ⟨front, hslash, hfront⟩ := ih
    refine ⟨first.toList ++ ['/'] ++ front, .inr ?_, fun name => ?_⟩
    · rcases hslash with rfl | ⟨before, rfl⟩
      · exact ⟨first.toList, by simp⟩
      · exact ⟨first.toList ++ ['/'] ++ before, by simp⟩
    · obtain ⟨second, rest, hrest⟩ : ∃ second rest, names ++ [name] = second :: rest :=
        List.exists_cons_of_ne_nil (by simp)
      have htext := hfront name
      rw [toList_pathText, hrest] at htext
      rw [toList_pathText, List.cons_append, hrest, List.map_cons, List.map_cons,
        List.intercalate_cons_cons, ← List.map_cons, htext]
      simp only [List.append_assoc]

/-- An ending without a slash is one of the last name, too. -/
theorem suffix_pathText_snoc_iff {names : List String} {name : String} {ending : List Char}
    (hslash : '/' ∉ ending) :
    ending <:+ (pathText (names ++ [name])).toList ↔ ending <:+ name.toList := by
  obtain ⟨front, hcases, hfront⟩ := exists_toList_pathText_eq names
  rw [hfront]
  constructor
  · intro h
    rcases List.suffix_or_suffix_of_suffix h (List.suffix_append front name.toList) with h' | h'
    · exact h'
    · -- What is longer than the last name holds the slash in front of it.
      obtain ⟨more, rfl⟩ := h'
      obtain ⟨before, hbefore⟩ := h
      rw [← List.append_assoc, List.append_left_inj] at hbefore
      rcases List.eq_nil_or_concat more with rfl | ⟨init, c, rfl⟩
      · exact List.suffix_rfl
      · rw [List.concat_eq_append, ← List.append_assoc] at hbefore
        rcases hcases with rfl | ⟨start, rfl⟩
        · simp at hbefore
        · obtain ⟨-, rfl⟩ := List.append_singleton_inj.1 hbefore
          exact absurd (by simp) hslash
  · intro h
    exact h.trans (List.suffix_append front name.toList)

theorem startsWith_pathText {names : List String} (hne : names ≠ [])
    (h : ∀ name ∈ names, IsStep name) : (pathText names).startsWith "/" = false := by
  rw [Bool.eq_false_iff, Ne, String.startsWith_eq_startsWith_toSlice,
    String.Slice.startsWith_string_iff, String.copy_toSlice]
  obtain ⟨first, more, rfl⟩ := List.exists_cons_of_ne_nil hne
  have hfirst := h first List.mem_cons_self
  obtain ⟨c, cs, hcs⟩ := List.exists_cons_of_ne_nil
    (fun hnil => hfirst.nonempty (String.toList_eq_nil_iff.1 hnil))
  have hhead : ∃ rest, (pathText (first :: more)).toList = c :: rest := by
    rw [toList_pathText]
    cases more with
    | nil => exact ⟨cs, by simp [hcs]⟩
    | cons second more =>
      rw [List.map_cons, List.map_cons, List.intercalate_cons_cons, hcs]
      exact ⟨_, rfl⟩
  obtain ⟨rest, hrest⟩ := hhead
  rw [hrest]
  intro hprefix
  obtain rfl : '/' = c := (List.cons_prefix_cons.1 hprefix).1
  exact hfirst.slash (hcs ▸ List.mem_cons_self)

namespace Location

/-- A path goes on with the names of another one. -/
theorem join_pathText {names rel : List String} (hne : rel ≠ []) (h : ∀ name ∈ rel, IsStep name) :
    (below names).join (pathText rel) = below (names ++ rel) := by
  rw [join, startsWith_pathText hne h, namesIn_pathText hne h]
  rfl

theorem join_pathText_elsewhere (path : String) {rel : List String} (hne : rel ≠ [])
    (h : ∀ name ∈ rel, IsStep name) :
    (elsewhere path).join (pathText rel) = elsewhere (pathText (path :: rel)) := by
  rw [join, startsWith_pathText hne h, namesIn_pathText hne h]
  rfl

/-- A path is not longer than one with a longer name at its end. -/
theorem byteSize_join_le (base : Location) {names : List String} {name name' : String}
    (h : ∀ x ∈ names, IsStep x) (hname : IsStep name) (hname' : IsStep name')
    (hsize : name.utf8ByteSize ≤ name'.utf8ByteSize) :
    (base.join (pathText (names ++ [name]))).byteSize ≤
      (base.join (pathText (names ++ [name']))).byteSize := by
  have hsteps {x : String} (hx : IsStep x) : ∀ y ∈ names ++ [x], IsStep y :=
    List.forall_mem_append.2 ⟨h, List.forall_mem_singleton.2 hx⟩
  cases base with
  | below front =>
    rw [join_pathText (by simp) (hsteps hname), join_pathText (by simp) (hsteps hname'),
      ← List.append_assoc, ← List.append_assoc, FileTree.byteSize_snoc, FileTree.byteSize_snoc]
    omega
  | elsewhere path =>
    obtain ⟨front, -, hfront⟩ := exists_toList_pathText_eq (path :: names)
    have htext (x : String) : pathText (path :: (names ++ [x])) = String.ofList front ++ x :=
      String.toList_inj.1 (by simpa using hfront x)
    rw [join_pathText_elsewhere path (by simp) (hsteps hname),
      join_pathText_elsewhere path (by simp) (hsteps hname'), htext, htext]
    simp only [byteSize, String.utf8ByteSize_append]
    omega

end Location

/-! ## File trees -/

namespace FileTree

/-- **File trees as they are on a disk**: everything stands in a directory, a place is taken once,
and names are those that files can have. -/
structure IsProper (t : FileTree) : Prop where
  closed : t.IsClosed
  once : ∀ entry ∈ t.entries, t.at? entry.1 = some entry.2
  named : ∀ place e, t.at? place = some e → ∀ name ∈ place, IsFileName name

variable {t : FileTree}

/-- What stands somewhere below the root is one of the entries. -/
theorem mem_entries_of_at? {place : List String} {e : Entry} (hne : place ≠ [])
    (hat : t.at? place = some e) : (place, e) ∈ t.entries := by
  rw [at?_of_ne_nil t hne] at hat
  obtain ⟨before, after, hentries, -⟩ := List.lookup_eq_some_iff.1 hat
  simp [hentries]

theorem isProper_empty (rootText : String) : (empty rootText).IsProper where
  closed := isClosed_empty rootText
  once := by simp [empty]
  named := by
    intro place e hat name hname
    exact absurd (mem_entries_of_at? (List.ne_nil_of_mem hname) hat) (by simp [empty])

/-- Something new may be put into a directory. -/
theorem IsProper.put (ht : t.IsProper) {place : List String} {name : String}
    (hdirectory : t.at? place = some .directory) (hfree : t.at? (place ++ [name]) = none)
    (hname : IsFileName name) (e : Entry) : (t.put (place ++ [name]) e).IsProper where
  closed := ht.closed.put hdirectory (.inr (by simp [hfree]))
  once := by
    intro entry hentry
    rw [entries_put_of_free hfree, List.mem_cons] at hentry
    rcases hentry with rfl | hentry
    · exact at?_put_self hfree e
    · exact at?_put_of_some hfree e (ht.once entry hentry)
  named := by
    intro place' e' hat name' hname'
    rw [at?_put, if_neg (by simpa using List.ne_nil_of_mem hname')] at hat
    split at hat
    · next hsame =>
      subst hsame
      rcases List.mem_append.1 hname' with hname' | hname'
      · exact ht.named place _ hdirectory name' hname'
      · exact List.mem_singleton.1 hname' ▸ hname
    · exact ht.named place' e' hat name' hname'

/-- A name is listed in a directory if something stands there. -/
theorem IsProper.mem_namesAt_iff (ht : t.IsProper) {place : List String} {name : String} :
    name ∈ t.namesAt place ↔ ∃ e, t.at? (place ++ [name]) = some e := by
  constructor
  · intro h
    obtain ⟨entry, hentry, hlisted⟩ := List.mem_filterMap.1 h
    rw [← listed_iff.1 hlisted]
    exact ⟨entry.2, ht.once entry hentry⟩
  · rintro ⟨e, he⟩
    exact mem_namesAt_of_at? he

/-- The directories below a directory are those that stand there, and that directory itself. -/
theorem IsProper.mem_directoriesBelow_iff (ht : t.IsProper) {place rel : List String}
    (hplace : t.at? place = some .directory) :
    rel ∈ t.directoriesBelow place ↔ t.at? (place ++ rel) = some .directory := by
  unfold directoriesBelow
  rw [List.mem_cons, List.mem_filterMap]
  constructor
  · rintro (rfl | ⟨entry, hentry, h⟩)
    · rwa [List.append_nil]
    · split at h
      · next hbelow =>
        simp only [Bool.and_eq_true, List.isPrefixOf_iff_prefix, decide_eq_true_eq] at hbelow
        obtain ⟨⟨hdirectory, ⟨more, hmore⟩⟩, -⟩ := hbelow
        rw [← hmore, List.drop_left, Option.some.injEq] at h
        have hat := ht.once entry hentry
        rw [← hmore, h] at hat
        rw [hat]
        cases hkind : entry.2 with
        | directory => rfl
        | file content mode => simp [Entry.isDirectory, hkind] at hdirectory
      · simp at h
  · intro hat
    by_cases hrel : rel = []
    · exact .inl hrel
    · refine .inr ⟨(place ++ rel, .directory), mem_entries_of_at? (by simp [hrel]) hat, ?_⟩
      simp [Entry.isDirectory, List.isPrefixOf_iff_prefix, List.length_pos_iff, hrel]

/-- A path goes on from a directory to whatever stands below it. -/
theorem IsProper.resolveFrom_below (ht : t.IsProper) {place rel : List String} {e : Entry}
    (hat : t.at? (place ++ rel) = some e) : t.resolveFrom place rel = .ok (place ++ rel) := by
  induction rel using List.reverseRecOn generalizing e with
  | nil => rw [List.append_nil]; rfl
  | append_singleton rel name ih =>
    rw [← List.append_assoc] at hat
    have habove := ht.closed _ _ _ hat
    have hname := ht.named _ _ hat name (by simp)
    rw [FileTree.resolveFrom_append, ih habove, ← List.append_assoc]
    exact t.resolveFrom_singleton habove hname.noParent hname.short

/-- A path that leads somewhere is not too long. -/
theorem byteSize_lt_of_find {l : Location} {place : List String} {e : Entry}
    (h : t.find l = .ok (place, e)) : l.byteSize < pathLimit :=
  (resolve_eq_ok_iff.1 (find_eq_ok_iff.1 h).1).1

theorem find_ne_nameTooLong {l : Location} (h : t.resolve l ≠ .error .nameTooLong) :
    t.find l ≠ .error .nameTooLong := by
  unfold find
  split
  · next fault hfault =>
    rw [hfault] at h
    simpa using h
  · split <;> simp

/-- What stands below a directory is found on the path that goes on from it. -/
theorem IsProper.find_below (ht : t.IsProper) {names place rel : List String} {e : Entry}
    (hbase : t.find (.below names) = .ok (place, .directory)) (hat : t.at? (place ++ rel) = some e)
    (hsize : (Location.below (names ++ rel)).byteSize < pathLimit) :
    t.find (.below (names ++ rel)) = .ok (place ++ rel, e) := by
  refine find_eq_ok_iff.2 ⟨?_, hat⟩
  rw [resolve_below hsize, FileTree.resolveFrom_append,
    resolveFrom_of_resolve (find_eq_ok_iff.1 hbase).1]
  exact ht.resolveFrom_below hat

end FileTree

/-! ## Selections -/

theorem mapM_eq_ok {ε α β : Type} {f : α → Except ε β} {g : α → β} {xs : List α}
    (h : ∀ x ∈ xs, f x = .ok (g x)) : xs.mapM f = .ok (xs.map g) := by
  induction xs with
  | nil => rfl
  | cons x xs ih =>
    rw [List.forall_mem_cons] at h
    rw [List.mapM_cons, h.1, ih h.2]
    rfl

namespace PathPattern

variable {t : FileTree} {names place : List String}

/-- The names in a directory that fit. -/
def chosen (t : FileTree) (pieces : List Text.Wildcard) (place : List String) : List String :=
  (t.namesAt place).filter fun name => Text.fits pieces name.toList

/-- The last step of a pattern leads to the names that fit. -/
theorem selectFrom_fitting (ht : t.IsProper) (pieces : List Text.Wildcard)
    (hfind : t.find (.below names) = .ok (place, .directory)) :
    selectFrom t false [.fitting pieces] names =
      .ok ((chosen t pieces place).map fun name => names ++ [name]) := by
  have hnames : t.namesFor names pieces (fun e => e.isDirectory ||
      (List.isEmpty ([] : List PathStep) && !false)) = .ok (chosen t pieces place) := by
    unfold FileTree.namesFor chosen
    rw [hfind]
    dsimp only
    congr 1
    refine List.filter_congr fun name hname => ?_
    obtain ⟨e, he⟩ := ht.mem_namesAt_iff.1 hname
    simp [he]
  have hmap : (chosen t pieces place).mapM (fun name =>
      selectFrom t false [] (names ++ [name])) =
        .ok ((chosen t pieces place).map fun name => [names ++ [name]]) :=
    mapM_eq_ok fun name _ => by rw [selectFrom]
  rw [selectFrom]
  simp only [hnames, hmap, bind, Except.bind, pure, Except.pure]
  rw [← List.flatMap_def, ← List.map_eq_flatMap]

/-- **The paths to which a pattern for names leads**: those of everything below the directory that
has such a name. -/
theorem exists_select_eq (ht : t.IsProper) (pieces : List Text.Wildcard)
    (hfind : t.find (.below names) = .ok (place, .directory))
    (hreach : ∀ rel e, t.at? (place ++ rel) = some e →
      (Location.below (names ++ rel)).byteSize < FileTree.pathLimit) :
    ∃ paths, select t ⟨[.fitting pieces], false⟩ names = .ok paths ∧
      ∀ path, path ∈ paths ↔ ∃ rel name e, path = rel ++ [name] ∧
        t.at? (place ++ path) = some e ∧ Text.fits pieces name.toList = true := by
  have hbelow : ∀ rel ∈ t.directoriesBelow place,
      selectFrom t false [.fitting pieces] (names ++ rel) =
        .ok ((chosen t pieces (place ++ rel)).map fun name => names ++ rel ++ [name]) := by
    intro rel hrel
    have hat := (ht.mem_directoriesBelow_iff (FileTree.find_eq_ok_iff.1 hfind).2).1 hrel
    exact selectFrom_fitting ht pieces (ht.find_below hfind hat (hreach rel _ hat))
  have hselect : select t ⟨[.fitting pieces], false⟩ names =
      .ok (((t.directoriesBelow place).map fun rel =>
        (chosen t pieces (place ++ rel)).map fun name => names ++ rel ++ [name]).flatten.map
          fun path => path.drop names.length) := by
    rw [select, selectFrom]
    simp only [hfind, mapM_eq_ok hbelow, bind, Except.bind, pure, Except.pure, Except.map]
  refine ⟨_, hselect, fun path => ?_⟩
  simp only [List.mem_map, List.mem_flatten, exists_exists_and_eq_and, chosen, List.mem_filter,
    ht.mem_namesAt_iff]
  constructor
  · rintro ⟨_, ⟨rel, -, name, ⟨⟨e, he⟩, hfits⟩, rfl⟩, rfl⟩
    rw [List.append_assoc, List.drop_left]
    exact ⟨rel, name, e, rfl, by rwa [← List.append_assoc], hfits⟩
  · rintro ⟨rel, name, e, rfl, he, hfits⟩
    rw [← List.append_assoc] at he
    refine ⟨names ++ rel ++ [name], ⟨rel, ?_, name, ⟨⟨e, he⟩, hfits⟩, rfl⟩, ?_⟩
    · exact (ht.mem_directoriesBelow_iff (FileTree.find_eq_ok_iff.1 hfind).2).2
        (ht.closed _ _ _ he)
    · rw [List.append_assoc, List.drop_left]

end PathPattern

/-! ## Names -/

theorem endsWith_iff {s ending : String} :
    s.endsWith ending = true ↔ ending.toList <:+ s.toList := by
  rw [String.endsWith_eq_endsWith_toSlice, String.Slice.endsWith_string_iff, String.copy_toSlice]

/-- An ending is taken off. -/
theorem withoutSuffix_append (s ending : String) : withoutSuffix (s ++ ending) ending = s := by
  unfold withoutSuffix
  by_cases hempty : ending = ""
  · simp [hempty]
  · have hends : (s ++ ending).endsWith ending = true := by
      rw [endsWith_iff, String.toList_append]
      exact List.suffix_append _ _
    rw [if_pos (by simp [hempty, hends]), String.length_append, Nat.add_sub_cancel,
      String.toList_append, ← String.length_toList, List.take_left, String.ofList_toList]

theorem eraseRepsBy_loop_mem {α : Type} [BEq α] [LawfulBEq α] (a : α) (xs acc : List α) (b : α) :
    b ∈ List.eraseRepsBy.loop (· == ·) a xs acc ↔ b = a ∨ b ∈ xs ∨ b ∈ acc := by
  induction xs generalizing a acc with
  | nil => simp [List.eraseRepsBy.loop, or_comm]
  | cons x xs ih =>
    rw [List.eraseRepsBy.loop]
    cases hsame : a == x with
    | true =>
      rw [beq_iff_eq] at hsame
      simp only [ih, hsame, List.mem_cons]
      tauto
    | false =>
      simp only [ih, List.mem_cons]
      tauto

/-- Sorting names and leaving out repetitions keeps the names. -/
theorem mem_sortedUnique {names : List String} {n : String} :
    n ∈ sortedUnique names ↔ n ∈ names := by
  have hsorted : n ∈ names.mergeSort (fun s t => decide (s ≤ t)) ↔ n ∈ names :=
    List.mem_mergeSort
  unfold sortedUnique
  rw [← hsorted]
  cases names.mergeSort fun s t => decide (s ≤ t) with
  | nil => rfl
  | cons a as =>
    rw [List.mem_cons]
    exact (eraseRepsBy_loop_mem a as [] n).trans (by simp)

/-- What stands on a path below a directory. -/
def FileTree.Has (t : FileTree) (base : Location) (rel : List String) (e : Entry) : Prop :=
  rel ≠ [] ∧ ∃ place, t.find base = .ok (place, .directory) ∧ t.at? (place ++ rel) = some e

namespace FileSearch

/-- **An extension that finds the names that end with it**: no character in it takes paths apart or
has a meaning of its own in patterns. -/
def IsLiteral (s : FileSearch) : Prop :=
  ∀ c ∈ s.extension.toList, c ≠ '/' ∧ c ≠ '*' ∧ c ≠ '?' ∧ c ≠ '['

instance (s : FileSearch) : Decidable s.IsLiteral := List.decidableBAll _ s.extension.toList

/-- **No path is too long to be followed**: neither those of the directories, nor those on which a
name is searched for that stands below one of them. -/
def InReach (s : FileSearch) (t : FileTree) : Prop :=
  ∀ base ∈ s.paths, t.resolve base ≠ .error .nameTooLong ∧
    ∀ other ∈ s.paths, ∀ rel e, t.Has other rel e →
      (base.join (pathText rel)).byteSize < FileTree.pathLimit

variable {s : FileSearch} {t : FileTree}

theorem IsLiteral.slash (hs : s.IsLiteral) : '/' ∉ s.extension.toList := fun hmem =>
  (hs _ hmem).1 rfl

theorem toList_pattern (s : FileSearch) :
    ("*" ++ s.extension).toList = '*' :: s.extension.toList := by
  simp

/-- An extension of names is one step of a pattern. -/
theorem IsLiteral.step_eq (hs : s.IsLiteral) : PathStep.ofText? ("*" ++ s.extension) =
    some (.fitting (.stretch :: s.extension.toList.map .char)) := by
  have hstar : '*' ∉ s.extension.toList := fun hmem => (hs _ hmem).2.1 rfl
  have hone : "*" ++ s.extension ≠ "**" := by
    intro heq
    have hlist := congrArg String.toList heq
    rw [toList_pattern] at hlist
    exact hstar (by rw [(List.cons.inj hlist).2]; decide)
  have hcut : Text.cut? ['*', '*'] ("*" ++ s.extension).toList = none := by
    rw [toList_pattern, Text.cut?_eq_none_iff]
    rintro i ⟨rest, hrest⟩
    have htail := congrArg List.tail hrest
    rw [List.tail_drop, List.drop_succ_cons] at htail
    exact hstar (List.mem_of_mem_drop (i := i) (htail ▸ List.mem_cons_self))
  have hany : ("*" ++ s.extension).any (fun c => c == '*' || c == '?' || c == '[') = true := by
    show ("*" ++ s.extension).contains (fun c => c == '*' || c == '?' || c == '[') = true
    rw [String.contains_bool_eq, toList_pattern]
    rfl
  have hpieces : Text.wildcards ('*' :: s.extension.toList) =
      .stretch :: s.extension.toList.map .char := by
    rw [Text.wildcards, List.length_cons, Text.wildcardsFrom,
      Text.wildcardsFrom_literal fun c hc => (hs c hc).2]
  unfold PathStep.ofText?
  rw [if_neg (by simpa using hone), hcut, if_neg (by simp), if_pos hany, toList_pattern, hpieces]

/-- **The pattern for an extension.** -/
theorem IsLiteral.ofText?_eq (hs : s.IsLiteral) : PathPattern.ofText? ("*" ++ s.extension) =
    some ⟨[.fitting (.stretch :: s.extension.toList.map .char)], false⟩ := by
  have hslash : '/' ∉ '*' :: s.extension.toList := by
    rw [List.mem_cons, not_or]
    exact ⟨by decide, hs.slash⟩
  have hfields : Text.fieldsOf '/' ("*" ++ s.extension) = ["*" ++ s.extension] := by
    rw [Text.fieldsOf, toList_pattern, Text.fields_of_notMem hslash, List.map_singleton,
      ← toList_pattern, String.ofList_toList]
  have hnames : namesIn ("*" ++ s.extension) = ["*" ++ s.extension] := by
    have hother (u : String) (hu : '*' ∉ u.toList) : "*" ++ s.extension ≠ u := by
      rintro rfl
      exact hu (by simp)
    rw [namesIn, hfields, List.filter_eq_self, List.forall_mem_singleton]
    simp [hother "" (by decide), hother "." (by decide)]
  have hends : ("*" ++ s.extension).endsWith "/" = false := by
    rw [Bool.eq_false_iff, Ne, endsWith_iff, toList_pattern]
    intro h
    exact hslash (h.subset (by simp))
  simp [PathPattern.ofText?, hnames, hs.step_eq, hends]

/-- A path that is not too long leads to a directory, or is told to lead to none. -/
theorem isDirectory_cases (t : FileTree) (base : Location)
    (hbase : t.resolve base ≠ .error .nameTooLong) :
    (∃ place names, base = .below names ∧ t.find base = .ok (place, .directory)) ∨
    (∀ place, t.find base ≠ .ok (place, .directory)) ∧ t.isDirectory base = .ok false := by
  cases hfind : t.find base with
  | ok found =>
    obtain ⟨place, e⟩ := found
    cases e with
    | file content mode =>
      refine .inr ⟨by simp, ?_⟩
      rw [FileTree.isDirectory, FileTree.test, hfind]
      rfl
    | directory =>
      obtain ⟨names, rfl, -⟩ := FileTree.exists_below_of_resolve (FileTree.find_eq_ok_iff.1 hfind).1
      exact .inl ⟨place, names, rfl, rfl⟩
  | error fault =>
    have hlong := FileTree.find_ne_nameTooLong hbase
    rw [hfind] at hlong
    refine .inr ⟨by simp, ?_⟩
    rw [FileTree.isDirectory, FileTree.test, hfind]
    cases fault <;> first | rfl | exact absurd rfl hlong

/-- The names that are listed below a directory that is there. -/
theorem exists_namesBelow_of_directory (hs : s.IsLiteral) (ht : t.IsProper)
    {names place : List String} (hfind : t.find (.below names) = .ok (place, .directory))
    (hreach : ∀ rel e, t.Has (.below names) rel e →
      ((Location.below names).join (pathText rel)).byteSize < FileTree.pathLimit) :
    ∃ found, s.namesBelow t (.below names) = .ok found ∧ ∀ n, n ∈ found ↔
      ∃ rel e, t.Has (.below names) rel e ∧ pathText rel = n ++ s.extension := by
  have hhas {rel : List String} {e : Entry} (hat : t.at? (place ++ rel) = some e)
      (hrel : rel ≠ []) : t.Has (.below names) rel e := ⟨hrel, place, hfind, hat⟩
  obtain ⟨paths, hselect, hpaths⟩ := PathPattern.exists_select_eq ht
    (.stretch :: s.extension.toList.map .char) hfind fun rel e hat => by
      by_cases hrel : rel = []
      · rw [hrel, List.append_nil]
        exact FileTree.byteSize_lt_of_find hfind
      · rw [← Location.join_pathText hrel fun name hname =>
          (ht.named _ e hat name (List.mem_append_right place hname)).toIsStep]
        exact hreach rel e (hhas hat hrel)
  unfold namesBelow
  rw [FileTree.isDirectory_of_find hfind]
  simp only [hs.ofText?_eq, hselect]
  refine ⟨_, rfl, fun n => ?_⟩
  rw [List.mem_map]
  constructor
  · rintro ⟨path, hpath, rfl⟩
    obtain ⟨rel, name, e, rfl, hat, hname⟩ := (hpaths path).1 hpath
    obtain ⟨front, hfront⟩ : s.extension.toList <:+ (pathText (rel ++ [name])).toList :=
      (suffix_pathText_snoc_iff hs.slash).2 (Text.fits_stretch_iff.1 hname)
    have htext : pathText (rel ++ [name]) = String.ofList front ++ s.extension :=
      String.toList_inj.1 (by simp [hfront])
    refine ⟨rel ++ [name], e, hhas hat (by simp), ?_⟩
    show pathText (rel ++ [name]) = withoutSuffix (pathText (rel ++ [name])) _ ++ _
    rw [htext, withoutSuffix_append]
  · rintro ⟨rel, e, ⟨hrel, place', hfind', hat⟩, htext⟩
    obtain ⟨rfl, -⟩ := Prod.mk.inj (Except.ok.inj (hfind.symm.trans hfind'))
    obtain ⟨init, name, rfl⟩ : ∃ init name, rel = init ++ [name] :=
      ⟨_, _, (List.dropLast_append_getLast hrel).symm⟩
    refine ⟨init ++ [name], (hpaths _).2 ⟨init, name, e, rfl, hat, ?_⟩, ?_⟩
    · rw [Text.fits_stretch_iff, ← suffix_pathText_snoc_iff hs.slash, htext, String.toList_append]
      exact List.suffix_append _ _
    · show withoutSuffix (pathText (init ++ [name])) _ = n
      rw [htext, withoutSuffix_append]

/-- **The names that are listed below one directory** are those of all that stands on a path with
the extension at its end. -/
theorem exists_namesBelow_eq (hs : s.IsLiteral) (ht : t.IsProper) {base : Location}
    (hbase : t.resolve base ≠ .error .nameTooLong)
    (hreach : ∀ rel e, t.Has base rel e →
      (base.join (pathText rel)).byteSize < FileTree.pathLimit) :
    ∃ found, s.namesBelow t base = .ok found ∧
      ∀ n, n ∈ found ↔ ∃ rel e, t.Has base rel e ∧ pathText rel = n ++ s.extension := by
  rcases isDirectory_cases t base hbase with ⟨place, names, rfl, hfind⟩ | ⟨hnone, hdirectory⟩
  · exact exists_namesBelow_of_directory hs ht hfind hreach
  · unfold namesBelow
    rw [hdirectory]
    refine ⟨[], by cases base <;> rfl, fun n => ?_⟩
    simp only [List.not_mem_nil, false_iff]
    rintro ⟨rel, e, ⟨-, place, hfind, -⟩, -⟩
    exact hnone place hfind

/-- **The names that are listed** are those of all that stands below one of the directories on a
path with the extension at its end, files and directories alike. -/
theorem exists_names_eq (hs : s.IsLiteral) (ht : t.IsProper) (hreach : s.InReach t) :
    ∃ names, s.names t = .ok names ∧ ∀ n, n ∈ names ↔ ∃ base ∈ s.paths, ∃ rel e,
      t.Has base rel e ∧ pathText rel = n ++ s.extension := by
  have hbelow : ∀ base ∈ s.paths, ∃ found, s.namesBelow t base = .ok found ∧
      ∀ n, n ∈ found ↔ ∃ rel e, t.Has base rel e ∧ pathText rel = n ++ s.extension := by
    intro base hbase
    exact exists_namesBelow_eq hs ht (hreach base hbase).1 fun rel e hhas =>
      (hreach base hbase).2 base hbase rel e hhas
  choose! found hfound hmem using hbelow
  refine ⟨_, by rw [names, mapM_eq_ok hfound]; rfl, fun n => ?_⟩
  rw [mem_sortedUnique, List.mem_flatten]
  simp only [List.mem_map, exists_exists_and_eq_and]
  exact ⟨fun ⟨base, hbase, hn⟩ => ⟨base, hbase, (hmem base hbase n).1 hn⟩,
    fun ⟨base, hbase, hn⟩ => ⟨base, hbase, (hmem base hbase n).2 hn⟩⟩

end FileSearch

end Mustache
