import Mustache.Proofs.Cache.Key
import Mustache.Proofs.Session.Twin
import Mustache.Proofs.Text.Fields

/-!
# Writing to a directory of stored trees

A tree is stored in a directory by a series of calls to the file system, any of which may fail. If
the directory is in order, the only way to fail is the fault that says so, and nothing but files and
records is changed on the way.

## Main definitions

* `Mustache.CacheDirectory.InOrder` — a directory that can be written as far as it can be told
  beforehand.
* `Mustache.OnlyFiles` — actions that change nothing but files and records.

## Main results

* `Mustache.CacheDirectory.inOrder_of_below` — when a directory below the root is in order.
* `Mustache.CacheDirectory.onlyFiles_dump` — storing a tree.
-/

namespace Mustache

/-! ## Actions on files -/

/-- **An action that changes nothing but files and records**, and that ends well unless a cache
could not be written. -/
def OnlyFiles (levels : Levels) (act : Action Unit) : Prop :=
  ∀ s : Session, s.levels = levels → ∃ files records,
    act s = .ok () { s with files, records } ∨
      ∃ e : Fault, e.IsUnwritten ∧ act s = .error e { s with files, records }

namespace OnlyFiles

variable {levels : Levels}

theorem pure : OnlyFiles levels (Pure.pure ()) := fun s _ => ⟨s.files, s.records, .inl rfl⟩

theorem throw {e : Fault} (h : e.IsUnwritten) : OnlyFiles levels (MonadExcept.throw e) :=
  fun s _ => ⟨s.files, s.records, .inr ⟨e, h, rfl⟩⟩

theorem modify (f : Session → FileTree) :
    OnlyFiles levels (modify fun s : Session => { s with files := f s }) :=
  fun s _ => ⟨f s, s.records, .inl rfl⟩

theorem get {next : Session → Action Unit} (h : ∀ s, OnlyFiles levels (next s)) :
    OnlyFiles levels (MonadState.get >>= next) := fun s hlevels => h s s hlevels

theorem bind {act : Action Unit} {next : Unit → Action Unit} (h : OnlyFiles levels act)
    (hnext : OnlyFiles levels (next ())) : OnlyFiles levels (act >>= next) := by
  intro s hlevels
  obtain ⟨files, records, hrun | ⟨e, he, hrun⟩⟩ := h s hlevels
  · rw [bind_of_ok hrun]
    exact hnext { s with files, records } hlevels
  · exact ⟨files, records, .inr ⟨e, he, bind_of_error hrun⟩⟩

/-- Events are reported to a logger that takes them. -/
theorem logEvent {logger : Logger} (h : logger.Serves levels) (level : Level) {message : String}
    {fields : Fields} (hevent : IsEvent message fields) :
    OnlyFiles levels (logEvent logger level message fields) := by
  intro s hlevels
  obtain ⟨records, hrun⟩ := exists_logEvent_eq (hlevels ▸ h) level hevent
  exact ⟨s.files, records, .inl hrun⟩

end OnlyFiles

/-! ## Paths -/

/-- The last name of a path that could be one of a file does not hold the character that ends
paths. -/
theorem Location.contains_name_eq_false {l : Location} (h : l.isAdmissible = true) :
    l.name.toList.contains '\x00' = false := by
  have hlast {names : List String} (h : ∀ name ∈ names, name.toList.contains '\x00' = false) :
      (names.getLastD "").toList.contains '\x00' = false := by
    rcases List.eq_nil_or_concat names with rfl | ⟨front, last, rfl⟩
    · simp
    · rw [List.concat_eq_append, List.getLastD_concat]
      exact h last (by simp)
  cases l with
  | below names => exact hlast (by simpa [isAdmissible] using h)
  | elsewhere path =>
    have hpath : '\x00' ∉ path.toList := by simpa [isAdmissible] using h
    refine hlast fun name hname => ?_
    obtain ⟨field, hfield, rfl⟩ := List.mem_map.1 (List.mem_of_mem_filter hname)
    have hnot : '\x00' ∉ field := fun hmem => hpath (Text.mem_of_mem_fields hfield hmem)
    simpa using hnot

/-- A path below the root stays one that could be one of a file when another one is joined to it
that could. -/
theorem Location.isAdmissible_join {names : List String} {path : String}
    (hnames : ∀ name ∈ names, '\x00' ∉ name.toList) (hpath : '\x00' ∉ path.toList) :
    ((Location.below names).join path).isAdmissible = true := by
  have hadmit {text : String} (h : '\x00' ∉ text.toList) :
      (!text.toList.contains '\x00') = true := by
    simpa using h
  unfold join
  split
  · exact hadmit hpath
  · refine List.all_eq_true.2 fun name hname => hadmit ?_
    rcases List.mem_append.1 hname with hname | hname
    · exact hnames name hname
    · obtain ⟨field, hfield, rfl⟩ := List.mem_map.1 (List.mem_of_mem_filter hname)
      rw [String.toList_ofList]
      exact fun hmem => hpath (Text.mem_of_mem_fields hfield hmem)

namespace FileTree

/-- Names that are short enough can be followed, wherever they lead. -/
theorem resolveFrom_ne_nameTooLong (t : FileTree) {names : List String}
    (h : ∀ name ∈ names, name.utf8ByteSize ≤ nameLimit) (place : List String) :
    t.resolveFrom place names ≠ .error .nameTooLong := by
  induction names generalizing place with
  | nil => simp [resolveFrom]
  | cons name names ih =>
    have hrest := ih fun name hname => h name (List.mem_cons_of_mem _ hname)
    have hname : ¬ name.utf8ByteSize > nameLimit := Nat.not_lt.2 (h name List.mem_cons_self)
    rw [resolveFrom, if_neg hname]
    split
    · simp
    · simp
    · split
      · split
        · simp
        · exact hrest _
      · exact hrest _

theorem isDirectory_ne_error (t : FileTree) {names : List String}
    (h : ∀ name ∈ names, name.utf8ByteSize ≤ nameLimit)
    (hsize : (Location.below names).byteSize < pathLimit) (fault : FileFault) :
    t.isDirectory (.below names) ≠ .error fault := by
  have hfind : t.find (.below names) ≠ .error .nameTooLong := by
    unfold find resolve
    rw [if_neg (Nat.not_le.2 hsize)]
    intro hfault
    have hresolve := t.resolveFrom_ne_nameTooLong h []
    split at hfault
    · next hrun =>
      rw [Except.error.injEq] at hfault
      exact hresolve (hfault ▸ hrun)
    · split at hfault <;> simp at hfault
  unfold isDirectory test
  split
  · simp
  · next hrun => exact absurd hrun hfind
  · simp

end FileTree

/-! ## Storing a tree -/

/-- **A directory that can be written as far as it can be told beforehand**: its path and those of
its files can be paths, the mode of the files is one, and the logger takes the events of the
library. -/
structure CacheDirectory.InOrder (d : CacheDirectory) (levels : Levels)
    (keyOf : String → String) : Prop where
  logger : ∃ logger, d.logger = some logger ∧ logger.Serves levels
  mode : ∃ mode, d.fileMode = .ok mode
  location : d.location.isAdmissible = true
  /-- No name on the way to the directory is too long. -/
  followed : ∀ (t : FileTree) fault, t.isDirectory d.location ≠ .error fault
  files : ∀ source, (d.fileFor (keyOf source)).isAdmissible = true

namespace CacheDirectory

/-- **A directory below the root is in order** if the names on the way to it are short and could be
names of files, and if keys could be names of files. -/
theorem inOrder_of_below {d : CacheDirectory} {levels : Levels} {e : Engine} {logger : Logger}
    (hlogger : d.logger = some logger) (hserves : logger.Serves levels) {mode : Nat}
    (hmode : d.fileMode = .ok mode) {names : List String} (hlocation : d.location = .below names)
    (hnames : ∀ name ∈ names, '\x00' ∉ name.toList ∧ name.utf8ByteSize ≤ FileTree.nameLimit)
    (hsize : (Location.below names).byteSize < FileTree.pathLimit)
    (hfront : '\x00' ∉ e.classPrefix.toList) : d.InOrder levels e.className where
  logger := ⟨logger, hlogger, hserves⟩
  mode := ⟨mode, hmode⟩
  location := by
    rw [hlocation]
    exact List.all_eq_true.2 fun name hname => by simpa using (hnames name hname).1
  followed t fault := by
    rw [hlocation]
    exact t.isDirectory_ne_error (fun name hname => (hnames name hname).2) hsize fault
  files source := by
    unfold fileFor
    rw [hlocation]
    refine Location.isAdmissible_join (fun name hname => (hnames name hname).1) ?_
    rw [Engine.className_eq, String.toList_append, String.toList_append]
    intro hmem
    rcases List.mem_append.1 hmem with hmem | hmem
    · rcases List.mem_append.1 hmem with hmem | hmem
      · exact hfront hmem
      · exact absurd (isAlphanum_of_mem_digest hmem) (by decide)
    · exact absurd hmem (by decide)

section

variable {d : CacheDirectory} {levels : Levels} {keyOf : String → String}
  (h : d.InOrder levels keyOf)

include h

theorem onlyFiles_log (level : Level) {message : String} {fields : Fields}
    (hevent : IsEvent message fields) : OnlyFiles levels (d.log level message fields) := by
  obtain ⟨logger, hlogger, hserves⟩ := h.logger
  unfold log
  rw [hlogger]
  exact .logEvent hserves level hevent

theorem onlyFiles_ensure : OnlyFiles levels d.ensure := by
  refine .get fun s => ?_
  dsimp only
  split
  · next fault hfault => exact absurd hfault (h.followed _ _)
  · exact .pure
  · have hpath : OnlyFiles levels (checkPath d.location) := by
      unfold checkPath
      rw [if_pos h.location]
      exact .pure
    refine .bind (onlyFiles_log h _ (.makingDirectory _)) (.bind hpath (.bind (.modify _) ?_))
    split
    · exact .pure
    · exact .throw trivial

theorem onlyFiles_place (path temporary : Location) (tree : Tree) :
    OnlyFiles levels (d.place path temporary tree) := by
  obtain ⟨mode, hmode⟩ := h.mode
  refine .get fun s => ?_
  dsimp only
  split
  · rw [hmode]
    exact .bind (.modify _) (.modify fun s => s.files.setMode path mode)
  · exact .bind (onlyFiles_log h _ (.unmoved _ _)) (.throw trivial)

/-- **Storing a tree changes nothing but files and records**, and ends well unless the file system
stands in the way. -/
theorem onlyFiles_dump (source : String) (tree : Tree) :
    OnlyFiles levels (d.dump (keyOf source) tree) := by
  have hpath := h.files source
  have hrefuse : OnlyFiles levels (refuse (d.fileFor (keyOf source))
      (d.temporaryFor (d.fileFor (keyOf source))) tree) := by
    unfold refuse
    rw [if_pos hpath]
    exact .pure
  unfold dump
  refine .bind (onlyFiles_ensure h) (.get fun s => .bind (onlyFiles_log h _ (.writing _ _)) ?_)
  rw [Location.contains_name_eq_false hpath, if_neg Bool.false_ne_true]
  dsimp only
  split
  · exact .bind (.throw trivial) (.bind hrefuse (onlyFiles_place h _ _ _))
  · exact .bind hrefuse (onlyFiles_place h _ _ _)

end

end CacheDirectory

end Mustache
