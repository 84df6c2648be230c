import Mustache.Proofs.Cache.Disk
import Mustache.Proofs.Session.Messages

/-!
# Writes that fail

When a tree cannot be stored, whatever the disk refuses, nothing is left of the attempt but the
directories that were made for it: the temporary file is removed again, and it never stood where
another file was. A cache finds the same trees as before, unless a path to one of them has been
opened by a new directory.

## Main definitions

* `Mustache.CacheDirectory.Traceless` — a session after a write that has left nothing but
  directories and records.

## Main results

* `Mustache.CacheDirectory.ends_dumpOn` — a tree that cannot be stored leaves no trace.
* `Mustache.CacheDirectory.Traceless.load?_eq` — what a cache finds afterwards.
* `Mustache.CacheDirectory.exists_tree_uncovered` — a tree that is found only afterwards.
-/

namespace Mustache

/-! ## Directories on a disk -/

/-- A path that is a front part of another one, as far as it is below the root. -/
def Location.IsFront (way : Location) : Location → Prop
  | below names => ∃ more, way = below (names ++ more)
  | elsewhere _ => True

theorem Location.isFront_refl (l : Location) : l.IsFront l := by
  cases l with
  | below names => exact ⟨[], by rw [List.append_nil]⟩
  | elsewhere path => trivial

theorem Location.IsFront.parent {way l : Location} (h : way.IsFront l) : way.IsFront l.parent := by
  cases l with
  | below names =>
    obtain ⟨more, rfl⟩ := h
    obtain ⟨last, hnames⟩ := List.dropLast_prefix names
    exact ⟨last ++ more, by rw [← List.append_assoc, hnames]⟩
  | elsewhere path => trivial

/-- The temporary file is created where nothing is. -/
theorem FileTree.of_create_eq_ok {t : FileTree} {l : Location} {created : List String × FileTree}
    (h : t.create l = .ok created) : t.at? created.1 = none ∧
      created.2 = t.put created.1 (.file (.bytes []) ownerMode) := by
  unfold create at h
  split at h
  · simp at h
  · split at h
    · simp at h
    · next hfree =>
      obtain rfl := Except.ok.inj h
      exact ⟨hfree, rfl⟩

namespace Disk

variable {disk : Disk} {t t' : FileTree} {way l : Location}

theorem eq_ok_of_attempt {α : Type} {step : DiskStep} {act : Except FileFault α} {a : α}
    (h : disk.attempt t step act = .ok a) : act = .ok a := by
  unfold attempt at h
  split at h
  · simp at h
  · cases act with
    | ok b => simpa [Except.mapError] using h
    | error e => simp [Except.mapError] at h

/-- One more directory on the way. -/
theorem grown_makeDirectory (hfront : way.IsFront l) (h : disk.makeDirectory t l = .ok t') :
    t.Grown way t' := by
  have hmake : t.makeDirectory l = .ok t' := eq_ok_of_attempt h
  obtain ⟨_, hresolve, -, -⟩ := FileTree.exists_of_makeDirectory hmake
  obtain ⟨names, rfl, -⟩ := FileTree.exists_below_of_resolve hresolve
  obtain ⟨more, rfl⟩ := hfront
  exact .makeDirectory hmake

/-- **Making directories adds directories on the way, and nothing else**, also if it fails. -/
theorem grown_makeDirectories (disk : Disk) (t : FileTree) (hfront : way.IsFront l)
    (above : Nat) : t.Grown way (disk.makeDirectories t l above).1 := by
  induction above generalizing l with
  | zero => exact .refl way t
  | succ above ih =>
    unfold makeDirectories
    split
    · next hmake => exact grown_makeDirectory hfront hmake
    · have hparent := ih hfront.parent
      split
      · next hrest =>
        rw [hrest] at hparent
        exact hparent
      · next t' hrest =>
        rw [hrest] at hparent
        split
        · next hmake => exact hparent.trans (grown_makeDirectory hfront hmake)
        · split <;> exact hparent
    · split <;> exact .refl way t

/-- A file that has been put at a free place is removed again. -/
theorem remove_put (h : disk.Removes) {place : List String} (hfree : t.at? place = none)
    (e : Entry) : disk.remove (t.put place e) place = t := by
  unfold remove
  rw [h]
  exact FileTree.remove_put_of_free hfree e

end Disk

/-! ## Ends of a write -/

/-- A fault that is no error of the library is not that of a cache. -/
theorem Fault.not_isUnwritten {e : Fault} (h : e.isTemplate = false) : ¬ e.IsUnwritten := by
  intro he
  unfold IsUnwritten at he
  split at he
  · simp [isTemplate] at h
  · exact he

section

variable {α β : Type}

/-- **How a write may end**: well, with a property of the answer and the session, or because a cache
could not be written, with a property of the session. Nothing is said of other faults. -/
def WriteEnds (well : α → Session → Prop) (unwritten : Session → Prop) :
    EStateM.Result Fault Session α → Prop
  | .ok a s => well a s
  | .error e s => e.IsUnwritten → unwritten s

variable {well : α → Session → Prop} {well' : β → Session → Prop}
  {unwritten unwritten' : Session → Prop} {act : Action α} {s : Session}

namespace WriteEnds

theorem bind {next : α → Action β} (h : WriteEnds well unwritten (act s))
    (hnext : ∀ a s', well a s' → WriteEnds well' unwritten (next a s')) :
    WriteEnds well' unwritten ((act >>= next) s) := by
  cases hact : act s with
  | ok a s' =>
    rw [hact] at h
    rw [bind_of_ok hact]
    exact hnext a s' h
  | error e s' =>
    rw [hact] at h
    rw [bind_of_error hact]
    exact h

/-- A fault that is not that of a cache. -/
theorem other {e : Fault} (he : ¬ e.IsUnwritten) :
    WriteEnds well unwritten ((throw e : Action α) s) := fun h => (he h).elim

/-- A computation that may fail by itself, but not because of a cache. -/
theorem liftFault {x : Except Fault α} (h : ∀ e, x = .error e → ¬ e.IsUnwritten) :
    WriteEnds (fun _ s' => s' = s) unwritten (liftFault x s) := by
  cases x with
  | ok a => exact rfl
  | error e => exact other (h e rfl)

/-- A guard in front of what follows. -/
theorem guard {c : Prop} [Decidable c] {e : Fault} {rest : PUnit → Action α}
    (he : e.IsUnwritten → unwritten s) (h : WriteEnds well unwritten (rest ⟨⟩ s)) :
    WriteEnds well unwritten ((if c then throw e >>= rest else rest ⟨⟩) s) := by
  by_cases hc : c
  · rw [if_pos hc]
    exact he
  · rw [if_neg hc]
    exact h

theorem mono {well' : α → Session → Prop} (h : WriteEnds well unwritten (act s))
    (hwell : ∀ a s', well a s' → well' a s') (hunwritten : ∀ s', unwritten s' → unwritten' s') :
    WriteEnds well' unwritten' (act s) := by
  generalize act s = r at h ⊢
  cases r with
  | ok a s' => exact hwell a s' h
  | error e s' => exact fun he => hunwritten s' (h he)

end WriteEnds

/-- A logger that refuses an event does so because of the message or of its attributes, and this is
not the fault of a cache. -/
theorem ends_logEvent (logger : Logger) (level : Level) (message : String) (fields : Fields)
    (s : Session) :
    WriteEnds (fun _ s' => ∃ records, s' = { s with records }) unwritten
      (logEvent logger level message fields s) := by
  cases hrecord : logger.record? s.levels level message fields with
  | ok record =>
    rw [logEvent_eq_of_ok hrecord]
    exact ⟨_, rfl⟩
  | error e =>
    rw [logEvent_eq_of_error hrecord]
    have hbare := logger.bare_record? s.levels level message fields e hrecord
    exact .other (Fault.not_isUnwritten hbare)

end

/-- Whether a run has ended because a cache could not be written. -/
def isCutShort {α : Type} : EStateM.Result Fault Session α → Bool
  | .error (.template (.unwrittenCache _)) _ => true
  | _ => false

theorem exists_of_isCutShort {α : Type} {r : EStateM.Result Fault Session α}
    (h : isCutShort r = true) : ∃ e s, r = .error e s ∧ e.IsUnwritten := by
  unfold isCutShort at h
  split at h
  · next e s => exact ⟨.template (.unwrittenCache e), s, rfl, trivial⟩
  · simp at h

namespace CacheDirectory

variable {d : CacheDirectory} {unwritten : Session → Prop}

theorem ends_log (level : Level) (message : String) (fields : Fields) (s : Session) :
    WriteEnds (fun _ s' => ∃ records, s' = { s with records }) unwritten
      (d.log level message fields s) := by
  unfold log
  cases d.logger with
  | some logger => exact ends_logEvent _ _ _ _ s
  | none => exact .other id

/-- **A write that has left no trace** but records, and but directories on the way to that of the
cache, if this was not there. -/
structure Traceless (d : CacheDirectory) (s s' : Session) : Prop where
  session : s' = { s with files := s'.files, records := s'.records }
  files : s.files.Grown d.location s'.files
  unchanged : s.files.isDirectory d.location = .ok true → s'.files = s.files

namespace Traceless

theorem refl (d : CacheDirectory) (s : Session) : d.Traceless s s :=
  ⟨rfl, .refl _ _, fun _ => rfl⟩

/-- Records make no difference. -/
theorem withRecords {s s' : Session} (h : d.Traceless s s') (records : List Record) :
    d.Traceless s { s' with records } where
  session := by rw [h.session]
  files := h.files
  unchanged := h.unchanged

theorem of_records {s s' : Session} {records : List Record}
    (h : d.Traceless { s with records } s') : d.Traceless s s' where
  session := h.session
  files := h.files
  unchanged := h.unchanged

end Traceless

variable {disk : Disk} {s : Session}

theorem ends_checkPath (l : Location) (s : Session) :
    WriteEnds (fun _ s' => s' = s) unwritten (checkPath l s) := by
  unfold checkPath
  by_cases hpath : l.isAdmissible = true
  · rw [if_pos hpath]
    exact rfl
  · rw [if_neg hpath]
    exact .other id

theorem ends_ensureOn (disk : Disk) (d : CacheDirectory) (s : Session) :
    WriteEnds (fun _ => d.Traceless s) (d.Traceless s) (d.ensureOn disk s) := by
  unfold ensureOn
  rw [get_bind]
  dsimp only
  rcases hthere : s.files.isDirectory d.location with e | _ | _
  · exact .other id
  · refine (ends_log _ _ _ s).bind ?_
    rintro _ _ ⟨records, rfl⟩
    refine (ends_checkPath d.location _).bind ?_
    rintro _ _ rfl
    rw [modify_bind]
    dsimp only
    generalize hmade : disk.makeDirectories s.files d.location _ = made
    have htrace : d.Traceless s { s with files := made.1, records } :=
      ⟨rfl, hmade ▸ disk.grown_makeDirectories s.files (Location.isFront_refl _) _,
        fun h => by simp [hthere] at h⟩
    cases hfailure : made.2 with
    | none => exact htrace
    | some failure => exact fun _ => htrace
  · exact .refl d s

section

variable {place : List String} {t : FileTree} (hremove : disk.Removes)
  (hfree : t.at? place = none)

include hremove hfree

/-- Giving up removes the temporary file, and always ends in a fault. -/
theorem ends_giveUp {e : Entry} (hfiles : s.files = t.put place e) (u : UnwrittenCache) :
    WriteEnds (fun _ _ => False) (fun s' => s' = { s with files := t })
      (disk.giveUp place u s) := by
  intro _
  show { s with files := disk.remove s.files place } = _
  rw [hfiles, disk.remove_put hremove hfree]

omit hremove hfree in
theorem not_isUnwritten_of_fileMode {e : Fault} (h : d.fileMode = .error e) : ¬ e.IsUnwritten := by
  unfold fileMode at h
  split at h
  · exact Except.error.inj h ▸ id
  · split at h
    · exact Except.error.inj h ▸ id
    · simp at h

/-- If the temporary file is not renamed, nothing is left of it. -/
theorem ends_placeOn {e : Entry} (hfiles : s.files = t.put place e) (path temporary : Location) :
    WriteEnds (fun _ _ => True) (fun s' => ∃ records, s' = { s with files := t, records })
      (d.placeOn disk path temporary place s) := by
  unfold placeOn
  rw [get_bind]
  dsimp only
  cases disk.rename s.files place d.location path with
  | ok t' =>
    dsimp only
    rw [modify_bind]
    cases hmode : d.fileMode with
    | ok mode => exact trivial
    | error e => exact .other (not_isUnwritten_of_fileMode hmode)
  | error fault =>
    refine (ends_log _ _ _ s).bind ?_
    rintro _ _ ⟨records, rfl⟩
    exact (ends_giveUp hremove hfree (s := { s with records }) hfiles _).mono
      (fun _ _ => False.elim) fun _ h => ⟨records, h⟩

/-- If the temporary file is not written, nothing is left of it either. -/
theorem ends_fillOn {e : Entry} (hfiles : s.files = t.put place e) (path temporary : Location)
    (tree : Tree) :
    WriteEnds (fun _ _ => True) (fun s' => ∃ records, s' = { s with files := t, records })
      (d.fillOn disk path temporary place tree s) := by
  unfold fillOn
  rw [get_bind]
  unfold Disk.write
  rw [hfiles]
  cases disk.refusal (.write place tree) (t.put place e) with
  | some reason =>
    dsimp only
    rw [modify_bind, FileTree.put_put]
    exact (ends_giveUp hremove hfree rfl _).mono (fun _ _ => False.elim) fun _ h => ⟨s.records, h⟩
  | none =>
    dsimp only
    rw [modify_bind, FileTree.put_put]
    refine (ends_checkPath path _).bind ?_
    rintro _ _ rfl
    exact ends_placeOn hremove hfree rfl path temporary

end

/-- **A tree that cannot be stored leaves no trace**, whatever the disk refuses but to remove the
temporary file. -/
theorem ends_dumpOn (hremove : disk.Removes) (d : CacheDirectory) (key : String) (tree : Tree)
    (s : Session) :
    WriteEnds (fun _ _ => True) (d.Traceless s) (d.dumpOn disk key tree s) := by
  unfold dumpOn
  refine (ends_ensureOn disk d s).bind fun _ s₁ htrace => ?_
  rw [get_bind]
  dsimp only
  refine (ends_log _ _ _ s₁).bind ?_
  rintro _ _ ⟨records, rfl⟩
  have hrecorded := htrace.withRecords records
  refine .guard (fun h => h.elim) (.guard (fun _ => hrecorded) ?_)
  cases hcreate : disk.create s₁.files
      (d.temporaryNamed (d.fileFor key) (disk.random s₁.files)) with
  | error fault => exact fun _ => hrecorded
  | ok created =>
    obtain ⟨hfree, hput⟩ := FileTree.of_create_eq_ok (Disk.eq_ok_of_attempt hcreate)
    dsimp only
    rw [modify_bind]
    refine (ends_fillOn hremove hfree hput _ _ tree).mono (fun _ _ _ => trivial) ?_
    rintro _ ⟨records', rfl⟩
    exact htrace.withRecords records'

/-- A path that cannot be one of a file is not the fault of a cache. -/
theorem ends_refuse (path temporary : Location) (tree : Tree) (s : Session) :
    WriteEnds (fun _ s' => s' = s) unwritten (refuse path temporary tree s) := by
  unfold refuse
  by_cases hpath : path.isAdmissible = true
  · rw [if_pos hpath]
    exact rfl
  · rw [if_neg hpath, get_bind]
    dsimp only
    cases s.files.write temporary (.stored tree) with
    | ok t' => exact fun he => he.elim
    | error fault => exact fun he => he.elim

/-- A file that cannot be put in its place leaves the tree as it is. -/
theorem ends_place (d : CacheDirectory) (path temporary : Location) (tree : Tree) (s : Session) :
    WriteEnds (fun _ _ => True) (fun s' => ∃ records, s' = { s with records })
      (d.place path temporary tree s) := by
  unfold CacheDirectory.place
  rw [get_bind]
  dsimp only
  cases s.files.moveTo d.location path (.file (.stored tree) FileTree.ownerMode) with
  | ok t' =>
    dsimp only
    rw [modify_bind]
    cases hmode : d.fileMode with
    | ok mode => exact trivial
    | error e => exact .other (not_isUnwritten_of_fileMode hmode)
  | error fault =>
    refine (ends_log _ _ _ s).bind ?_
    rintro _ _ ⟨records, rfl⟩
    exact fun _ => ⟨records, rfl⟩

/-- **A tree that cannot be stored leaves no trace**, as the file tree alone decides. -/
theorem ends_dump (d : CacheDirectory) (key : String) (tree : Tree) (s : Session) :
    WriteEnds (fun _ _ => True) (d.Traceless s) (d.dump key tree s) := by
  have hensure := ends_ensureOn .sound d s
  rw [ensureOn_sound] at hensure
  unfold dump
  refine hensure.bind fun _ s₁ htrace => ?_
  rw [get_bind]
  dsimp only
  refine (ends_log _ _ _ s₁).bind ?_
  rintro _ _ ⟨records, rfl⟩
  have hrecorded := htrace.withRecords records
  refine .guard (fun h => h.elim) (.guard (fun _ => hrecorded) ?_)
  refine (ends_refuse _ _ tree _).bind ?_
  rintro _ _ rfl
  refine (ends_place d _ _ tree _).mono (fun _ _ _ => trivial) ?_
  rintro _ ⟨records', rfl⟩
  exact htrace.withRecords records'

/-! ## Looking for trees afterwards -/

theorem load?_eq_some_iff {t : FileTree} {key : String} {tree : Tree} :
    d.load? t key = some tree ↔ t.read (d.fileFor key) = .ok (.stored tree) := by
  unfold load?
  split
  · next hread =>
    rw [hread]
    simp
  · next hread => simpa using hread tree

/-- **A cache finds the same as before**, under every key with a path that takes no parent step from
a new directory. -/
theorem Traceless.load?_eq {s' : Session} (h : d.Traceless s s') (hclosed : s.files.IsClosed)
    {key : String} (hsteps : ∀ place, s'.files.StepsBack (d.fileFor key) place →
      s'.files.at? place = s.files.at? place) : d.load? s'.files key = d.load? s.files key := by
  refine Option.ext fun tree => ?_
  rw [load?_eq_some_iff, load?_eq_some_iff, h.files.read_eq_ok_iff hclosed hsteps]

/-! ## A tree that is found only afterwards -/

/-- A directory with a tree under one key, and with a directory where the file of another key would
stand. -/
def blocked : FileTree :=
  (((FileTree.empty "root").put ["b"] .directory).put ["b", "x.mtree"]
    (.file (.stored ⟨[], []⟩) FileTree.usualMode)).put ["b", "y.mtree"] .directory

theorem isClosed_blocked : blocked.IsClosed := by
  have hempty := FileTree.isClosed_empty "root"
  have hdirectory := @FileTree.IsClosed.put _ hempty [] "b" .directory rfl (.inl rfl)
  have hfile := @FileTree.IsClosed.put _ hdirectory ["b"] "x.mtree"
    (.file (.stored ⟨[], []⟩) FileTree.usualMode) rfl (.inr nofun)
  exact @FileTree.IsClosed.put _ hfile ["b"] "y.mtree" .directory rfl (.inl rfl)

/-- The same directory by way of one that is not there. -/
def roundabout : CacheDirectory := ⟨.below ["c", "..", "b"], .int 0o644, some .own⟩

/-- **A tree that is found only after a write has failed.** The write makes a directory that is
missing on the path of the cache, and cannot put the file in its place. From then on the path leads
on to the trees that have been there all along. -/
theorem exists_tree_uncovered : ∃ (s s' : Session) (e : Fault), s.files.IsClosed ∧
    e.IsUnwritten ∧ roundabout.dump "y" ⟨[], []⟩ s = .error e s' ∧
      roundabout.load? s.files "x" = none ∧ roundabout.load? s'.files "x" ≠ none := by
  let s : Session := { Session.start "root" .critical with files := blocked }
  obtain ⟨e, s', hdump, he⟩ := exists_of_isCutShort (show isCutShort
    (roundabout.dump "y" ⟨[], []⟩ s) = true by decide +kernel)
  have hfound : (roundabout.load? (sessionOf (roundabout.dump "y" ⟨[], []⟩ s)).files "x").isSome =
      true := by
    decide +kernel
  rw [hdump, Option.isSome_iff_ne_none] at hfound
  exact ⟨s, s', e, isClosed_blocked, he, hdump, by decide +kernel, hfound⟩

end CacheDirectory

end Mustache
