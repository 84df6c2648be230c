import Mustache.Proofs.Cache.Traceless
import Mustache.Proofs.Session.ObliviousLoad

/-!
# Loading with another way to store trees

How a tree is stored in a directory is a parameter here. Loading as ever is the case of
`CacheDirectory.dump`; the others are those of disks that may refuse a step. If a tree cannot be
stored, the template is not loaded, the engine keeps what it had, and a later load finds no more
than if there had been no attempt.

## Main definitions

* `Mustache.Storing` — a way to store trees in directories.
* `Mustache.treeForBy`, `Mustache.loadSourceBy`, `Mustache.loadPartialBy?` — loading with it.
* `Mustache.Session.Unnoticed` — sessions that differ in records and in the history.

## Main results

* `Mustache.loadSourceBy_dump` — loading as ever.
* `Mustache.ends_loadSourceBy` — a load that fails because a tree cannot be stored.
* `Mustache.unnoticed_loadSourceBy` — a later load.
-/

namespace Mustache

/-- A way to store trees in directories. -/
abbrev Storing := CacheDirectory → String → Tree → Action Unit

/-! ## Loading -/

/-- Stores a tree under a key, in a directory in the given way. -/
def Cache.dumpBy (store : Storing) (below : Below) (c : Cache) (key : String) (tree : Tree) :
    Action Cache :=
  match c with
  | directory d => do
    store d key tree
    pure c
  | c => c.dump below key tree

/-- The tree of a source, which may be any value. -/
def parseValue (source name : Value) : Action Tree :=
  match source with
  | .text s => parseSource s name
  | v => throw (notASource v)

section

variable (store : Storing) (below : Below)

/-- The tree for a source that a persistent cache holds, or else parsed and stored there. -/
def cachedTreeBy (e : Engine) (cache : Cache) (source : Value) (className : String)
    (name : Value) : Action Value := do
  match ← cache.load below className with
  | .null =>
    logEvent e.logger .debug "Template cache miss for \"%(class_name)s\""
      [("class_name", .text className)]
    let tree ← parseValue source name
    let cache' ← cache.dumpBy store below className tree
    modifyEngine fun e => { e with cache := cache' }
    pure (.tree tree)
  | v => pure v

/-- The tree for a source from the persistent cache, if there is one, or else parsed. -/
def treeForBy (e : Engine) (source : Value) (className : String) (name : Value) :
    Action Value :=
  match e.cache with
  | .disabled => do
    logEvent e.logger .debug "Template cache disabled, parsing \"%(class_name)s\" at runtime"
      [("class_name", .text className)]
    let tree ← parseValue source name
    pure (.tree tree)
  | cache => cachedTreeBy store below e cache source className name

/-- The template for a source that is asked for under a key. -/
def templateForBy (e : Engine) (source : Value) (text key : String) (name : Value) :
    Action Template :=
  match e.templates.lookup key with
  | some t => pure t
  | none => do
    let found ← treeForBy store below e source key name
    let t ← makeTemplate e text key name (treeOf below text found)
    modifyEngine fun e => { e with templates := e.templates ++ [(key, t)] }
    pure t

/-- The template for a source that a loader has found. -/
def loadSourceBy (source : Value) (name : Value) : Action Template := do
  let e ← theEngine
  let text ← liftFault source.plainOrFault
  let key ← askFor e text
  templateForBy store below e source text key name

/-- The template that the loader of the engine finds under a name. -/
def loadTemplateBy (name : String) : Action Template := do
  let e ← theEngine
  let found ← e.loader.find below name
  loadSourceBy store below found.source (← liftFault (knownAs found.origin name))

/-- The template for what a loader has found, or not, under the name of a partial. -/
def partialForBy (logger : Logger) (name : String) : Option Found → Action (Option Template)
  | none => do
    logEvent logger .warning "Partial not found: \"%(name)s\"" [("name", .text name)]
    pure none
  | some found => do
    pure (some (← loadSourceBy store below found.source
      (← liftFault (knownAs found.origin name))))

/-- The template to be included under a name. -/
def loadPartialBy? (name : String) : Action (Option Template) := do
  let e ← theEngine
  let found ← attempt .notFound (e.partialsLoader.find below name)
  partialForBy store below e.logger name found

end

/-! ## Loading as ever -/

theorem Cache.dumpBy_dump (below : Below) (c : Cache) (key : String) (tree : Tree) :
    c.dumpBy CacheDirectory.dump below key tree = c.dump below key tree := by
  cases c <;> rfl

section

variable (below : Below)

theorem treeForBy_dump (e : Engine) (source : Value) (className : String) (name : Value) :
    treeForBy CacheDirectory.dump below e source className name =
      treeFor below e source className name := by
  unfold treeForBy cachedTreeBy
  simp only [Cache.dumpBy_dump]
  rfl

theorem templateForBy_dump (e : Engine) (source : Value) (text key : String) (name : Value) :
    templateForBy CacheDirectory.dump below e source text key name =
      templateFor below e source text key name := by
  unfold templateForBy
  rw [treeForBy_dump]
  rfl

/-- **Loading as ever** is loading with the usual way to store trees. -/
theorem loadSourceBy_dump (source name : Value) :
    loadSourceBy CacheDirectory.dump below source name = loadSource below source name := by
  unfold loadSourceBy loadSource
  simp only [templateForBy_dump]

theorem loadTemplateBy_dump (name : String) :
    loadTemplateBy CacheDirectory.dump below name = loadTemplate below name := by
  unfold loadTemplateBy loadTemplate
  simp only [loadSourceBy_dump]

theorem loadPartialBy?_dump (name : String) :
    loadPartialBy? CacheDirectory.dump below name = loadPartial? below name := by
  have hfor (logger : Logger) (found : Option Found) :
      partialForBy CacheDirectory.dump below logger name found =
        partialFor below logger name found := by
    cases found with
    | none => rfl
    | some found =>
      unfold partialForBy partialFor
      simp only [loadSourceBy_dump]
  unfold loadPartialBy? loadPartial?
  simp only [hfor]

end

/-! ## Trees that cannot be stored -/

/-- **Storing that leaves no trace** if it fails because a cache cannot be written. -/
def Storing.LeavesNoTrace (store : Storing) : Prop :=
  ∀ d key tree s, WriteEnds (fun _ _ => True) (d.Traceless s) (store d key tree s)

/-- **The ways in which trees are written**: as ever, or on a disk that may refuse all but to remove
the temporary file. -/
inductive Storing.IsWrite : Storing → Prop
  | usual : IsWrite CacheDirectory.dump
  | onDisk {disk : Disk} (h : disk.Removes) : IsWrite fun d => d.dumpOn disk

theorem Storing.IsWrite.leavesNoTrace {store : Storing} (h : store.IsWrite) :
    store.LeavesNoTrace := by
  cases h with
  | usual => exact CacheDirectory.ends_dump
  | onDisk h => exact CacheDirectory.ends_dumpOn h

section

variable {α : Type} {unwritten : Session → Prop}

theorem WriteEnds.any (act : Action α) (s : Session) :
    WriteEnds (fun _ _ => True) (fun _ => True) (act s) := by
  cases act s with
  | ok a s' => exact trivial
  | error e s' => exact fun _ => trivial

/-- A computation that fails with no error of the library. -/
theorem WriteEnds.ofBare {x : Except Fault α} (h : Bare x) (s : Session) :
    WriteEnds (fun _ s' => s' = s) unwritten (Mustache.liftFault x s) :=
  .liftFault fun e he => Fault.not_isUnwritten (h e he)

/-- A template that cannot be parsed is not the fault of a cache. -/
theorem not_isUnwritten_of_parseFailure (failure : ParseFailure) :
    ¬ failure.fault.IsUnwritten := by
  cases failure with
  | notTwoWords => exact id
  | malformed e =>
    show ¬ (Fault.malformed e).IsUnwritten
    unfold Fault.malformed Fault.ofPlace?
    split
    · exact id
    · split <;> exact id

theorem ends_parseSource (source : String) (name : Value) (s : Session) :
    WriteEnds (fun _ s' => s' = s) unwritten (parseSource source name s) := by
  unfold parseSource
  cases parse source name .usual with
  | ok tree => exact rfl
  | error failure => exact .other (not_isUnwritten_of_parseFailure failure)

theorem not_isUnwritten_notASource (v : Value) : ¬ (notASource v).IsUnwritten := by
  unfold notASource
  split <;> exact id

theorem ends_parseValue (source name : Value) (s : Session) :
    WriteEnds (fun _ s' => s' = s) unwritten (parseValue source name s) := by
  unfold parseValue
  split
  · exact ends_parseSource _ _ s
  · exact .other (not_isUnwritten_notASource _)

/-- A template is made without storing anything. -/
theorem ends_makeTemplate (e : Engine) (source className : String) (name : Value) (tree : Tree)
    (s : Session) :
    WriteEnds (fun _ _ => True) unwritten
      (makeTemplate e source className name (pure tree) s) := by
  unfold makeTemplate
  refine (ends_logEvent _ _ _ _ s).bind fun _ s₁ _ => ?_
  exact (ends_logEvent _ _ _ _ s₁).bind fun _ _ _ => trivial

end

section

variable {store : Storing} {d : CacheDirectory} {e : Engine}

/-- A directory of stored trees answers nothing or a tree. -/
theorem ends_load {unwritten : Session → Prop} (below : Below) (d : CacheDirectory) (key : String)
    (s : Session) :
    WriteEnds (fun v s' => s' = s ∧ (v = .null ∨ ∃ tree, v = .tree tree)) unwritten
      ((Cache.directory d).load below key s) := by
  refine (CacheDirectory.ends_checkPath (d.fileFor key) s).bind ?_
  rintro _ _ rfl
  refine ⟨rfl, ?_⟩
  cases d.load? _ key with
  | none => exact .inl rfl
  | some tree => exact .inr ⟨tree, rfl⟩

variable (he : e.cache = .directory d)

include he

/-- What is found or parsed is a tree; a cache that cannot be written is that of the engine. -/
theorem ends_treeForBy {unwritten : Session → Prop} (below : Below) (source : Value)
    (className : String) (name : Value) {s : Session}
    (hstore : ∀ tree records, WriteEnds (fun _ _ => True) unwritten
      (store d className tree { s with records })) :
    WriteEnds (fun v _ => ∃ tree, v = .tree tree) unwritten
      (treeForBy store below e source className name s) := by
  unfold treeForBy
  rw [he]
  dsimp only
  refine (ends_load below d className s).bind ?_
  rintro _ s₁ ⟨rfl, rfl | ⟨tree, rfl⟩⟩
  · refine (ends_logEvent _ _ _ _ s₁).bind ?_
    rintro _ _ ⟨records, rfl⟩
    refine (ends_parseValue source name _).bind ?_
    rintro tree _ rfl
    have hcache : WriteEnds (fun _ _ => True) unwritten
        ((Cache.directory d).dumpBy store below className tree { s₁ with records }) :=
      (hstore tree records).bind fun _ _ _ => trivial
    exact hcache.bind fun _ _ _ => ⟨tree, rfl⟩
  · exact ⟨tree, rfl⟩

variable (hstore : store.LeavesNoTrace)

include hstore

theorem ends_templateForBy (below : Below) (source : Value) (text key : String) (name : Value)
    (s : Session) :
    WriteEnds (fun _ _ => True) (d.Traceless s)
      (templateForBy store below e source text key name s) := by
  unfold templateForBy
  cases e.templates.lookup key with
  | some t => exact trivial
  | none =>
    have htree := @ends_treeForBy store d e he (d.Traceless s) below source key name s
      fun tree records => (hstore d key tree _).mono (fun _ _ _ => trivial) fun _ =>
        CacheDirectory.Traceless.of_records
    refine htree.bind ?_
    rintro _ s₁ ⟨tree, rfl⟩
    exact (ends_makeTemplate e text key name tree s₁).bind fun _ _ _ => trivial

/-- **A load that fails because a tree cannot be stored** leaves no trace but in the history. -/
theorem ends_loadSourceBy (below : Below) (source name : Value) {s : Session}
    (hs : s.engine = some e) :
    WriteEnds (fun _ _ => True) (fun s' => ∃ asked, d.Traceless { s with asked } s')
      (loadSourceBy store below source name s) := by
  unfold loadSourceBy
  rw [bind_of_ok (theEngine_eq_ok hs)]
  refine (WriteEnds.ofBare (.ite (.error rfl) (.ok _)) s).bind ?_
  rintro text _ rfl
  rw [bind_of_ok (askFor_eq_ok e text _)]
  exact (ends_templateForBy he hstore below source text _ name _).mono (fun _ _ _ => trivial)
    fun _ h => ⟨_, h⟩

end

/-! ## Disks that are oblivious of a difference -/

section

variable {R : Session → Session → Prop} (hR : IsStorable R) (disk : Disk) (d : CacheDirectory)

include hR

theorem Disk.oblivious_giveUp (place : List String) (e : UnwrittenCache) :
    Oblivious R (disk.giveUp place e) :=
  .bind (oblivious_modifyFiles hR fun t => disk.remove t place) fun _ => .throw _

namespace CacheDirectory

theorem oblivious_ensureOn : Oblivious R (d.ensureOn disk) := by
  refine .get (fun s s' hs => by rw [hR.files hs]) fun s => ?_
  dsimp only
  split
  · exact .throw _
  · exact .pure _
  · refine .bind (oblivious_log hR d _ _ _) fun _ => .bind (oblivious_checkPath _) fun _ =>
      .bind (oblivious_putFiles hR _) fun _ => ?_
    split
    · exact .pure _
    · exact .throw _

theorem oblivious_placeOn (path temporary : Location) (place : List String) :
    Oblivious R (d.placeOn disk path temporary place) := by
  refine .get (fun s s' hs => by rw [hR.files hs]) fun s => ?_
  dsimp only
  split
  · exact .bind (oblivious_putFiles hR _) fun _ => .bind (.liftFault _) fun mode =>
      oblivious_modifyFiles hR fun t => disk.setMode t path mode
  · exact .bind (oblivious_log hR d _ _ _) fun _ => disk.oblivious_giveUp hR _ _

theorem oblivious_fillOn (path temporary : Location) (place : List String) (tree : Tree) :
    Oblivious R (d.fillOn disk path temporary place tree) := by
  refine .get (fun s s' hs => by rw [hR.files hs]) fun s => ?_
  dsimp only
  refine .bind (oblivious_putFiles hR _) fun _ => ?_
  split
  · exact disk.oblivious_giveUp hR _ _
  · exact .bind (oblivious_checkPath _) fun _ => oblivious_placeOn hR disk d _ _ _

theorem oblivious_dumpOn (key : String) (tree : Tree) : Oblivious R (d.dumpOn disk key tree) := by
  refine .bind (oblivious_ensureOn hR disk d) fun _ =>
    .get (fun s s' hs => by rw [hR.files hs]) fun s => .bind (oblivious_log hR d _ _ _) fun _ => ?_
  refine .guard (.guard ?_)
  split
  · exact .throw _
  · exact .bind (oblivious_putFiles hR _) fun _ => oblivious_fillOn hR disk d _ _ _ _

end CacheDirectory

end

/-! ## Later loads -/

/-- **Sessions that differ in nothing that loading looks at**: in records and in the history. -/
def Session.Unnoticed (s s' : Session) : Prop := ∃ records asked, s' = { s with records, asked }

theorem isStorable_unnoticed : IsStorable Session.Unnoticed where
  levels := by
    rintro s _ ⟨records, asked, rfl⟩
    rfl
  record := by
    rintro s _ ⟨records, asked, rfl⟩ record
    exact ⟨record :: records, asked, rfl⟩
  files := by
    rintro s _ ⟨records, asked, rfl⟩
    rfl
  putFiles := by
    rintro s _ ⟨records, asked, rfl⟩ files
    exact ⟨records, asked, rfl⟩

/-- However trees are written, nothing of this is looked at. -/
theorem Storing.IsWrite.unnoticed {store : Storing} (h : store.IsWrite) (d : CacheDirectory)
    (key : String) (tree : Tree) : Oblivious Session.Unnoticed (store d key tree) := by
  cases h with
  | usual => exact d.oblivious_dump isStorable_unnoticed key tree
  | onDisk => exact d.oblivious_dumpOn isStorable_unnoticed _ key tree

theorem unnoticed_modifyEngine (f : Engine → Engine) :
    Oblivious Session.Unnoticed (modifyEngine f) := by
  rintro s _ ⟨records, asked, rfl⟩
  exact .ok ⟨records, asked, rfl⟩

theorem unnoticed_freshTemplateId : Oblivious Session.Unnoticed freshTemplateId := by
  rintro s _ ⟨records, asked, rfl⟩
  exact .ok ⟨records, asked, rfl⟩

theorem unnoticed_askFor (e : Engine) (source : String) :
    Oblivious Session.Unnoticed (askFor e source) := by
  rintro s _ ⟨records, asked, rfl⟩
  exact .ok ⟨records, source :: asked, rfl⟩

theorem unnoticed_makeTemplate (e : Engine) (source className : String) (name : Value)
    (tree : Tree) :
    Oblivious Session.Unnoticed (makeTemplate e source className name (pure tree)) :=
  .bind (oblivious_logEvent isStorable_unnoticed.toIsLoggable _ _ _ _) fun _ =>
    .bind (.pure tree) fun _ =>
      .bind (oblivious_logEvent isStorable_unnoticed.toIsLoggable _ _ _ _) fun _ =>
        .bind unnoticed_freshTemplateId fun _ => .pure _

section

variable {store : Storing} (hstore : store.IsWrite) {d : CacheDirectory} {e : Engine}
  (he : e.cache = .directory d)

include hstore he

theorem unnoticed_treeForBy (below : Below) (source : Value) (className : String) (name : Value) :
    Oblivious Session.Unnoticed (treeForBy store below e source className name) := by
  have hparse : Oblivious Session.Unnoticed (parseValue source name) := by
    unfold parseValue
    split
    · exact oblivious_parseSource _ _
    · exact .throw _
  have hload : Oblivious Session.Unnoticed ((Cache.directory d).load below className) :=
    .bind (oblivious_checkPath _) fun _ =>
      .get (fun s s' hs => by rw [isStorable_unnoticed.files hs]) fun _ => .pure _
  have hdump (tree : Tree) :
      Oblivious Session.Unnoticed ((Cache.directory d).dumpBy store below className tree) :=
    .bind (hstore.unnoticed d className tree) fun _ => .pure _
  unfold treeForBy cachedTreeBy
  rw [he]
  refine .bind hload fun v => ?_
  split
  · exact .bind (oblivious_logEvent isStorable_unnoticed.toIsLoggable _ _ _ _) fun _ =>
      .bind hparse fun tree => .bind (hdump tree) fun _ =>
        .bind (unnoticed_modifyEngine _) fun _ => .pure _
  · exact .pure _

theorem unnoticed_templateForBy (below : Below) (source : Value) (text key : String)
    (name : Value) :
    Oblivious Session.Unnoticed (templateForBy store below e source text key name) := by
  unfold templateForBy
  split
  · exact .pure _
  · refine .bindOf (fun v => ∃ tree, v = .tree tree) (unnoticed_treeForBy hstore he _ _ _ _)
      (fun s v s' hrun => ?_) ?_
    · have hends := @ends_treeForBy store d e he (fun _ => True) below source key name s
        fun _ _ => .any _ _
      rw [hrun] at hends
      exact hends
    · rintro _ ⟨tree, rfl⟩
      exact .bind (unnoticed_makeTemplate _ _ _ _ tree) fun _ =>
        .bind (unnoticed_modifyEngine _) fun _ => .pure _

/-- **A later load goes as the first one would have gone**, if no more than records and the history
has changed since. -/
theorem unnoticed_loadSourceBy (below : Below) (source name : Value) {s s' : Session}
    (hs : s.engine = some e) (h : s.Unnoticed s') :
    SameEnd Session.Unnoticed (loadSourceBy store below source name s)
      (loadSourceBy store below source name s') := by
  have hrest : Oblivious Session.Unnoticed (liftFault source.plainOrFault >>= fun text =>
      askFor e text >>= fun key => templateForBy store below e source text key name) :=
    .bind (.liftFault _) fun text => .bind (unnoticed_askFor e text) fun key =>
      unnoticed_templateForBy hstore he below source text key name
  have hs' : s'.engine = some e := by
    obtain ⟨_, _, rfl⟩ := h
    exact hs
  unfold loadSourceBy
  rw [bind_of_ok (theEngine_eq_ok hs), bind_of_ok (theEngine_eq_ok hs')]
  exact hrest s s' h

end

end Mustache
