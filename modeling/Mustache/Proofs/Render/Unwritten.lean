import Mustache.Proofs.Cache.Operation
import Mustache.Proofs.Render.Congruence
import Mustache.Proofs.Session.Accords

/-!
# Rendering when trees cannot be stored

How trees are stored is a parameter of rendering here, as it is one of loading. A template that is
included may be the first of its source, and then its tree is to be stored; if this fails, so does
the render, and what it leaves behind is what the load has left behind: records, and directories
on the way to that of the cache.

## Main definitions

* `Mustache.Storing.orElse` — storing, with something else to be done if this fails.
* `Mustache.renderBodyBy`, `Mustache.levelBy`, `Mustache.Template.renderBy` — rendering with a way
  to store trees.

## Main results

* `Mustache.Template.renderBy_dump` — rendering as ever.
* `Mustache.Template.accords_renderBy` — a render that does not fail does not depend on what would
  be done if a tree could not be stored.
* `Mustache.Storing.IsWrite.fails_without_trace` — what a write that fails leaves behind.
-/

namespace Mustache

/-! ## Rendering -/

section

variable (store : Storing)

/-- An included template, its lines indented. -/
def renderInclusionBy (below : Below) (t : Template) (name indent : String) : Action Output := do
  let _ ← engineOf t
  match ← loadPartialBy? store below name with
  | none => pure Output.empty
  | some included => do pure (some (indentLines (← below.render included) indent))

/-- The nodes of a template. It is a fault if something that is not text has been written. -/
def renderBodyBy (below : Below) (t : Template) : Action String := do
  match ← renderNodesWith (renderInclusionBy store below t) below t t.tree.body with
  | some text => pure text
  | none => throw .wrongKind

/-- What can be asked of a level when some more lie below it. -/
def levelBy : (depth : Nat) → Below
  | 0 =>
    { render := fun _ => throw .tooDeep
      call := fun _ _ _ => throw .tooDeep }
  | depth + 1 =>
    { render := renderBodyBy store (levelBy depth)
      call := Callable.invoke (levelBy depth) }

/-- Renders a template with data and local variables. -/
def Template.renderBy (t : Template) (data : Value) (locals : Entries) : Action String := do
  withFrames (framesFor ((← get).engineOf? t) data locals)
    (renderBodyBy store (levelBy store depthLimit) t)

/-- Loads a template; a missing partial is no fault. -/
def Wanted.loadBy : Wanted → Action (Option Template)
  | named name => do pure (some (← loadTemplateBy store (levelBy store depthLimit) name))
  | included name => loadPartialBy? store (levelBy store depthLimit) name
  | text source delims => do pure (some (← loadText source delims))

/-- What comes of a request. -/
def Request.actBy : Request → Action Answer
  | load w => do
    match ← w.loadBy store with
    | some t => pure (.template t)
    | none => pure .nothing
  | render w data locals => do
    match ← w.loadBy store with
    | some t => pure (.text (← t.renderBy store data locals))
    | none => pure .nothing
  | renderHeld t data locals => do pure (.text (← t.renderBy store data locals))

end

/-! ## Rendering as ever -/

theorem renderInclusionBy_dump (below : Below) (t : Template) :
    renderInclusionBy CacheDirectory.dump below t = renderInclusion below t := by
  funext name indent
  unfold renderInclusionBy
  rw [loadPartialBy?_dump]
  rfl

theorem renderBodyBy_dump (below : Below) :
    renderBodyBy CacheDirectory.dump below = renderBody below := by
  funext t
  unfold renderBodyBy
  rw [renderInclusionBy_dump, renderNodesWith_renderInclusion]
  rfl

theorem levelBy_dump (depth : Nat) : levelBy CacheDirectory.dump depth = level depth := by
  induction depth with
  | zero => rfl
  | succ depth ih => rw [levelBy, level, ih, renderBodyBy_dump]

/-- **Rendering as ever** is rendering with the usual way to store trees. -/
theorem Template.renderBy_dump (t : Template) (data : Value) (locals : Entries) :
    t.renderBy CacheDirectory.dump data locals = t.render data locals := by
  unfold renderBy render renderTemplate ground
  rw [renderBodyBy_dump, levelBy_dump]

theorem Wanted.loadBy_dump (w : Wanted) : w.loadBy CacheDirectory.dump = w.load := by
  have hground : levelBy CacheDirectory.dump depthLimit = ground := levelBy_dump depthLimit
  cases w with
  | named name => rw [loadBy, load, hground, loadTemplateBy_dump]
  | included name => rw [loadBy, load, hground, loadPartialBy?_dump]
  | text source delims => rfl

/-- **A request as ever** is one with the usual way to store trees. -/
theorem Request.actBy_dump (r : Request) : r.actBy CacheDirectory.dump = r.act := by
  cases r with
  | load w =>
    rw [actBy, Wanted.loadBy_dump]
    rfl
  | render w data locals =>
    unfold actBy
    simp only [Wanted.loadBy_dump, Template.renderBy_dump]
    rfl
  | renderHeld t data locals => rw [actBy, act, Template.renderBy_dump]

/-! ## Renders that fail -/

/-- The parts of rendering accord. -/
theorem Below.Accords.rendering {below below' : Below} (h : below.Accords below') (t : Template) :
    Rendering Eq Eq (fun _ act act' => Mustache.Accords act act') below below' t t :=
  .of_same Accords.tolerance.toCongruence rfl (fun hact => .bind (.refl _) fun _ => hact)
    (fun _ _ hnext => .bind (.refl _) fun _ => hnext _)
    (fun _ _ _ _ => .refl (fun _ => rfl) (fun _ => rfl) _) (fun _ _ _ => accords_findFiltered h _)
    (Value.accords_callLambda h) (fun _ _ => .bind (.refl _) h.render)
    (fun _ _ => Accords.tolerance.escapeText below below' _ (fun f _ => Value.accords_call h f _) _)
    fun frame _ _ hact => hact.withFrame frame

section

variable {store store' : Storing} (hstore : store.Accords store')

include hstore

theorem accords_renderInclusionBy {below below' : Below} (h : below.Accords below') (t : Template)
    (name indent : String) :
    Accords (renderInclusionBy store below t name indent)
      (renderInclusionBy store' below' t name indent) := by
  refine .bind (.refl _) fun _ => .bind (accords_loadPartialBy? hstore h name) fun included => ?_
  cases included with
  | none => exact .refl _
  | some included => exact .bind (h.render included) fun _ => .refl _

theorem accords_renderBodyBy {below below' : Below} (h : below.Accords below') (t : Template) :
    Accords (renderBodyBy store below t) (renderBodyBy store' below' t) :=
  .bind (Accords.tolerance.renderNodesWith (h.rendering t) (accords_renderInclusionBy hstore h t) _)
    fun _ => .refl _

/-- **Every level accords with the one that stores trees in the other way.**

**Proof sketch.** Induction on the depth: a level stores trees as it includes templates, and leaves
the rest to the level below. -/
theorem accords_levelBy (depth : Nat) : (levelBy store depth).Accords (levelBy store' depth) := by
  induction depth with
  | zero => exact ⟨fun _ _ _ => .refl _, fun _ => .refl _⟩
  | succ depth ih => exact ⟨Callable.accords_invoke ih, accords_renderBodyBy hstore ih⟩

/-- **A render accords with the one that stores trees in the other way.** -/
theorem Template.accords_renderBy (t : Template) (data : Value) (locals : Entries) :
    Accords (t.renderBy store data locals) (t.renderBy store' data locals) :=
  .bind (.refl _) fun _ =>
    (accords_renderBodyBy hstore (accords_levelBy hstore depthLimit) t).withFrames _

/-- **A request accords with the one that stores trees in the other way.** -/
theorem Request.accords_actBy (r : Request) : Accords (r.actBy store) (r.actBy store') := by
  have hload (w : Wanted) : Accords (w.loadBy store) (w.loadBy store') := by
    cases w with
    | named name =>
      exact .bind (accords_loadTemplateBy hstore (accords_levelBy hstore depthLimit) name)
        fun _ => .refl _
    | included name =>
      exact accords_loadPartialBy? hstore (accords_levelBy hstore depthLimit) name
    | text source delims => exact .refl _
  cases r with
  | load w => exact .bind (hload w) fun _ => .refl _
  | render w data locals =>
    refine .bind (hload w) fun found => ?_
    cases found with
    | none => exact .refl _
    | some t => exact .bind (t.accords_renderBy hstore data locals) fun _ => .refl _
  | renderHeld t data locals =>
    exact .bind (t.accords_renderBy hstore data locals) fun _ => .refl _

end

/-! ## What a write that fails leaves behind -/

namespace Storing

/-- Storing, with something else to be done if the cache cannot be written. -/
def orElse (store instead : Storing) : Storing := fun d key tree s =>
  match store d key tree s with
  | .error (.template (.unwrittenCache _)) s' => instead d key tree s'
  | r => r

theorem accords_orElse (store instead : Storing) : store.Accords (store.orElse instead) := by
  intro d key tree s
  unfold orElse
  split
  · next e s' hstore => exact .inr ⟨.template (.unwrittenCache e), s', trivial, hstore⟩
  · exact .inl rfl

variable {store : Storing} (h : store.IsWrite)

include h

/-- **A write that fails leaves no trace**, whether the file tree or the disk is in its way, as long
as the temporary file can be removed.

* The session is as it was but for records and the file tree, and this has no more than directories
  in addition, which are on the way to that of the cache. If this was there, the tree is the same.
  So there are no other files than before, and no temporary one. The cache finds the same tree under
  every key whose path takes no parent step from a new directory.
* A load that fails for this reason leaves the engine as it was, with all that it keeps. However
  trees are written later on, and whatever files there are then, a later load ends as one in the
  session before the failure does, and leaves the same behind but for records and the history.
* A request ends as it would if something else were done after such a failure, whatever this may be,
  or else it ends in the fault of the cache: a failure is never passed over.

**Proof sketch.** How a write may end is followed through its steps (`CacheDirectory.ends_dump`,
`CacheDirectory.ends_dumpOn`), and through the load that has asked for it (`ends_loadSourceBy`).
Loading does not look at what has changed (`unnoticed_loadSourceBy`). That a failure ends a request
is shown along the syntax of bodies and nodes (`Request.accords_actBy`). -/
theorem IsWrite.fails_without_trace :
    (∀ (d : CacheDirectory) (key : String) (tree : Tree) (s s' : Session) (e : Fault),
      store d key tree s = .error e s' → e.IsUnwritten →
        d.Traceless s s' ∧
        (∀ place content mode, s'.files.at? place = some (.file content mode) ↔
          s.files.at? place = some (.file content mode)) ∧
        (s.files.IsClosed → ∀ key', (∀ place, s'.files.StepsBack (d.fileFor key') place →
          s'.files.at? place = s.files.at? place) →
            d.load? s'.files key' = d.load? s.files key')) ∧
    (∀ (d : CacheDirectory) (engine : Engine) (below : Below) (source name : Value)
      (s s' : Session) (e : Fault), s.engine = some engine → engine.cache = .directory d →
      loadSourceBy store below source name s = .error e s' → e.IsUnwritten →
        s'.engine = s.engine ∧
        (∃ asked, d.Traceless { s with asked } s') ∧
        ∀ (later : Storing) (files : FileTree), later.IsWrite →
          SameEnd Session.Unnoticed (loadSourceBy later below source name { s with files })
            (loadSourceBy later below source name { s' with files })) ∧
    ∀ (r : Request) (instead : Storing),
      Mustache.Accords (r.actBy store) (r.actBy (store.orElse instead)) := by
  refine ⟨fun d key tree s s' e hrun he => ?_, fun d engine below source name s s' e hs hd hrun he
    => ?_, fun r instead => r.accords_actBy (accords_orElse store instead)⟩
  · have hends := h.leavesNoTrace d key tree s
    rw [hrun] at hends
    have htrace := hends he
    exact ⟨htrace, fun _ _ _ => htrace.files.at?_eq_file_iff, fun hclosed _ =>
      htrace.load?_eq hclosed⟩
  · have hends := ends_loadSourceBy hd h.leavesNoTrace below source name hs
    rw [hrun] at hends
    obtain ⟨asked, htrace⟩ := hends he
    have hengine : s'.engine = s.engine := by rw [htrace.session]
    refine ⟨hengine, ⟨asked, htrace⟩, fun later files hlater => ?_⟩
    have hunnoticed : { s with files }.Unnoticed { s' with files } :=
      ⟨s'.records, s'.asked, by rw [htrace.session]⟩
    exact unnoticed_loadSourceBy hlater hd below source name hs hunnoticed

end Storing

/-- A disk that has room for an empty file, but for no more than the start of a tree. -/
def Disk.full : Disk where
  random _ := "RANDOM"
  refusal
    | .write _ _, _ => some "[Errno 28] No space left on device"
    | _, _ => none
  begun _ := [128]

/-- A directory that has to be made. -/
def CacheDirectory.shelf : CacheDirectory := ⟨.below ["b"], .int 0o644, some .own⟩

/-- No files, and an engine that stores trees in the directory. -/
def Session.shelving : Session :=
  { Session.start "root" .critical with
    engine := some { (default : Engine) with logger := .own, cache := .directory .shelf } }

/-- On a full disk neither a tree nor the template of a source can be stored; the directory has been
made, but it is empty. -/
theorem Storing.IsWrite.fails_without_trace_full : ∃ (e e' : Fault) (s s' : Session),
    CacheDirectory.shelf.dumpOn .full "key" ⟨[], []⟩ .shelving = .error e s ∧
      (∀ place content mode, s.files.at? place ≠ some (.file content mode)) ∧
      CacheDirectory.shelf.load? s.files "other" = none ∧
    loadSourceBy (fun d => d.dumpOn .full) ground (.text "source") (.text "name") .shelving =
      .error e' s' ∧ s'.engine = Session.shelving.engine := by
  have hremoves : Disk.full.Removes := fun _ _ => rfl
  obtain ⟨hdumps, hloads, -⟩ := Storing.IsWrite.fails_without_trace (.onDisk hremoves)
  obtain ⟨e, s, hdump, he⟩ : ∃ e s, CacheDirectory.shelf.dumpOn .full "key" ⟨[], []⟩ .shelving =
      .error e s ∧ e.IsUnwritten :=
    exists_of_isCutShort (by decide +kernel)
  obtain ⟨e', s', hload, he'⟩ : ∃ e s, loadSourceBy (fun d => d.dumpOn .full) ground
      (.text "source") (.text "name") .shelving = .error e s ∧ e.IsUnwritten :=
    exists_of_isCutShort (by decide +kernel)
  obtain ⟨-, hfiles, htrees⟩ := hdumps _ _ _ _ _ _ hdump he
  refine ⟨e, e', s, s', hdump, fun place content mode hat => ?_, ?_, hload,
    (hloads .shelf _ ground _ _ _ _ _ rfl rfl hload he').1⟩
  · have hnone : (FileTree.empty "root").at? place = some (.file content mode) :=
      (hfiles place content mode).1 hat
    unfold FileTree.at? at hnone
    split at hnone <;> simp [FileTree.empty] at hnone
  · have hpath : CacheDirectory.shelf.fileFor "other" = .below ["b", "other.mtree"] := by
      decide +kernel
    rw [htrees (FileTree.isClosed_empty "root") "other" fun place hback =>
      absurd (hpath ▸ hback) (FileTree.not_stepsBack (by decide) place)]
    decide +kernel

end Mustache
