import Mustache.Proofs.Cache.Loaders
import Mustache.Proofs.Cache.Operation

/-!
# Fleets of engines

Engines may share their caches: one in memory if they have been given the same one, one in files if
they have been given the same directory, or directories that lead to the same files. They take turns
with operations, in any order. However they do, a request ends as it does on a fresh engine of the
same configuration, which has no cache and keeps nothing yet.

## Main definitions

* `Mustache.Fleet` — engines, what their caches hold, and the session in which they run.
* `Mustache.Fleet.after` — the fleet after an operation on one of its members.
* `Mustache.Fleet.IsNew` — a fleet in which nothing has been kept so far.
* `Mustache.Fleet.Reaches` — the fleets that come of a fleet by operations.

## Main results

* `Mustache.Fleet.IsSound.after` — an operation leaves what is kept right.
* `Mustache.Fleet.Reaches.isSound` — so do all operations.
* `Mustache.Fleet.Reaches.sameOutcome` — requests end as they do on fresh engines.

## Implementation notes

The cache in memory is part of an engine, so that engines which share one would have it twice. In a
fleet it stands on a shelf, from which a member takes it for its turn. What lies in files is part of
the session, and shared anyway.

What holds for all sources would have to rule out that keys collide. The sources that a session has
been asked for are a history of it, and only they matter.
-/

namespace Mustache

/-! ## Fleets -/

/-- An engine of a fleet, with the shelf on which its cache stands if it has one in memory, and the
templates that it has handed out. -/
structure Member where
  engine : Engine
  shelf : Option Nat
  held : List Template

/-- **Engines that take turns in a session.** Members with the same shelf share what stands there,
and all of them share the files of the session. -/
structure Fleet where
  session : Session
  members : List Member
  shelves : Nat → List (String × Tree)

/-- The templates that have been handed out. -/
def handedOut : EStateM.Result Fault Session Answer → List Template
  | .ok a _ => a.templates
  | .error _ _ => []

namespace Fleet

/-- The engine of a member, with what stands on its shelf by now. -/
def engineOf (f : Fleet) (m : Member) : Engine :=
  match m.shelf with
  | none => m.engine
  | some k => { m.engine with cache := .memory (f.shelves k) }

/-- How an operation on a member ends. -/
def run (f : Fleet) (m : Member) (op : Operation) : EStateM.Result Fault Session Answer :=
  op.act (f.session.withEngine (f.engineOf m))

/-- The shelves when a cache in memory has been put back on its shelf. -/
def shelvesWith (f : Fleet) (shelf : Option Nat) (c : Cache) (k : Nat) : List (String × Tree) :=
  match shelf, c with
  | some k', .memory trees => if k = k' then trees else f.shelves k
  | _, _ => f.shelves k

/-- **The fleet after an operation on the member at a place.** -/
def after (f : Fleet) (i : Nat) (m : Member) (op : Operation) : Fleet :=
  let e := (sessionOf (f.run m op)).engine.getD m.engine
  { session := sessionOf (f.run m op)
    members := f.members.set i
      { m with engine := e, held := m.held ++ handedOut (f.run m op) }
    shelves := f.shelvesWith m.shelf e.cache }

/-- **The file trees that the caches of a fleet may leave behind.** -/
inductive Leaves (f : Fleet) : FileTree → Prop
  | start : Leaves f f.session.files
  | dump {m : Member} {d : CacheDirectory} (hm : m ∈ f.members)
    (hd : m.engine.cache = .directory d) {s : Session} (h : Leaves f s.files) (x : String)
    (tree : Tree) : Leaves f (sessionOf (d.dump (m.engine.className x) tree s)).files

end Fleet

/-- A cache that holds nothing yet. A directory has to be in order. -/
def Cache.IsNew (levels : Levels) (keyOf : String → String) : Cache → Prop
  | .disabled => True
  | .memory trees => trees = []
  | .directory d => d.InOrder levels keyOf
  | .custom _ => False

/-- Loaders whose sources are texts, and that find the same whatever the caches leave behind. -/
structure Member.Suits (trees : FileTree → Prop) (m : Member) : Prop where
  loader : m.engine.loader.Suits trees
  partialsLoader : m.engine.partialsLoader.Suits trees

theorem Member.Suits.mono {trees trees' : FileTree → Prop} {m : Member} (h : m.Suits trees')
    (htrees : ∀ t, trees t → trees' t) : m.Suits trees :=
  ⟨h.loader.mono htrees, h.partialsLoader.mono htrees⟩

/-- A member that keeps nothing and has handed out nothing yet. -/
structure Member.IsNew (levels : Levels) (m : Member) : Prop where
  charset : ∃ s, Text.Charset.find m.engine.charset = .ok s
  templates : m.engine.templates = []
  lambdas : m.engine.lambdas = []
  held : m.held = []
  cache : m.engine.cache.IsNew levels m.engine.className
  serves : m.engine.logger.Serves levels

/-- A member that keeps what it should and has handed out templates of its own. -/
structure Member.IsSound (sc : Scope) (m : Member) : Prop where
  engine : m.engine.IsSound sc
  held : ∀ t ∈ m.held, ∃ x, t.IsOf m.engine x

namespace Fleet

/-- **A fleet in which nothing has been kept so far.** -/
structure IsNew (f : Fleet) : Prop where
  members : ∀ m ∈ f.members, m.IsNew f.session.levels
  loaders : ∀ m ∈ f.members, m.Suits f.Leaves
  shelves : ∀ k, f.shelves k = []
  files : ∀ place tree mode, f.session.files.at? place ≠ some (.file (.stored tree) mode)

/-- **A turn**: no template is rendered that has not been handed out, the calls to the file system
succeed, and the loaders still suit afterwards. -/
structure Permits (start f : Fleet) (i : Nat) (m : Member) (op : Operation) : Prop where
  member : f.members[i]? = some m
  uses : op.Uses m.held
  written : ∀ e s, f.run m op = .error e s → ¬ e.IsUnwritten
  loaders : ∀ m' ∈ (f.after i m op).members, m'.Suits start.Leaves

/-- **The fleets that come of a fleet** by operations on its members, in any order. -/
inductive Reaches (start : Fleet) : Fleet → Prop
  | refl : Reaches start start
  | step {f : Fleet} {i : Nat} {m : Member} {op : Operation} (before : Reaches start f)
    (turn : start.Permits f i m op) : Reaches start (f.after i m op)

/-- **Digests tell the texts apart that are digested** for some sources. -/
def TellsApart (f : Fleet) (known : String → Prop) : Prop :=
  ∀ m ∈ f.members, ∀ m' ∈ f.members, ∀ x y, known x → known y →
    digest (m.engine.keyText x) = digest (m'.engine.keyText y) →
      m.engine.keyText x = m'.engine.keyText y

/-! ## What is taken into account -/

section

variable {f start : Fleet} {known : String → Prop}

/-- What stands in front of the sources in the texts that are digested. -/
def labels (f : Fleet) (label : String) : Prop := ∃ m ∈ f.members, label = m.engine.keyLabel

/-- Sources are told apart by the digests for them. -/
theorem TellsApart.distinct (h : f.TellsApart known) (hnew : f.IsNew) (l l' x y : String)
    (hl : f.labels l) (hl' : f.labels l') (hx : known x) (hy : known y)
    (hsame : digest (l ++ x) = digest (l' ++ y)) : x = y := by
  obtain ⟨m, hm, rfl⟩ := hl
  obtain ⟨m', hm', rfl⟩ := hl'
  obtain ⟨s, hs⟩ := (hnew.members m hm).charset
  obtain ⟨s', hs'⟩ := (hnew.members m' hm').charset
  exact (Engine.keyText_inj hs hs' (h m hm m' hm' x y hx hy hsame)).2.2

/-- **The scope of a fleet**: the keys of its members, and the files that its caches leave behind,
as far as they are stored under the right keys. -/
def scope (f : Fleet) (known : String → Prop) (hnew : f.IsNew) (h : f.TellsApart known) :
    Scope where
  known := known
  labels := f.labels
  trees t := f.Leaves t ∧ t.StoresOnly (MayHold f.labels known)
  levels := f.session.levels
  distinct := h.distinct hnew
  stored _ ht d := d.holdsTrees_of_storesOnly ht.2

/-! ## Soundness -/

/-- **A fleet that keeps what it should.** -/
structure IsSound (sc : Scope) (f : Fleet) : Prop where
  files : sc.trees f.session.files
  levels : f.session.levels = sc.levels
  shelves : ∀ k, HoldsTrees sc.labels sc.known ((f.shelves k).lookup ·)
  members : ∀ m ∈ f.members, m.IsSound sc

variable {sc : Scope}

theorem IsSound.engineOf (h : f.IsSound sc) {m : Member} (hm : m ∈ f.members) :
    (f.engineOf m).IsSound sc := by
  have hengine := (h.members m hm).engine
  unfold Fleet.engineOf
  split
  · exact hengine
  · next k _ =>
    exact
      { label := hengine.label
        holds := fun x hx t ht => (hengine.holds x hx t ht).of_settings rfl
        cache := h.shelves k
        serves := hengine.serves
        loader := hengine.loader
        partialsLoader := hengine.partialsLoader }

theorem settings_engineOf (f : Fleet) (m : Member) :
    (f.engineOf m).settings = m.engine.settings := by
  unfold Fleet.engineOf
  split <;> rfl

/-- The session in which a member takes its turn. -/
theorem IsSound.store (h : f.IsSound sc) {m : Member} (hm : m ∈ f.members) :
    (f.session.withEngine (f.engineOf m)).store.IsSound sc m.engine True :=
  Session.isSound_withEngine h.files h.levels (h.engineOf hm) (f.settings_engineOf m)

/-- What stands on a shelf stood there before, or has been put there. -/
theorem shelvesWith_eq_or (f : Fleet) (shelf : Option Nat) (c : Cache) (k : Nat) :
    f.shelvesWith shelf c k = f.shelves k ∨ c = .memory (f.shelvesWith shelf c k) := by
  unfold shelvesWith
  split
  · split
    · exact .inr rfl
    · exact .inl rfl
  · exact .inl rfl

/-- The members after an operation are the others, and the one with the engine as it is left. -/
theorem mem_members_after {f : Fleet} {i : Nat} {m : Member} {op : Operation} {e : Engine}
    (he : (sessionOf (f.run m op)).engine = some e) {m' : Member}
    (h : m' ∈ (f.after i m op).members) :
    m' ∈ f.members ∨ m' = { m with engine := e, held := m.held ++ handedOut (f.run m op) } := by
  unfold after at h
  rw [he] at h
  exact List.mem_or_eq_of_mem_set h

/-- A request leaves the loaders as they are. -/
theorem suits_after_request {trees : FileTree → Prop} (h : ∀ m ∈ f.members, m.Suits trees)
    {i : Nat} {m : Member} (hm : m ∈ f.members) (r : Request) :
    ∀ m' ∈ (f.after i m (.request r)).members, m'.Suits trees := by
  intro m' hm'
  have hkept := (r.keeps_act (f.session.withEngine (f.engineOf m))).engine
  change (sessionOf (f.run m (.request r))).engine.map Engine.settings =
    some (f.engineOf m).settings at hkept
  obtain ⟨e, he, hconfig⟩ := Option.map_eq_some_iff.1 hkept
  rw [f.settings_engineOf] at hconfig
  rcases mem_members_after he hm' with hold | rfl
  · exact h m' hold
  · have hsuits := h m hm
    have hloader := Engine.eq_of_settings Engine.loader (fun _ => rfl) hconfig
    have hpartials := Engine.eq_of_settings Engine.partialsLoader (fun _ => rfl) hconfig
    exact ⟨hloader ▸ hsuits.loader, hpartials ▸ hsuits.partialsLoader⟩

/-- **Caches leave behind files of their own only**, if their directories have been there before. -/
theorem cachesApart_of_leaves (h : ∀ m ∈ f.members, m.IsNew f.session.levels)
    (hdirs : ∀ m ∈ f.members, ∀ d, m.engine.cache = .directory d →
      f.session.files.isDirectory d.location = .ok true) {t : FileTree} (ht : f.Leaves t) :
    f.session.files.CachesApart t := by
  induction ht with
  | start => exact .refl _
  | @dump m d hm hd s _ x tree ih =>
    have hcache := (h m hm).cache
    rw [hd] at hcache
    exact d.cachesApart_dump (hdirs m hm d hd) (hcache.files x) s ih

/-- So files suit that have another ending. -/
theorem suits_files (h : ∀ m ∈ f.members, m.IsNew f.session.levels)
    (hdirs : ∀ m ∈ f.members, ∀ d, m.engine.cache = .directory d →
      f.session.files.isDirectory d.location = .ok true) {search : FileSearch}
    (hsearch : search.AvoidsCaches) : (Loader.files search).Suits f.Leaves := by
  refine Loader.suits_files fun t t' ht ht' name => ?_
  have hleft := FileSearch.find_of_cachesApart hsearch (cachesApart_of_leaves h hdirs ht) name
  have hright := FileSearch.find_of_cachesApart hsearch (cachesApart_of_leaves h hdirs ht') name
  exact hright.trans hleft.symm

/-- **An operation leaves what is kept right.** -/
theorem IsSound.after (h : f.IsSound sc) {i : Nat} {m : Member} {op : Operation}
    (hm : f.members[i]? = some m) (huses : op.Uses m.held)
    (hwritten : ∀ e s, f.run m op = .error e s → ¬ e.IsUnwritten)
    (hloaders : ∀ m' ∈ (f.after i m op).members, m'.Suits sc.trees)
    (hasked : ∀ x ∈ (f.after i m op).session.asked, sc.known x) :
    (f.after i m op).IsSound sc := by
  have hmem := List.mem_of_getElem? hm
  have hheld := (h.members m hmem).held
  have hends := Operation.endsRight hheld huses (h.store hmem) hasked
  have hstore : (sessionOf (f.run m op)).store.KeepsRight sc m.engine ∧
      ∀ t ∈ handedOut (f.run m op), ∃ x, t.IsOf m.engine x := by
    change EndsRight sc m.engine _ (f.run m op) at hends
    generalize f.run m op = r at hends hwritten
    cases hends with
    | ok answer store => exact ⟨store, answer⟩
    | error store => exact ⟨store, fun t ht => absurd ht List.not_mem_nil⟩
    | unwritten unwritten => exact absurd unwritten (hwritten _ _ rfl)
  obtain ⟨hright, hout⟩ := hstore
  obtain ⟨e, he, hid, hescaping, hkeeps⟩ := hright.engine
  change (sessionOf (f.run m op)).engine = some e at he
  refine ⟨hright.files, hright.levels, fun k => ?_, fun m' hm' => ?_⟩
  · show HoldsTrees _ _ ((f.shelvesWith m.shelf _ k).lookup ·)
    rw [he]
    rcases f.shelvesWith_eq_or m.shelf e.cache k with hsame | hcache
    · exact hsame ▸ h.shelves k
    · have htrees := hkeeps.cache
      rw [hcache] at htrees
      exact htrees
  · have hsuits := hloaders m' hm'
    rcases mem_members_after he hm' with hold | rfl
    · exact h.members m' hold
    · refine ⟨⟨hkeeps, hsuits.loader, hsuits.partialsLoader⟩, fun t ht => ?_⟩
      obtain ⟨x, hx⟩ : ∃ x, t.IsOf m.engine x := by
        rcases List.mem_append.1 ht with ht | ht
        · exact hheld t ht
        · exact hout t ht
      exact ⟨x, hx.engine.trans hid.symm, hx.source, hx.tree, hx.escaping.trans hescaping.symm,
        hx.name⟩

/-- A cache that holds nothing holds nothing wrong. -/
theorem IsNew.cache (hnew : f.IsNew) (h : f.TellsApart known) {m : Member} (hm : m ∈ f.members) :
    m.engine.cache.IsSound (f.scope known hnew h) m.engine.className := by
  have hcache := (hnew.members m hm).cache
  cases hc : m.engine.cache with
  | disabled => trivial
  | memory trees =>
    rw [hc] at hcache
    rintro p l x tree - - hload
    rw [show trees = [] from hcache] at hload
    simp at hload
  | directory d =>
    rw [hc] at hcache
    refine ⟨hcache, fun s x tree ht hx hparse => ⟨.dump hm hc ht.1 x tree, ?_⟩⟩
    exact d.keepsStored_dump (h.distinct hnew) ⟨m, hm, rfl⟩ hx hparse (hcache.files x) s ht.2
  | custom v =>
    rw [hc] at hcache
    exact hcache.elim

/-- **A fleet in which nothing has been kept is sound.** -/
theorem IsNew.isSound (hnew : f.IsNew) (h : f.TellsApart known) :
    f.IsSound (f.scope known hnew h) where
  files := ⟨.start, fun place tree mode hat => absurd hat (hnew.files place tree mode)⟩
  levels := rfl
  shelves k := by
    rintro p l x tree - - hload
    rw [hnew.shelves k] at hload
    simp at hload
  members m hm := by
    have hm' := hnew.members m hm
    refine ⟨⟨⟨⟨m, hm, rfl⟩, fun x _ t ht => ?_, hnew.cache h hm, hm'.serves⟩, ?_, ?_⟩,
      fun t ht => ?_⟩
    · rw [hm'.templates, hm'.lambdas] at ht
      exact absurd ht List.not_mem_nil
    · exact (hnew.loaders m hm).loader.mono fun _ ht => ht.1
    · exact (hnew.loaders m hm).partialsLoader.mono fun _ ht => ht.1
    · rw [hm'.held] at ht
      exact absurd ht List.not_mem_nil

/-- **Whatever has been done, what is kept is right.**

**Proof sketch.** Induction on the operations. What has been asked for before the last one has been
asked for in the end. -/
theorem Reaches.isSound (hreaches : start.Reaches f) (hnew : start.IsNew)
    (h : start.TellsApart known) (hasked : ∀ x ∈ f.session.asked, known x) :
    f.IsSound (start.scope known hnew h) := by
  induction hreaches with
  | refl => exact hnew.isSound h
  | @step f i m op before turn ih =>
    have hbefore : ∀ x ∈ f.session.asked, known x := fun x hx =>
      hasked x (op.asked_subset (f.session.withEngine (f.engineOf m)) hx)
    exact (ih hbefore).after turn.member turn.uses turn.written
      (fun m' hm' => (turn.loaders m' hm').mono fun _ ht => ht.1) hasked

/-- **Requests end as they do on fresh engines.** However engines have taken turns and whatever
caches they share, a request on one of them comes to the same as on an engine of the same
configuration, with the same loaders and helpers, that has no cache and keeps nothing. Only the
sources that have been asked for have to have digests of their own. -/
theorem Reaches.sameOutcome (hreaches : start.Reaches f) (hnew : start.IsNew) {m : Member}
    (hm : m ∈ f.members) {r r' : Request} (huses : (Operation.request r).Uses m.held)
    (hafresh : r.Afresh m.engine r')
    (h : start.TellsApart (· ∈ (sessionOf (f.run m (.request r))).asked)) :
    SameOutcome (fun _ _ => True) (Answer.Rel Template.Twin) (f.run m (.request r))
      (r'.act (f.session.withEngine m.engine.settings)) := by
  have hsound := hreaches.isSound hnew h fun x hx =>
    ((Operation.request r).asked_subset (f.session.withEngine (f.engineOf m)) hx)
  obtain ⟨e, he, htwin⟩ := Session.twin_settings (hsound.store hm)
  have hconfig : e.settings = m.engine.settings := by
    rw [← f.settings_engineOf m, Option.some.inj he]
  rw [← hconfig]
  have hsame := (Request.agrees hafresh (hsound.members m hm).held huses).outcome _ _ htwin
    fun x hx => hx
  exact hsame.mono (fun _ _ _ => trivial) fun _ _ hrel => hrel.mono fun _ _ ht => ht.twin

end

end Fleet

/-! ## Two engines with one directory -/

/-- The directory for trees in the examples. -/
def CacheDirectory.usual : CacheDirectory := ⟨.below ["c"], .int 0o644, some .own⟩

/-- An engine with the usual configuration and this directory keeps nothing at first. -/
theorem Member.isNew_usual {e : Engine} (hfront : e.classPrefix = Engine.defaultPrefix)
    (hcharset : e.charset = Engine.defaultCharset) (hlogger : e.logger = .own)
    (hcache : e.cache = .directory .usual) (htemplates : e.templates = [])
    (hlambdas : e.lambdas = []) (levels : Levels) : (⟨e, none, []⟩ : Member).IsNew levels := by
  have hserves : Logger.own.Serves levels := Logger.serves_of_adapters_eq_nil rfl levels
  have hfound : (Text.Charset.find Engine.defaultCharset).toOption.isSome = true := by
    decide +kernel
  have horder : CacheDirectory.usual.InOrder levels e.className :=
    CacheDirectory.inOrder_of_below rfl hserves rfl rfl (by decide) (by decide)
      (by rw [hfront]; decide)
  exact
    { charset := hcharset ▸ exists_eq_ok_of_isSome_toOption hfound
      templates := htemplates
      lambdas := hlambdas
      held := rfl
      cache := by
        show e.cache.IsNew levels e.className
        rw [hcache]
        exact horder
      serves := by
        show e.logger.Serves levels
        rw [hlogger]
        exact hserves }

/-- An engine for template files in one directory, which keeps their trees in another one. -/
def Member.filed (id : Nat) (autoescape : Bool) : Member where
  engine :=
    { (default : Engine) with
      id, autoescape, classPrefix := Engine.defaultPrefix, charset := Engine.defaultCharset
      logger := .own, loader := .files ⟨[.below ["t"]], ".mustache", "utf-8"⟩
      partialsLoader := .table [], cache := .directory .usual }
  shelf := none
  held := []

namespace Fleet

/-- Two such engines, one of which does not escape, share the directory. -/
def pair : Fleet where
  session :=
    { (default : Session) with
      files := ⟨"root", [(["t"], .directory), (["c"], .directory),
        (["t", "main.mustache"], .file (.bytes "<\x7b\x7ba\x7d\x7d>".toUTF8.toList) 0o644)]⟩ }
  members := [.filed 0 true, .filed 1 false]
  shelves _ := []

/-- The template is rendered. -/
def mainRequest : Request := .render (.named "main") (.dict [(.text "a", .text "<")]) []

/-- Nothing is stored in the files of a tree of which no entry is a stored tree. -/
theorem at?_ne_of_entries {t : FileTree}
    (h : ∀ entry ∈ t.entries, ∀ tree mode, entry.2 ≠ .file (.stored tree) mode)
    (place : List String) (tree : Tree) (mode : Nat) :
    t.at? place ≠ some (.file (.stored tree) mode) := by
  intro hat
  unfold FileTree.at? at hat
  split at hat
  · simp at hat
  · exact h (place, _) (mem_of_lookup_eq_some hat) tree mode rfl

/-- Nothing has been kept by the two engines so far. -/
theorem isNew_pair : pair.IsNew := by
  have hmembers : ∀ m ∈ pair.members, m.IsNew pair.session.levels := by
    intro m hm
    rcases List.mem_cons.1 hm with rfl | hm
    · exact Member.isNew_usual rfl rfl rfl rfl rfl rfl _
    · exact List.mem_singleton.1 hm ▸ Member.isNew_usual rfl rfl rfl rfl rfl rfl _
  have hdirs : ∀ m ∈ pair.members, ∀ d, m.engine.cache = .directory d →
      pair.session.files.isDirectory d.location = .ok true := by
    intro m hm d hd
    have hlocation : d.location = .below ["c"] := by
      rcases List.mem_cons.1 hm with rfl | hm
      · exact congrArg CacheDirectory.location (Cache.directory.inj hd).symm
      · rw [List.mem_singleton.1 hm] at hd
        exact congrArg CacheDirectory.location (Cache.directory.inj hd).symm
    rw [hlocation]
    rfl
  have hfiles : (Loader.files ⟨[.below ["t"]], ".mustache", "utf-8"⟩).Suits pair.Leaves :=
    suits_files hmembers hdirs ⟨by decide, by decide, by decide, by decide⟩
  have htable : (Loader.table []).Suits pair.Leaves :=
    Loader.suits_table fun name source h => by simp [Entries.find?, Entries.get?] at h
  refine ⟨hmembers, fun m hm => ?_, fun _ => rfl, at?_ne_of_entries ?_⟩
  · rcases List.mem_cons.1 hm with rfl | hm
    · exact ⟨hfiles, htable⟩
    · exact List.mem_singleton.1 hm ▸ ⟨hfiles, htable⟩
  · intro entry hentry tree mode
    simp only [pair, List.mem_cons, List.not_mem_nil, or_false] at hentry
    rcases hentry with rfl | rfl | rfl <;> simp

/-- The text that an operation answers, and the sources that have been asked for. -/
def textOf : EStateM.Result Fault Session Answer → Option (String × List String)
  | .ok (.text out) s => some (out, s.asked)
  | .ok _ _ | .error _ _ => none

theorem eq_ok_of_textOf {r : EStateM.Result Fault Session Answer} {out : String}
    {asked : List String} (h : textOf r = some (out, asked)) :
    ∃ s, r = .ok (.text out) s ∧ s.asked = asked := by
  unfold textOf at h
  split at h
  · next out' s =>
    obtain ⟨rfl, rfl⟩ := Prod.mk.inj (Option.some.inj h)
    exact ⟨s, rfl, rfl⟩
  · simp at h
  · simp at h

/-- The fleet after the first engine has rendered the template. -/
def pairLater : Fleet := pair.after 0 (.filed 0 true) (.request mainRequest)

theorem exists_run_pair : ∃ out s, pair.run (.filed 0 true) (.request mainRequest) = .ok out s := by
  obtain ⟨⟨out, asked⟩, hrun⟩ := Option.isSome_iff_exists.1 (show
    (textOf (pair.run (.filed 0 true) (.request mainRequest))).isSome = true by decide +kernel)
  obtain ⟨s, hrun, -⟩ := eq_ok_of_textOf hrun
  exact ⟨_, s, hrun⟩

theorem exists_run_pairLater :
    ∃ s, pairLater.run (.filed 1 false) (.request mainRequest) = .ok (.text "<<>") s ∧
      ∀ x ∈ s.asked, x = "<\x7b\x7ba\x7d\x7d>" := by
  have hrun : textOf (pairLater.run (.filed 1 false) (.request mainRequest)) =
      some ("<<>", ["<\x7b\x7ba\x7d\x7d>", "<\x7b\x7ba\x7d\x7d>"]) := by
    decide +kernel
  obtain ⟨s, hok, hasked⟩ := eq_ok_of_textOf hrun
  refine ⟨s, hok, fun x hx => ?_⟩
  rw [hasked] at hx
  simpa using hx

/-- The first engine renders the template, and then the second one: what the second one finds in the
directory was not made for it. It renders the template as a fresh engine would. -/
theorem sameOutcome_pair : pair.Reaches pairLater ∧ Member.filed 1 false ∈ pairLater.members ∧
    SameOutcome (fun _ _ => True) (Answer.Rel Template.Twin)
      (pairLater.run (.filed 1 false) (.request mainRequest))
      (mainRequest.act (pairLater.session.withEngine (Member.filed 1 false).engine.settings)) := by
  have hturn : pair.Permits pair 0 (.filed 0 true) (.request mainRequest) :=
    { member := rfl
      uses := trivial
      written := fun e s hrun => by
        obtain ⟨out, s', hok⟩ := exists_run_pair
        rw [hok] at hrun
        simp at hrun
      loaders := suits_after_request isNew_pair.loaders List.mem_cons_self mainRequest }
  have htells : pair.TellsApart (· ∈ (sessionOf (pairLater.run (.filed 1 false)
      (.request mainRequest))).asked) := by
    obtain ⟨s, hrun, hasked⟩ := exists_run_pairLater
    rw [hrun]
    intro m hm m' hm' x y hx hy
    rw [hasked x hx, hasked y hy]
    have hdigests : ∀ m ∈ pair.members, ∀ m' ∈ pair.members,
        digest (m.engine.keyText "<\x7b\x7ba\x7d\x7d>") =
            digest (m'.engine.keyText "<\x7b\x7ba\x7d\x7d>") →
          m.engine.keyText "<\x7b\x7ba\x7d\x7d>" = m'.engine.keyText "<\x7b\x7ba\x7d\x7d>" := by
      decide +kernel
    exact hdigests m hm m' hm'
  have hmem : Member.filed 1 false ∈ pairLater.members :=
    List.mem_cons_of_mem _ List.mem_cons_self
  exact ⟨.step .refl hturn, hmem,
    Reaches.sameOutcome (.step .refl hturn) isNew_pair hmem trivial (.render _ _ _) htells⟩

end Fleet

/-! ## A loader that reads what the cache writes -/

/-- A template with two partials: one by its name, and one by the name of the file in which the
cache keeps the tree of the first. -/
def peekingSource : String :=
  "\x7b\x7b>p\x7d\x7d\x7b\x7b>Moustache_Template_3ea88d9a03ace489ed0752b070cc85e9\x7d\x7d"

/-- An engine that looks for partials in the directory of its cache, too. -/
def Member.peeking : Member where
  engine :=
    { (default : Engine) with
      classPrefix := Engine.defaultPrefix, charset := Engine.defaultCharset, autoescape := true
      logger := .own, cache := .directory .usual
      loader := .table [(.text "main", .text peekingSource)]
      partialsLoader := .choice
        [.table [(.text "p", .text "hi")], .files ⟨[.below ["c"]], ".mtree", "utf-8"⟩] }
  shelf := none
  held := []

namespace Fleet

/-- The engine by itself, and no files yet. -/
def peeking : Fleet where
  session := { (default : Session) with files := .empty "root" }
  members := [.peeking]
  shelves _ := []

/-- The sources that have been asked for when a tree turns out not to be one. -/
def undecodedOf : EStateM.Result Fault Session Answer → Option (List String)
  | .error .undecodable s => some s.asked
  | _ => none

theorem eq_error_of_undecodedOf {r : EStateM.Result Fault Session Answer} {asked : List String}
    (h : undecodedOf r = some asked) : ∃ s, r = .error .undecodable s ∧ s.asked = asked := by
  unfold undecodedOf at h
  split at h
  · next s => exact ⟨s, rfl, Option.some.inj h⟩
  · simp at h

/-- **An engine that looks for partials in the directory of its cache** finds the tree of another
partial there, which it cannot read. A fresh engine does not find anything, and leaves the partial
out. -/
theorem exists_run_peeking_apart : Member.peeking.IsNew peeking.session.levels ∧
    (∀ place tree mode, peeking.session.files.at? place ≠ some (.file (.stored tree) mode)) ∧
      peeking.TellsApart (· ∈ (sessionOf (peeking.run .peeking
        (.request (.render (.named "main") .null [])))).asked) ∧
          (∃ s, peeking.run .peeking (.request (.render (.named "main") .null [])) =
            .error .undecodable s) ∧
              ∃ s, (Request.render (.named "main") .null []).act
                (peeking.session.withEngine Member.peeking.engine.settings) =
                  .ok (.text "hi") s := by
  have hrun : undecodedOf (peeking.run .peeking (.request (.render (.named "main") .null []))) =
      some ["hi", peekingSource] := by
    decide +kernel
  obtain ⟨s, hrun, hasked⟩ := eq_error_of_undecodedOf hrun
  have hfresh : textOf ((Request.render (.named "main") .null []).act
      (peeking.session.withEngine Member.peeking.engine.settings)) =
        some ("hi", ["hi", peekingSource]) := by
    decide +kernel
  obtain ⟨s', hfresh, -⟩ := eq_ok_of_textOf hfresh
  have hdigests : ∀ x ∈ ["hi", peekingSource], ∀ y ∈ ["hi", peekingSource],
      digest (Member.peeking.engine.keyText x) = digest (Member.peeking.engine.keyText y) →
        Member.peeking.engine.keyText x = Member.peeking.engine.keyText y := by
    decide +kernel
  refine ⟨Member.isNew_usual rfl rfl rfl rfl rfl rfl _, at?_ne_of_entries ?_, ?_, ⟨s, hrun⟩,
    s', hfresh⟩
  · intro entry hentry
    exact absurd hentry List.not_mem_nil
  · rw [hrun]
    intro m hm m' hm' x y hx hy
    obtain rfl := List.mem_singleton.1 hm
    obtain rfl := List.mem_singleton.1 hm'
    exact hdigests x (hasked ▸ hx) y (hasked ▸ hy)

end Fleet

end Mustache
