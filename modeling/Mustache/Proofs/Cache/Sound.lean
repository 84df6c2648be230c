import Mustache.Proofs.Cache.Directory
import Mustache.Proofs.Cache.Key
import Mustache.Proofs.Session.TwinCalls
import Mustache.Render

/-!
# Engines that keep what they should

An engine keeps templates from loaders and texts from lambdas, and its cache keeps trees, all of
them under keys. If what is kept under the key of a source is made of this source, loading a source
comes to what parsing it comes to, wherever the template is taken from. And what is kept on the way
is kept under the right key again, also where other engines look for it.

## Main definitions

* `Mustache.Scope` — the sources, configurations and file trees that are taken into account.
* `Mustache.Engine.KeepsRight` — an engine that keeps what it should.
* `Mustache.Engine.IsSound` — such an engine with loaders whose sources are texts.
* `Mustache.Yields` — actions that end as the parse of a source does.

## Main results

* `Mustache.yields_loadSource` — templates for sources that loaders have found.
* `Mustache.yields_loadText` — templates for texts of lambdas.

## Implementation notes

Keys may collide, so that nothing holds of all sources. A scope has the sources that are taken into
account, and that their digests tell them apart is part of it.
-/

namespace Mustache

/-! ## Scopes -/

/-- **What is looked up under the key of a known source is the tree of this source**, whatever the
key begins with. -/
def HoldsTrees (labels known : String → Prop) (load : String → Option Tree) : Prop :=
  ∀ p l x tree, labels l → known x → load (p ++ digest (l ++ x)) = some tree →
    parse x .null .usual = .ok tree

/-- **What is taken into account**: which sources templates are asked for, what stands in front of
them in the texts that are digested, and what file trees caches may leave behind. -/
structure Scope where
  known : String → Prop
  labels : String → Prop
  trees : FileTree → Prop
  levels : Levels
  /-- Digests tell the known sources apart. -/
  distinct : ∀ l l' x y, labels l → labels l' → known x → known y →
    digest (l ++ x) = digest (l' ++ y) → x = y
  /-- What is stored in files is stored under the right key. -/
  stored : ∀ t, trees t → ∀ d : CacheDirectory, HoldsTrees labels known (d.load? t)

/-- A cache that holds what it should, and keeps to the file trees of the scope. -/
def Cache.IsSound (sc : Scope) (keyOf : String → String) : Cache → Prop
  | .disabled => True
  | .memory trees => HoldsTrees sc.labels sc.known (trees.lookup ·)
  | .directory d => d.InOrder sc.levels keyOf ∧
    ∀ (s : Session) x tree, sc.trees s.files → sc.known x → parse x .null .usual = .ok tree →
      sc.trees (sessionOf (d.dump (keyOf x) tree s)).files
  | .custom _ => False

/-- **A loader whose sources are texts**, and whose files are not those of the caches. -/
structure Loader.Suits (trees : FileTree → Prop) (l : Loader) : Prop where
  answers : ∀ depth name (s s' : Session) found, l.find (level depth) name s = .ok found s' →
    (∃ x, found.source = .text x) ∧ found.origin.IsName
  /-- The searches for files find the same, whatever the caches have left behind. -/
  undisturbed : ∀ search ∈ l.searches, ∀ t t', trees t → trees t' → ∀ name,
    search.find t' name = search.find t name

theorem Loader.Suits.mono {trees trees' : FileTree → Prop} {l : Loader} (h : l.Suits trees')
    (htrees : ∀ t, trees t → trees' t) : l.Suits trees where
  answers := h.answers
  undisturbed search hsearch t t' ht ht' name :=
    h.undisturbed search hsearch t t' (htrees t ht) (htrees t' ht') name

/-- **An engine that keeps what it should.** -/
structure Engine.KeepsRight (sc : Scope) (e : Engine) : Prop where
  label : sc.labels e.keyLabel
  holds : ∀ x, sc.known x → e.HoldsAt x
  cache : e.cache.IsSound sc e.className
  serves : e.logger.Serves sc.levels

/-- An engine that keeps what it should and whose loaders suit. -/
structure Engine.IsSound (sc : Scope) (e : Engine) : Prop extends e.KeepsRight sc where
  loader : e.loader.Suits sc.trees
  partialsLoader : e.partialsLoader.Suits sc.trees

/-! ## Ends of actions -/

/-- A store with a sound engine of a given configuration, which has no cache unless one is
allowed. -/
structure Store.IsSound (sc : Scope) (c : Engine) (cached : Prop) (a : Store) : Prop where
  files : sc.trees a.files
  levels : a.levels = sc.levels
  engine : ∃ e, a.engine = some e ∧ e.settings = c.settings ∧ e.IsSound sc ∧
    (e.cache.isDisabled = false → cached)

/-- A session and a later one that differ in what is kept, where what is kept is sound. -/
structure Session.Beside (sc : Scope) (c : Engine) (cached : Prop) (s s' : Session) : Prop where
  frames : s'.frames = s.frames
  tallies : s'.tallies = s.tallies
  nextId : s'.nextId = s.nextId
  store : s'.store.IsSound sc c cached

section

variable {α β : Type}

/-- **Ends of actions that load a source**: well, in the fault of its parse, or because a cache
could not be written. -/
inductive Ends (sc : Scope) (c : Engine) (cached : Prop) (x : String) (name : Value)
    (Q : α → Prop) (s : Session) : EStateM.Result Fault Session α → Prop
  | ok {a : α} {s' : Session} (answer : Q a) (beside : s.Beside sc c cached s') :
    Ends sc c cached x name Q s (.ok a s')
  | refused {failure : ParseFailure} {s' : Session}
    (refused : parse x name .usual = .error failure) (beside : s.Beside sc c cached s') :
    Ends sc c cached x name Q s (.error failure.fault s')
  | unwritten {e : Fault} {s' : Session} (unwritten : e.IsUnwritten) (may : cached) :
    Ends sc c cached x name Q s (.error e s')

/-- **An action that ends as the parse of a source does**, if what is kept is sound. -/
def Yields (sc : Scope) (c : Engine) (cached : Prop) (x : String) (name : Value) (Q : α → Prop)
    (act : Action α) : Prop :=
  ∀ s : Session, s.store.IsSound sc c cached → Ends sc c cached x name Q s (act s)

namespace Yields

variable {sc : Scope} {c : Engine} {cached : Prop} {x : String} {name : Value} {P : β → Prop}
  {Q : α → Prop} {act : Action α}

theorem pure {a : α} (h : Q a) : Yields sc c cached x name Q (Pure.pure a) :=
  fun _ hs => .ok h ⟨rfl, rfl, rfl, hs⟩

theorem bind {next : α → Action β} (h : Yields sc c cached x name Q act)
    (hnext : ∀ a, Q a → Yields sc c cached x name P (next a)) :
    Yields sc c cached x name P (act >>= next) := by
  intro s hs
  have hfirst := h s hs
  generalize hact : act s = r at hfirst
  cases hfirst with
  | @ok a s₁ answer beside =>
    rw [bind_of_ok hact]
    have hsecond := hnext a answer s₁ beside.store
    generalize next a s₁ = r at hsecond
    have htrans {s' : Session} (h : s₁.Beside sc c cached s') : s.Beside sc c cached s' :=
      ⟨h.frames.trans beside.frames, h.tallies.trans beside.tallies,
        h.nextId.trans beside.nextId, h.store⟩
    cases hsecond with
    | ok answer beside => exact .ok answer (htrans beside)
    | refused refused beside => exact .refused refused (htrans beside)
    | unwritten unwritten may => exact .unwritten unwritten may
  | refused refused beside =>
    rw [bind_of_error hact]
    exact .refused refused beside
  | unwritten unwritten may =>
    rw [bind_of_error hact]
    exact .unwritten unwritten may

/-- What is kept may be added to, if it stays sound. -/
theorem modifyEngine {f : Engine → Engine} (hsettings : ∀ e, (f e).settings = e.settings)
    (hsound : ∀ e, e.settings = c.settings → e.IsSound sc → (f e).IsSound sc)
    (hcached : ∀ e, (f e).cache.isDisabled = e.cache.isDisabled ∨ cached) :
    Yields sc c cached x name (fun _ => True) (modifyEngine f) := by
  intro s hs
  obtain ⟨e, he, hconfig, hsound', hmay⟩ := hs.engine
  refine .ok trivial ⟨rfl, rfl, rfl, hs.files, hs.levels, f e, congrArg (Option.map f) he,
    (hsettings e).trans hconfig, hsound e hconfig hsound', fun hcache => ?_⟩
  rcases hcached e with hsame | hcached
  · exact hmay (hsame ▸ hcache)
  · exact hcached

theorem logEvent {logger : Logger} (h : logger.Serves sc.levels) (level : Level)
    {message : String} {fields : Fields} (hevent : IsEvent message fields) :
    Yields sc c cached x name (fun _ => True) (logEvent logger level message fields) := by
  intro s hs
  have hlevels : s.levels = sc.levels := hs.levels
  obtain ⟨records, hrun⟩ := exists_logEvent_eq (hlevels ▸ h) level hevent
  rw [hrun]
  exact .ok trivial ⟨rfl, rfl, rfl, hs⟩

end Yields

variable {sc : Scope} {c : Engine} {cached : Prop} {x : String} {name : Value}

theorem yields_parseSource : Yields sc c cached x name
    (fun tree => parse x .null .usual = .ok tree) (parseSource x name) := by
  intro s hs
  unfold parseSource
  cases hparse : parse x name .usual with
  | ok tree => exact .ok (parse_eq_ok_of_name hparse .null) ⟨rfl, rfl, rfl, hs⟩
  | error failure => exact .refused hparse ⟨rfl, rfl, rfl, hs⟩

/-! ## Persistent caches -/

/-- What is stored last under a key is found there; nothing else changes. -/
theorem lookup_storeTree (trees : List (String × Tree)) (key : String) (tree : Tree)
    (key' : String) : (storeTree trees key tree).lookup key' =
      if key' = key then some tree else trees.lookup key' := by
  by_cases hkey : key' = key
  · subst hkey
    rw [if_pos rfl]
    induction trees with
    | nil => simp [storeTree]
    | cons entry rest ih =>
      rw [storeTree]
      split
      · next hk => simp [hk]
      · next hk => rw [List.lookup_cons, beq_eq_false_iff_ne.2 (Ne.symm hk), ih]
  · rw [if_neg hkey]
    induction trees with
    | nil => rw [storeTree, List.lookup_cons, beq_eq_false_iff_ne.2 hkey]
    | cons entry rest ih =>
      rw [storeTree]
      split
      · next hk => rw [List.lookup_cons, List.lookup_cons, hk, beq_eq_false_iff_ne.2 hkey]
      · rw [List.lookup_cons, List.lookup_cons, ih]

section

variable {e : Engine} (hconfig : e.settings = c.settings) (he : e.IsSound sc)
  (hcached : e.cache.isDisabled = false → cached) (hx : sc.known x)

include he

/-- Keys of known sources are told apart by an engine that is sound. -/
theorem Engine.IsSound.eq_of_className_eq {y : String} (hx : sc.known x) (hy : sc.known y)
    (h : e.className x = e.className y) : x = y :=
  sc.distinct _ _ x y he.label he.label hx hy (digest_eq_of_append_eq h)

/-- A further template may be kept under the key of its source. -/
theorem Engine.IsSound.keep (hx : sc.known x) {t : Template} (ht : t.IsOf e x)
    {templates lambdas : List (String × Template)}
    (hentries : ∀ entry ∈ templates ++ lambdas,
      entry ∈ e.templates ++ e.lambdas ∨ entry = (e.className x, t)) :
    ({ e with templates, lambdas } : Engine).IsSound sc where
  label := he.label
  holds y hy u hu := by
    rcases hentries _ hu with hmem | hsame
    · exact (he.holds y hy u hmem).of_settings rfl
    · obtain ⟨hkey, rfl⟩ := Prod.mk.inj hsame
      exact he.eq_of_className_eq hy hx hkey ▸ ht.of_settings rfl
  cache := he.cache
  serves := he.serves
  loader := he.loader
  partialsLoader := he.partialsLoader

include hx

/-- What the cache has under the key of a known source is the tree of the source. -/
theorem yields_load (below : Below) : Yields sc c cached x name
    (fun v => v = .null ∨ ∃ tree, v = .tree tree ∧ parse x .null .usual = .ok tree)
    (e.cache.load below (e.className x)) := by
  have hcache := he.cache
  cases hc : e.cache with
  | disabled => exact .pure (.inl rfl)
  | memory trees =>
    rw [hc] at hcache
    refine .pure ?_
    cases hlookup : trees.lookup (e.className x) with
    | none => exact .inl rfl
    | some tree => exact .inr ⟨tree, rfl, hcache _ _ x tree he.label hx hlookup⟩
  | directory d =>
    rw [hc] at hcache
    have hpath : checkPath (d.fileFor (e.className x)) = pure () := by
      unfold checkPath
      rw [if_pos (hcache.1.files x)]
    intro s hs
    have hrun : (Cache.directory d).load below (e.className x) s =
        .ok ((d.load? s.files (e.className x)).elim .null .tree) s := by
      show (checkPath (d.fileFor (e.className x)) >>= fun _ => MonadState.get >>=
        fun s : Session => (pure ((d.load? s.files (e.className x)).elim .null .tree) :
          Action Value)) s = _
      rw [hpath]
      rfl
    rw [hrun]
    refine .ok ?_ ⟨rfl, rfl, rfl, hs⟩
    cases hload : d.load? s.files (e.className x) with
    | none => exact .inl rfl
    | some tree => exact .inr ⟨tree, rfl, sc.stored _ hs.files d _ _ x tree he.label hx hload⟩
  | custom v =>
    rw [hc] at hcache
    exact hcache.elim

include hcached

/-- The tree of a known source is stored under its key. -/
theorem yields_dump (below : Below) {tree : Tree} (hparse : parse x .null .usual = .ok tree) :
    Yields sc c cached x name (fun cache => cache.IsSound sc e.className ∧
      cache.isDisabled = e.cache.isDisabled) (e.cache.dump below (e.className x) tree) := by
  have hcache := he.cache
  cases hc : e.cache with
  | disabled => exact .pure ⟨trivial, rfl⟩
  | memory trees =>
    rw [hc] at hcache
    refine .pure ⟨fun p l y tree' hl hy hload => ?_, rfl⟩
    dsimp only at hload
    rw [lookup_storeTree] at hload
    split at hload
    · next hkey =>
      obtain rfl : y = x := sc.distinct _ _ y x hl he.label hy hx (digest_eq_of_append_eq hkey)
      exact Option.some.inj hload ▸ hparse
    · exact hcache p l y tree' hl hy hload
  | directory d =>
    rw [hc] at hcache hcached
    have hdump : Yields sc c cached x name (fun _ => True) (d.dump (e.className x) tree) := by
      intro s hs
      have htrees := hcache.2 s x tree hs.files hx hparse
      obtain ⟨files, records, hrun | ⟨fault, hfault, hrun⟩⟩ :=
        CacheDirectory.onlyFiles_dump hcache.1 x tree s hs.levels
      · rw [hrun] at htrees ⊢
        exact .ok trivial ⟨rfl, rfl, rfl, htrees, hs.levels, hs.engine⟩
      · rw [hrun]
        exact .unwritten hfault (hcached rfl)
    exact .bind hdump fun _ _ => .pure ⟨hcache, rfl⟩
  | custom v =>
    rw [hc] at hcache
    exact hcache.elim

/-! ## Templates -/

include hconfig

/-- The tree for a known source is the one that it parses to. -/
theorem yields_treeFor (below : Below) : Yields sc c cached x name
    (fun v => ∃ tree, v = .tree tree ∧ parse x .null .usual = .ok tree)
    (treeFor below e (.text x) (e.className x) name) := by
  unfold treeFor
  dsimp only
  split
  · exact .bind (.logEvent he.serves _ (.disabled _)) fun _ _ =>
      .bind yields_parseSource fun tree hparse => .pure ⟨tree, rfl, hparse⟩
  · next hdisabled =>
    have hmay : cached := by
      refine hcached ?_
      cases hc : e.cache with
      | disabled => exact absurd hc hdisabled
      | _ => rfl
    refine .bind (yields_load he hx below) fun v hv => ?_
    rcases hv with rfl | ⟨tree, rfl, hparse⟩
    · refine .bind (.logEvent he.serves _ (.miss _)) fun _ _ =>
        .bind yields_parseSource fun tree hparse =>
          .bind (yields_dump he hcached hx below hparse) fun cache hcache =>
            .bind (.modifyEngine (fun _ => rfl) (fun e' hconfig' he' => ?_) fun _ => .inr hmay)
              fun _ _ => .pure ⟨tree, rfl, hparse⟩
      have hkey : e'.className = e.className :=
        Engine.className_of_settings (hconfig'.trans hconfig.symm)
      exact
        { label := he'.label
          holds := fun y hy t ht => (he'.holds y hy t ht).of_settings rfl
          cache := hkey ▸ hcache.1
          serves := he'.serves
          loader := he'.loader
          partialsLoader := he'.partialsLoader }
    · exact .pure ⟨tree, rfl, hparse⟩

omit hcached hx in
/-- A template for a tree of the source. -/
theorem yields_makeTemplate (hname : name.IsName) {name' : Value} (key : String)
    {tree : Action Tree}
    (htree : Yields sc c cached x name' (fun tree => parse x .null .usual = .ok tree) tree) :
    Yields sc c cached x name' (fun t => t.IsOf c x) (makeTemplate e x key name tree) := by
  have hid : c.id = e.id := (Engine.eq_of_settings Engine.id (fun _ => rfl) hconfig).symm
  have hescaping : c.escaping = e.escaping :=
    (Engine.eq_of_settings Engine.escaping (fun _ => rfl) hconfig).symm
  have hnumber : Yields sc c cached x name' (fun _ => True) freshTemplateId :=
    fun s hs => .ok trivial ⟨rfl, rfl, rfl, hs⟩
  exact .bind (.logEvent he.serves _ (.compiling _)) fun _ _ => .bind htree fun tree hparse =>
    .bind (.logEvent he.serves _ (.instantiating _)) fun _ _ => .bind hnumber fun id _ =>
      .pure ⟨hid.symm, rfl, hparse, hescaping.symm, hname⟩

/-- **The template for a known source is made of this source**, wherever it is taken from. -/
theorem yields_templateFor (hname : name.IsName) (below : Below) :
    Yields sc c cached x name (fun t => t.IsOf c x)
      (templateFor below e (.text x) x (e.className x) name) := by
  unfold templateFor
  split
  · next t ht =>
    have hof := he.holds x hx t (List.mem_append_left _ (mem_of_lookup_eq_some ht))
    exact .pure (hof.of_settings hconfig.symm)
  · refine .bind (yields_treeFor hconfig he hcached hx below) fun v hv => ?_
    obtain ⟨tree, rfl, hparse⟩ := hv
    refine .bind (yields_makeTemplate hconfig he hname _ (.pure hparse)) fun t ht =>
      .bind (.modifyEngine (fun _ => rfl) (fun e' hconfig' he' => ?_) fun _ => .inl rfl)
        fun _ _ => .pure ht
    rw [Engine.className_of_settings (hconfig.trans hconfig'.symm)]
    refine he'.keep hx (ht.of_settings hconfig') fun entry hentry => ?_
    simp only [List.mem_append, List.mem_singleton] at hentry ⊢
    rcases hentry with (hmem | hsame) | hmem
    · exact .inl (.inl hmem)
    · exact .inr hsame
    · exact .inl (.inr hmem)

omit hcached in
/-- **The template for a text from a lambda is made of this text**, wherever it is taken from. -/
theorem yields_textFor : Yields sc c cached x .null (fun t => t.IsOf c x)
    (textFor e x (e.className x)) := by
  have hheld {t : Template} {templates : List (String × Template)}
      (ht : templates.lookup (e.className x) = some t)
      (hsub : ∀ entry ∈ templates, entry ∈ e.templates ++ e.lambdas) : t.IsOf c x :=
    (he.holds x hx t (hsub _ (mem_of_lookup_eq_some ht))).of_settings hconfig.symm
  unfold textFor
  split
  · next t ht => exact .pure (hheld ht fun _ => List.mem_append_left _)
  · split
    · next t ht =>
      have hof := hheld ht fun _ => List.mem_append_right _
      refine .bind (.modifyEngine (fun _ => rfl) (fun e' hconfig' he' => ?_) fun _ => .inl rfl)
        fun _ _ => .pure hof
      refine he'.keep hx (hof.of_settings hconfig') fun entry hentry => .inl ?_
      rcases List.mem_append.1 hentry with hmem | hmem
      · exact List.mem_append_left _ hmem
      · exact List.mem_append_right _ (Recent.mem_of_mem_touch hmem)
    · refine .bind yields_parseSource fun tree hparse =>
        .bind (yields_makeTemplate hconfig he (show Value.null.IsName from trivial) _
          (.pure hparse)) fun t ht =>
          .bind (.modifyEngine (fun _ => rfl) (fun e' hconfig' he' => ?_) fun _ => .inl rfl)
            fun _ _ => .pure ht
      rw [Engine.className_of_settings (hconfig.trans hconfig'.symm)]
      refine he'.keep hx (ht.of_settings hconfig') fun entry hentry => ?_
      rcases List.mem_append.1 hentry with hmem | hmem
      · exact .inl (List.mem_append_left _ hmem)
      · exact (Recent.mem_of_mem_insert hmem).imp_left (List.mem_append_right _)

end

/-! ## Loading -/

theorem yields_theEngine : Yields sc c cached x name
    (fun e => e.settings = c.settings ∧ e.IsSound sc ∧ (e.cache.isDisabled = false → cached))
    theEngine := by
  intro s hs
  obtain ⟨e, he, hconfig, hsound, hmay⟩ := hs.engine
  rw [theEngine_eq_ok he]
  exact .ok ⟨hconfig, hsound, hmay⟩ ⟨rfl, rfl, rfl, hs⟩

theorem yields_askFor (e : Engine) : Yields sc c cached x name (fun key => key = e.className x)
    (askFor e x) :=
  fun _ hs => .ok rfl ⟨rfl, rfl, rfl, hs⟩

/-- **A known source is loaded as it parses.** -/
theorem yields_loadSource (hx : sc.known x) (hname : name.IsName) (below : Below) :
    Yields sc c cached x name (fun t => t.IsOf c x) (loadSource below (.text x) name) := by
  refine .bind yields_theEngine fun e he => ?_
  obtain ⟨hconfig, hsound, hmay⟩ := he
  refine .bind (Q := fun text => text = x) (.pure rfl) fun text htext => ?_
  subst htext
  refine .bind (yields_askFor e) fun key hkey => ?_
  subst hkey
  exact yields_templateFor hconfig hsound hmay hx hname below

/-- **A known text from a lambda is loaded as it parses.** -/
theorem yields_loadText {text : String} {delims : Option String}
    (hx : sc.known (lambdaSource text delims)) :
    Yields sc c cached (lambdaSource text delims) .null
      (fun t => t.IsOf c (lambdaSource text delims)) (loadText text delims) := by
  refine .bind yields_theEngine fun e he => ?_
  obtain ⟨hconfig, hsound, -⟩ := he
  refine .bind (yields_askFor e) fun key hkey => ?_
  subst hkey
  exact yields_textFor hconfig hsound hx

end

end Mustache
