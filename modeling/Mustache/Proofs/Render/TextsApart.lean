import Mustache.Proofs.Render.Twin

/-!
# Engines that keep different texts

An engine keeps the texts of lambdas that have been used last. Two engines may differ in the texts
that they keep, as one of them has loaded a text that the other has not, or has dropped one. If all
that they keep are templates of the right texts, nothing of this shows in what is rendered.

## Main definitions

* `Mustache.Engine.TextsApart` — engines that differ in the texts that they keep.
* `Mustache.Store.TextsApart` — stores with such engines.

## Main results

* `Mustache.agrees_loadSource` — templates are loaded alike.
* `Mustache.faithful_textsApart` — and so everything is rendered alike.
-/

namespace Mustache

/-! ## Stores that differ in texts -/

/-- **Engines that differ in the texts from lambdas that they keep**, where what they keep of the
known texts are templates of these texts. -/
structure Engine.TextsApart (known : String → Prop) (levels : Levels) (e e' : Engine) : Prop where
  settings : e'.settings = e.settings
  cache : e'.cache = e.cache
  templates : List.Forall₂ (fun entry entry' => entry'.1 = entry.1 ∧ entry.2.Twin entry'.2)
    e.templates e'.templates
  texts : ∀ x, known x → e.HoldsText x
  texts' : ∀ x, known x → e'.HoldsText x
  /-- The keys of the known sources tell them apart. -/
  distinct : ∀ x y, known x → known y → e.className x = e.className y → x = y
  serves : e.logger.Serves levels

/-- Stores with engines that differ in the texts that they keep. -/
structure Store.TextsApart (known : String → Prop) (a b : Store) : Prop where
  files : b.files = a.files
  levels : b.levels = a.levels
  engine : ∃ e e', a.engine = some e ∧ b.engine = some e' ∧ e.TextsApart known a.levels e'

variable {α : Type} {known : String → Prop} {Q : α → α → Prop}

/-- Twins are found under the same keys. -/
theorem rel_lookup_of_forall₂ {entries entries' : List (String × Template)}
    (h : List.Forall₂ (fun entry entry' => entry'.1 = entry.1 ∧ entry.2.Twin entry'.2)
      entries entries') (key : String) :
    Option.Rel Template.Twin (entries.lookup key) (entries'.lookup key) := by
  induction h with
  | nil => exact .none
  | @cons entry entry' _ _ hfirst _ ih =>
    rw [List.lookup_cons, List.lookup_cons, hfirst.1]
    cases key == entry.1 with
    | true => exact .some hfirst.2
    | false => exact ih

/-- A further text may be kept on either side, if it is kept under its own key. -/
theorem Engine.HoldsText.of_insert {e : Engine} {x y : String} {t : Template}
    (h : e.HoldsText x) (ht : t.IsOf e y) (hdistinct : e.className x = e.className y → x = y)
    {lambdas : List (String × Template)}
    (hlambdas : ∀ entry ∈ lambdas, entry ∈ e.lambdas ∨ entry = (e.className y, t)) :
    ({ e with lambdas } : Engine).HoldsText x := by
  intro t' ht'
  have hmem : (e.className x, t') ∈ e.lambdas ∨ (e.className x, t') = (e.className y, t) :=
    hlambdas _ ht'
  rcases hmem with hmem | heq
  · exact (h t' hmem).of_settings rfl
  · obtain ⟨hkey, rfl⟩ := Prod.mk.inj heq
    exact hdistinct hkey ▸ ht.of_settings rfl

/-! ## Actions on the store -/

namespace Agrees

theorem getFiles {next next' : Session → Action α}
    (h : ∀ s s' : Session, s'.files = s.files →
      Agrees (Store.TextsApart known) known Q (next s) (next' s')) :
    Agrees (Store.TextsApart known) known Q (MonadState.get >>= next)
      (MonadState.get >>= next') :=
  ⟨.bind .get fun s => (h s s rfl).keeps,
    fun s s' htwin hasked => (h s s' htwin.store.files).outcome s s' htwin hasked⟩

theorem modifyFiles (f : FileTree → FileTree) :
    Agrees (Store.TextsApart known) known Eq
      (modify fun s : Session => { s with files := f s.files })
      (modify fun s : Session => { s with files := f s.files }) :=
  .modifyGet (fun _ => ⟨rfl, rfl, List.Subset.refl _, fun _ => Nat.le_refl _⟩) fun _ _ h =>
    ⟨rfl, h.frames, h.tallies, h.nextId,
      ⟨congrArg f h.store.files, h.store.levels, h.store.engine⟩⟩

end Agrees

theorem agrees_theEngine :
    Agrees (Store.TextsApart known) known (fun e e' => ∃ levels, e.TextsApart known levels e')
      theEngine theEngine := by
  refine ⟨keeps_theEngine, fun s s' htwin _ => ?_⟩
  obtain ⟨e, e', he, he', hapart⟩ := htwin.store.engine
  rw [theEngine_eq_ok he, theEngine_eq_ok he']
  exact .ok ⟨_, hapart⟩ htwin

theorem agrees_modifyEngine {f f' : Engine → Engine} (hf : ∀ e, (f e).settings = e.settings)
    (h : ∀ levels e e', e.TextsApart known levels e' → (f e).TextsApart known levels (f' e')) :
    Agrees (Store.TextsApart known) known Eq (modifyEngine f) (modifyEngine f') := by
  refine ⟨keeps_modifyEngine hf, fun s s' htwin _ => .ok rfl ?_⟩
  obtain ⟨e, e', he, he', hapart⟩ := htwin.store.engine
  refine ⟨htwin.frames, htwin.tallies, htwin.nextId, htwin.store.files, htwin.store.levels,
    f e, f' e', ?_, ?_, h _ _ _ hapart⟩
  · exact congrArg (Option.map f) he
  · exact congrArg (Option.map f') he'

theorem agrees_report (logger : Logger) (level : Level) (message : String) (fields : Fields) :
    Agrees (Store.TextsApart known) known Eq (logEvent logger level message fields)
      (logEvent logger level message fields) :=
  agrees_logEvent (fun _ _ h => h.levels) _ _ _ _

/-! ## Texts of lambdas -/

/-- An engine may keep a further text. -/
theorem Engine.TextsApart.keep {levels : Levels} {e e' : Engine}
    (h : e.TextsApart known levels e') {source : String} (hsource : known source) {t t' : Template}
    (ht : t.IsOf e source) (ht' : t'.IsOf e' source) {lambdas lambdas' : List (String × Template)}
    (hlambdas : ∀ entry ∈ lambdas, entry ∈ e.lambdas ∨ entry = (e.className source, t))
    (hlambdas' : ∀ entry ∈ lambdas', entry ∈ e'.lambdas ∨ entry = (e'.className source, t')) :
    ({ e with lambdas } : Engine).TextsApart known levels { e' with lambdas := lambdas' } where
  settings := h.settings
  cache := h.cache
  templates := h.templates
  texts x hx := (h.texts x hx).of_insert ht (h.distinct x source hx hsource) hlambdas
  texts' x hx := by
    refine (h.texts' x hx).of_insert ht' ?_ hlambdas'
    rw [className_of_settings h.settings]
    exact h.distinct x source hx hsource
  distinct := h.distinct
  serves := h.serves

/-- **The text of a lambda is loaded alike.**

**Proof sketch.** If a loader has brought in a template with the key of the text, the other engine
has a twin of it. Otherwise each of them has a template of the text, or compiles it, or both end in
the fault of the parse. -/
theorem agreesOnTexts_textsApart : AgreesOnTexts (Store.TextsApart known) known := by
  intro text delims
  refine ⟨keeps_loadText _ _, fun s s' htwin hasked => ?_⟩
  obtain ⟨e, e', he, he', hapart⟩ := htwin.store.engine
  have hknown : known (lambdaSource text delims) := hasked _ (mem_asked_of_loadText he)
  have hlookup := rel_lookup_of_forall₂ hapart.templates (e.className (lambdaSource text delims))
  have hasking : Session.Twin (Store.TextsApart known)
      { s with asked := lambdaSource text delims :: s.asked }
      { s' with asked := lambdaSource text delims :: s'.asked } :=
    ⟨htwin.frames, htwin.tallies, htwin.nextId, htwin.store⟩
  generalize hfound : e.templates.lookup (e.className (lambdaSource text delims)) = found
    at hlookup
  generalize hfound' : e'.templates.lookup (e.className (lambdaSource text delims)) = found'
    at hlookup
  rw [← Engine.className_of_settings hapart.settings] at hfound'
  cases hlookup with
  | some ht =>
    rw [loadText_of_lookup_eq_some he hfound, loadText_of_lookup_eq_some he' hfound']
    exact .ok ht hasking
  | none =>
    cases hparse : parse (lambdaSource text delims) .null .usual with
    | error failure =>
      rw [loadText_of_error_of_lookup he hfound (hapart.texts _ hknown) hparse,
        loadText_of_error_of_lookup he' hfound' (hapart.texts' _ hknown) hparse]
      exact .error (.refl _) hasking
    | ok tree =>
      have hserves : e'.logger.Serves s'.levels := by
        have hlevels : s'.levels = s.levels := htwin.store.levels
        rw [hlevels, Engine.eq_of_settings Engine.logger (fun _ => rfl) hapart.settings]
        exact hapart.serves
      obtain ⟨t, lambdas, records, nextTemplate, hrun, ht, hlambdas⟩ :=
        loadText_of_parse_of_lookup he hfound (hapart.texts _ hknown) hapart.serves hparse
      obtain ⟨t', lambdas', records', nextTemplate', hrun', ht', hlambdas'⟩ :=
        loadText_of_parse_of_lookup he' hfound' (hapart.texts' _ hknown) hserves hparse
      rw [hrun, hrun']
      refine .ok (ht.twin ht' ?_ ?_) ⟨htwin.frames, htwin.tallies, htwin.nextId,
        htwin.store.files, htwin.store.levels, _, _, rfl, rfl,
        hapart.keep hknown ht ht' hlambdas hlambdas'⟩
      · exact Engine.eq_of_settings Engine.id (fun _ => rfl) hapart.settings
      · exact Engine.eq_of_settings Engine.escaping (fun _ => rfl) hapart.settings

/-! ## Persistent caches -/

namespace CacheDirectory

theorem agrees_log (d : CacheDirectory) (level : Level) (message : String) (fields : Fields) :
    Agrees (Store.TextsApart known) known Eq (d.log level message fields)
      (d.log level message fields) := by
  unfold log
  split
  · exact agrees_report _ _ _ _
  · exact .fault _

theorem agrees_ensure (d : CacheDirectory) :
    Agrees (Store.TextsApart known) known Eq d.ensure d.ensure := by
  refine .getFiles fun s s' hfiles => ?_
  dsimp only
  rw [hfiles]
  split
  · exact .fault _
  · exact .pure rfl
  · refine .bind (agrees_log d _ _ _) fun _ => .bind (.ite (.pure rfl) (.fault _)) fun _ =>
      .bind (.modifyFiles fun _ => _) fun _ => ?_
    split
    · exact .pure rfl
    · exact .fault _

theorem agrees_place (d : CacheDirectory) (path temporary : Location) (tree : Tree) :
    Agrees (Store.TextsApart known) known Eq (d.place path temporary tree)
      (d.place path temporary tree) := by
  refine .getFiles fun s s' hfiles => ?_
  dsimp only
  rw [hfiles]
  split
  · exact .bind (.modifyFiles fun _ => _) fun _ => .bind (.liftFault _) fun _ =>
      .modifyFiles fun t => t.setMode path _
  · exact .bind (agrees_log d _ _ _) fun _ => .fault _

theorem agrees_refuse (path temporary : Location) (tree : Tree) :
    Agrees (Store.TextsApart known) known Eq (refuse path temporary tree)
      (refuse path temporary tree) := by
  refine .ite (.pure rfl) (.getFiles fun s s' hfiles => ?_)
  dsimp only
  rw [hfiles]
  split
  · exact .bind (.modifyFiles fun _ => _) fun _ => .fault _
  · exact .fault _

theorem agrees_dump (d : CacheDirectory) (key : String) (tree : Tree) :
    Agrees (Store.TextsApart known) known Eq (d.dump key tree) (d.dump key tree) := by
  refine .bind (agrees_ensure d) fun _ => .getFiles fun s s' hfiles => ?_
  dsimp only
  rw [hfiles]
  refine .bind (agrees_log d _ _ _) fun _ => ?_
  exact .guard (.refl _) <| .guard (.refl _) <|
    .bind (agrees_refuse _ _ _) fun _ => agrees_place d _ _ _

end CacheDirectory

section

variable {below : Below} (h : below.Agrees (Store.TextsApart known) known)

include h

theorem Cache.agrees_load (c : Cache) (key : String) :
    Agrees (Store.TextsApart known) known Eq (c.load below key) (c.load below key) := by
  unfold Cache.load
  split
  · exact .pure rfl
  · exact .pure rfl
  · exact .bind (.ite (.pure rfl) (.fault _)) fun _ => .getFiles fun s s' hfiles => by
      rw [hfiles]
      exact .pure rfl
  · exact Value.agrees_callMember h agreesOnTexts_textsApart _ _ _

theorem Cache.agrees_dump (c : Cache) (key : String) (tree : Tree) :
    Agrees (Store.TextsApart known) known Eq (c.dump below key tree) (c.dump below key tree) := by
  unfold Cache.dump
  split
  · exact .pure rfl
  · exact .pure rfl
  · exact .bind (CacheDirectory.agrees_dump _ _ _) fun _ => .pure rfl
  · exact .bind (Value.agrees_callMember h agreesOnTexts_textsApart _ _ _) fun _ => .pure rfl

/-! ## Templates -/

omit h in
theorem agrees_parseSource (source : String) (name : Value) :
    Agrees (Store.TextsApart known) known Eq (parseSource source name)
      (parseSource source name) := by
  unfold parseSource
  split
  · exact .pure rfl
  · exact .fault _

omit h in
theorem agrees_makeTemplate {e e' : Engine} (hsettings : e'.settings = e.settings)
    (source key : String) (name : Value) {tree : Action Tree}
    (htree : Agrees (Store.TextsApart known) known Eq tree tree) :
    Agrees (Store.TextsApart known) known Template.Twin (makeTemplate e source key name tree)
      (makeTemplate e' source key name tree) := by
  have hid : e'.id = e.id := Engine.eq_of_settings Engine.id (fun _ => rfl) hsettings
  have hescaping : e'.escaping = e.escaping :=
    Engine.eq_of_settings Engine.escaping (fun _ => rfl) hsettings
  have hlogger : e'.logger = e.logger :=
    Engine.eq_of_settings Engine.logger (fun _ => rfl) hsettings
  have hnumber : Agrees (Store.TextsApart known) known (fun _ _ => True) freshTemplateId
      freshTemplateId :=
    ⟨keeps_freshTemplateId, fun s s' htwin _ => .ok trivial
      ⟨htwin.frames, htwin.tallies, htwin.nextId, htwin.store⟩⟩
  unfold makeTemplate
  rw [hlogger, hid, hescaping]
  exact .bind (agrees_report _ _ _ _) fun _ => .bind htree fun _ =>
    .bind (agrees_report _ _ _ _) fun _ => .bindOn hnumber (fun _ => .pure _) fun _ _ _ =>
      .pure ⟨rfl, rfl, rfl, rfl, .inl rfl⟩

theorem agrees_treeFor {levels : Levels} {e e' : Engine} (he : e.TextsApart known levels e')
    (source : Value) (key : String) (name : Value) :
    Agrees (Store.TextsApart known) known Eq (treeFor below e source key name)
      (treeFor below e' source key name) := by
  have hsame : treeFor below e' source key name = treeFor below e source key name := by
    unfold treeFor
    rw [he.cache, Engine.eq_of_settings Engine.logger (fun _ => rfl) he.settings]
  rw [hsame]
  unfold treeFor
  extract_lets fields parsed
  have hparsed : Agrees (Store.TextsApart known) known Eq parsed parsed := by
    unfold parsed
    split
    · exact agrees_parseSource _ _
    · exact .fault _
  split
  · exact .bind (agrees_report _ _ _ _) fun _ => .bind hparsed fun _ => .pure rfl
  · refine .bind (Cache.agrees_load h _ _) fun v => ?_
    split
    · refine .bind (agrees_report _ _ _ _) fun _ => .bind hparsed fun _ =>
        .bind (Cache.agrees_dump h _ _ _) fun cache => .bind ?_ fun _ => .pure rfl
      exact agrees_modifyEngine (fun _ => rfl) fun _ _ _ hapart =>
        { hapart with
          cache := rfl
          texts := fun x hx t ht => (hapart.texts x hx t ht).of_settings rfl
          texts' := fun x hx t ht => (hapart.texts' x hx t ht).of_settings rfl }
    · exact .pure rfl

theorem agrees_templateFor {levels : Levels} {e e' : Engine} (he : e.TextsApart known levels e')
    (source : Value) (text key : String) (name : Value) :
    Agrees (Store.TextsApart known) known Template.Twin (templateFor below e source text key name)
      (templateFor below e' source text key name) := by
  have hlookup := rel_lookup_of_forall₂ he.templates key
  unfold templateFor
  generalize e.templates.lookup key = found, e'.templates.lookup key = found' at hlookup
  cases hlookup with
  | some ht => exact .pure ht
  | none =>
    have hstore (t : Template) :
        Keeps (modifyEngine fun e => { e with templates := e.templates ++ [(key, t)] }) :=
      keeps_modifyEngine fun _ => rfl
    refine .bind (agrees_treeFor h he _ _ _) fun tree =>
      .bindOn (agrees_makeTemplate he.settings _ _ _ (agrees_treeOf h agreesOnTexts_textsApart _ _))
        (fun t => .bind (hstore t) fun _ => .pure t) fun t t' ht =>
          .bind ?_ fun _ => .pure ht
    exact agrees_modifyEngine (fun _ => rfl) fun _ _ _ hapart =>
      { hapart with
        templates := List.rel_append hapart.templates (.cons ⟨rfl, ht⟩ .nil)
        texts := fun x hx t ht => (hapart.texts x hx t ht).of_settings rfl
        texts' := fun x hx t ht => (hapart.texts' x hx t ht).of_settings rfl }

theorem agrees_loadSource (source name : Value) :
    Agrees (Store.TextsApart known) known Template.Twin (loadSource below source name)
      (loadSource below source name) := by
  have hkeeps (e : Engine) (text : String) :
      Keeps (askFor e text >>= fun key => templateFor below e source text key name) :=
    .bind (keeps_askFor _ _) fun _ => keeps_templateFor h.keeps _ _ _ _ _
  refine .bindOn agrees_theEngine (fun e => .bind (.liftFault _) (hkeeps e)) ?_
  rintro e e' ⟨levels, he⟩
  refine .bind (.liftFault _) fun text => .bind ?_ fun key => agrees_templateFor h he _ _ _ _
  unfold askFor
  rw [Engine.className_of_settings he.settings]
  exact .modifyGet (keeps_askFor e text) fun _ _ htwin =>
    ⟨rfl, htwin.frames, htwin.tallies, htwin.nextId, htwin.store⟩

theorem agrees_partialFor (logger : Logger) (name : String) (found : Option Found) :
    Agrees (Store.TextsApart known) known (Option.Rel Template.Twin)
      (partialFor below logger name found) (partialFor below logger name found) := by
  cases found with
  | none => exact .bind (agrees_report _ _ _ _) fun _ => .pure .none
  | some found =>
    exact .bind (.liftFault _) fun _ =>
      .bindOn (agrees_loadSource h _ _) (fun _ => .pure _) fun _ _ ht => .pure (.some ht)

theorem agrees_loadPartial? (name : String) :
    Agrees (Store.TextsApart known) known (Option.Rel Template.Twin) (loadPartial? below name)
      (loadPartial? below name) := by
  have hkeeps (e : Engine) : Keeps (attempt .notFound (e.partialsLoader.find below name) >>=
      partialFor below e.logger name) :=
    .bind (.attempt .notFound (Loader.keeps_find h.keeps _ _)) (keeps_partialFor h.keeps _ _)
  refine .bindOn agrees_theEngine hkeeps ?_
  rintro e e' ⟨levels, he⟩
  rw [Engine.eq_of_settings Engine.partialsLoader (fun _ => rfl) he.settings,
    Engine.eq_of_settings Engine.logger (fun _ => rfl) he.settings]
  refine .bind (.attempt .notFound (Loader.agrees_find h agreesOnTexts_textsApart _ _ ?_))
    fun found => agrees_partialFor h _ _ found
  intro a b hab search _
  rw [hab.files]

end

/-- **Everything is rendered alike** by engines that differ in the texts that they keep. -/
theorem faithful_textsApart (known : String → Prop) : Faithful (Store.TextsApart known) known where
  settings a b h := by
    obtain ⟨e, e', he, he', hapart⟩ := h.engine
    rw [he, he', Option.map_some, Option.map_some, hapart.settings]
  texts := agreesOnTexts_textsApart
  partials _ name h := agrees_loadPartial? h name

end Mustache
