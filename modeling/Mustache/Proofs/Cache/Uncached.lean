import Mustache.Proofs.Cache.Sound
import Mustache.Proofs.Render.Twin

/-!
# Rendering with and without a cache

An engine that keeps templates and has a persistent cache, and an engine of the same configuration
without a cache, load the same templates: whatever the first one finds, it finds what the second one
makes. So they render alike.

## Main definitions

* `Mustache.Store.CacheApart` — stores of which one has no cache.

## Main results

* `Mustache.Store.CacheApart.agrees_loadTemplate` — templates by name.
* `Mustache.Store.CacheApart.faithful` — templates are rendered alike.
-/

namespace Mustache

/-- **Stores with sound engines of the same configuration**, of which the second has no cache. -/
structure Store.CacheApart (sc : Scope) (c : Engine) (a b : Store) : Prop where
  sound : a.IsSound sc c True
  uncached : b.IsSound sc c False

variable {α : Type} {sc : Scope} {c : Engine}

/-! ## From ends to agreement -/

/-- Actions that end as the parse of a source does agree. -/
theorem Agrees.of_yields {x : String} {name : Value} {Q : α → Prop} {act : Action α}
    (hkeeps : Keeps act)
    (hasks : ∀ s e, s.engine = some e → x ∈ (sessionOf (act s)).asked)
    (hyields : ∀ cached, sc.known x → Yields sc c cached x name Q act)
    (hparse : ∀ a, Q a → ∃ tree, parse x .null .usual = .ok tree) :
    Agrees (Store.CacheApart sc c) sc.known (fun a a' => Q a ∧ Q a') act act := by
  refine ⟨hkeeps, fun s s' htwin hasked => ?_⟩
  obtain ⟨e, he, -⟩ := htwin.store.sound.engine
  have hx : sc.known x := hasked x (hasks s e he)
  have hleft := hyields True hx s htwin.store.sound
  have hright := hyields False hx s' htwin.store.uncached
  have htwins {s₁ s₁' : Session} (h : s.Beside sc c True s₁) (h' : s'.Beside sc c False s₁') :
      s₁.Twin (Store.CacheApart sc c) s₁' :=
    ⟨by rw [h.frames, h'.frames, htwin.frames], by rw [h.tallies, h'.tallies, htwin.tallies],
      by rw [h.nextId, h'.nextId, htwin.nextId], h.store, h'.store⟩
  -- A source that is refused has no template.
  have hexclusive {a : α} {failure : ParseFailure} (ha : Q a)
      (h : parse x name .usual = .error failure) : False := by
    obtain ⟨tree, htree⟩ := hparse a ha
    rw [parse_eq_ok_of_name htree name] at h
    simp at h
  generalize act s = r at hleft
  generalize act s' = r' at hright
  cases hleft with
  | ok answer beside =>
    cases hright with
    | ok answer' beside' => exact .ok ⟨answer, answer'⟩ (htwins beside beside')
    | refused refused' _ => exact (hexclusive answer refused').elim
    | unwritten _ may => exact may.elim
  | refused refused beside =>
    cases hright with
    | ok answer' _ => exact (hexclusive answer' refused).elim
    | refused refused' beside' =>
      rw [refused, Except.error.injEq] at refused'
      exact .error (refused' ▸ .refl _) (htwins beside beside')
    | unwritten _ may => exact may.elim
  | unwritten unwritten _ => exact .unwritten unwritten

/-! ## Templates of a source -/

/-- **Templates of the same source**, both made under the configuration. -/
def Template.SameSource (c : Engine) (t t' : Template) : Prop :=
  ∃ x, t.IsOf c x ∧ t'.IsOf c x

theorem Template.SameSource.twin {t t' : Template} (h : t.SameSource c t') : t.Twin t' := by
  obtain ⟨x, ht, ht'⟩ := h
  exact ht.twin ht' rfl rfl

/-- A name is known as text or null if the origin is one of both. -/
theorem exists_knownAs_eq {origin : Value} (h : origin.IsName) (name : String) :
    ∃ n, knownAs origin name = .ok n ∧ n.IsName := by
  cases origin <;> first | exact h.elim | skip
  · exact ⟨.text name, rfl, trivial⟩
  · next text =>
    unfold knownAs
    show ∃ n, (if (Value.text text).isVacant = true then _ else _) = _ ∧ _
    split
    · exact ⟨.text name, rfl, trivial⟩
    · exact ⟨.text text, rfl, trivial⟩

theorem mem_asked_of_loadSource {below : Below} (hbelow : below.Keeps) {x : String}
    {name : Value} {s : Session} {e : Engine} (he : s.engine = some e) :
    x ∈ (sessionOf (loadSource below (.text x) name s)).asked := by
  unfold loadSource
  rw [bind_of_ok (theEngine_eq_ok he)]
  exact mem_asked_of_askFor e x (fun key => keeps_templateFor hbelow e _ _ key name) s

/-! ## Templates for sources -/

namespace Store.CacheApart

/-- Both engines make a template of the text. -/
theorem agrees_loadText (text : String) (delims : Option String) :
    Agrees (Store.CacheApart sc c) sc.known
      (fun t t' => t.IsOf c (lambdaSource text delims) ∧ t'.IsOf c (lambdaSource text delims))
      (loadText text delims) (loadText text delims) :=
  .of_yields (keeps_loadText _ _) (fun _ _ he => mem_asked_of_loadText he)
    (fun _ hx => yields_loadText hx) fun _ ht => ⟨_, ht.tree⟩

theorem agreesOnTexts : AgreesOnTexts (Store.CacheApart sc c) sc.known :=
  fun text delims => (agrees_loadText text delims).mono fun _ _ ht => ht.1.twin ht.2 rfl rfl

/-- Both engines make a template of the source. -/
theorem agrees_loadSource {below : Below} (hbelow : below.Keeps) (x : String) {name : Value}
    (hname : name.IsName) : Agrees (Store.CacheApart sc c) sc.known
      (fun t t' => t.IsOf c x ∧ t'.IsOf c x) (loadSource below (.text x) name)
        (loadSource below (.text x) name) :=
  .of_yields (keeps_loadSource hbelow _ _) (fun _ _ he => mem_asked_of_loadSource hbelow he)
    (fun _ hx => yields_loadSource hx hname below) fun _ ht => ⟨_, ht.tree⟩

/-! ## Templates by name -/

theorem agrees_theEngine : Agrees (Store.CacheApart sc c) sc.known
    (fun e e' => e.settings = c.settings ∧ e'.settings = c.settings ∧ e.IsSound sc) theEngine
      theEngine := by
  refine ⟨keeps_theEngine, fun s s' htwin _ => ?_⟩
  obtain ⟨e, he, hconfig, hsound, -⟩ := htwin.store.sound.engine
  obtain ⟨e', he', hconfig', -⟩ := htwin.store.uncached.engine
  rw [theEngine_eq_ok he, theEngine_eq_ok he']
  exact .ok ⟨hconfig, hconfig', hsound⟩ htwin

section

variable {depth : Nat} (h : (level depth).Agrees (Store.CacheApart sc c) sc.known)

include h

/-- What a loader finds, it finds in both of the sessions. -/
theorem agrees_find {l : Loader} (hl : l.Suits sc.trees) (name : String) :
    Agrees (Store.CacheApart sc c) sc.known Eq (l.find (level depth) name)
      (l.find (level depth) name) :=
  Loader.agrees_find h agreesOnTexts name l fun _ _ hab search hsearch =>
    hl.undisturbed search hsearch _ _ hab.sound.files hab.uncached.files name

/-- What has been found is loaded by both of the engines. -/
theorem agrees_load_found {found : Found} (hfound : (∃ x, found.source = .text x) ∧
      found.origin.IsName) (name : String) :
    Agrees (Store.CacheApart sc c) sc.known (Template.SameSource c)
      (do loadSource (level depth) found.source (← liftFault (knownAs found.origin name)))
      (do loadSource (level depth) found.source (← liftFault (knownAs found.origin name))) := by
  obtain ⟨⟨x, hx⟩, horigin⟩ := hfound
  obtain ⟨n, hn, hname⟩ := exists_knownAs_eq horigin name
  rw [hx, hn]
  exact (agrees_loadSource h.keeps x hname).mono fun t t' ht => ⟨x, ht⟩

/-- **Templates by name are loaded alike.** -/
theorem agrees_loadTemplate (name : String) :
    Agrees (Store.CacheApart sc c) sc.known (Template.SameSource c)
      (loadTemplate (level depth) name) (loadTemplate (level depth) name) := by
  have hkeeps (found : Found) : Keeps (liftFault (knownAs found.origin name) >>=
      loadSource (level depth) found.source) :=
    .bind (.liftFault _) fun _ => keeps_loadSource h.keeps _ _
  refine .bindOn agrees_theEngine
    (fun e => .bind (Loader.keeps_find h.keeps _ _) hkeeps) fun e e' he => ?_
  obtain ⟨hconfig, hconfig', hsound⟩ := he
  rw [Engine.eq_of_settings Engine.loader (fun _ => rfl) (hconfig'.trans hconfig.symm)]
  refine .bindOn ((agrees_find h hsound.loader name).answers
    fun s found s' hrun => hsound.loader.answers depth name s s' found hrun) hkeeps ?_
  rintro found _ ⟨rfl, hfound⟩
  exact agrees_load_found h hfound name

/-- **Partials are loaded alike**, or missing for both of the engines. -/
theorem agrees_loadPartial? (name : String) :
    Agrees (Store.CacheApart sc c) sc.known (Option.Rel (Template.SameSource c))
      (loadPartial? (level depth) name) (loadPartial? (level depth) name) := by
  refine .bindOn agrees_theEngine (fun e => .bind
    (.attempt .notFound (Loader.keeps_find h.keeps _ _)) (keeps_partialFor h.keeps _ _)) ?_
  intro e e' he
  obtain ⟨hconfig, hconfig', hsound⟩ := he
  rw [Engine.eq_of_settings Engine.partialsLoader (fun _ => rfl) (hconfig'.trans hconfig.symm),
    Engine.eq_of_settings Engine.logger (fun _ => rfl) (hconfig'.trans hconfig.symm)]
  refine .bindOn (((agrees_find h hsound.partialsLoader name).attempt .notFound).answers
    (R := fun found => ∀ f ∈ found, (∃ x, f.source = .text x) ∧ f.origin.IsName) ?_)
    (keeps_partialFor h.keeps _ _) ?_
  · intro s found s' hrun f hf
    obtain rfl := hf
    exact hsound.partialsLoader.answers depth name s s' f (eq_ok_of_attempt hrun)
  · rintro found _ ⟨rfl, hfound⟩
    cases found with
    | none =>
      have hlevels (a b : Store) (hab : a.CacheApart sc c b) : b.levels = a.levels :=
        hab.uncached.levels.trans hab.sound.levels.symm
      exact .bind (agrees_logEvent hlevels _ _ _ _) fun _ => .pure .none
    | some found =>
      obtain ⟨⟨x, hx⟩, horigin⟩ := hfound found rfl
      obtain ⟨n, hn, hname⟩ := exists_knownAs_eq horigin name
      rw [partialFor, hx, hn]
      show Agrees _ _ _ (loadSource (level depth) (.text x) n >>= fun t => pure (some t))
        (loadSource (level depth) (.text x) n >>= fun t => pure (some t))
      exact .bindOn (agrees_loadSource h.keeps x hname) (fun _ => .pure _) fun t t' ht =>
        .pure (.some ⟨x, ht⟩)

end

/-- **Everything is rendered alike** with and without a cache. -/
theorem faithful : Faithful (Store.CacheApart sc c) sc.known where
  settings a b hab := by
    obtain ⟨e, he, hconfig, -⟩ := hab.sound.engine
    obtain ⟨e', he', hconfig', -⟩ := hab.uncached.engine
    rw [he, he', Option.map_some, Option.map_some, hconfig, hconfig']
  texts := agreesOnTexts
  partials depth name h := (agrees_loadPartial? h name).mono fun _ _ ht => by
    cases ht with
    | none => exact .none
    | some ht => exact .some ht.twin

end Store.CacheApart

end Mustache
