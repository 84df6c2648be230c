import Mustache.Proofs.Cache.Uncached
import Mustache.Proofs.Session.RenumberedCalls

/-!
# Rendering that keeps no count

What has been rendered before leaves compiled templates behind, entries of caches, and numbers that
have been used. It may also leave counts of calls, and they are all that can show later: if a
template is rendered and no call is counted meanwhile, it renders to the same text whatever has been
rendered before, in the same session or in none.

## Main results

* `Mustache.renumbers_level` — every level renders alike.
* `Mustache.Template.render_anywhere` — what is rendered without a count is rendered in every
  session with a sound engine of the same configuration.
-/

namespace Mustache

variable {sc : Scope} {c : Engine} {cached : Prop}

/-- Actions that end alike in sessions with sound engines of one configuration. -/
abbrev RenumbersIn (sc : Scope) (c : Engine) (cached : Prop) {α : Type} (R : α → α → Prop)
    (act act' : Action α) : Prop :=
  Renumbers (fun a => a.IsSound sc c cached) cached sc.known R act act'

/-! ## Templates for sources -/

/-- Actions that end as the parse of a source does end alike. -/
theorem Renumbers.of_yields {α : Type} {x : String} {name : Value} {Q : α → Prop} {act : Action α}
    (hkeeps : Keeps act)
    (hasks : ∀ s e, s.engine = some e → x ∈ (sessionOf (act s)).asked)
    (hyields : sc.known x → Yields sc c cached x name Q act)
    (hparse : ∀ a, Q a → ∃ tree, parse x .null .usual = .ok tree) :
    RenumbersIn sc c cached (fun a a' => Q a ∧ Q a') act act := by
  refine ⟨hkeeps, fun s s' hs hcalm => ?_⟩
  obtain ⟨e, he, -⟩ := hs.store.engine
  have hx : sc.known x := hcalm.asked x (hasks s e he)
  have hleft := hyields hx s hs.store
  have hright := hyields hx s' hs.store'
  have hsessions {s₁ s₁' : Session} (h : s.Beside sc c cached s₁)
      (h' : s'.Beside sc c cached s₁') : s₁.Renumbered (fun a => a.IsSound sc c cached) s₁' :=
    ⟨by rw [h.frames, h'.frames]; exact hs.frames, h.store, h'.store⟩
  -- A source that is refused has no template.
  have hexclusive {a : α} {failure : ParseFailure} (ha : Q a)
      (h : parse x name .usual = .error failure) : False := by
    obtain ⟨tree, htree⟩ := hparse a ha
    rw [parse_eq_ok_of_name htree name] at h
    simp at h
  generalize act s = r at hleft ⊢
  generalize act s' = r' at hright ⊢
  cases hleft with
  | ok answer beside =>
    cases hright with
    | ok answer' beside' => exact .ok ⟨answer, answer'⟩ (hsessions beside beside')
    | refused refused' _ => exact (hexclusive answer refused').elim
    | unwritten unwritten may => exact .unwritten' unwritten may
  | refused refused beside =>
    cases hright with
    | ok answer' _ => exact (hexclusive answer' refused).elim
    | refused refused' beside' =>
      rw [refused, Except.error.injEq] at refused'
      exact .error (refused' ▸ .refl _) (hsessions beside beside')
    | unwritten unwritten may => exact .unwritten' unwritten may
  | unwritten unwritten _ => exact .unwritten unwritten

theorem renumbersTexts : RenumbersTexts (fun a => a.IsSound sc c cached) cached sc.known :=
  fun text delims => (Renumbers.of_yields (keeps_loadText text delims)
    (fun _ _ he => mem_asked_of_loadText he) (fun hx => yields_loadText hx)
    fun _ ht => ⟨_, ht.tree⟩).mono fun _ _ ht => ht.1.twin ht.2 rfl rfl

theorem renumbers_loadSource {below : Below} (hbelow : below.Keeps) (x : String) {name : Value}
    (hname : name.IsName) : RenumbersIn sc c cached Template.Twin
      (loadSource below (.text x) name) (loadSource below (.text x) name) :=
  (Renumbers.of_yields (keeps_loadSource hbelow _ _)
    (fun _ _ he => mem_asked_of_loadSource hbelow he) (fun hx => yields_loadSource hx hname below)
    fun _ ht => ⟨_, ht.tree⟩).mono fun _ _ ht => ht.1.twin ht.2 rfl rfl

/-! ## The engine -/

theorem renumbers_theEngine : RenumbersIn sc c cached
    (fun e e' => e'.settings = e.settings ∧ e.IsSound sc) theEngine theEngine := by
  refine ⟨keeps_theEngine, fun s s' hs _ => ?_⟩
  obtain ⟨e, he, hconfig, hsound, -⟩ := hs.store.engine
  obtain ⟨e', he', hconfig', -⟩ := hs.store'.engine
  rw [theEngine_eq_ok he, theEngine_eq_ok he']
  exact .ok ⟨hconfig'.trans hconfig.symm, hsound⟩ hs

/-- Sound engines of one configuration have the same settings. -/
theorem Store.IsSound.settings_eq {a b : Store} (ha : a.IsSound sc c cached)
    (hb : b.IsSound sc c cached) : b.engine.map Engine.settings = a.engine.map Engine.settings := by
  obtain ⟨e, he, hconfig, -⟩ := ha.engine
  obtain ⟨e', he', hconfig', -⟩ := hb.engine
  rw [he, he', Option.map_some, Option.map_some, hconfig, hconfig']

/-- The engine of a template is there on both sides, or on none. -/
theorem renumbers_engineOf {t t' : Template} (ht : t.Twin t') :
    RenumbersIn sc c cached (fun _ _ => True) (engineOf t) (engineOf t') := by
  refine ⟨keeps_engineOf t, fun s s' hs _ => ?_⟩
  have hsame : (s'.engineOf? t').isSome = (s.engineOf? t).isSome := by
    unfold Session.engineOf?
    rw [ht.engine]
    exact isSome_filter_id (hs.store.settings_eq hs.store') t.engine
  cases he : s.engineOf? t with
  | some e =>
    rw [he, Option.isSome_some, Option.isSome_iff_exists] at hsame
    obtain ⟨e', he'⟩ := hsame
    rw [engineOf_eq_of_some he, engineOf_eq_of_some he']
    exact .ok trivial hs
  | none =>
    rw [he, Option.isSome_none, Option.isSome_eq_false_iff, Option.isNone_iff_eq_none] at hsame
    rw [engineOf_eq_of_none he, engineOf_eq_of_none hsame]
    exact .error (Fault.SameSort.engineGone _ _).expectedAlike hs

/-- Events are reported on both sides. -/
theorem renumbers_logEvent (logger : Logger) (level : Level) (message : String) (fields : Fields) :
    RenumbersIn sc c cached Eq (logEvent logger level message fields)
      (logEvent logger level message fields) := by
  refine ⟨keeps_logEvent _ _ _ _, fun s s' hs _ => ?_⟩
  have hlevels : s'.levels = s.levels := hs.store'.levels.trans hs.store.levels.symm
  cases hrecord : logger.record? s.levels level message fields with
  | error e =>
    rw [logEvent_eq_of_error hrecord, logEvent_eq_of_error (hlevels ▸ hrecord)]
    exact .error (.refl e) hs
  | ok record =>
    rw [logEvent_eq_of_ok hrecord, logEvent_eq_of_ok (hlevels ▸ hrecord)]
    exact .ok rfl ⟨hs.frames, hs.store, hs.store'⟩

section

variable {depth : Nat}
  (h : (level depth).Renumbers (fun a => a.IsSound sc c cached) cached sc.known)

include h

/-! ## Included templates -/

/-- **What a loader finds is the same**, if it suits. -/
theorem renumbers_found {l : Loader} (hl : l.Suits sc.trees) (name : String) :
    RenumbersIn sc c cached (fun found found' => found' = found ∧
        (∃ x, found.source = .text x) ∧ found.origin.IsName) (l.find (level depth) name)
      (l.find (level depth) name) := by
  refine ((Loader.renumbers_find h renumbersTexts name l fun a b ha hb search hsearch =>
    hl.undisturbed search hsearch _ _ ha.files hb.files name).answers
      fun s found s' hrun => hl.answers depth name s s' found hrun).mono ?_
  rintro ⟨source, origin⟩ ⟨source', origin'⟩ ⟨hfound, ⟨x, rfl⟩, horigin⟩
  have hsource : source' = .text x := by cases hfound.source; rfl
  have horigin' : origin' = origin := by
    have hrel : origin.Renumbered origin' := hfound.origin
    cases hrel <;> first | rfl | exact horigin.elim
  exact ⟨by rw [hsource, horigin'], ⟨x, rfl⟩, horigin⟩

theorem renumbers_loadPartial? (name : String) :
    RenumbersIn sc c cached (Option.Rel Template.Twin) (loadPartial? (level depth) name)
      (loadPartial? (level depth) name) := by
  refine renumbers_theEngine.bindOn (fun e => .bind
    (.attempt .notFound (Loader.keeps_find h.keeps _ _)) (keeps_partialFor h.keeps _ _)) ?_
  rintro e e' ⟨hconfig, hsound⟩
  rw [Engine.eq_of_settings Engine.partialsLoader (fun _ => rfl) hconfig,
    Engine.eq_of_settings Engine.logger (fun _ => rfl) hconfig]
  refine ((renumbers_found h hsound.partialsLoader name).attempt .notFound).bindOn
    (keeps_partialFor h.keeps _ _) fun _ _ hfound => ?_
  cases hfound with
  | none => exact (renumbers_logEvent _ _ _ _).bind (fun _ => rfl) fun _ _ _ => .pure .none
  | @some found _ hfound =>
    obtain ⟨rfl, ⟨x, hx⟩, horigin⟩ := hfound
    obtain ⟨n, hn, hname⟩ := exists_knownAs_eq horigin name
    rw [partialFor, hx, hn]
    show RenumbersIn _ _ _ _ (loadSource (level depth) (.text x) n >>= fun t => pure (some t))
      (loadSource (level depth) (.text x) n >>= fun t => pure (some t))
    exact (renumbers_loadSource h.keeps x hname).bind .refl fun t t' ht => .pure (.some ht)

/-- Included templates are loaded alike, and rendered alike a level deeper. -/
theorem renumbers_renderInclusion {t t' : Template} (ht : t.Twin t') (name indent : String) :
    RenumbersIn sc c cached Eq (renderInclusion (level depth) t name indent)
      (renderInclusion (level depth) t' name indent) := by
  refine (renumbers_engineOf ht).bind (fun _ => trivial) fun _ _ _ => ?_
  refine (renumbers_loadPartial? h name).bind (optionRel_refl .refl) fun _ _ hloaded => ?_
  cases hloaded with
  | none => exact .pure rfl
  | some hloaded =>
    exact (h.render hloaded).bind (fun _ => rfl) fun _ _ hsame => hsame ▸ .pure rfl

/-! ## Nodes -/

/-- The parts of rendering end alike. -/
theorem Below.Renumbers.rendering {t t' : Template} (ht : t.Twin t') :
    Rendering Fault.ExpectedAlike Value.Renumbered (fun R => RenumbersIn sc c cached R)
      (level depth) (level depth) t t' where
  source := ht.source
  engine hact := (renumbers_engineOf ht).bind (fun _ => trivial) fun _ _ _ => hact
  depth next next' hnext :=
    .getFrames (fun frames => next frames.length) (fun frames => next' frames.length)
      fun _ _ hframes => hframes.length_eq ▸ hnext _
  plain hv := hv.write {}
  write {_ w} hv place name delims := (hv.write _).trans (ht.write w place name delims)
    fun _ _ _ h h' => h.trans h'.expectedAlike
  find name filters place := renumbers_findFiltered h renumbersTexts ht name filters place
  call hfg _ _ _ hhelper :=
    hfg.callLambda h renumbersTexts (.cons (.refl _) (.cons hhelper .nil))
  text := renumbers_load_render h renumbersTexts
  escape escaped text := by
    rw [ht.escaping]
    exact Renumbers.congruence.escapeText _ _ _
      (fun f text => (Value.Renumbered.refl f).call h renumbersTexts (.cons (.refl _) .nil)) text
  frame hv _ _ hact := hact.withFrame hv

theorem renumbers_renderBody {t t' : Template} (ht : t.Twin t') :
    RenumbersIn sc c cached Eq (renderBody (level depth) t) (renderBody (level depth) t') :=
  Renumbers.congruence.renderBody (h.rendering ht) (renumbers_renderInclusion h ht) ht.tree

end

/-! ## Levels and templates -/

/-- **Every level renders alike**, as long as nothing is counted.

**Proof sketch.** Induction on the number of levels. Where none is left, there is nothing but a
fault; otherwise calls and templates rely on the level below. -/
theorem renumbers_level (depth : Nat) :
    (level depth).Renumbers (fun a => a.IsSound sc c cached) cached sc.known := by
  induction depth with
  | zero => exact ⟨fun _ => .fault _, fun _ _ _ _ _ _ => .fault _⟩
  | succ depth ih =>
    exact ⟨renumbers_renderBody ih, fun f id self _ _ hargs =>
      Renumbers.congruence.invokeAs (ih.congruent renumbersTexts) hargs f
        (Value.numbersAlike_renumbered _ _) self⟩

/-- A template is rendered alike for the same frames. -/
theorem Template.renumbered_end {t t' : Template} (ht : t.Twin t') {data : Value} {locals : Entries}
    {s s' s₁ : Session} {out : String} (hs : s.store.IsSound sc c cached)
    (hs' : s'.store.IsSound sc c cached) (hrun : t.render data locals s = .ok out s₁)
    (hcalm : s.Uncounted sc.known s₁) : ∃ s₂,
      renderTemplate t (s.framed (framesFor (s.engineOf? t) data locals)) = .ok out s₂ ∧
        s₁ = s₂.framed s.frames ∧
        RenumberedEnd (fun a => a.IsSound sc c cached) cached Eq (.ok out s₂)
          (renderTemplate t' (s'.framed (framesFor (s'.engineOf? t') data locals))) := by
  obtain ⟨s₂, hnodes, rfl⟩ := Template.render_eq_ok_iff.1 hrun
  have hbody := renderBody_eq_ok_iff.2 hnodes
  have hend := (renumbers_renderBody (renumbers_level depthLimit) ht).outcome
    (s.framed (framesFor (s.engineOf? t) data locals))
    (s'.framed (framesFor (s.engineOf? t) data locals))
    ⟨Value.operable_renumbered.reflList _, hs, hs'⟩
  rw [show level depthLimit = ground from rfl, hbody] at hend
  rw [framesFor_of_settings (hs.settings_eq hs') ht.engine]
  exact ⟨s₂, hbody, rfl, hend ⟨hcalm.asked, hcalm.counts⟩⟩

/-- What is kept stays sound while a template is rendered. -/
theorem Template.isSound_of_render {t : Template} {data : Value} {locals : Entries}
    {s s₁ : Session} {out : String} (hs : s.store.IsSound sc c cached)
    (hrun : t.render data locals s = .ok out s₁) (hcalm : s.Uncounted sc.known s₁) :
    s₁.store.IsSound sc c cached := by
  obtain ⟨s₂, hbody, rfl, hend⟩ := renumbered_end (.refl t) hs hs hrun hcalm
  rw [hbody] at hend
  cases hend with
  | ok _ sessions => exact sessions.store

/-- **What is rendered without a count is rendered anywhere.** If a template renders to a text, and
no call is counted meanwhile, a template of the same source renders to the same text in every
session with a sound engine of the same configuration, unless a cache cannot be written. -/
theorem Template.render_anywhere {t t' : Template} (ht : t.Twin t') {data : Value}
    {locals : Entries} {s s' s₁ : Session} {out : String} (hs : s.store.IsSound sc c cached)
    (hs' : s'.store.IsSound sc c cached) (hrun : t.render data locals s = .ok out s₁)
    (hcalm : s.Uncounted sc.known s₁) :
    (∃ s₁', t'.render data locals s' = .ok out s₁') ∨
      cached ∧ ∃ e s₁', t'.render data locals s' = .error e s₁' ∧ e.IsUnwritten := by
  obtain ⟨s₂, -, -, hend⟩ := renumbered_end ht hs hs' hrun hcalm
  generalize hbody : renderTemplate t' (s'.framed (framesFor (s'.engineOf? t') data locals)) = r
    at hend
  cases hend with
  | @ok _ _ _ s₂' answers sessions =>
    subst answers
    exact .inl ⟨_, Template.render_eq_ok_iff.2 ⟨s₂', renderBody_eq_ok_iff.1 hbody, rfl⟩⟩
  | @unwritten' e s₂' _ unwritten may =>
    exact .inr ⟨may, e, _, (Template.render_eq_error_iff unwritten).2
      ⟨s₂', (renderBody_eq_error_iff unwritten).1 hbody, rfl⟩, unwritten⟩

end Mustache
