import Mustache.Proofs.Cache.Uncached
import Mustache.Session.Configure

/-!
# Operations on engines

An engine is asked for templates and for what they come to, and its loaders and helpers are changed
in between. Requests end as they do on a fresh engine. A change may have to ask an object first, and
then leaves everything that the engine keeps as it is, or drops it. So whatever is done, what is
kept stays right.

## Main definitions

* `Mustache.Request`, `Mustache.Change`, `Mustache.Operation` — what can be done with an engine.
* `Mustache.Answer` — what comes of it.
* `Mustache.EndsRight` — ends in which what is kept is right.

## Main results

* `Mustache.Request.agrees` — a request ends as it does on an engine without a cache.
* `Mustache.Operation.endsRight` — whatever is done, what is kept stays right.
-/

namespace Mustache

/-! ## What can be done -/

/-- What a template is asked for by: a name for the loader, a name for the loader of partials, or a
text as a lambda answers it. -/
inductive Wanted where
  | named (name : String)
  | included (name : String)
  | text (source : String) (delims : Option String)

/-- Loads a template; a missing partial is no fault. -/
def Wanted.load : Wanted → Action (Option Template)
  | named name => do pure (some (← loadTemplate ground name))
  | included name => loadPartial? ground name
  | text source delims => do pure (some (← loadText source delims))

/-- What comes of an operation. -/
inductive Answer where
  | template (t : Template)
  | nothing
  | text (out : String)

/-- The templates that are handed out. -/
def Answer.templates : Answer → List Template
  | template t => [t]
  | _ => []

/-- **What an engine is asked for**: templates, and what they come to. Templates that have been
handed out may be rendered later. -/
inductive Request where
  | load (w : Wanted)
  | render (w : Wanted) (data : Value) (locals : Entries)
  | renderHeld (t : Template) (data : Value) (locals : Entries)

def Request.act : Request → Action Answer
  | load w => do
    match ← w.load with
    | some t => pure (.template t)
    | none => pure .nothing
  | render w data locals => do
    match ← w.load with
    | some t => pure (.text (← t.render data locals))
    | none => pure .nothing
  | renderHeld t data locals => do pure (.text (← t.render data locals))

/-- **How an engine is changed.** -/
inductive Change where
  | loader (l : Loader)
  | partialsLoader (l : Loader)
  | partials (v : Value)
  | helpers (v : Value)
  | helper (f : Helpers → Except Fault Helpers)
  | forget

def Change.apply : Change → Action Unit
  | loader l => setLoader ground l
  | partialsLoader l => setPartialsLoader ground l
  | partials v => setPartials ground v
  | helpers v => setHelpers v
  | helper f => changeHelpers f
  | forget => forgetTemplates

/-- What is done with an engine. -/
inductive Operation where
  | request (r : Request)
  | change (c : Change)

def Operation.act : Operation → Action Answer
  | request r => r.act
  | change c => do
    c.apply
    pure .nothing

/-- No template is rendered that is not at hand. -/
def Operation.Uses (held : List Template) : Operation → Prop
  | request (.renderHeld t _ _) => t ∈ held
  | _ => True

/-! ## Requests -/

/-- Answers of the same kind, of which the templates are related and the texts are the same. -/
inductive Answer.Rel (R : Template → Template → Prop) : Answer → Answer → Prop
  | template {t t' : Template} (h : R t t') : Rel R (.template t) (.template t')
  | nothing : Rel R .nothing .nothing
  | text (out : String) : Rel R (.text out) (.text out)

theorem Answer.Rel.mono {R R' : Template → Template → Prop} (hR : ∀ t t', R t t' → R' t t')
    {a a' : Answer} (h : a.Rel R a') : a.Rel R' a' := by
  cases h with
  | template h => exact .template (hR _ _ h)
  | nothing => exact .nothing
  | text out => exact .text out

/-- **The request as it is made of a fresh engine**: a template that has been handed out before is
made once more of its source. -/
inductive Request.Afresh (c : Engine) : Request → Request → Prop
  | load (w : Wanted) : Afresh c (.load w) (.load w)
  | render (w : Wanted) (data : Value) (locals : Entries) :
    Afresh c (.render w data locals) (.render w data locals)
  | renderHeld {t t' : Template} (data : Value) (locals : Entries) (h : t'.IsOf c t.source) :
    Afresh c (.renderHeld t data locals) (.renderHeld t' data locals)

theorem Wanted.keeps_load (w : Wanted) : Keeps w.load := by
  have hlevel := keeps_level depthLimit
  cases w with
  | named name => exact .bind (keeps_loadTemplate hlevel name) fun _ => .pure _
  | included name => exact keeps_loadPartial? hlevel name
  | text source delims => exact .bind (keeps_loadText source delims) fun _ => .pure _

theorem Request.keeps_act (r : Request) : Keeps r.act := by
  cases r with
  | load w =>
    refine .bind w.keeps_load fun t => ?_
    cases t <;> exact .pure _
  | render w data locals =>
    refine .bind w.keeps_load fun t => ?_
    cases t with
    | none => exact .pure _
    | some t => exact .bind (t.keeps_render data locals) fun _ => .pure _
  | renderHeld t data locals => exact .bind (t.keeps_render data locals) fun _ => .pure _

section

variable {sc : Scope} {c : Engine}

theorem Wanted.agrees_load (w : Wanted) : Agrees (Store.CacheApart sc c) sc.known
    (Option.Rel (Template.SameSource c)) w.load w.load := by
  have hlevel : ground.Agrees (Store.CacheApart sc c) sc.known :=
    Store.CacheApart.faithful.agrees_level depthLimit
  cases w with
  | named name =>
    exact .bindOn (Store.CacheApart.agrees_loadTemplate hlevel name) (fun t => .pure (some t))
      fun _ _ ht => .pure (.some ht)
  | included name => exact Store.CacheApart.agrees_loadPartial? hlevel name
  | text source delims =>
    exact .bindOn (Store.CacheApart.agrees_loadText source delims) (fun t => .pure (some t))
      fun _ _ ht => .pure (.some ⟨_, ht⟩)

theorem agrees_renderAnswer {t t' : Template} (ht : t.SameSource c t') (data : Value)
    (locals : Entries) : Agrees (Store.CacheApart sc c) sc.known (Answer.Rel (Template.SameSource c))
      (do pure (.text (← t.render data locals))) (do pure (.text (← t'.render data locals))) :=
  .bind (Store.CacheApart.faithful.agrees_render ht.twin data locals) fun out => .pure (.text out)

/-- **A request ends as it does on an engine without a cache.** -/
theorem Request.agrees {r r' : Request} (hafresh : r.Afresh c r') {held : List Template}
    (hheld : ∀ t ∈ held, ∃ x, t.IsOf c x) (huses : (Operation.request r).Uses held) :
    Agrees (Store.CacheApart sc c) sc.known (Answer.Rel (Template.SameSource c)) r.act r'.act := by
  cases hafresh with
  | load w =>
    refine .bindOn w.agrees_load (fun t => ?_) fun t t' ht => ?_
    · cases t <;> exact .pure _
    · cases ht with
      | none => exact .pure .nothing
      | some ht => exact .pure (.template ht)
  | render w data locals =>
    refine .bindOn w.agrees_load (fun t => ?_) fun t t' ht => ?_
    · cases t with
      | none => exact .pure _
      | some t => exact .bind (t.keeps_render data locals) fun _ => .pure _
    · cases ht with
      | none => exact .pure .nothing
      | some ht => exact agrees_renderAnswer ht data locals
  | @renderHeld t t' data locals h =>
    obtain ⟨x, hx⟩ := hheld t huses
    exact agrees_renderAnswer ⟨x, hx, hx.source ▸ h⟩ data locals

/-- A template that has been handed out need not be made once more. -/
theorem Request.afresh_self (r : Request) {held : List Template}
    (hheld : ∀ t ∈ held, ∃ x, t.IsOf c x) (huses : (Operation.request r).Uses held) : r.Afresh c r := by
  cases r with
  | load w => exact .load w
  | render w data locals => exact .render w data locals
  | renderHeld t data locals =>
    obtain ⟨x, hx⟩ := hheld t huses
    exact .renderHeld data locals (hx.source ▸ hx)

/-! ## Fresh engines -/

/-- Of a sound engine, a fresh one of the same configuration is sound. -/
theorem Engine.IsSound.settings {e : Engine} (h : e.IsSound sc) : e.settings.IsSound sc where
  label := h.label
  holds x _ := Engine.holdsAt_forget e.settings x
  cache := trivial
  serves := h.serves
  loader := h.loader
  partialsLoader := h.partialsLoader

/-- The session with an engine. -/
def Session.withEngine (s : Session) (e : Engine) : Session := { s with engine := some e }

theorem Session.isSound_withEngine {s : Session} (hfiles : sc.trees s.files)
    (hlevels : s.levels = sc.levels) {e : Engine} (he : e.IsSound sc)
    (hconfig : e.settings = c.settings) : (s.withEngine e).store.IsSound sc c True :=
  ⟨hfiles, hlevels, e, rfl, hconfig, he, fun _ => trivial⟩

/-- **An engine and a fresh one** of the same configuration make twins. -/
theorem Session.twin_settings {s : Session} (hs : s.store.IsSound sc c True) :
    ∃ e, s.engine = some e ∧ s.Twin (Store.CacheApart sc c) (s.withEngine e.settings) := by
  obtain ⟨e, he, hconfig, hsound, -⟩ := hs.engine
  have hfresh : (s.withEngine e.settings).store.IsSound sc c False :=
    ⟨hs.files, hs.levels, e.settings, rfl, hconfig, hsound.settings, fun hcache => by
      simp [Engine.settings, Cache.isDisabled] at hcache⟩
  exact ⟨e, he, rfl, rfl, rfl, hs, hfresh⟩

/-! ## Ends -/

/-- A store with an engine that keeps what it should, and that makes the same templates as another
engine. -/
structure Store.KeepsRight (sc : Scope) (c : Engine) (a : Store) : Prop where
  files : sc.trees a.files
  levels : a.levels = sc.levels
  engine : ∃ e, a.engine = some e ∧ e.id = c.id ∧ e.escaping = c.escaping ∧ e.KeepsRight sc

theorem Store.IsSound.keepsRight {cached : Prop} {a : Store} (h : a.IsSound sc c cached) :
    a.KeepsRight sc c := by
  obtain ⟨e, he, hconfig, hsound, -⟩ := h.engine
  exact ⟨h.files, h.levels, e, he, Engine.eq_of_settings Engine.id (fun _ => rfl) hconfig,
    Engine.eq_of_settings Engine.escaping (fun _ => rfl) hconfig, hsound.toKeepsRight⟩

variable {α : Type}

/-- **Ends in which what is kept is right**, unless a cache could not be written. -/
inductive EndsRight (sc : Scope) (c : Engine) (Q : α → Prop) :
    EStateM.Result Fault Session α → Prop
  | ok {a : α} {s : Session} (answer : Q a) (store : s.store.KeepsRight sc c) :
    EndsRight sc c Q (.ok a s)
  | error {e : Fault} {s : Session} (store : s.store.KeepsRight sc c) : EndsRight sc c Q (.error e s)
  | unwritten {e : Fault} {s : Session} (unwritten : e.IsUnwritten) : EndsRight sc c Q (.error e s)

/-- An action that ends well leaves an engine behind that keeps what it should. -/
theorem Agrees.isSound {Q : α → α → Prop} {act : Action α}
    (h : Agrees (Store.CacheApart sc c) sc.known Q act act) {s s' : Session} {a : α}
    (hs : s.store.IsSound sc c True) (hrun : act s = .ok a s')
    (hasked : ∀ x ∈ s'.asked, sc.known x) : s'.store.IsSound sc c True := by
  obtain ⟨e, -, htwin⟩ := Session.twin_settings hs
  have hsame := h.outcome s _ htwin (by rw [hrun]; exact hasked)
  rw [hrun] at hsame
  generalize act (s.withEngine e.settings) = r at hsame
  cases hsame with
  | ok _ sessions => exact sessions.store.sound

/-- Actions that agree end so. -/
theorem Agrees.endsRight {Q : α → α → Prop} {act : Action α}
    (h : Agrees (Store.CacheApart sc c) sc.known Q act act) {s : Session}
    (hs : s.store.IsSound sc c True) (hasked : ∀ x ∈ (sessionOf (act s)).asked, sc.known x) :
    EndsRight sc c (fun a => ∃ a', Q a a') (act s) := by
  obtain ⟨e, -, htwin⟩ := Session.twin_settings hs
  have hsame := h.outcome s _ htwin hasked
  generalize act s = r at hsame
  generalize act (s.withEngine e.settings) = r' at hsame
  cases hsame with
  | ok answers sessions => exact .ok ⟨_, answers⟩ sessions.store.sound.keepsRight
  | error faults sessions => exact .error sessions.store.sound.keepsRight
  | unwritten unwritten => exact .unwritten unwritten

/-! ## Changes -/

/-- **What a change may do to an engine**: the loaders and the helpers may be others, and less may
be kept. -/
structure Engine.Changed (e e' : Engine) : Prop where
  rest : e' = { e with
    loader := e'.loader, partialsLoader := e'.partialsLoader, helpers := e'.helpers
    templates := e'.templates, lambdas := e'.lambdas }
  templates : e'.templates ⊆ e.templates
  lambdas : e'.lambdas ⊆ e.lambdas

/-- What is no matter of loaders and helpers stays the same. -/
theorem Engine.Changed.eq {β : Type} {e e' : Engine} (h : e.Changed e') (f : Engine → β)
    (hf : ∀ (e : Engine) loader partialsLoader helpers templates lambdas,
      f { e with loader, partialsLoader, helpers, templates, lambdas } = f e) : f e' = f e := by
  rw [h.rest]
  exact hf _ _ _ _ _ _

theorem Engine.Changed.keepsRight {e e' : Engine} (h : e.Changed e') (he : e.KeepsRight sc) :
    e'.KeepsRight sc := by
  have hid : e'.id = e.id := h.eq Engine.id fun _ _ _ _ _ _ => rfl
  have hescaping : e'.escaping = e.escaping := h.eq Engine.escaping fun _ _ _ _ _ _ => rfl
  have hkey : e'.className = e.className := h.eq Engine.className fun _ _ _ _ _ _ => rfl
  have hlabel : e'.keyLabel = e.keyLabel := h.eq Engine.keyLabel fun _ _ _ _ _ _ => rfl
  have hcache : e'.cache = e.cache := h.eq Engine.cache fun _ _ _ _ _ _ => rfl
  have hlogger : e'.logger = e.logger := h.eq Engine.logger fun _ _ _ _ _ _ => rfl
  refine ⟨hlabel ▸ he.label, fun x hx t ht => ?_, ?_, hlogger ▸ he.serves⟩
  · have hmem : (e.className x, t) ∈ e.templates ++ e.lambdas := by
      rw [hkey] at ht
      rcases List.mem_append.1 ht with ht | ht
      · exact List.mem_append_left _ (h.templates ht)
      · exact List.mem_append_right _ (h.lambdas ht)
    have hof := he.holds x hx t hmem
    exact ⟨hof.engine.trans hid.symm, hof.source, hof.tree, hof.escaping.trans hescaping.symm,
      hof.name⟩
  · rw [hcache, hkey]
    exact he.cache

/-- **An action that changes the engine** in the light of what another action answers, and that may
fail afterwards. -/
inductive ChangesEngine (sc : Scope) (c : Engine) : Action Unit → Prop
  | intro {α : Type} {act : Action α} (h : Agrees (Store.CacheApart sc c) sc.known Eq act act)
    (change : α → Engine → Engine) (failure : α → Except Fault Unit)
    (hchange : ∀ (a : α) (e : Engine), e.Changed (change a e)) :
    ChangesEngine sc c
      (act >>= fun a => modifyEngine (change a) >>= fun _ => liftFault (failure a))

namespace ChangesEngine

variable {act : Action Unit}

/-- What has been asked for is not forgotten. -/
theorem asked_subset (h : ChangesEngine sc c act) (s : Session) :
    s.asked ⊆ (sessionOf (act s)).asked := by
  cases h with
  | @intro α act h change failure hchange =>
    have hkept := (h.keeps s).asked
    cases hact : act s with
    | error e s₁ =>
      rw [hact] at hkept
      rw [bind_of_error hact]
      exact hkept
    | ok a s₁ =>
      rw [hact] at hkept
      rw [bind_of_ok hact]
      show s.asked ⊆ (sessionOf (liftFault (failure a) _)).asked
      cases failure a <;> exact hkept

/-- What is kept stays right. -/
theorem endsRight (h : ChangesEngine sc c act) {s : Session} (hs : s.store.IsSound sc c True)
    (hasked : ∀ x ∈ (sessionOf (act s)).asked, sc.known x) :
    EndsRight sc c (fun _ => True) (act s) := by
  cases h with
  | @intro α act h change failure hchange =>
    cases hact : act s with
    | error e s₁ =>
      rw [bind_of_error hact] at hasked ⊢
      have hends := h.endsRight hs (by rw [hact]; exact hasked)
      rw [hact] at hends
      cases hends with
      | error store => exact .error store
      | unwritten unwritten => exact .unwritten unwritten
    | ok a s₁ =>
      rw [bind_of_ok hact] at hasked ⊢
      have hasked₁ : ∀ x ∈ s₁.asked, sc.known x := by
        cases hfailure : failure a <;> exact fun x hx => hasked x (by rw [hfailure]; exact hx)
      have hends := h.endsRight hs (by rw [hact]; exact hasked₁)
      rw [hact] at hends
      cases hends with
      | ok answer store =>
        obtain ⟨e, he, hid, hescaping, hright⟩ := store.engine
        have hstore : { s₁ with engine := s₁.engine.map (change a) : Session }.store.KeepsRight
            sc c :=
          ⟨store.files, store.levels, change a e, congrArg (Option.map (change a)) he,
            ((hchange a e).eq Engine.id fun _ _ _ _ _ _ => rfl).trans hid,
            ((hchange a e).eq Engine.escaping fun _ _ _ _ _ _ => rfl).trans hescaping,
            (hchange a e).keepsRight hright⟩
        show EndsRight sc c _ (liftFault (failure a) _)
        cases failure a with
        | ok u => exact .ok trivial hstore
        | error fault => exact .error hstore

end ChangesEngine

/-! ## Offers with members -/

section

variable {H : Store → Store → Prop} {known : String → Prop} {below : Below}
  (h : below.Agrees H known) (htexts : AgreesOnTexts H known)

include h htexts

theorem agrees_hasCallable (v : Value) (name : String) :
    Agrees H known Eq (hasCallable below v name) (hasCallable below v name) := by
  refine .bind (Value.agrees_member? h htexts v name) fun w => ?_
  cases w <;> exact .pure rfl

theorem agrees_checkLoader (option : String) (l : Loader) :
    Agrees H known Eq (checkLoader below option l) (checkLoader below option l) := by
  unfold checkLoader
  split
  · exact .bind (agrees_hasCallable h htexts _ _) fun _ => .ite (.pure rfl) (.fault _)
  · exact .pure rfl

theorem agrees_asOffer (v : Value) :
    Agrees H known Eq (v.asOffer below) (v.asOffer below) := by
  unfold Value.asOffer
  split
  · refine .bind (Value.agrees_member? h htexts _ _) fun w => ?_
    split
    · exact .pure rfl
    · refine .bind (Value.agrees_member h htexts _ _) fun f =>
        .bind (Value.agrees_call h htexts _ _) fun keys => .bind (.liftFault _) fun _ => ?_
      split
      · exact .pure rfl
      · exact .fault _
  · exact .pure rfl

theorem agrees_storePartials (l : Loader) (partials : Value) :
    Agrees H known Eq (storePartials below l partials) (storePartials below l partials) := by
  unfold storePartials
  dsimp only
  split
  · exact .bind (agrees_asOffer h htexts _) fun _ => .pure rfl
  · refine .bind (Value.agrees_member? h htexts _ _) fun f => ?_
    split
    · exact .fault _
    · exact .guard (.refl _) (.bind (Value.agrees_call h htexts _ _) fun _ => .pure rfl)
  · exact .fault _

end

/-- What is read off the configuration is the same for both of the engines. -/
theorem Store.CacheApart.agrees_readEngine {β : Type} {f : Engine → β}
    (hf : ∀ e : Engine, f e.settings = f e) {next : β → Action α}
    (hnext : ∀ b, Agrees (Store.CacheApart sc c) sc.known Eq (next b) (next b)) :
    Agrees (Store.CacheApart sc c) sc.known Eq (theEngine >>= fun e => next (f e))
      (theEngine >>= fun e => next (f e)) := by
  refine .bindOn Store.CacheApart.agrees_theEngine (fun e => (hnext _).keeps) fun e e' he => ?_
  obtain ⟨hconfig, hconfig', -⟩ := he
  rw [Engine.eq_of_settings f hf (hconfig'.trans hconfig.symm)]
  exact hnext _

/-- **All changes are of this kind.** -/
theorem Change.changesEngine (ch : Change) : ChangesEngine sc c ch.apply := by
  have hfaithful : Faithful (Store.CacheApart sc c) sc.known := Store.CacheApart.faithful
  have hlevel : ground.Agrees (Store.CacheApart sc c) sc.known :=
    hfaithful.agrees_level depthLimit
  have htexts := hfaithful.texts
  cases ch with
  | loader l =>
    exact .intro (agrees_checkLoader hlevel htexts "loader" l) (fun loader e => { e with loader })
      (fun _ => .ok ()) fun _ e => ⟨rfl, List.Subset.refl _, List.Subset.refl _⟩
  | partialsLoader l =>
    exact .intro (agrees_checkLoader hlevel htexts "partials_loader" l)
      (fun partialsLoader e => { e with partialsLoader })
      (fun _ => .ok ()) fun _ e => ⟨rfl, List.Subset.refl _, List.Subset.refl _⟩
  | partials v =>
    let failure (stored : Loader × Option Fault) : Except Fault Unit :=
      stored.2.elim (.ok ()) .error
    have hchange := ChangesEngine.intro
      (Store.CacheApart.agrees_readEngine (f := Engine.partialsLoader) (fun _ => rfl)
        fun l => agrees_storePartials hlevel htexts l v)
      (fun stored e => { e with partialsLoader := stored.1 }) failure
      fun _ e => ⟨rfl, List.Subset.refl _, List.Subset.refl _⟩
    have happly : setPartials ground v = theEngine >>= fun e =>
        storePartials ground e.partialsLoader v >>= fun stored =>
          modifyEngine (fun e => { e with partialsLoader := stored.1 }) >>= fun _ =>
            liftFault (failure stored) := by
      refine congrArg (theEngine >>= ·) (funext fun e => congrArg (_ >>= ·) (funext fun stored => ?_))
      obtain ⟨l, fault⟩ := stored
      cases fault <;> rfl
    rw [bind_assoc, ← happly] at hchange
    exact hchange
  | helpers v =>
    exact .intro (.liftFault (checkHelpers v)) (fun helpers e => { e with helpers })
      (fun _ => .ok ()) fun _ e => ⟨rfl, List.Subset.refl _, List.Subset.refl _⟩
  | helper f =>
    have hread : Agrees (Store.CacheApart sc c) sc.known Eq
        (theEngine >>= fun e => liftFault (f e.helpers)) _ :=
      Store.CacheApart.agrees_readEngine (f := Engine.helpers) (fun _ => rfl) fun helpers =>
        .liftFault (f helpers)
    have hchange := ChangesEngine.intro hread (fun helpers e => { e with helpers })
      (fun _ => .ok ()) fun _ e => ⟨rfl, List.Subset.refl _, List.Subset.refl _⟩
    rw [bind_assoc] at hchange
    exact hchange
  | forget =>
    exact .intro (.pure (a := ()) rfl) (fun _ => Engine.forget) (fun _ => .ok ())
      fun _ e => ⟨rfl, List.nil_subset _, List.nil_subset _⟩

/-! ## Operations -/

/-- A change ends as it does by itself. -/
theorem Operation.act_change (ch : Change) (s : Session) : (Operation.change ch).act s =
    match ch.apply s with
    | .ok _ s' => .ok .nothing s'
    | .error e s' => .error e s' := by
  show (ch.apply >>= fun _ => pure Answer.nothing) s = _
  cases hrun : ch.apply s with
  | ok u s' => rw [bind_of_ok hrun]; rfl
  | error e s' => rw [bind_of_error hrun]

/-- **Whatever is done, what is kept stays right**, and what is handed out is made by the engine. -/
theorem Operation.endsRight {held : List Template} (hheld : ∀ t ∈ held, ∃ x, t.IsOf c x)
    {op : Operation} (huses : op.Uses held) {s : Session} (hs : s.store.IsSound sc c True)
    (hasked : ∀ x ∈ (sessionOf (op.act s)).asked, sc.known x) :
    EndsRight sc c (fun a => ∀ t ∈ a.templates, ∃ x, t.IsOf c x) (op.act s) := by
  cases op with
  | request r =>
    have hends := (Request.agrees (r.afresh_self hheld huses) hheld huses).endsRight hs hasked
    change EndsRight sc c _ (r.act s)
    generalize r.act s = result at hends
    cases hends with
    | ok answer store =>
      obtain ⟨a', hrel⟩ := answer
      refine .ok (fun t ht => ?_) store
      cases hrel with
      | template h =>
        obtain ⟨x, hx, -⟩ := h
        obtain rfl := List.mem_singleton.1 ht
        exact ⟨x, hx⟩
      | nothing => exact absurd ht List.not_mem_nil
      | text out => exact absurd ht List.not_mem_nil
    | error store => exact .error store
    | unwritten unwritten => exact .unwritten unwritten
  | change ch =>
    rw [Operation.act_change] at hasked ⊢
    have hends := ch.changesEngine.endsRight hs (c := c)
    generalize ch.apply s = result at hasked hends ⊢
    cases result with
    | ok u s₁ =>
      cases hends hasked with
      | ok answer store => exact .ok (fun t ht => absurd ht List.not_mem_nil) store
    | error e s₁ =>
      cases hends hasked with
      | error store => exact .error store
      | unwritten unwritten => exact .unwritten unwritten

/-- What has been asked for is not forgotten. -/
theorem Operation.asked_subset (op : Operation) (s : Session) :
    s.asked ⊆ (sessionOf (op.act s)).asked := by
  cases op with
  | request r => exact (r.keeps_act s).asked
  | change ch =>
    rw [Operation.act_change]
    -- This is so whatever is taken into account, and be it nothing.
    let sc : Scope :=
      ⟨fun _ => False, fun _ => False, fun _ => False, [], fun _ _ _ _ h => h.elim,
        fun _ h => h.elim⟩
    have hchange : ChangesEngine sc default ch.apply := ch.changesEngine
    have hasked := hchange.asked_subset s
    generalize ch.apply s = result at hasked
    cases result <;> exact hasked

end

end Mustache
