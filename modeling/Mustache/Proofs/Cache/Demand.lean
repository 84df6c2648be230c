import Mustache.Proofs.Cache.Operation
import Mustache.Proofs.Render.Oblivious
import Mustache.Proofs.Session.ObliviousLoad

/-!
# How a template is come by

A template that is asked for is looked for among those that the engine keeps, and compiled if it is
not found there. A template for a source from a loader is looked for among the templates from
loaders only; a template for a text of a lambda first among these, and then among the recently used
ones. Finding the source, and all that the persistent cache, the user's own objects and the logs
have to do with compiling it, leaves what is kept as it is.

## Main definitions

* `Mustache.Session.books` — what the engine of a session keeps, and what it has done.
* `Mustache.Wanted.source?` — the source that a template is asked for.
* `Mustache.Wanted.Ends` — how asking for a template may end.

## Main results

* `Mustache.keepsBooks_find`, `Mustache.keepsBooks_treeFor` — actions that leave the books alone.
* `Mustache.Wanted.ends_load` — asking for a template ends in one of these ways.
* `Mustache.loadText_stored` — texts of lambdas have nothing to do with the persistent cache.
-/

namespace Mustache

/-! ## Books -/

/-- **What an engine keeps** under its configuration: the templates from loaders and the texts from
lambdas; and how many templates have been made, and which sources have been asked for, the latest
first. -/
structure Books where
  configuration : Option Engine
  templates : List (String × Template)
  lambdas : List (String × Template)
  made : Nat
  asked : List String

/-- The books of the engine of a session. -/
def Session.books (s : Session) : Books :=
  { configuration := s.engine.map Engine.settings
    templates := (s.engine.map Engine.templates).getD []
    lambdas := (s.engine.map Engine.lambdas).getD []
    made := s.nextTemplate
    asked := s.asked }

/-- One more source that has been asked for. -/
def Books.ask (b : Books) (x : String) : Books := { b with asked := x :: b.asked }

/-- One more template that has been made. -/
def Books.make (b : Books) : Books := { b with made := b.made + 1 }

/-- An engine with these books. -/
structure Engine.Keeps (c : Engine) (b : Books) (e : Engine) : Prop where
  settings : e.settings = c.settings
  templates : e.templates = b.templates
  lambdas : e.lambdas = b.lambdas

/-- Books of a configuration belong to an engine of this configuration. -/
theorem Session.exists_engine {s : Session} {c : Engine}
    (h : s.books.configuration = some c.settings) : ∃ e, s.engine = some e ∧ c.Keeps s.books e := by
  obtain ⟨e, he, hsettings⟩ := Option.map_eq_some_iff.1 h
  refine ⟨e, he, hsettings, ?_, ?_⟩
  · rw [books, he]
    rfl
  · rw [books, he]
    rfl

/-- The engine keeps something else. -/
theorem books_modifyEngine {s : Session} {e : Engine} (he : s.engine = some e) {f : Engine → Engine}
    (hf : (f e).settings = e.settings) :
    (sessionOf (modifyEngine f s)).books =
      { s.books with templates := (f e).templates, lambdas := (f e).lambdas } := by
  show Session.books { s with engine := s.engine.map f } = _
  rw [he]
  simp only [Session.books, he, Option.map_some, Option.getD_some, hf]

/-- **An action that leaves the books alone**, also if it ends in a fault. -/
def KeepsBooks {α : Type} (act : Action α) : Prop := ∀ s, (sessionOf (act s)).books = s.books

/-- Books are no part of the surroundings, and the persistent cache is not in them. -/
theorem isHidden_books (b : Books) : IsHidden fun s s' => s' = s ∧ s.books = b :=
  isHidden_of_condition (fun h _ => h) (fun h _ => h) fun {s} h cache => by
    rw [← h]
    unfold Session.books Session.mapEngine
    cases s.engine <;> rfl

/-- Nothing that a user's own object is asked for touches the books. -/
theorem oblivious_ground_books (b : Books) :
    ground.Oblivious (fun s s' => s' = s ∧ s.books = b) False :=
  oblivious_level_of_isHidden (isHidden_books b) depthLimit

namespace KeepsBooks

variable {α : Type} {act : Action α}

theorem of_oblivious (h : ∀ b, Oblivious (fun s s' => s' = s ∧ s.books = b) act) : KeepsBooks act :=
  fun s => (h s.books).keeps rfl

theorem of_eq_ok (h : KeepsBooks act) {s s' : Session} {a : α} (hrun : act s = .ok a s') :
    s'.books = s.books := by
  have hs := h s
  rwa [hrun] at hs

theorem of_eq_error (h : KeepsBooks act) {s s' : Session} {e : Fault} (hrun : act s = .error e s') :
    s'.books = s.books := by
  have hs := h s
  rwa [hrun] at hs

end KeepsBooks

theorem keepsBooks_logEvent (logger : Logger) (level : Level) (message : String) (fields : Fields) :
    KeepsBooks (logEvent logger level message fields) :=
  .of_oblivious fun b => oblivious_logEvent (isHidden_books b).loggable _ _ _ _

theorem keepsBooks_parseSource (source : String) (name : Value) :
    KeepsBooks (parseSource source name) :=
  .of_oblivious fun _ => oblivious_parseSource _ _

/-- A tree that is there already. -/
theorem keepsBooks_pure {α : Type} (a : α) : KeepsBooks (pure a) := fun _ => rfl

theorem keepsBooks_treeOf (source : String) (v : Value) : KeepsBooks (treeOf ground source v) :=
  .of_oblivious fun b =>
    oblivious_treeOf (isHidden_books b) (oblivious_ground_books b) _ _

/-- **Trees are come by without a change of the books**: read from the persistent cache, or parsed
and stored there. -/
theorem keepsBooks_treeFor (e : Engine) (source : Value) (key : String) (name : Value) :
    KeepsBooks (treeFor ground e source key name) :=
  .of_oblivious fun b =>
    oblivious_treeFor (isHidden_books b) (oblivious_ground_books b) _ _ _ _

/-- **Sources are found without a change of the books.** -/
theorem keepsBooks_find (l : Loader) (name : String) : KeepsBooks (l.find ground name) :=
  .of_oblivious fun b =>
    Loader.oblivious_find (isHidden_books b) (oblivious_ground_books b) _ _

theorem keepsBooks_attempt_find (l : Loader) (name : String) :
    KeepsBooks (attempt .notFound (l.find ground name)) :=
  .of_oblivious fun b =>
    .attempt .notFound (Loader.oblivious_find (isHidden_books b) (oblivious_ground_books b) _ _)

/-! ## Cases -/

/-- An action in sequence goes on where the first one ends well, and ends where the first one ends
in a fault. -/
theorem bind_cases {α β : Type} {act : Action α} {next : α → Action β} {s : Session}
    {P : EStateM.Result Fault Session β → Prop} (hok : ∀ a s', act s = .ok a s' → P (next a s'))
    (herror : ∀ e s', act s = .error e s' → P (.error e s')) : P ((act >>= next) s) := by
  cases hact : act s with
  | ok a s' =>
    rw [bind_of_ok hact]
    exact hok a s' hact
  | error e s' =>
    rw [bind_of_error hact]
    exact herror e s' hact

/-- A computation that may fail by itself has no part in the session. -/
theorem liftFault_cases {α β : Type} {x : Except Fault α} {next : α → Action β} {s : Session}
    {P : EStateM.Result Fault Session β → Prop} (hok : ∀ a, x = .ok a → P (next a s))
    (herror : ∀ e, P (.error e s)) : P ((liftFault x >>= next) s) := by
  cases x with
  | ok a => exact hok a rfl
  | error e => exact herror e

/-- **A template is made of a tree**, unless that ends in a fault: one more has been made, and it
has its source and its key. -/
theorem makeTemplate_cases {β : Type} {e : Engine} {source key : String} {name : Value}
    {tree : Action Tree} (htree : KeepsBooks tree) {next : Template → Action β} {s : Session}
    {P : EStateM.Result Fault Session β → Prop}
    (hok : ∀ t s', t.source = source → t.className = key → t.id = s.nextTemplate →
      s'.books = s.books.make → P (next t s'))
    (herror : ∀ e s', s'.books = s.books → P (.error e s')) :
    P ((makeTemplate e source key name tree >>= next) s) := by
  unfold makeTemplate
  dsimp only
  rw [bind_assoc]
  refine bind_cases (fun _ s₁ h₁ => ?_) fun fault s₁ h₁ => herror fault s₁ ?_
  · have hbooks₁ := (keepsBooks_logEvent _ _ _ _).of_eq_ok h₁
    rw [bind_assoc]
    refine bind_cases (fun made s₂ h₂ => ?_) fun fault s₂ h₂ => herror fault s₂ ?_
    · have hbooks₂ := (htree.of_eq_ok h₂).trans hbooks₁
      rw [bind_assoc]
      refine bind_cases (fun _ s₃ h₃ => ?_) fun fault s₃ h₃ => herror fault s₃ ?_
      · have hbooks₃ := ((keepsBooks_logEvent _ _ _ _).of_eq_ok h₃).trans hbooks₂
        have hmade : s₃.nextTemplate = s.nextTemplate := congrArg Books.made hbooks₃
        refine hok _ { s₃ with nextTemplate := s₃.nextTemplate + 1 } rfl rfl hmade ?_
        rw [← hbooks₃]
        rfl
      · exact ((keepsBooks_logEvent _ _ _ _).of_eq_error h₃).trans hbooks₂
    · exact (htree.of_eq_error h₂).trans hbooks₁
  · exact (keepsBooks_logEvent _ _ _ _).of_eq_error h₁

/-! ## Requests -/

/-- The source that a loader has found, as text. -/
def sourceIn : EStateM.Result Fault Session Found → Option String
  | .ok found _ => found.source.plainOrFault.toOption
  | .error _ _ => none

namespace Wanted

/-- **The source that a template is asked for**, if one is found: what the loader finds, or the text
of the lambda. -/
def source? (s : Session) : Wanted → Option String
  | named name => s.engine.bind fun e => sourceIn (e.loader.find ground name s)
  | included name => s.engine.bind fun e => sourceIn (e.partialsLoader.find ground name s)
  | text source delims => some (lambdaSource source delims)

/-- The templates among which the one that is asked for is looked for, in this order. -/
def consulted (b : Books) : Wanted → List (String × Template)
  | named _ | included _ => b.templates
  | text _ _ => b.templates ++ b.lambdas

/-- The books after a template has been found among those kept: a text of a lambda that is not among
the templates from loaders has been used. -/
def use (b : Books) (key : String) : Wanted → Books
  | named _ | included _ => b
  | text _ _ =>
    if (b.templates.lookup key).isSome then b
    else { b with lambdas := Recent.touch b.lambdas key }

/-- The books after a template has been compiled. -/
def keep (capacity : Nat) (b : Books) (key : String) (t : Template) : Wanted → Books
  | named _ | included _ => { b with templates := b.templates ++ [(key, t)] }
  | text _ _ => { b with lambdas := Recent.insert capacity b.lambdas key t }

/-- **How asking an engine for a template may end.** -/
inductive Ends (c : Engine) (s : Session) (w : Wanted) :
    EStateM.Result Fault Session (Option Template) → Prop
  /-- The template is among those kept, and none is compiled. -/
  | answered {x : String} {t : Template} {s' : Session} (source : w.source? s = some x)
    (held : (w.consulted s.books).lookup (c.className x) = some t)
    (books : s'.books = w.use (s.books.ask x) (c.className x)) : Ends c s w (.ok (some t) s')
  /-- It is not, so one template is compiled, of this source and under its key. -/
  | compiled {x : String} {t : Template} {s' : Session} (source : w.source? s = some x)
    (unheld : (w.consulted s.books).lookup (c.className x) = none)
    (made : t.source = x ∧ t.className = c.className x ∧ t.id = s.nextTemplate)
    (books : s'.books = w.keep c.lambdaCapacity (s.books.ask x).make (c.className x) t) :
    Ends c s w (.ok (some t) s')
  /-- A partial is not found, and nothing is looked for. -/
  | missing {name : String} {s' : Session} (included : w = .included name)
    (source : w.source? s = none) (books : s'.books = s.books) : Ends c s w (.ok none s')
  /-- Finding the source of a template ends in a fault, and nothing is looked for. -/
  | unfound {e : Fault} {s' : Session} (loaded : ∀ text delims, w ≠ .text text delims)
    (books : s'.books = s.books) : Ends c s w (.error e s')
  /-- The template is not among those kept, and compiling it ends in a fault. -/
  | uncompiled {x : String} {e : Fault} {s' : Session} (source : w.source? s = some x)
    (unheld : (w.consulted s.books).lookup (c.className x) = none)
    (books : s'.books = s.books.ask x) : Ends c s w (.error e s')

/-- What is asked for by a name is looked for, and kept, among the templates from loaders. -/
theorem eq_of_loaded {w : Wanted} (h : ∀ text delims, w ≠ .text text delims) (b : Books) :
    w.consulted b = b.templates ∧ (∀ key, w.use b key = b) ∧ ∀ capacity key t,
      w.keep capacity b key t = { b with templates := b.templates ++ [(key, t)] } := by
  cases w with
  | named _ | included _ => exact ⟨rfl, fun _ => rfl, fun _ _ _ => rfl⟩
  | text text delims => exact absurd rfl (h text delims)

/-- A template that has been compiled is kept. -/
theorem ends_of_made {c : Engine} {s s₁ : Session} {w : Wanted} {x : String} {t : Template}
    (hconfiguration : s.books.configuration = some c.settings)
    (hfound : w.source? s = some x)
    (hunheld : (w.consulted s.books).lookup (c.className x) = none)
    (hmade : t.source = x ∧ t.className = c.className x ∧ t.id = s.nextTemplate)
    (hbooks : s₁.books = (s.books.ask x).make) {f : Engine → Engine}
    (hsettings : ∀ e, (f e).settings = e.settings)
    (hkeep : ∀ e, c.Keeps s₁.books e →
      { s₁.books with templates := (f e).templates, lambdas := (f e).lambdas } =
        w.keep c.lambdaCapacity s₁.books (c.className x) t) :
    w.Ends c s ((modifyEngine f >>= fun _ => pure (some t)) s₁) := by
  have hsame : s₁.books.configuration = some c.settings := by
    rw [hbooks]
    exact hconfiguration
  obtain ⟨e, he, hkeeps⟩ := Session.exists_engine hsame
  show w.Ends c s (.ok (some t) { s₁ with engine := s₁.engine.map f })
  refine .compiled hfound hunheld hmade ?_
  rw [← hbooks, ← hkeep e hkeeps]
  exact books_modifyEngine he (hsettings e)

/-- **The template for a source that has been found.** -/
theorem ends_loadSource {c : Engine} {s s₁ : Session} {w : Wanted}
    (hloaded : ∀ text delims, w ≠ .text text delims) {source : Value}
    (hsource : w.source? s = source.plainOrFault.toOption)
    (hconfiguration : s.books.configuration = some c.settings) (hbooks : s₁.books = s.books)
    (name : Value) :
    w.Ends c s ((loadSource ground source name >>= fun t => pure (some t)) s₁) := by
  obtain ⟨hconsulted, -⟩ := eq_of_loaded hloaded s.books
  obtain ⟨e, he, hkeeps⟩ := Session.exists_engine (hbooks ▸ hconfiguration)
  have hclassName : e.className = c.className := Engine.className_of_settings hkeeps.settings
  rw [hbooks] at hkeeps
  unfold loadSource
  rw [bind_assoc, bind_of_ok (theEngine_eq_ok he), bind_assoc]
  refine liftFault_cases (fun x hx => ?_) fun fault => .unfound hloaded hbooks
  have hfound : w.source? s = some x := by
    rw [hsource, hx]
    rfl
  rw [bind_assoc, bind_of_ok (askFor_eq_ok e x s₁), hclassName]
  have hasked : { s₁ with asked := x :: s₁.asked }.books = s.books.ask x := by
    rw [← hbooks]
    rfl
  generalize { s₁ with asked := x :: s₁.asked } = s₂ at hasked
  unfold templateFor
  cases hlookup : e.templates.lookup (c.className x) with
  | some t =>
    have hheld : (w.consulted s.books).lookup (c.className x) = some t := by
      rw [hconsulted, ← hkeeps.templates, hlookup]
    refine .answered hfound hheld ?_
    rw [(eq_of_loaded hloaded _).2.1]
    exact hasked
  | none =>
    have hunheld : (w.consulted s.books).lookup (c.className x) = none := by
      rw [hconsulted, ← hkeeps.templates, hlookup]
    dsimp only
    rw [bind_assoc]
    refine bind_cases (fun found s₃ hfor => ?_) fun fault s₃ hfor => ?_
    · have hbooks₃ := ((keepsBooks_treeFor e source _ name).of_eq_ok hfor).trans hasked
      rw [bind_assoc]
      refine makeTemplate_cases (keepsBooks_treeOf x found) (fun t s₄ htext hkey hid hmade => ?_) ?_
      · rw [hbooks₃] at hmade
        have hfresh : t.id = s.nextTemplate := hid.trans (congrArg Books.made hbooks₃)
        rw [bind_assoc]
        refine ends_of_made hconfiguration hfound hunheld ⟨htext, hkey, hfresh⟩ hmade
          (fun _ => rfl) fun e₄ hkeeps₄ => ?_
        rw [(eq_of_loaded hloaded _).2.2, hkeeps₄.templates, hkeeps₄.lambdas]
      · exact fun fault s₄ hsame => .uncompiled hfound hunheld (hsame.trans hbooks₃)
    · exact .uncompiled hfound hunheld
        (((keepsBooks_treeFor e source _ name).of_eq_error hfor).trans hasked)

section

variable {c : Engine} {s : Session} (hconfiguration : s.books.configuration = some c.settings)

include hconfiguration

/-- A text of a lambda that is not among those kept is compiled. -/
theorem ends_compileText {source x : String} {delims : Option String} {e : Engine}
    {s₁ : Session} (hfound : (text source delims).source? s = some x)
    (hunheld : ((text source delims).consulted s.books).lookup (c.className x) = none)
    (hasked : s₁.books = s.books.ask x) :
    (text source delims).Ends c s ((do
      let tree ← parseSource x .null
      let t ← makeTemplate e x (c.className x) .null (pure tree)
      modifyEngine fun e =>
        { e with lambdas := Recent.insert e.lambdaCapacity e.lambdas (c.className x) t }
      pure (some t)) s₁) := by
  refine bind_cases (fun tree s₂ hparse => ?_) fun fault s₂ hparse => ?_
  · have hbooks₂ := ((keepsBooks_parseSource x .null).of_eq_ok hparse).trans hasked
    refine makeTemplate_cases (keepsBooks_pure tree) (fun t s₃ htext hkey hid hmade => ?_) ?_
    · rw [hbooks₂] at hmade
      have hfresh : t.id = s.nextTemplate := hid.trans (congrArg Books.made hbooks₂)
      refine ends_of_made hconfiguration hfound hunheld ⟨htext, hkey, hfresh⟩ hmade
        (fun _ => rfl) fun e₃ hkeeps₃ => ?_
      have hcapacity : e₃.lambdaCapacity = c.lambdaCapacity :=
        Engine.eq_of_settings Engine.lambdaCapacity (fun _ => rfl) hkeeps₃.settings
      rw [keep, hkeeps₃.templates, hkeeps₃.lambdas, hcapacity]
    · exact fun fault s₃ hsame => .uncompiled hfound hunheld (hsame.trans hbooks₂)
  · exact .uncompiled hfound hunheld
      (((keepsBooks_parseSource x .null).of_eq_error hparse).trans hasked)

/-- **The template for a text of a lambda.** -/
theorem ends_loadText (source : String) (delims : Option String) :
    (text source delims).Ends c s ((loadText source delims >>= fun t => pure (some t)) s) := by
  obtain ⟨e, he, hkeeps⟩ := Session.exists_engine hconfiguration
  have hclassName : e.className = c.className := Engine.className_of_settings hkeeps.settings
  unfold loadText
  rw [bind_assoc, bind_of_ok (theEngine_eq_ok he)]
  dsimp only
  rw [bind_assoc, bind_of_ok (askFor_eq_ok e _ s), hclassName]
  have hfound : (text source delims).source? s = some (lambdaSource source delims) := rfl
  generalize lambdaSource source delims = x at hfound
  have hasked : { s with asked := x :: s.asked }.books = s.books.ask x := rfl
  have hengine : { s with asked := x :: s.asked }.engine = some e := he
  generalize { s with asked := x :: s.asked } = s₁ at hasked hengine
  have hconsulted : ((text source delims).consulted s.books).lookup (c.className x) =
      (e.templates.lookup (c.className x)).or (e.lambdas.lookup (c.className x)) := by
    rw [hkeeps.templates, hkeeps.lambdas]
    exact List.lookup_append
  have htemplates : (s.books.ask x).templates = e.templates := hkeeps.templates.symm
  have hlambdas : (s.books.ask x).lambdas = e.lambdas := hkeeps.lambdas.symm
  unfold textFor
  cases hmain : e.templates.lookup (c.className x) with
  | some t =>
    refine .answered hfound (by rw [hconsulted, hmain]; rfl) ?_
    rw [use, htemplates, hmain, if_pos (by simp)]
    exact hasked
  | none =>
    cases hrecent : e.lambdas.lookup (c.className x) with
    | some t =>
      show (text source delims).Ends c s (.ok (some t) { s₁ with engine := s₁.engine.map _ })
      refine .answered hfound (by rw [hconsulted, hmain, hrecent]; rfl) ?_
      rw [use, htemplates, hmain, if_neg (by simp), hlambdas, ← hasked]
      refine (books_modifyEngine hengine rfl).trans ?_
      rw [← htemplates, ← hasked]
    | none =>
      have hunheld : ((text source delims).consulted s.books).lookup (c.className x) = none := by
        rw [hconsulted, hmain, hrecent]
        rfl
      have hends := ends_compileText (e := e) hconfiguration hfound hunheld hasked
      simpa only [bind_assoc, pure_bind] using hends

end

/-- **Asking an engine for a template ends in one of these ways.** -/
theorem ends_load {c : Engine} {s : Session}
    (hconfiguration : s.books.configuration = some c.settings) (w : Wanted) : w.Ends c s (w.load s) := by
  obtain ⟨e, he, -⟩ := Session.exists_engine hconfiguration
  cases w with
  | named name =>
    show (named name).Ends c s ((loadTemplate ground name >>= fun t => pure (some t)) s)
    have hloaded : ∀ text delims, named name ≠ .text text delims := nofun
    have hkeeps := keepsBooks_find e.loader name
    unfold loadTemplate
    rw [bind_assoc, bind_of_ok (theEngine_eq_ok he), bind_assoc]
    refine bind_cases (fun found s₁ hfind => ?_) fun fault s₁ hfind => ?_
    · have hbooks := hkeeps.of_eq_ok hfind
      have hsource : (named name).source? s = found.source.plainOrFault.toOption := by
        rw [source?, he, Option.bind_some, hfind]
        rfl
      rw [bind_assoc]
      refine liftFault_cases (fun known _ => ?_) fun fault => .unfound hloaded hbooks
      exact ends_loadSource hloaded hsource hconfiguration hbooks known
    · exact .unfound hloaded (hkeeps.of_eq_error hfind)
  | included name =>
    show (included name).Ends c s (loadPartial? ground name s)
    have hloaded : ∀ text delims, included name ≠ .text text delims := nofun
    have hkeeps := keepsBooks_attempt_find e.partialsLoader name
    unfold loadPartial?
    rw [bind_of_ok (theEngine_eq_ok he)]
    refine bind_cases (fun found s₁ hfind => ?_) fun fault s₁ hfind => ?_
    · have hbooks := hkeeps.of_eq_ok hfind
      rcases attempt_cases hfind with ⟨found, rfl, hfound⟩ | ⟨rfl, fault, hfault, -⟩
      · have hsource : (included name).source? s = found.source.plainOrFault.toOption := by
          rw [source?, he, Option.bind_some, hfound]
          rfl
        refine liftFault_cases (fun known _ => ?_) fun fault => .unfound hloaded hbooks
        exact ends_loadSource hloaded hsource hconfiguration hbooks known
      · have hsource : (included name).source? s = none := by
          rw [source?, he, Option.bind_some, hfault]
          rfl
        have hlog := keepsBooks_logEvent e.logger .warning "Partial not found: \"%(name)s\""
          [("name", .text name)]
        refine bind_cases (fun _ s₂ hrun => ?_) fun fault s₂ hrun => ?_
        · exact .missing rfl hsource ((hlog.of_eq_ok hrun).trans hbooks)
        · exact .unfound hloaded ((hlog.of_eq_error hrun).trans hbooks)
    · exact .unfound hloaded (hkeeps.of_eq_error hfind)
  | text source delims => exact ends_loadText hconfiguration source delims

end Wanted

/-! ## Texts of lambdas and the persistent cache -/

/-- The session with another persistent cache and other files. -/
def Session.stored (s : Session) (cache : Cache) (files : FileTree) : Session :=
  { s.mapEngine fun e => { e with cache } with files }

section

variable {cache : Cache} {files : FileTree}

/-- What is changed in the same way with this cache and these files. -/
theorem oblivious_modifyGet_stored {α : Type} {f : Session → α × Session}
    (h : ∀ s : Session, f (s.stored cache files) = ((f s).1, (f s).2.stored cache files)) :
    Oblivious (fun s s' => s' = s.stored cache files) (modifyGet f : Action α) := by
  rintro s _ rfl
  show SameEnd _ (.ok (f s).1 (f s).2)
    (.ok (f (s.stored cache files)).1 (f (s.stored cache files)).2)
  rw [h s]
  exact .ok rfl

theorem oblivious_modifyEngine_stored {f : Engine → Engine}
    (h : ∀ e, f { e with cache } = { f e with cache }) :
    Oblivious (fun s s' => s' = s.stored cache files) (modifyEngine f) := by
  refine oblivious_modifyGet_stored fun s => Prod.ext rfl ?_
  show { s.stored cache files with engine := (s.engine.map fun e => { e with cache }).map f } =
    Session.stored { s with engine := s.engine.map f } cache files
  rw [Option.map_map, show f ∘ (fun e => { e with cache }) = (fun e => { e with cache }) ∘ f from
    funext h, ← Option.map_map]
  rfl

theorem isLoggable_stored : IsLoggable fun s s' => s' = s.stored cache files where
  levels h := by rw [h]; rfl
  record h _ := by rw [h]; rfl

theorem oblivious_textFor_stored (e : Engine) (source key : String) :
    Oblivious (fun s s' => s' = s.stored cache files) (textFor e source key) := by
  unfold textFor
  split
  · exact .pure _
  · split
    · exact .bind (oblivious_modifyEngine_stored fun _ => rfl) fun _ => .pure _
    · have hmake (tree : Tree) : Oblivious (fun s s' => s' = s.stored cache files)
          (makeTemplate e source key .null (pure tree)) :=
        .bind (oblivious_logEvent isLoggable_stored _ _ _ _) fun _ => .bind (.pure _) fun _ =>
          .bind (oblivious_logEvent isLoggable_stored _ _ _ _) fun _ =>
            .bind (oblivious_modifyGet_stored fun _ => rfl) fun _ => .pure _
      exact .bind (oblivious_parseSource _ _) fun tree => .bind (hmake tree) fun _ =>
        .bind (oblivious_modifyEngine_stored fun _ => rfl) fun _ => .pure _

/-- **Texts of lambdas have nothing to do with the persistent cache.** With any other cache, and
with any other files, the same comes of a text, and cache and files are left as they are. -/
theorem loadText_stored (text : String) (delims : Option String) (s : Session) :
    SameEnd (fun s s' => s' = s.stored cache files) (loadText text delims s)
      (loadText text delims (s.stored cache files)) := by
  have hnext (e : Engine) : Oblivious (fun s s' => s' = s.stored cache files)
      (askFor e (lambdaSource text delims) >>= textFor e (lambdaSource text delims)) :=
    .bind (oblivious_modifyGet_stored fun _ => rfl) fun key => oblivious_textFor_stored e _ key
  unfold loadText
  cases he : s.engine with
  | none =>
    have he' : (s.stored cache files).engine = none := by
      rw [Session.stored, Session.mapEngine, he]
      rfl
    rw [bind_of_error (theEngine_eq_error he), bind_of_error (theEngine_eq_error he')]
    exact .error rfl
  | some e =>
    have he' : (s.stored cache files).engine = some { e with cache } := by
      rw [Session.stored, Session.mapEngine, he]
      rfl
    rw [bind_of_ok (theEngine_eq_ok he), bind_of_ok (theEngine_eq_ok he')]
    exact hnext e s _ rfl

end

end Mustache
