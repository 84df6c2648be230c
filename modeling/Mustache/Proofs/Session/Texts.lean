import Mustache.Proofs.Session.Events
import Mustache.Proofs.Session.Kept
import Mustache.Proofs.Tree.Traversal

/-!
# Texts of lambdas are loaded

A text that a lambda returns is looked for among the templates that the engine keeps, and compiled
if it is not found there. If the engine keeps nothing but templates of the text under the key of
the text, it makes no difference where the template comes from.

## Main definitions

* `Mustache.Template.IsOf` — a template that an engine makes of a source.
* `Mustache.Engine.HoldsAt` — what the engine keeps under the key of a source is a template of the
  source.
* `Mustache.Engine.HoldsText` — the same for what the engine keeps of texts from lambdas.

## Main results

* `Mustache.loadText_of_parse`, `Mustache.loadText_of_error` — what comes of a text, by whether it
  can be parsed.
-/

namespace Mustache

/-! ## Templates of sources -/

/-- The name of a source shows in errors only. -/
theorem parse_eq_ok_of_name {source : String} {name : Value} {d : Delimiters} {tree : Tree}
    (h : parse source name d = .ok tree) (name' : Value) : parse source name' d = .ok tree := by
  obtain ⟨tokens, htokens, htree⟩ := parse_eq_ok_iff.1 h
  rw [tokenize_eq_ok_iff] at htokens
  rw [parseTokens_eq_ok_iff] at htree
  exact parse_eq_ok_iff.2 ⟨tokens, tokenize_eq_ok_iff.2 htokens, parseTokens_eq_ok_iff.2 htree⟩

/-- A name that a template can have: text, or null if there is none. -/
def Value.IsName : Value → Prop
  | .null | .text _ => True
  | _ => False

/-- **The engine makes this template of the text**, under one name or another. -/
structure Template.IsOf (t : Template) (e : Engine) (text : String) : Prop where
  engine : t.engine = e.id
  source : t.source = text
  tree : parse text .null .usual = .ok t.tree
  escaping : t.escaping = e.escaping
  name : t.name.IsName

/-- **What the engine keeps under the key of a source** is a template of this source. -/
def Engine.HoldsAt (e : Engine) (source : String) : Prop :=
  ∀ t, (e.className source, t) ∈ e.templates ++ e.lambdas → t.IsOf e source

/-- What the engine keeps under the key of a text from a lambda is a template of this text. -/
def Engine.HoldsText (e : Engine) (source : String) : Prop :=
  ∀ t, (e.className source, t) ∈ e.lambdas → t.IsOf e source

theorem Engine.HoldsAt.holdsText {e : Engine} {source : String} (h : e.HoldsAt source) :
    e.HoldsText source :=
  fun t ht => h t (List.mem_append_right _ ht)

/-- An engine that keeps nothing keeps nothing else. -/
theorem Engine.holdsAt_forget (e : Engine) (source : String) : e.forget.HoldsAt source := by
  intro t ht
  simp [forget] at ht

/-- What is a matter of the configuration is the same for engines of the same configuration. -/
theorem Engine.eq_of_settings {α : Type} (f : Engine → α) (hf : ∀ e : Engine, f e.settings = f e)
    {e e' : Engine} (h : e'.settings = e.settings) : f e' = f e := by
  rw [← hf e', h, hf]

theorem Engine.className_of_settings {e e' : Engine} (h : e'.settings = e.settings) :
    e'.className = e.className :=
  eq_of_settings Engine.className (fun _ => rfl) h

theorem Template.IsOf.of_settings {t : Template} {e e' : Engine} {source : String}
    (h : t.IsOf e source) (hsettings : e'.settings = e.settings) : t.IsOf e' source where
  engine := h.engine.trans (Engine.eq_of_settings Engine.id (fun _ => rfl) hsettings).symm
  source := h.source
  tree := h.tree
  escaping :=
    h.escaping.trans (Engine.eq_of_settings Engine.escaping (fun _ => rfl) hsettings).symm
  name := h.name

/-! ## Recently used templates -/

namespace Recent

theorem mem_of_mem_touch {entries : List (String × Template)} {key : String}
    {entry : String × Template} (h : entry ∈ touch entries key) : entry ∈ entries := by
  rw [touch, List.mem_append] at h
  rcases h with h | h <;> exact List.mem_of_mem_filter h

theorem mem_of_mem_insert {capacity : Nat} {entries : List (String × Template)} {key : String}
    {t : Template} {entry : String × Template} (h : entry ∈ insert capacity entries key t) :
    entry ∈ entries ∨ entry = (key, t) := by
  have hmem : entry ∈ entries ++ [(key, t)] := by
    unfold insert at h
    dsimp only at h
    split at h
    · exact List.mem_of_mem_tail h
    · exact h
  simpa using hmem

end Recent

/-! ## Loading -/

theorem theEngine_eq_ok {s : Session} {e : Engine} (h : s.engine = some e) :
    theEngine s = .ok e s := by
  unfold theEngine
  rw [get_bind, h]
  rfl

theorem askFor_eq_ok (e : Engine) (source : String) (s : Session) :
    askFor e source s = .ok (e.className source) { s with asked := source :: s.asked } := rfl

/-- A template of a source is made of its tree. All but the records and the number of the next
template is left as it is. -/
theorem exists_makeTemplate_eq {e : Engine} {s : Session} (h : e.logger.Serves s.levels)
    {source : String} (key : String) {name : Value} (hname : name.IsName) {tree : Tree}
    (hparse : parse source .null .usual = .ok tree) :
    ∃ t records nextTemplate, makeTemplate e source key name (pure tree) s =
      .ok t { s with records, nextTemplate } ∧ t.IsOf e source := by
  obtain ⟨records₁, hfirst⟩ := exists_logEvent_eq h .info (.compiling key)
  obtain ⟨records₂, hsecond⟩ :=
    exists_logEvent_eq (s := { s with records := records₁ }) h .debug (.instantiating key)
  refine ⟨⟨s.nextTemplate, e.id, name, key, source, tree, e.escaping⟩, records₂,
    s.nextTemplate + 1, ?_, rfl, rfl, hparse, rfl, hname⟩
  unfold makeTemplate
  rw [bind_of_ok hfirst, pure_bind, bind_of_ok hsecond]
  rfl

theorem mem_of_lookup_eq_some {κ α : Type} [BEq κ] [LawfulBEq κ] {entries : List (κ × α)}
    {key : κ} {a : α} (h : entries.lookup key = some a) : (key, a) ∈ entries := by
  obtain ⟨before, after, rfl, -⟩ := List.lookup_eq_some_iff.1 h
  simp

section

variable {e : Engine} {s : Session} (hengine : s.engine = some e) {text : String}
  {delims : Option String}

include hengine

/-- A text that is loaded has been asked for. -/
theorem mem_asked_of_loadText :
    lambdaSource text delims ∈ (sessionOf (loadText text delims s)).asked := by
  unfold loadText
  rw [bind_of_ok (theEngine_eq_ok hengine)]
  exact mem_asked_of_askFor e _ (keeps_textFor e _) s

/-- A template that a loader has brought in will do. -/
theorem loadText_of_lookup_eq_some {t : Template}
    (hlookup : e.templates.lookup (e.className (lambdaSource text delims)) = some t) :
    loadText text delims s = .ok t { s with asked := lambdaSource text delims :: s.asked } := by
  unfold loadText
  rw [bind_of_ok (theEngine_eq_ok hengine), bind_of_ok (askFor_eq_ok e _ s), textFor, hlookup]
  rfl

section

variable (hnone : e.templates.lookup (e.className (lambdaSource text delims)) = none)
  (hholds : e.HoldsText (lambdaSource text delims))

include hnone hholds

/-- A text that no loader has brought in is loaded if it can be parsed. -/
theorem loadText_of_parse_of_lookup (hserves : e.logger.Serves s.levels) {tree : Tree}
    (hparse : parse (lambdaSource text delims) .null .usual = .ok tree) :
    ∃ t lambdas records nextTemplate, loadText text delims s =
        .ok t { s with engine := some { e with lambdas }, records, nextTemplate,
                       asked := lambdaSource text delims :: s.asked } ∧
      t.IsOf e (lambdaSource text delims) ∧
        ∀ entry ∈ lambdas,
          entry ∈ e.lambdas ∨ entry = (e.className (lambdaSource text delims), t) := by
  unfold loadText
  rw [bind_of_ok (theEngine_eq_ok hengine), bind_of_ok (askFor_eq_ok e _ s), textFor, hnone]
  cases hlambdas : e.lambdas.lookup (e.className (lambdaSource text delims)) with
  | some t =>
    have ht := hholds t (mem_of_lookup_eq_some hlambdas)
    refine ⟨t, Recent.touch e.lambdas (e.className (lambdaSource text delims)), s.records,
      s.nextTemplate, ?_, ht, fun _ hentry => .inl (Recent.mem_of_mem_touch hentry)⟩
    show EStateM.Result.ok t { s with
      engine := s.engine.map _, asked := lambdaSource text delims :: s.asked } = _
    rw [hengine, Option.map_some]
  | none =>
    obtain ⟨t, records, nextTemplate, hmake, ht⟩ := exists_makeTemplate_eq
      (s := { s with asked := lambdaSource text delims :: s.asked }) hserves
      (e.className (lambdaSource text delims)) (show Value.null.IsName from trivial) hparse
    have hsource : parseSource (lambdaSource text delims) .null
        { s with asked := lambdaSource text delims :: s.asked } =
          .ok tree { s with asked := lambdaSource text delims :: s.asked } := by
      unfold parseSource
      rw [hparse]
      rfl
    refine ⟨t, Recent.insert e.lambdaCapacity e.lambdas
      (e.className (lambdaSource text delims)) t, records, nextTemplate, ?_, ht,
      fun _ => Recent.mem_of_mem_insert⟩
    dsimp only
    rw [bind_of_ok hsource, bind_of_ok hmake]
    show EStateM.Result.ok _ { s with
      records, nextTemplate, asked := lambdaSource text delims :: s.asked,
      engine := s.engine.map _ } = _
    rw [hengine, Option.map_some]

/-- A text that no loader has brought in and that cannot be parsed ends in the fault of its
parse: no template of the text can be found. -/
theorem loadText_of_error_of_lookup {failure : ParseFailure}
    (hparse : parse (lambdaSource text delims) .null .usual = .error failure) :
    loadText text delims s =
      .error failure.fault { s with asked := lambdaSource text delims :: s.asked } := by
  have hlambdas : e.lambdas.lookup (e.className (lambdaSource text delims)) = none := by
    cases hlookup : e.lambdas.lookup (e.className (lambdaSource text delims)) with
    | none => rfl
    | some t =>
      have ht := (hholds t (mem_of_lookup_eq_some hlookup)).tree
      rw [hparse] at ht
      simp at ht
  unfold loadText
  rw [bind_of_ok (theEngine_eq_ok hengine), bind_of_ok (askFor_eq_ok e _ s), textFor, hnone, hlambdas]
  dsimp only
  unfold parseSource
  rw [hparse]
  rfl

end

variable (hholds : e.HoldsAt (lambdaSource text delims))

include hholds

/-- **A text that can be parsed is loaded.** Only what the engine keeps, what has been asked for,
the records and the number of the next template change. -/
theorem loadText_of_parse (hserves : e.logger.Serves s.levels) {tree : Tree}
    (hparse : parse (lambdaSource text delims) .null .usual = .ok tree) :
    ∃ t lambdas records nextTemplate, loadText text delims s =
        .ok t { s with engine := some { e with lambdas }, records, nextTemplate,
                       asked := lambdaSource text delims :: s.asked } ∧
      t.IsOf e (lambdaSource text delims) ∧
        ∀ entry ∈ lambdas,
          entry ∈ e.lambdas ∨ entry = (e.className (lambdaSource text delims), t) := by
  cases hlookup : e.templates.lookup (e.className (lambdaSource text delims)) with
  | some t =>
    have ht := hholds t (List.mem_append_left _ (mem_of_lookup_eq_some hlookup))
    refine ⟨t, e.lambdas, s.records, s.nextTemplate, ?_, ht, fun _ => .inl⟩
    rw [loadText_of_lookup_eq_some hengine hlookup, ← hengine]
  | none => exact loadText_of_parse_of_lookup hengine hlookup hholds.holdsText hserves hparse

/-- **A text that cannot be parsed ends in the fault of its parse**: there is no template of the
text that could be found. -/
theorem loadText_of_error {failure : ParseFailure}
    (hparse : parse (lambdaSource text delims) .null .usual = .error failure) :
    loadText text delims s =
      .error failure.fault { s with asked := lambdaSource text delims :: s.asked } := by
  cases hlookup : e.templates.lookup (e.className (lambdaSource text delims)) with
  | some t =>
    have ht := (hholds t (List.mem_append_left _ (mem_of_lookup_eq_some hlookup))).tree
    rw [hparse] at ht
    simp at ht
  | none => exact loadText_of_error_of_lookup hengine hlookup hholds.holdsText hparse

end

end Mustache
