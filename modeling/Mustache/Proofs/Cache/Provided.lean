import Mathlib.Tactic.Common
import Mustache.Proofs.Cache.Loaders
import Mustache.Proofs.Loader.Table

/-!
# Loaders that provide sources

Which sources a loader finds may depend on the session, on files, and on callables. A loader that
provides given sources finds these under their names, whatever the session, and nothing else. A
table of texts does so.

## Main definitions

* `Mustache.Loader.Provides` — a loader that finds given sources.
* `Mustache.Engine.Includes` — a configuration under which given sources are included.
* `Mustache.Engine.tabled` — an engine that includes one text.

## Main results

* `Mustache.Loader.provides_table` — a table of texts provides its texts.
-/

namespace Mustache

/-! ## Tables of texts -/

/-- A table of texts. -/
def textEntries (texts : List (String × String)) : Entries :=
  texts.map fun entry => (.text entry.1, .text entry.2)

theorem find?_textEntries (texts : List (String × String)) (name : String) :
    (textEntries texts).find? name = (texts.lookup name).map Value.text := by
  induction texts with
  | nil => rfl
  | cons entry texts ih =>
    change Entries.find? ((.text entry.1, .text entry.2) :: textEntries texts) name = _
    rw [Entries.find?_cons, ih, List.lookup_cons]
    by_cases hsame : entry.1 = name
    · rw [if_pos hsame, beq_iff_eq.2 hsame.symm]
      rfl
    · rw [if_neg hsame, beq_eq_false_iff_ne.2 (Ne.symm hsame)]

/-- A name that a table of texts does not have is reported as not found. -/
theorem isNotFound_unlisted_textEntries (texts : List (String × String)) (name : String) :
    (unlisted (textEntries texts) name).isNotFound = true := by
  have hkeys : (textEntries texts).keys = (texts.map Prod.fst).map .text := by
    simp [textEntries, Entries.keys]
  exact isNotFound_unlisted hkeys name

/-! ## Loaders -/

/-- **A loader that finds the given sources**, and nothing else, and leaves the session as it is. -/
structure Loader.Provides (trees : FileTree → Prop) (l : Loader)
    (includes : String → Option String) : Prop where
  found : ∀ depth name source (s : Session), trees s.files → includes name = some source →
    ∃ origin : Value, origin.IsName ∧ l.find (level depth) name s = .ok ⟨.text source, origin⟩ s
  missing : ∀ depth name (s : Session), trees s.files → includes name = none →
    ∃ e : Fault, e.isNotFound = true ∧ l.find (level depth) name s = .error e s

/-- **A table of texts provides its texts.** -/
theorem Loader.provides_table (texts : List (String × String)) (trees : FileTree → Prop) :
    (Loader.table (textEntries texts)).Provides trees (texts.lookup ·) where
  found depth name source s _ hsource := by
    have hfind : findInTable (textEntries texts) name = .ok ⟨.text source, .null⟩ := by
      unfold findInTable
      rw [find?_textEntries, hsource]
      rfl
    refine ⟨.null, trivial, ?_⟩
    show liftFault (findInTable (textEntries texts) name) s = _
    rw [hfind]
    rfl
  missing depth name s _ hnone := by
    have hfind : findInTable (textEntries texts) name =
        .error (unlisted (textEntries texts) name) := by
      unfold findInTable
      rw [find?_textEntries, hnone]
      rfl
    refine ⟨_, isNotFound_unlisted_textEntries texts name, ?_⟩
    show liftFault (findInTable (textEntries texts) name) s = _
    rw [hfind]
    rfl

/-- **A configuration under which the given sources are included**, all of them known. -/
structure Engine.Includes (sc : Scope) (c : Engine) (includes : String → Option String) : Prop where
  provides : c.partialsLoader.Provides sc.trees includes
  known : ∀ name source, includes name = some source → sc.known source

/-! ## An engine with a table of texts -/

/-- **The scope of a single source**: all file trees in which nothing else is stored under its
keys. -/
def Scope.lone (source : String) : Scope where
  known x := x = source
  labels _ := True
  trees t := t.StoresOnly (MayHold (fun _ => True) fun x => x = source)
  levels := []
  distinct _ _ _ _ _ _ hx hy _ := hx.trans hy.symm
  stored _ ht d := d.holdsTrees_of_storesOnly ht

/-- An engine that keeps nothing and includes a text under a name. -/
def Engine.tabled (name source : String) : Engine :=
  { (default : Engine) with
    classPrefix := defaultPrefix, charset := defaultCharset, autoescape := true, logger := .own
    loader := .table [], partialsLoader := .table (textEntries [(name, source)])
    lambdaCapacity := defaultLambdaCapacity }

/-- A session in which nothing has happened, with an engine. -/
def Session.unused (e : Engine) : Session := { (default : Session) with engine := some e }

/-- What an engine makes of a source, if there is a tree for it. -/
def Template.made (e : Engine) (source : String) : Template :=
  { (default : Template) with
    engine := e.id, escaping := e.escaping, name := .null, source
    tree := (parse source .null .usual).toOption.getD default }

theorem Template.isOf_made (e : Engine) {source : String}
    (h : (parse source .null .usual).toOption.isSome = true) : (made e source).IsOf e source where
  engine := rfl
  source := rfl
  tree := by
    obtain ⟨tree, htree⟩ := exists_eq_ok_of_isSome_toOption h
    rw [made, htree]
    rfl
  escaping := rfl
  name := trivial

/-- Whether a template writes the given text. -/
def Template.writes (t : Template) (data : Value) (locals : Entries) (s : Session) (x : String) :
    Bool :=
  match t.render data locals s with
  | .ok out _ => out == x
  | .error _ _ => false

theorem Template.exists_render_eq_ok {t : Template} {data : Value} {locals : Entries} {s : Session}
    {x : String} (h : t.writes data locals s x = true) :
    ∃ s', t.render data locals s = .ok x s' := by
  unfold writes at h
  split at h
  · next out s' hrun =>
    rw [beq_iff_eq] at h
    exact ⟨s', by rw [hrun, h]⟩
  · simp at h

/-- The engine includes the text. -/
theorem Engine.includes_tabled (name source : String) :
    (tabled name source).Includes (.lone source) ([(name, source)].lookup ·) where
  provides := Loader.provides_table _ _
  known name' source' h := by
    rw [List.lookup_cons] at h
    split at h
    · exact (Option.some.inj h).symm
    · simp at h

/-- In a session in which nothing has happened, the engine keeps what it should. -/
theorem Session.isSound_unused (name source : String) :
    (unused (.tabled name source)).store.IsSound (.lone source) (.tabled name source) False where
  files := FileTree.storesOnly_default
  levels := rfl
  engine := by
    have htable (texts : List (String × String)) :
        (Loader.table (textEntries texts)).Suits (Scope.lone source).trees := by
      refine Loader.suits_table fun name' source' h => ?_
      rw [find?_textEntries, Option.map_eq_some_iff] at h
      obtain ⟨x, -, rfl⟩ := h
      exact ⟨x, rfl⟩
    exact ⟨.tabled name source, rfl, rfl,
      { label := trivial
        holds := fun x _ t ht => absurd ht List.not_mem_nil
        cache := trivial
        serves := Logger.serves_of_adapters_eq_nil rfl _
        loader := htable []
        partialsLoader := htable _ }, nofun⟩

end Mustache
