import Mathlib.Data.List.Sort
import Mathlib.Logic.Function.Basic
import Mustache.Proofs.Loader.Table
import Mustache.Proofs.Render.Alike
import Mustache.Proofs.Session.Traversal
import Mustache.Session.Listing

/-!
# Loaders that choose

A loader that chooses takes the answer of the first of its loaders that finds a template. Tables may
be arranged under such loaders to any depth, and the same table may stand in several places, so that
a change of it is seen in all of them. The whole finds what the union of the tables finds, in which
the leftmost table wins, and lists its names. How the loaders are nested counts for no answer but
the words in which a missing template is reported.

## Main definitions

* `Mustache.Arrangement` — tables under loaders that choose.
* `Mustache.TableCall` — a call that adds templates to a table.
* `Mustache.Arrangement.Flattens` — an arrangement with nested loaders replaced by their parts.
* `Mustache.Missed` — loaders none of which finds a template.

## Main results

* `Mustache.findFirst_append_choice` — a nested loader finds what its parts find in its place.
* `Mustache.find_choice_of_missed` — a fault that is no missing template ends the search.
* `Mustache.Arrangement.says_find`, `Mustache.Arrangement.exists_list_eq` — what is found and
  what is listed.
* `Mustache.Arrangement.find_and_list_union` — the whole is the union of its tables.
-/

namespace Mustache

variable {below : Below} {name : String}

/-! ## Searching -/

/-- **Loaders none of which finds a template**, asked in turn. -/
inductive Missed (below : Below) (name : String) : List Loader → Session → Session → Prop
  | nil (s : Session) : Missed below name [] s s
  | cons {l : Loader} {ls : List Loader} {s s₁ s₂ : Session} {e : Fault}
    (find : l.find below name s = .error e s₁) (missing : e.isNotFound = true)
    (rest : Missed below name ls s₁ s₂) : Missed below name (l :: ls) s s₂

/-- What a loader that chooses makes of the search among its parts. -/
theorem find_choice_eq (parts : List Loader) (s : Session) :
    (Loader.choice parts).find below name s =
      match findFirst below name parts s with
      | .ok (some found) s' => .ok found s'
      | .ok none s' => .error (.notFound (.nowhere name parts.length)) s'
      | .error e s' => .error e s' := by
  rw [Loader.find]
  change EStateM.bind _ _ s = _
  rw [EStateM.bind]
  cases findFirst below name parts s with
  | ok found s' => cases found <;> rfl
  | error e s' => rfl

/-- The search goes on behind the loaders that find nothing. -/
theorem findFirst_append_of_missed {before : List Loader} {s s' : Session}
    (h : Missed below name before s s') (after : List Loader) :
    findFirst below name (before ++ after) s = findFirst below name after s' := by
  induction h with
  | nil => rfl
  | cons find missing _ ih =>
    rw [List.cons_append, findFirst]
    change EStateM.bind _ _ _ = _
    rw [EStateM.bind, attempt_of_covers (x := .notFound) find missing]
    exact ih

/-- **A fault that is no missing template ends the search**: no loader behind the first one that
does not miss the template is asked. -/
theorem find_choice_of_missed {before after : List Loader} {l : Loader} {s s₁ s₂ : Session}
    {e : Fault} (hbefore : Missed below name before s s₁) (h : l.find below name s₁ = .error e s₂)
    (hfault : e.isNotFound = false) :
    (Loader.choice (before ++ l :: after)).find below name s = .error e s₂ := by
  have hfirst : findFirst below name (before ++ l :: after) s = .error e s₂ := by
    rw [findFirst_append_of_missed hbefore, findFirst]
    change EStateM.bind _ _ _ = _
    rw [EStateM.bind, attempt_of_not_covers (x := .notFound) h hfault]
  rw [find_choice_eq, hfirst]

/-- A search does not end in a missing template: it answers that there is none. -/
theorem isNotFound_of_findFirst {ls : List Loader} {s s' : Session} {e : Fault}
    (h : findFirst below name ls s = .error e s') : e.isNotFound = false := by
  induction ls generalizing s with
  | nil => exact nomatch h
  | cons l ls ih =>
    rw [findFirst] at h
    change EStateM.bind _ _ _ = _ at h
    rw [EStateM.bind] at h
    cases hfind : l.find below name s with
    | ok found s₁ =>
      rw [attempt_of_ok hfind] at h
      exact nomatch h
    | error e₁ s₁ =>
      cases hmissing : Expected.notFound.covers e₁ with
      | true =>
        rw [attempt_of_covers hfind hmissing] at h
        exact ih h
      | false =>
        rw [attempt_of_not_covers hfind hmissing] at h
        obtain ⟨rfl, -⟩ := EStateM.Result.error.inj h
        exact hmissing

/-- A loader that chooses finds what the search among its parts finds. -/
theorem attempt_find_choice (parts : List Loader) :
    attempt .notFound ((Loader.choice parts).find below name) = findFirst below name parts := by
  funext s
  have hfind := @find_choice_eq below name parts s
  cases hfirst : findFirst below name parts s with
  | ok found s' =>
    rw [hfirst] at hfind
    cases found with
    | none => exact attempt_of_covers hfind rfl
    | some found => exact attempt_of_ok hfind
  | error e s' =>
    rw [hfirst] at hfind
    exact attempt_of_not_covers hfind (isNotFound_of_findFirst hfirst)

theorem findFirst_append (ls ms : List Loader) :
    findFirst below name (ls ++ ms) = findFirst below name ls >>= fun
      | some found => pure (some found)
      | none => findFirst below name ms := by
  induction ls with
  | nil => rw [List.nil_append, findFirst, pure_bind]
  | cons l ls ih =>
    rw [List.cons_append, findFirst, findFirst, ih, bind_assoc]
    refine bind_congr fun found => ?_
    cases found with
    | none => rfl
    | some found => rw [pure_bind]

/-- **A nested loader finds what its parts find in its place.** -/
theorem findFirst_append_choice (before inner after : List Loader) :
    findFirst below name (before ++ .choice inner :: after) =
      findFirst below name (before ++ (inner ++ after)) := by
  have hnested : findFirst below name (.choice inner :: after) =
      findFirst below name (inner ++ after) := by
    rw [findFirst_append, ← attempt_find_choice inner]
    exact findFirst.eq_2 below name _ after
  rw [findFirst_append, hnested, ← findFirst_append]

/-! ## Arrangements -/

/-- **Tables under loaders that choose**, nested to any depth. A table stands for its place in a
store, so that it may stand in several places of the arrangement. -/
inductive Arrangement (ι : Type)
  | table (i : ι)
  | choice (parts : List (Arrangement ι))

namespace Arrangement

variable {ι : Type}

mutual

/-- The loader that an arrangement stands for. -/
def loader (store : ι → Entries) : Arrangement ι → Loader
  | table i => .table (store i)
  | choice parts => .choice (loaders store parts)

/-- The loaders that arrangements stand for. -/
def loaders (store : ι → Entries) : List (Arrangement ι) → List Loader
  | [] => []
  | t :: ts => t.loader store :: loaders store ts

end

mutual

/-- The tables of an arrangement from left to right. -/
def tables : Arrangement ι → List ι
  | table i => [i]
  | choice parts => tablesOf parts

/-- The tables of arrangements from left to right. -/
def tablesOf : List (Arrangement ι) → List ι
  | [] => []
  | t :: ts => t.tables ++ tablesOf ts

end

@[simp]
theorem tablesOf_append (ts us : List (Arrangement ι)) :
    tablesOf (ts ++ us) = tablesOf ts ++ tablesOf us := by
  induction ts with
  | nil => rfl
  | cons t ts ih => rw [List.cons_append, tablesOf, tablesOf, ih, List.append_assoc]

/-- **Nested loaders are replaced by their parts**, in their places and any number of them. -/
inductive Flattens : Arrangement ι → Arrangement ι → Prop
  | refl (t : Arrangement ι) : Flattens t t
  | trans {t u v : Arrangement ι} (first : Flattens t u) (second : Flattens u v) : Flattens t v
  | here (before inner after : List (Arrangement ι)) :
    Flattens (choice (before ++ choice inner :: after)) (choice (before ++ (inner ++ after)))
  | inside {t u : Arrangement ι} (before after : List (Arrangement ι)) (part : Flattens t u) :
    Flattens (choice (before ++ t :: after)) (choice (before ++ u :: after))

/-- Flattening leaves the tables and their order. -/
theorem Flattens.tables_eq {t u : Arrangement ι} (h : Flattens t u) : t.tables = u.tables := by
  induction h with
  | refl t => rfl
  | trans _ _ ih ih' => exact ih.trans ih'
  | here before inner after => simp [tables, tablesOf]
  | inside before after _ ih => simp [tables, tablesOf, ih]

/-! ## What is found -/

/-- The source that the first of the tables has under a name. -/
def sourceOf? (store : ι → Entries) (name : String) (is : List ι) : Option Value :=
  is.findSome? fun i => (store i).find? name

/-- **What is said of a name**: its source, which has no origin, or that it is not found. -/
def Says (act : Action Found) (source? : Option Value) (s : Session) : Prop :=
  match source? with
  | some source => act s = .ok ⟨source, .null⟩ s
  | none => ∃ e, e.isNotFound = true ∧ act s = .error e s

variable {store : ι → Entries}

theorem says_find_table {es : Entries} (h : es.IsNamed) (s : Session) :
    Says ((Loader.table es).find below name) (es.find? name) s := by
  have hfind : (Loader.table es).find below name s = liftFault (findInTable es name) s := by
    rw [Loader.find]
  unfold findInTable at hfind
  unfold Says
  cases hsource : es.find? name with
  | some source =>
    rw [hsource] at hfind
    exact hfind
  | none =>
    rw [hsource] at hfind
    exact ⟨unlisted es name, isNotFound_unlisted h.keys_eq name, hfind⟩

theorem Says.attempt {act : Action Found} {source? : Option Value} {s : Session}
    (h : Says act source? s) :
    attempt .notFound act s = .ok (source?.map fun source => ⟨source, .null⟩) s := by
  cases source? with
  | some source => exact attempt_of_ok h
  | none =>
    obtain ⟨e, hmissing, hact⟩ := h
    exact attempt_of_covers hact hmissing

mutual

/-- **An arrangement finds what the first of its tables finds** that has the name. -/
theorem says_find (hstore : ∀ i, (store i).IsNamed) (s : Session) : ∀ t : Arrangement ι,
    Says ((t.loader store).find below name) (sourceOf? store name t.tables) s
  | table i => by
    have hone : sourceOf? store name [i] = (store i).find? name := by
      unfold sourceOf?
      rw [List.findSome?_cons]
      cases (store i).find? name <;> rfl
    rw [loader, tables, hone]
    exact says_find_table (hstore i) s
  | choice parts => by
    have hfirst := findFirst_loaders hstore s parts
    have hfind := @find_choice_eq below name (loaders store parts) s
    rw [hfirst] at hfind
    rw [loader, tables]
    cases hsource : sourceOf? store name (tablesOf parts) with
    | some source =>
      rw [hsource] at hfind
      exact hfind
    | none =>
      rw [hsource] at hfind
      exact ⟨_, rfl, hfind⟩

theorem findFirst_loaders (hstore : ∀ i, (store i).IsNamed) (s : Session) :
    ∀ ts : List (Arrangement ι), findFirst below name (loaders store ts) s =
      .ok ((sourceOf? store name (tablesOf ts)).map fun source => ⟨source, .null⟩) s
  | [] => by
    rw [loaders, findFirst]
    rfl
  | t :: ts => by
    have hone := (says_find hstore s t).attempt
    have hrest := findFirst_loaders hstore s ts
    rw [loaders, findFirst, tablesOf]
    change EStateM.bind _ _ _ = _
    rw [EStateM.bind, hone]
    unfold sourceOf? at hrest ⊢
    rw [List.findSome?_append]
    cases t.tables.findSome? fun i => (store i).find? name with
    | some source => rfl
    | none => exact hrest

end

/-! ## What is listed -/

/-- A name that one of the tables has. -/
def Holds (store : ι → Entries) (is : List ι) (name : String) : Prop :=
  ∃ source, sourceOf? store name is = some source

theorem holds_append {is js : List ι} :
    Holds store (is ++ js) name ↔ Holds store is name ∨ Holds store js name := by
  unfold Holds sourceOf?
  rw [List.findSome?_append]
  cases is.findSome? fun i => (store i).find? name <;> simp

theorem partsOf_names (names : List String) :
    (Value.list (names.map .text)).partsOf = .ok (names.map .text) := rfl

theorem all_isKey_names (names : List String) : (names.map Value.text).all Value.isKey = true := by
  simp [Value.isKey]

theorem lists_loader (store : ι → Entries) (t : Arrangement ι) (below : Below) (s : Session) :
    (t.loader store).lists below s = .ok true s := by
  cases t <;> rw [loader, Loader.lists] <;> first | rfl | nofun

theorem Says.holds_iff {act : Action Found} {is : List ι} {s : Session}
    (h : Says act (sourceOf? store name is) s) :
    Holds store is name ↔ ∃ found s', act s = .ok found s' := by
  unfold Holds
  cases hsource : sourceOf? store name is with
  | some source =>
    rw [hsource] at h
    exact iff_of_true ⟨source, rfl⟩ ⟨_, _, h⟩
  | none =>
    rw [hsource] at h
    obtain ⟨e, -, hact⟩ := h
    refine iff_of_false (fun ⟨source, hsome⟩ => nomatch hsome) ?_
    rintro ⟨found, s', hok⟩
    rw [hact] at hok
    exact nomatch hok

mutual

/-- **An arrangement lists the names that its tables have**, in their order and each once. -/
theorem exists_list_eq (hstore : ∀ i, (store i).IsNamed) : ∀ t : Arrangement ι,
    ∃ names : List String, names.Pairwise (· < ·) ∧
      (∀ name, name ∈ names ↔ Holds store t.tables name) ∧
      ∀ below s, (t.loader store).list below s = .ok (.list (names.map .text)) s
  | table i => by
    obtain ⟨names, hsorted, hmem, hkeys⟩ := (hstore i).exists_sortedKeys_eq
    refine ⟨names, hsorted, fun name => ?_, fun below s => ?_⟩
    · rw [hmem, (hstore i).mem_names_iff_find?, tables, Holds, sourceOf?, List.findSome?_cons]
      cases (store i).find? name <;> simp
    · rw [loader, Loader.list, hkeys]
      rfl
  | choice parts => by
    obtain ⟨all, hall, hnames⟩ := exists_namesOfAll_eq hstore parts
    have hnamed : (Entries.ofList (all.map fun name => (.text name, .null))).IsNamed :=
      Entries.isNamed_nil.insertAll fun entry hentry => by
        obtain ⟨name, -, rfl⟩ := List.mem_map.1 hentry
        exact ⟨name, rfl⟩
    obtain ⟨names, hsorted, hmem, hkeys⟩ := hnamed.exists_sortedKeys_eq
    refine ⟨names, hsorted, fun name => ?_, fun below s => ?_⟩
    · rw [hmem, hnamed.mem_names_iff_find?, tables, ← hall]
      unfold Entries.ofList
      rw [Entries.find?_insertAll_names]
      simp [Entries.find?, Entries.get?]
    · rw [loader, Loader.list]
      refine bind_eq_ok_iff.2 ⟨_, _, hnames below s, ?_⟩
      rw [List.map_map]
      exact bind_eq_ok_iff.2 ⟨_, _, liftFault_eq_ok_iff.2 ⟨hkeys, rfl⟩, rfl⟩

theorem exists_namesOfAll_eq (hstore : ∀ i, (store i).IsNamed) : ∀ ts : List (Arrangement ι),
    ∃ names : List String, (∀ name, name ∈ names ↔ Holds store (tablesOf ts) name) ∧
      ∀ below s, Loader.namesOfAll below (loaders store ts) s = .ok (names.map .text) s
  | [] => by
    refine ⟨[], fun name => ?_, fun below s => ?_⟩
    · rw [tablesOf, Holds, sourceOf?]
      simp
    · rw [loaders, Loader.namesOfAll]
      rfl
  | t :: ts => by
    obtain ⟨names, -, hmem, hlist⟩ := exists_list_eq hstore t
    obtain ⟨others, hothers, hnames⟩ := exists_namesOfAll_eq hstore ts
    refine ⟨names ++ others, fun name => ?_, fun below s => ?_⟩
    · rw [List.mem_append, hmem, hothers, tablesOf, holds_append]
    · rw [loaders, Loader.namesOfAll]
      refine bind_eq_ok_iff.2 ⟨true, s, lists_loader store t below s, ?_⟩
      refine bind_eq_ok_iff.2 ⟨_, _, hlist below s, ?_⟩
      refine bind_eq_ok_iff.2 ⟨_, _, liftFault_eq_ok_iff.2 ⟨partsOf_names names, rfl⟩, ?_⟩
      rw [if_pos (all_isKey_names names)]
      refine bind_eq_ok_iff.2 ⟨_, _, rfl, bind_eq_ok_iff.2 ⟨_, _, hnames below s, ?_⟩⟩
      rw [List.map_append]
      rfl

end

end Arrangement

/-! ## Calls -/

/-- The entries of a loader that is a table. -/
def Loader.entries : Loader → Entries
  | table es => es
  | _ => []

/-- **A call that adds templates** to the table in a place. -/
inductive TableCall (ι : Type)
  | put (i : ι) (name : String) (source : Value)
  | putAll (i : ι) (offer : Value)

namespace TableCall

variable {ι : Type} [DecidableEq ι]

/-- The store after a call. What has been added before a fault stays. -/
def act (below : Below) (store : ι → Entries) : TableCall ι → Action (ι → Entries)
  | put i name source => do
    let (l, _) ← (Loader.table (store i)).add below name source
    pure (Function.update store i l.entries)
  | putAll i offer => do
    let (l, _) ← (Loader.table (store i)).addAll below offer
    pure (Function.update store i l.entries)

/-- The store and the session after calls one after the other, whether they end well or not. -/
def run (below : Below) : List (TableCall ι) → (ι → Entries) → Session → (ι → Entries) × Session
  | [], store, s => (store, s)
  | call :: calls, store, s =>
    match call.act below store s with
    | .ok store' s' => run below calls store' s'
    | .error _ s' => run below calls store s'

/-- What is added has texts for names. -/
def OffersNames : TableCall ι → Prop
  | put _ _ _ => True
  | putAll _ offer => offer.OffersNames

theorem isNamed_update {store : ι → Entries} (h : ∀ i, (store i).IsNamed) (i : ι) {es : Entries}
    (hes : es.IsNamed) (j : ι) : (Function.update store i es j).IsNamed := by
  by_cases hj : j = i
  · subst hj
    rw [Function.update_self]
    exact hes
  · rw [Function.update_of_ne hj]
    exact h j

/-- A table takes what an object offers, if this is nothing, and every other offer as it is. -/
theorem offersNames_asOffer {v offer : Value} (hv : v.OffersNames) {below : Below}
    {s s' : Session} (h : v.asOffer below s = .ok offer s') : offer.OffersNames := by
  have hempty : (Value.dict []).OffersNames := fun _ hentry => nomatch hentry
  unfold Value.asOffer at h
  split at h
  · obtain ⟨member, s₁, -, h⟩ := bind_eq_ok_iff.1 h
    cases member with
    | none =>
      obtain ⟨rfl, -⟩ := pure_eq_ok_iff.1 h
      exact hv
    | some w =>
      obtain ⟨f, s₂, -, h⟩ := bind_eq_ok_iff.1 h
      obtain ⟨keys, s₃, -, h⟩ := bind_eq_ok_iff.1 h
      obtain ⟨_, s₄, -, h⟩ := bind_eq_ok_iff.1 h
      cases hbarren : keys.isBarren? with
      | none =>
        rw [hbarren] at h
        exact nomatch h
      | some barren =>
        rw [hbarren] at h
        cases barren with
        | false => exact nomatch h
        | true =>
          obtain ⟨rfl, -⟩ := pure_eq_ok_iff.1 h
          exact hempty
  · obtain ⟨rfl, -⟩ := pure_eq_ok_iff.1 h
    exact hv

/-- **A call leaves tables under names.** -/
theorem isNamed_act {below : Below} {store store' : ι → Entries} (h : ∀ i, (store i).IsNamed)
    {call : TableCall ι} (hcall : call.OffersNames) {s s' : Session}
    (hrun : call.act below store s = .ok store' s') : ∀ i, (store' i).IsNamed := by
  cases call with
  | put i name source =>
    obtain ⟨⟨l, answer⟩, s₁, hadd, hrest⟩ := bind_eq_ok_iff.1 hrun
    obtain ⟨rfl, -⟩ := pure_eq_ok_iff.1 hrest
    obtain ⟨hl, -⟩ := pure_eq_ok_iff.1 hadd
    obtain ⟨rfl, -⟩ := Prod.mk.inj hl
    exact isNamed_update h i ((h i).insert name source)
  | putAll i offer =>
    obtain ⟨⟨l, answer⟩, s₁, hadd, hrest⟩ := bind_eq_ok_iff.1 hrun
    obtain ⟨rfl, -⟩ := pure_eq_ok_iff.1 hrest
    obtain ⟨taken, s₂, hoffer, hfill⟩ := bind_eq_ok_iff.1 hadd
    obtain ⟨hl, -⟩ := pure_eq_ok_iff.1 hfill
    obtain ⟨rfl, -⟩ := Prod.mk.inj hl
    exact isNamed_update h i ((h i).fill (offersNames_asOffer hcall hoffer))

/-- **Calls leave tables under names**, also those that fail. -/
theorem isNamed_run (below : Below) {calls : List (TableCall ι)}
    (hcalls : ∀ call ∈ calls, call.OffersNames) {store : ι → Entries}
    (h : ∀ i, (store i).IsNamed) (s : Session) : ∀ i, ((run below calls store s).1 i).IsNamed := by
  induction calls generalizing store s with
  | nil => exact h
  | cons call calls ih =>
    rw [List.forall_mem_cons] at hcalls
    rw [run]
    split
    · next store' s' hrun => exact ih hcalls.2 (isNamed_act h hcalls.1 hrun) s'
    · next e s' _ => exact ih hcalls.2 h s'

end TableCall

/-! ## The union -/

/-- Two actions end alike in a session: with the same answer, or in faults for a template that is
not found, whatever these say. -/
def EndAlike (act act' : Action Found) (s : Session) : Prop :=
  act s = act' s ∨ ∃ e e' s', e.isNotFound = true ∧ e'.isNotFound = true ∧
    act s = .error e s' ∧ act' s = .error e' s'

theorem Arrangement.Says.endAlike {act act' : Action Found} {source? : Option Value} {s : Session}
    (h : Says act source? s) (h' : Says act' source? s) : EndAlike act act' s := by
  cases source? with
  | some source => exact .inl (Eq.trans h (Eq.symm h'))
  | none =>
    obtain ⟨e, he, hact⟩ := h
    obtain ⟨e', he', hact'⟩ := h'
    exact .inr ⟨e, e', s, he, he', hact, hact'⟩

/-- **Loaders that choose are the union of their tables, the leftmost winning.** Let tables under
names be arranged under loaders that choose, and let templates be added to the tables by any calls.
Then the names that are listed are in order and each is listed once, and they are just the names
that are found. A name is found as in the single table that is the union of the tables. Flattening
changes neither what is listed nor what is found, but for what is said of a missing template. And
whatever loaders stand in a list, the fault of the first one that does not miss the template is the
fault of the whole, and the loaders behind it are not asked.

**Proof sketch.** Searching and listing are recursions over the same arrangement. Both are told from
the tables in their order alone: the search finds the source of the first table that has the name,
and the names listed are those that some table has. The union of the tables finds the same source,
and flattening leaves the tables and their order. -/
theorem Arrangement.find_and_list_union {ι : Type} [DecidableEq ι] (adding : Below)
    (calls : List (TableCall ι)) (hcalls : ∀ call ∈ calls, call.OffersNames) (tables : ι → Entries)
    (htables : ∀ i, (tables i).IsNamed) (start : Session) (t : Arrangement ι) :
    let store := (TableCall.run adding calls tables start).1
    let whole := t.loader store
    let single := Loader.table (Entries.union (t.tables.map store))
    (∃ names : List String, names.Pairwise (· < ·) ∧
      (∀ below s, whole.list below s = .ok (.list (names.map .text)) s) ∧
      ∀ below s name, name ∈ names ↔ ∃ found s', whole.find below name s = .ok found s') ∧
    (∀ below s name, EndAlike (whole.find below name) (single.find below name) s) ∧
    (∀ u : Arrangement ι, t.Flattens u → ∀ below s,
      (u.loader store).list below s = whole.list below s ∧
      ∀ name, EndAlike ((u.loader store).find below name) (whole.find below name) s) ∧
    ∀ below name before (l : Loader) after s s₁ s₂ e, Missed below name before s s₁ →
      l.find below name s₁ = .error e s₂ → e.isNotFound = false →
      (Loader.choice (before ++ l :: after)).find below name s = .error e s₂ := by
  intro store whole single
  have hstore : ∀ i, (store i).IsNamed := TableCall.isNamed_run adding hcalls htables start
  have hnamed : ∀ es ∈ t.tables.map store, es.IsNamed := by
    intro es hes
    obtain ⟨i, -, rfl⟩ := List.mem_map.1 hes
    exact hstore i
  obtain ⟨names, hsorted, hmem, hlist⟩ := exists_list_eq hstore t
  refine ⟨⟨names, hsorted, hlist, fun below s name => ?_⟩, fun below s name => ?_,
    fun u hflat below s => ⟨?_, fun name => ?_⟩, fun below name before l after s s₁ s₂ e => ?_⟩
  · rw [hmem]
    exact (says_find hstore s t).holds_iff
  · have hunion : (Entries.union (t.tables.map store)).find? name =
        sourceOf? store name t.tables := by
      rw [Entries.find?_union hnamed, List.findSome?_map]
      rfl
    have hsingle : Says (single.find below name) (sourceOf? store name t.tables) s := by
      rw [← hunion]
      exact says_find_table (Entries.isNamed_union hnamed) s
    exact (says_find hstore s t).endAlike hsingle
  · obtain ⟨names', hsorted', hmem', hlist'⟩ := exists_list_eq hstore u
    have hnames : names' = names := by
      refine hsorted'.eq_of_mem_iff hsorted fun name => ?_
      rw [hmem', hmem, hflat.tables_eq]
    rw [hlist' below s, hlist below s, hnames]
  · have hflattened :
        Says ((u.loader store).find below name) (sourceOf? store name t.tables) s := by
      rw [hflat.tables_eq]
      exact says_find hstore s u
    exact hflattened.endAlike (says_find hstore s t)
  · exact find_choice_of_missed

/-- Two tables with a name in common. -/
def Arrangement.pages : Bool → Entries
  | false => [(.text "nav", .text "custom")]
  | true => [(.text "nav", .text "default")]

/-- One of two tables stands in two places, and both are changed. What is found is the template of
the leftmost table, and the nested loader can be flattened. -/
theorem Arrangement.find_and_list_union_nested :
    let calls : List (TableCall Bool) := [.put true "footer" (.text "end"),
      .putAll false (.dict [(.text "aside", .text "more")])]
    let store := (TableCall.run ground calls pages default).1
    let t : Arrangement Bool := .choice [.table false, .choice [.table true, .table false]]
    let u : Arrangement Bool := .choice [.table false, .table true, .table false]
    (∀ call ∈ calls, call.OffersNames) ∧ (∀ i, (pages i).IsNamed) ∧
      (t.loader store).find ground "nav" default = .ok ⟨.text "custom", .null⟩ default ∧
      (u.loader store).list ground default = (t.loader store).list ground default := by
  intro calls store t u
  have hcalls : ∀ call ∈ calls, call.OffersNames := by
    simp [calls, TableCall.OffersNames, Value.OffersNames]
  have hpages (i : Bool) : (pages i).IsNamed := by
    cases i <;> exact Entries.isNamed_nil.insert _ _
  obtain ⟨-, hfind, hflat, -⟩ := find_and_list_union ground calls hcalls pages hpages default t
  have hsingle : (Loader.table (Entries.union (t.tables.map store))).find ground "nav" default =
      .ok ⟨.text "custom", .null⟩ default := by
    rw [Loader.find]
    rfl
  refine ⟨hcalls, hpages, ?_, (hflat u (.here [.table false] _ []) ground default).1⟩
  rcases hfind ground default "nav" with heq | ⟨e, e', s', -, -, -, hmiss⟩
  · exact heq.trans hsingle
  · rw [hsingle] at hmiss
    exact nomatch hmiss

end Mustache
