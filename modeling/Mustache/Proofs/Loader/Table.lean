import Mathlib.Data.List.Basic
import Mustache.Loader
import Mustache.Proofs.Value.Table

/-!
# Tables of templates

A loader that is a table finds sources under names. As long as its keys are texts, it lists them in
their order, and reports every other name as not found, with a hint that is told from the keys.

## Main definitions

* `Mustache.Entries.IsNamed` — tables under names.
* `Mustache.Value.OffersNames` — what leaves a table under names when it is added.
* `Mustache.Entries.union` — the union of tables.

## Main results

* `Mustache.isNotFound_unlisted` — a name that a table does not have is not found.
* `Mustache.Entries.IsNamed.exists_sortedKeys_eq` — the names that a table lists.
* `Mustache.Entries.IsNamed.fill` — a table stays one under names.
* `Mustache.Entries.find?_union` — what the union of tables finds.
-/

namespace Mustache

/-! ## Names that are close -/

/-- What holds of all candidates holds of the closest one. -/
theorem Similar.of_closest?_eq_some {α β : Type} [BEq α] {P : β → Prop} {items : List α}
    {candidates : List (List α × β)} (h : ∀ c ∈ candidates, P c.2) {b : β}
    (hb : closest? items candidates = some b) : P b := by
  have hbetter (scored : List ((Nat × Nat) × β)) (hscored : ∀ s ∈ scored, P s.2)
      (first : (Nat × Nat) × β) (hfirst : P first.2) : P (scored.foldl better first).2 := by
    induction scored generalizing first with
    | nil => exact hfirst
    | cons s scored ih =>
      rw [List.forall_mem_cons] at hscored
      refine ih hscored.2 (better first s) ?_
      unfold better
      split
      · exact hscored.1
      · exact hfirst
  unfold closest? at hb
  dsimp only at hb
  split at hb
  · simp at hb
  · next s rest hfilter =>
    obtain rfl := Option.some.inj hb
    have hall : ∀ s' ∈ s :: rest, P s'.2 := by
      intro s' hs'
      rw [← hfilter] at hs'
      obtain ⟨c, hc, rfl⟩ := List.mem_map.1 (List.mem_of_mem_filter hs')
      exact h c hc
    rw [List.forall_mem_cons] at hall
    exact hbetter rest hall.2 s hall.1

/-! ## Names that are not there -/

theorem mapM_text?_map_text (names : List String) :
    (names.map Value.text).mapM Value.text? = some names := by
  induction names with
  | nil => rfl
  | cons name names ih =>
    rw [List.map_cons, List.mapM_cons, ih]
    rfl

theorem sortedKeys_map_text (names : List String) : sortedKeys (names.map .text) =
    .ok ((names.mergeSort fun s t => decide (s ≤ t)).map .text) := by
  unfold sortedKeys
  rw [mapM_text?_map_text]

/-- Names that are there always make a hint. -/
theorem exists_hintFor_eq (name : String) (names : List String) :
    ∃ hint, hintFor name (names.map .text) = .ok hint := by
  have hspelled : (names.map Value.text).mapM (fun key => do
      pure (← spelling key, key) : Value → Except Fault (List (Option Char) × Value)) =
        .ok (names.map fun n => (n.toList.map some, Value.text n)) := by
    induction names with
    | nil => rfl
    | cons n names ih =>
      rw [List.map_cons, List.mapM_cons, ih]
      rfl
  have hbind {α β : Type} (a : α) (next : α → Except Fault β) :
      (Except.ok a >>= next) = next a := rfl
  unfold hintFor
  rw [hspelled, hbind]
  cases hclosest : Similar.closest? (name.toList.map some)
      (names.map fun n => (n.toList.map some, Value.text n)) with
  | some key =>
    obtain ⟨n, rfl⟩ := Similar.of_closest?_eq_some (P := fun key => ∃ n, key = Value.text n)
      (by simp) hclosest
    exact ⟨_, rfl⟩
  | none =>
    refine ⟨.known ((names.map Value.text).map Value.plain), if_pos ?_⟩
    rw [← List.map_take, List.all_map, List.all_eq_true]
    exact fun _ _ => rfl

/-- **A name that a table does not have is not found**, if the keys of the table are texts. -/
theorem isNotFound_unlisted {es : Entries} {names : List String} (h : es.keys = names.map .text)
    (name : String) : (unlisted es name).isNotFound = true := by
  obtain ⟨hint, hok⟩ := exists_hintFor_eq name (names.mergeSort fun s t => decide (s ≤ t))
  have hhint : sortedKeys es.keys >>= hintFor name = .ok hint := by
    rw [h, sortedKeys_map_text]
    exact hok
  unfold unlisted
  rw [hhint]
  rfl

/-! ## Tables under names -/

namespace Entries

theorem sameKey_text (s t : String) : (Value.text s).sameKey (.text t) = (s == t) := by
  rw [Value.sameKey]

/-- What is found under a name in a table with one more value. -/
theorem find?_insert (es : Entries) (k : String) (v : Value) (name : String) :
    (es.insert (.text k) v).find? name = if k = name then some v else es.find? name := by
  unfold find?
  rw [get?_insert, sameKey_text]
  simp only [beq_iff_eq]

/-- **A table under names**: its keys are texts, and no key occurs twice. -/
structure IsNamed (es : Entries) : Prop where
  distinct : es.Distinct
  named : ∀ entry ∈ es, ∃ name, entry.1 = .text name

theorem isNamed_nil : IsNamed [] := ⟨distinct_nil, nofun⟩

/-- The names of a table. -/
def names (es : Entries) : List String := es.keys.filterMap Value.text?

theorem mem_names_iff {es : Entries} {name : String} :
    name ∈ es.names ↔ ∃ entry ∈ es, entry.1 = .text name := by
  have htext (v : Value) : v.text? = some name ↔ v = .text name := by
    cases v <;> simp [Value.text?]
  unfold names keys
  simp only [List.mem_filterMap, List.mem_map, htext]
  constructor
  · rintro ⟨_, ⟨entry, hentry, rfl⟩, hname⟩
    exact ⟨entry, hentry, hname⟩
  · rintro ⟨entry, hentry, hname⟩
    exact ⟨entry.1, ⟨entry, hentry, rfl⟩, hname⟩

namespace IsNamed

variable {es : Entries}

theorem keys_eq (h : es.IsNamed) : es.keys = es.names.map .text := by
  have hkeys : ∀ key ∈ es.keys, ∃ name, key = .text name := by
    unfold keys
    rintro _ hkey
    obtain ⟨entry, hentry, rfl⟩ := List.mem_map.1 hkey
    exact h.named entry hentry
  unfold names
  generalize es.keys = keys at hkeys
  induction keys with
  | nil => rfl
  | cons key keys ih =>
    rw [List.forall_mem_cons] at hkeys
    obtain ⟨⟨name, rfl⟩, hkeys⟩ := hkeys
    rw [List.filterMap_cons_some (show (Value.text name).text? = some name from rfl),
      List.map_cons, ← ih hkeys]

/-- **A table finds just what it has a name for.** -/
theorem mem_names_iff_find? (h : es.IsNamed) {name : String} :
    name ∈ es.names ↔ ∃ source, es.find? name = some source := by
  rw [mem_names_iff, ← Option.isSome_iff_exists]
  change _ ↔ es.has (.text name) = true
  rw [has_iff]
  constructor
  · rintro ⟨entry, hentry, hname⟩
    exact ⟨entry, hentry, by rw [hname, sameKey_text, beq_self_eq_true]⟩
  · rintro ⟨entry, hentry, hkey⟩
    obtain ⟨name', hname'⟩ := h.named entry hentry
    rw [hname', sameKey_text, beq_iff_eq] at hkey
    exact ⟨entry, hentry, by rw [hname', hkey]⟩

theorem nodup_names (h : es.IsNamed) : es.names.Nodup := by
  have hkeys : es.keys.Pairwise fun k k' => k.sameKey k' = false := List.pairwise_map.2 h.distinct
  rw [h.keys_eq, List.pairwise_map] at hkeys
  refine hkeys.imp fun {name name'} hname heq => ?_
  rw [heq, sameKey_text, beq_self_eq_true] at hname
  exact Bool.noConfusion hname

/-- Names can be added. -/
theorem insert (h : es.IsNamed) (k : String) (v : Value) : (es.insert (.text k) v).IsNamed where
  distinct := distinct_insert h.distinct _ _
  named := by
    rw [insert_eq h.distinct]
    split
    · intro entry hentry
      obtain ⟨old, hold, rfl⟩ := List.mem_map.1 hentry
      obtain ⟨name, hname⟩ := h.named old hold
      refine ⟨name, ?_⟩
      split <;> exact hname
    · intro entry hentry
      rcases List.mem_append.1 hentry with hold | hnew
      · exact h.named entry hold
      · exact ⟨k, by rw [List.mem_singleton.1 hnew]⟩

/-- The names that a table lists. -/
theorem exists_sortedKeys_eq (h : es.IsNamed) : ∃ names : List String,
    names.Pairwise (· < ·) ∧ (∀ name, name ∈ names ↔ name ∈ es.names) ∧
      sortedKeys es.keys = .ok (names.map .text) := by
  refine ⟨es.names.mergeSort fun s t => decide (s ≤ t), ?_, fun _ => List.mem_mergeSort, ?_⟩
  · have hsorted : (es.names.mergeSort fun s t => decide (s ≤ t)).Pairwise
        fun s t => decide (s ≤ t) = true :=
      List.pairwise_mergeSort (by simpa using fun a b c => String.le_trans)
        (by simpa using String.le_total) _
    have hnodup : (es.names.mergeSort fun s t => decide (s ≤ t)).Nodup :=
      (List.mergeSort_perm _ _).nodup_iff.2 h.nodup_names
    exact (hsorted.and hnodup).imp fun {a b} h => Std.lt_of_le_of_ne (of_decide_eq_true h.1) h.2
  · rw [h.keys_eq, sortedKeys_map_text]

end IsNamed

end Entries

/-! ## Adding many -/

/-- **What leaves a table under names** when it is added: all its keys are texts, as far as it has
keys. -/
def Value.OffersNames : Value → Prop
  | .dict more => ∀ entry ∈ more, ∃ name, entry.1 = .text name
  | v => ∀ items, v.parts? = some items → ∀ item ∈ items, ∀ k w, pairOf item = .ok (k, w) →
    ∃ name, k = .text name

namespace Entries.IsNamed

variable {es : Entries}

theorem insertAll (h : es.IsNamed) {more : Entries}
    (hmore : ∀ entry ∈ more, ∃ name, entry.1 = .text name) : (es.insertAll more).IsNamed := by
  unfold Entries.insertAll
  induction more generalizing es with
  | nil => exact h
  | cons entry more ih =>
    rw [List.forall_mem_cons] at hmore
    obtain ⟨⟨name, hname⟩, hmore⟩ := hmore
    rw [List.foldl_cons, hname]
    exact ih (h.insert name entry.2) hmore

theorem addPairs (h : es.IsNamed) {items : List Value}
    (hitems : ∀ item ∈ items, ∀ k w, pairOf item = .ok (k, w) → ∃ name, k = .text name) :
    (es.addPairs items).1.IsNamed := by
  induction items generalizing es with
  | nil => exact h
  | cons item items ih =>
    rw [List.forall_mem_cons] at hitems
    rw [Entries.addPairs]
    split
    · next k w hpair =>
      obtain ⟨name, rfl⟩ := hitems.1 k w hpair
      exact ih (h.insert name w) hitems.2
    · exact h

/-- **A table stays one under names**, also if what is added is cut short. -/
theorem fill (h : es.IsNamed) {v : Value} (hv : v.OffersNames) : (es.fill v).1.IsNamed := by
  unfold Entries.fill
  split
  · exact h.insertAll hv
  · exact h
  · next v hdict hrange =>
    split
    · exact h
    · next items hitems =>
      unfold Value.OffersNames at hv
      split at hv
      · next more => exact absurd rfl (hdict more)
      · exact h.addPairs (hv items hitems)

end Entries.IsNamed

/-- A table of names has just these names. -/
theorem Entries.find?_insertAll_names (es : Entries) (names : List String) (v : Value)
    (name : String) :
    (∃ w, (es.insertAll (names.map fun name => (.text name, v))).find? name = some w) ↔
      name ∈ names ∨ ∃ w, es.find? name = some w := by
  unfold insertAll
  induction names generalizing es with
  | nil => simp
  | cons first names ih =>
    rw [List.map_cons, List.foldl_cons, ih, find?_insert]
    by_cases hname : first = name
    · simp [hname]
    · simp [hname, Ne.symm hname]

/-! ## The union of tables -/

namespace Entries

/-- **The union of tables**, in which the first table that has a name wins. -/
def union (tables : List Entries) : Entries :=
  tables.foldr (fun es others => others.insertAll es) []

theorem find?_cons (k name : String) (v : Value) (es : Entries) :
    find? ((.text k, v) :: es) name = if k = name then some v else es.find? name := by
  unfold find?
  rw [get?, sameKey_text]
  simp only [beq_iff_eq]

/-- What is found in a table to which another one has been added. -/
theorem find?_insertAll {more : Entries} (h : more.IsNamed) (es : Entries) (name : String) :
    (es.insertAll more).find? name = (more.find? name).or (es.find? name) := by
  unfold insertAll
  induction more generalizing es with
  | nil => rfl
  | cons entry more ih =>
    obtain ⟨key, v⟩ := entry
    obtain ⟨k, rfl⟩ := h.named (key, v) List.mem_cons_self
    obtain ⟨hfirst, hmore⟩ := List.pairwise_cons.1 h.distinct
    have hnamed : IsNamed more := ⟨hmore, fun entry hentry => h.named entry (.tail _ hentry)⟩
    rw [List.foldl_cons, ih hnamed, find?_insert, find?_cons]
    by_cases hname : k = name
    · -- The key does not come again, so that its value stays.
      have hnone : find? more name = none := by
        rw [Option.eq_none_iff_forall_ne_some]
        intro source hsource
        obtain ⟨entry, hentry, hentryName⟩ :=
          mem_names_iff.1 (hnamed.mem_names_iff_find?.2 ⟨source, hsource⟩)
        have hne := hfirst entry hentry
        rw [hentryName, sameKey_text, hname, beq_self_eq_true] at hne
        exact Bool.noConfusion hne
      rw [hnone, if_pos hname, if_pos hname]
      rfl
    · rw [if_neg hname, if_neg hname]

theorem isNamed_union {tables : List Entries} (h : ∀ es ∈ tables, es.IsNamed) :
    (union tables).IsNamed := by
  induction tables with
  | nil => exact isNamed_nil
  | cons es tables ih =>
    rw [List.forall_mem_cons] at h
    exact (ih h.2).insertAll h.1.named

/-- **The union finds what the first table that has the name finds.** -/
theorem find?_union {tables : List Entries} (h : ∀ es ∈ tables, es.IsNamed) (name : String) :
    (union tables).find? name = tables.findSome? (·.find? name) := by
  induction tables with
  | nil => rfl
  | cons es tables ih =>
    rw [List.forall_mem_cons] at h
    change ((union tables).insertAll es).find? name = _
    rw [find?_insertAll h.1, ih h.2, List.findSome?_cons]
    cases es.find? name <;> rfl

end Entries

end Mustache
