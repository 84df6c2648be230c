import Mustache.Proofs.Value.KeyForm

/-!
# Tables in the order of insertion

A table is a list of entries, looked up from the front. As long as its keys are distinct, what is
found under a key, the order of the keys, and the change of an entry can each be told from the list
as a whole: a value under a new key goes to the end, a value under a key that is there takes the
place of the old one, and a key is taken out with its entry.

## Main definitions

* `Mustache.Entries.Distinct` — tables in which no key occurs twice.

## Main results

* `Mustache.Entries.get?_insert` — what is found in a table with one more value.
* `Mustache.Entries.insert_eq` — the table with a value under a key, as a whole.
* `Mustache.Entries.erase_eq` — the table without a key, as a whole.
* `Mustache.Entries.distinct_insert`, `Mustache.Entries.distinct_erase` — keys stay distinct.
-/

namespace Mustache.Entries

/-! ## Looking up -/

theorem has_iff {es : Entries} {k : Value} :
    es.has k = true ↔ ∃ entry ∈ es, entry.1.sameKey k = true := by
  unfold has
  induction es with
  | nil => simp [get?]
  | cons entry es ih =>
    rw [get?]
    by_cases hkey : entry.1.sameKey k = true
    · simp [hkey]
    · rw [if_neg hkey, ih]
      simp [hkey]

theorem has_eq_false_iff {es : Entries} {k : Value} :
    es.has k = false ↔ ∀ entry ∈ es, entry.1.sameKey k = false := by
  rw [← Bool.not_eq_true, has_iff]
  simp

/-- **What is found in a table with one more value**: this value under its key, and what was there
under the others. -/
theorem get?_insert (es : Entries) (k v k' : Value) :
    (es.insert k v).get? k' = if k.sameKey k' then some v else es.get? k' := by
  induction es with
  | nil => rfl
  | cons entry es ih =>
    rw [insert]
    by_cases hkey : entry.1.sameKey k = true
    · rw [if_pos hkey, get?, get?, Value.sameKey_congr hkey]
      split <;> rfl
    · rw [if_neg hkey, get?, get?, ih]
      by_cases hk' : entry.1.sameKey k' = true
      · have hnot : ¬ k.sameKey k' = true := fun h =>
          hkey (Value.sameKey_trans hk' (Value.sameKey_symm h))
        rw [if_pos hk', if_neg hnot, if_pos hk']
      · rw [if_neg hk', if_neg hk']

/-! ## Distinct keys -/

/-- **No key occurs twice.** -/
def Distinct (es : Entries) : Prop :=
  es.Pairwise fun entry entry' => entry.1.sameKey entry'.1 = false

/-- In a table with distinct keys no other entry has the key of the first one. -/
theorem sameKey_eq_false_of_first {entry : Value × Value} {es : Entries} {k : Value}
    (h : Distinct (entry :: es)) (hkey : entry.1.sameKey k = true) :
    ∀ entry' ∈ es, entry'.1.sameKey k = false := by
  intro entry' hentry'
  rw [Value.sameKey_comm, ← Value.sameKey_congr hkey]
  exact (List.pairwise_cons.1 h).1 entry' hentry'

/-- A value under a key takes the place of the old one, or goes to the end. -/
theorem insert_eq {es : Entries} (h : es.Distinct) (k v : Value) :
    es.insert k v = if es.has k
      then es.map fun entry => if entry.1.sameKey k then (entry.1, v) else entry
      else es ++ [(k, v)] := by
  induction es with
  | nil => rfl
  | cons entry es ih =>
    rw [insert]
    by_cases hkey : entry.1.sameKey k = true
    · have hhas : has (entry :: es) k = true := has_iff.2 ⟨entry, List.mem_cons_self, hkey⟩
      have hrest :
          es.map (fun entry => if entry.1.sameKey k then (entry.1, v) else entry) = es := by
        refine (List.map_congr_left fun entry' hentry' => ?_).trans (List.map_id es)
        rw [sameKey_eq_false_of_first h hkey entry' hentry']
        rfl
      rw [if_pos hkey, if_pos hhas, List.map_cons, if_pos hkey, hrest]
    · have hhas : has (entry :: es) k = has es k := by
        unfold has
        rw [get?, if_neg hkey]
      rw [if_neg hkey, ih (List.pairwise_cons.1 h).2, hhas]
      split
      · rw [List.map_cons, if_neg hkey]
      · rfl

/-- A key is taken out with its entry. -/
theorem erase_eq {es : Entries} (h : es.Distinct) (k : Value) :
    es.erase k = es.filter fun entry => !entry.1.sameKey k := by
  induction es with
  | nil => rfl
  | cons entry es ih =>
    rw [erase]
    by_cases hkey : entry.1.sameKey k = true
    · rw [if_pos hkey, List.filter_cons_of_neg (by simp [hkey]), eq_comm, List.filter_eq_self]
      intro entry' hentry'
      rw [sameKey_eq_false_of_first h hkey entry' hentry']
      rfl
    · rw [if_neg hkey, ih (List.pairwise_cons.1 h).2, List.filter_cons_of_pos (by simp [hkey])]

theorem distinct_nil : Distinct [] := List.Pairwise.nil

/-- Keys stay distinct when a value is added. -/
theorem distinct_insert {es : Entries} (h : es.Distinct) (k v : Value) :
    (es.insert k v).Distinct := by
  rw [insert_eq h]
  unfold Distinct
  split
  · refine List.pairwise_map.2 (h.imp fun {entry entry'} hentry => ?_)
    split <;> split <;> exact hentry
  · next hhas =>
    rw [Bool.not_eq_true, has_eq_false_iff] at hhas
    refine List.pairwise_append.2
      ⟨h, List.pairwise_singleton _ _, fun entry hentry entry' hlast => ?_⟩
    rw [List.mem_singleton.1 hlast]
    exact hhas entry hentry

/-- Keys stay distinct when one is taken out. -/
theorem distinct_erase {es : Entries} (h : es.Distinct) (k : Value) : (es.erase k).Distinct := by
  rw [erase_eq h]
  exact h.filter _

end Mustache.Entries
