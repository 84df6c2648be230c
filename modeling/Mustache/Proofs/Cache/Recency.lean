import Mathlib.Data.List.Dedup
import Mathlib.Data.List.DropRight
import Mustache.Engine

/-!
# Recently used entries

A list of entries in which every use moves a key to the end, and which loses its first entry when
there are too many, holds the keys that have been used most recently: the last ones among the
distinct keys, in the order of their last use.

## Main definitions

* `Mustache.Recent.lastUsed` — the keys that have been used most recently.

## Main results

* `Mustache.Recent.keys_touch` — a key that is there is used again.
* `Mustache.Recent.keys_insert` — a key that is not there is used.
-/

namespace Mustache.Recent

/-! ## The keys used most recently -/

/-- **The keys that have been used most recently**, given all uses in order: the last ones among the
distinct keys, each in the place of its last use. -/
def lastUsed (capacity : Nat) (used : List String) : List String := used.dedup.rtake capacity

/-- Where the last use of a key is the last use of all. -/
theorem dedup_concat (used : List String) (key : String) :
    (used ++ [key]).dedup = used.dedup.filter (· != key) ++ [key] := by
  induction used with
  | nil => rfl
  | cons k used ih =>
    rw [List.cons_append, List.dedup_cons, List.dedup_cons, ih]
    by_cases hk : k ∈ used
    · rw [if_pos (List.mem_append_left _ hk), if_pos hk]
    · rw [if_neg hk]
      by_cases hkey : k = key
      · rw [if_pos (by simp [hkey]), List.filter_cons_of_neg (by simp [hkey])]
      · rw [if_neg (by simp [hk, hkey]), List.filter_cons_of_pos (by simpa using hkey),
          List.cons_append]

variable {capacity : Nat} {old kept used : List String}

/-- The last elements of a list, if there are that many, or if there are no others. -/
theorem rtake_append (h : kept.length = capacity ∨ old = [] ∧ kept.length ≤ capacity) :
    (old ++ kept).rtake capacity = kept := by
  unfold List.rtake
  rcases h with rfl | ⟨rfl, hle⟩
  · rw [List.length_append, Nat.add_sub_cancel, List.drop_left]
  · rw [List.nil_append, Nat.sub_eq_zero_of_le hle, List.drop_zero]

/-- The distinct keys are those used most recently and older ones, of which there are none as long
as there is room. -/
theorem exists_dedup_eq (capacity : Nat) (used : List String) :
    ∃ old, used.dedup = old ++ lastUsed capacity used ∧
      ((lastUsed capacity used).length = capacity ∨
        old = [] ∧ (lastUsed capacity used).length ≤ capacity) := by
  refine ⟨used.dedup.rdrop capacity, (List.take_append_drop _ _).symm, ?_⟩
  unfold lastUsed List.rtake List.rdrop
  rw [List.length_drop]
  by_cases hle : capacity ≤ used.dedup.length
  · exact .inl (by omega)
  · right
    have hzero : used.dedup.length - capacity = 0 := by omega
    rw [hzero]
    exact ⟨List.take_zero, by omega⟩

theorem length_lastUsed_le (capacity : Nat) (used : List String) :
    (lastUsed capacity used).length ≤ capacity := by
  obtain ⟨old, -, h | ⟨-, h⟩⟩ := exists_dedup_eq capacity used
  · exact h.le
  · exact h

theorem nodup_lastUsed (capacity : Nat) (used : List String) : (lastUsed capacity used).Nodup :=
  List.Nodup.sublist (List.drop_sublist _ _) (List.nodup_dedup used)

/-- A key among those used most recently is used again. -/
theorem lastUsed_concat_of_mem {key : String} (h : key ∈ lastUsed capacity used) :
    lastUsed capacity (used ++ [key]) = (lastUsed capacity used).filter (· != key) ++ [key] := by
  obtain ⟨old, hsplit, hroom⟩ := exists_dedup_eq capacity used
  have hlen : ((lastUsed capacity used).filter (· != key) ++ [key]).length =
      (lastUsed capacity used).length := by
    have herase := (nodup_lastUsed capacity used).erase_eq_filter key
    rw [List.length_append, ← herase, List.length_erase_of_mem h, List.length_singleton]
    have := List.length_pos_of_mem h
    omega
  have hconcat : lastUsed capacity (used ++ [key]) =
      (old.filter (· != key) ++ ((lastUsed capacity used).filter (· != key) ++ [key])).rtake
        capacity := by
    rw [lastUsed, dedup_concat, hsplit, List.filter_append, List.append_assoc]
  rw [hconcat]
  refine rtake_append ?_
  rw [hlen]
  refine hroom.imp_right fun ⟨hold, hle⟩ => ⟨?_, hle⟩
  rw [hold]
  rfl

/-- A key that is not among them is used: if they are as many as may be, the oldest one goes. -/
theorem lastUsed_concat_of_not_mem {key : String} (h : key ∉ lastUsed capacity used) :
    lastUsed capacity (used ++ [key]) =
      if (lastUsed capacity used ++ [key]).length > capacity then
        (lastUsed capacity used ++ [key]).tail
      else lastUsed capacity used ++ [key] := by
  obtain ⟨old, hsplit, hroom⟩ := exists_dedup_eq capacity used
  have hself : (lastUsed capacity used).filter (· != key) = lastUsed capacity used := by
    refine List.filter_eq_self.2 fun k hk => ?_
    have hne : k ≠ key := by
      rintro rfl
      exact h hk
    simpa using hne
  have hconcat : lastUsed capacity (used ++ [key]) =
      (old.filter (· != key) ++ (lastUsed capacity used ++ [key])).rtake capacity := by
    rw [lastUsed, dedup_concat, hsplit, List.filter_append, List.append_assoc, hself]
  rw [hconcat]
  generalize lastUsed capacity used = kept at hroom
  have hlen : (kept ++ [key]).length = kept.length + 1 := by simp
  split
  · next hfull =>
    have hcapacity : kept.length = capacity := by
      rcases hroom with hroom | ⟨-, hle⟩
      · exact hroom
      · omega
    obtain ⟨oldest, holdest⟩ : ∃ k, kept ++ [key] = k :: (kept ++ [key]).tail := by
      cases kept with
      | nil => exact ⟨key, rfl⟩
      | cons k kept => exact ⟨k, rfl⟩
    have htail : (kept ++ [key]).tail.length = capacity := by
      rw [List.length_tail, hlen, hcapacity, Nat.add_sub_cancel]
    rw [holdest, List.append_cons]
    exact rtake_append (.inl htail)
  · next hroomy =>
    rcases hroom with hroom | ⟨rfl, hle⟩
    · omega
    · exact rtake_append (.inr ⟨rfl, by omega⟩)

/-! ## The keys of the entries -/

variable {entries : List (String × Template)} {key : String}

/-- **A key that is there is used again.** -/
theorem keys_touch (hkeys : entries.map Prod.fst = lastUsed capacity used)
    (hmem : key ∈ entries.map Prod.fst) :
    (touch entries key).map Prod.fst = lastUsed capacity (used ++ [key]) := by
  have hmap (p : String → Bool) :
      (entries.filter fun e => p e.1).map Prod.fst = (entries.map Prod.fst).filter p := by
    rw [List.filter_map]
    rfl
  rw [touch, List.map_append, hmap (· != key), hmap (· == key), hkeys]
  rw [hkeys] at hmem
  rw [lastUsed_concat_of_mem hmem, List.filter_beq,
    List.count_eq_one_of_mem (nodup_lastUsed capacity used) hmem]
  rfl

/-- **A key that is not there is used.** -/
theorem keys_insert (hkeys : entries.map Prod.fst = lastUsed capacity used)
    (hmem : key ∉ entries.map Prod.fst) (t : Template) :
    (insert capacity entries key t).map Prod.fst = lastUsed capacity (used ++ [key]) := by
  have hentry : (entries ++ [(key, t)]).map Prod.fst = lastUsed capacity used ++ [key] := by
    rw [List.map_append, hkeys]
    rfl
  have hlen : (entries ++ [(key, t)]).length = (lastUsed capacity used ++ [key]).length := by
    rw [← hentry, List.length_map]
  rw [hkeys] at hmem
  rw [lastUsed_concat_of_not_mem hmem, insert, hlen]
  split
  · rw [List.map_tail, hentry]
  · exact hentry

end Mustache.Recent
