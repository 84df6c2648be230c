import Mathlib.Data.List.Induction
import Mustache.Proofs.Value.Table

/-!
# What a table holds, from its history

A table in the order of insertion can be told from what has happened to it, without the table: an
entry begins when a value is put under a key that is not held, it stands behind the entries that
have begun before, its value is the last one put under its key since, and it ends when the key is
dropped. This module states this for any history, and shows that the operations on tables bring it
about, whatever keys are equal to each other.

## Main definitions

* `Mustache.TableEvent` — what happens to a table.
* `Mustache.TableEvent.holds` — whether a key is held after a history.
* `Mustache.TableEvent.lasting?` — what becomes of an entry.
* `Mustache.TableEvent.contents` — the entries after a history, in the order in which they began.

## Main results

* `Mustache.TableEvent.foldl_apply_spec` — the operations, one after the other, make the contents.
-/

namespace Mustache

/-- **What happens to a table**: a value is put under a key, a key is dropped, or all are. -/
inductive TableEvent
  | put (key value : Value)
  | drop (key : Value)
  | wipe

namespace TableEvent

/-- Whether a key is held after an event. -/
def holdsAfter (k : Value) (held : Bool) : TableEvent → Bool
  | put key _ => held || key.sameKey k
  | drop key => held && !key.sameKey k
  | wipe => false

/-- **Whether a key is held** after a history. -/
def holds (k : Value) (history : List TableEvent) : Bool := history.foldl (holdsAfter k) false

/-- The value of an entry after an event, unless the event ends the entry. -/
def next? (k v : Value) : TableEvent → Option Value
  | put key value => some (if key.sameKey k then value else v)
  | drop key => if key.sameKey k then none else some v
  | wipe => none

/-- **What becomes of an entry**: its value at the end, unless it has ended. -/
def lasting? (k v : Value) : List TableEvent → Option Value
  | [] => some v
  | event :: later => (event.next? k v).bind fun w => lasting? k w later

/-- The entry that begins with an event, between what is before it and what is behind it, as far as
it is still there at the end. -/
def begun (past : List TableEvent) (event : TableEvent) (later : List TableEvent) : Entries :=
  match event with
  | put k v => if holds k past then [] else ((lasting? k v later).map fun w => (k, w)).toList
  | _ => []

/-- The entries that begin in a history, in the order in which they do. -/
def entriesFrom (past : List TableEvent) : List TableEvent → Entries
  | [] => []
  | event :: later => begun past event later ++ entriesFrom (past ++ [event]) later

/-- **The contents of a table after a history.** -/
def contents (history : List TableEvent) : Entries := entriesFrom [] history

/-- The operation on a table that an event stands for. -/
def apply (es : Entries) : TableEvent → Entries
  | put k v => es.insert k v
  | drop k => es.erase k
  | wipe => []

/-! ## One more event -/

/-- The entries that an event leaves, with the values that it gives them. -/
def carry (event : TableEvent) (es : Entries) : Entries :=
  es.filterMap fun entry => (event.next? entry.1 entry.2).map fun w => (entry.1, w)

theorem lasting?_append (k v : Value) (history : List TableEvent) (event : TableEvent) :
    lasting? k v (history ++ [event]) = (lasting? k v history).bind (event.next? k) := by
  induction history generalizing v with
  | nil => exact Option.bind_fun_some _
  | cons first history ih =>
    rw [List.cons_append, lasting?, lasting?, Option.bind_assoc]
    cases first.next? k v with
    | none => rfl
    | some w => exact ih w

theorem begun_append (past : List TableEvent) (event : TableEvent) (later : List TableEvent)
    (last : TableEvent) :
    begun past event (later ++ [last]) = last.carry (begun past event later) := by
  cases event with
  | put k v =>
    unfold begun
    dsimp only
    split
    · rfl
    · rw [lasting?_append]
      cases lasting? k v later with
      | none => rfl
      | some w =>
        unfold carry
        cases hnext : last.next? k w with
        | none => simp [hnext]
        | some w' => simp [hnext]
  | drop k => rfl
  | wipe => rfl

theorem entriesFrom_append (past history : List TableEvent) (event : TableEvent) :
    entriesFrom past (history ++ [event]) =
      event.carry (entriesFrom past history) ++ begun (past ++ history) event [] := by
  induction history generalizing past with
  | nil =>
    rw [List.nil_append, entriesFrom, entriesFrom, entriesFrom, List.append_nil, List.append_nil]
    rfl
  | cons first history ih =>
    rw [List.cons_append, entriesFrom, entriesFrom, ih, begun_append]
    unfold carry
    rw [List.filterMap_append, List.append_assoc, List.append_assoc, List.singleton_append]

/-- **The contents after one more event**: the entries that it leaves, and behind them the one that
begins with it. -/
theorem contents_append (history : List TableEvent) (event : TableEvent) :
    contents (history ++ [event]) = event.carry (contents history) ++ begun history event [] :=
  entriesFrom_append [] history event

theorem holds_append (k : Value) (history : List TableEvent) (event : TableEvent) :
    holds k (history ++ [event]) = event.holdsAfter k (holds k history) := by
  unfold holds
  rw [List.foldl_append]
  rfl

/-! ## The operations -/

theorem carry_put (k v : Value) (es : Entries) : carry (put k v) es =
    es.map fun entry => if entry.1.sameKey k then (entry.1, v) else entry := by
  unfold carry
  rw [← List.filterMap_eq_map]
  refine congrArg (List.filterMap · es) (funext fun entry => ?_)
  rw [next?, Value.sameKey_comm k, Function.comp_apply]
  split <;> rfl

theorem carry_drop (k : Value) (es : Entries) : carry (drop k) es =
    es.filter fun entry => !entry.1.sameKey k := by
  unfold carry
  rw [← List.filterMap_eq_filter]
  refine congrArg (List.filterMap · es) (funext fun entry => ?_)
  rw [next?, Value.sameKey_comm k]
  cases hkey : entry.1.sameKey k <;> simp [hkey, Option.guard]

/-- What an operation leaves of a table, and the entry that begins with it. -/
theorem apply_eq {es : Entries} (h : es.Distinct) {history : List TableEvent}
    (hheld : ∀ k, es.has k = holds k history) (event : TableEvent) :
    event.apply es = event.carry es ++ begun history event [] := by
  cases event with
  | put k v =>
    rw [apply, Entries.insert_eq h, carry_put, hheld]
    unfold begun
    cases hk : holds k history with
    | true => simp [hk]
    | false =>
      -- No entry has the key, so that all stay as they are.
      have hnone := Entries.has_eq_false_iff.1 ((hheld k).trans hk)
      have hsame :
          es.map (fun entry => if entry.1.sameKey k then (entry.1, v) else entry) = es := by
        refine (List.map_congr_left fun entry hentry => ?_).trans (List.map_id es)
        rw [hnone entry hentry]
        rfl
      rw [hsame]
      simp [hk, lasting?]
  | drop k =>
    rw [apply, Entries.erase_eq h, carry_drop]
    exact (List.append_nil _).symm
  | wipe =>
    simp [apply, carry, next?, begun]

theorem has_apply {es : Entries} (h : es.Distinct) (event : TableEvent) (k : Value) :
    (event.apply es).has k = event.holdsAfter k (es.has k) := by
  cases event with
  | put key value =>
    rw [apply, holdsAfter, Entries.has, Entries.get?_insert, Entries.has]
    cases key.sameKey k <;> simp
  | drop key =>
    rw [apply, holdsAfter, Entries.erase_eq h, Bool.eq_iff_iff, Bool.and_eq_true, Entries.has_iff,
      Entries.has_iff]
    simp only [List.mem_filter, Bool.not_eq_true']
    constructor
    · rintro ⟨entry, ⟨hentry, hkept⟩, hk⟩
      refine ⟨⟨entry, hentry, hk⟩, ?_⟩
      rw [Value.sameKey_comm, ← Value.sameKey_congr hk]
      exact hkept
    · rintro ⟨⟨entry, hentry, hk⟩, hkept⟩
      refine ⟨entry, ⟨hentry, ?_⟩, hk⟩
      rw [Value.sameKey_congr hk, Value.sameKey_comm]
      exact hkept
  | wipe => rfl

theorem distinct_apply {es : Entries} (h : es.Distinct) (event : TableEvent) :
    (event.apply es).Distinct := by
  cases event with
  | put key value => exact Entries.distinct_insert h key value
  | drop key => exact Entries.distinct_erase h key
  | wipe => exact Entries.distinct_nil

/-- **The operations, one after the other, make the contents.** A key is held if the table has
it. -/
theorem foldl_apply_spec (history : List TableEvent) :
    (history.foldl apply []).Distinct ∧ (∀ k, (history.foldl apply []).has k = holds k history) ∧
      history.foldl apply [] = contents history := by
  induction history using List.reverseRecOn with
  | nil => exact ⟨Entries.distinct_nil, fun _ => rfl, rfl⟩
  | append_singleton history event ih =>
    obtain ⟨hdistinct, hheld, hcontents⟩ := ih
    rw [List.foldl_append, List.foldl_cons, List.foldl_nil]
    refine ⟨distinct_apply hdistinct event, fun k => ?_, ?_⟩
    · rw [has_apply hdistinct, hheld, holds_append]
    · rw [apply_eq hdistinct hheld, contents_append, hcontents]

/-- A value that is put under a key that equals one which is held takes its place; a key that is put
again after it has been dropped goes to the end. -/
example : contents [.put (.text "a") (.int 1), .put (.int 1) (.int 2), .put (.bool true) (.int 3),
    .drop (.text "a"), .put (.text "a") (.int 4)] =
      [(.int 1, .int 3), (.text "a", .int 4)] := rfl

end TableEvent

end Mustache
