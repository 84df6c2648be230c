import Mustache.Helpers.Shared
import Mustache.Proofs.Helpers.History
import Mustache.Proofs.Render.Alike
import Mustache.Session.Configure

/-!
# Collections of helpers

A collection of helpers is a table in the order of insertion, whatever calls are made on it. A call
is refused as a whole: an offer with one item that is no pair, or whose key cannot be one, adds
nothing. And a table that has been handed out stays as it is, since every change is made in a copy.

## Main definitions

* `Mustache.Value.pairs?` — the pairs that a value offers.
* `Mustache.HelperCall.effect?` — what a call does, unless it is refused.
* `Mustache.HelperCall.history` — what has happened after calls.
* `Mustache.SharedHelpers.after` — a collection after calls.

## Main results

* `Mustache.Entries.fill_of_pairs`, `Mustache.Entries.fill_of_refused` — what an offer adds.
* `Mustache.SharedHelpers.prefix_after` — tables that are there stay as they are.
* `Mustache.HelperCall.ends_act` — what one call does.
* `Mustache.HelperCall.onHelpers_now` — sharing tables makes no difference.
* `Mustache.SharedHelpers.after_spec` — a collection after any calls.
-/

namespace Mustache

/-! ## Offers -/

/-- **The pairs that a value offers**: the entries of a table, or else the items into which the
value falls, if all of them are pairs whose first part can be a key. -/
def Value.pairs? : Value → Option (List (Value × Value))
  | .dict es => some es
  | v => v.parts?.bind fun items => items.mapM fun item => (pairOf item).toOption

namespace Entries

/-- Items that are all pairs are added as such. -/
theorem addPairs_of_pairs {items : List Value} {pairs : List (Value × Value)}
    (h : items.mapM (fun item => (pairOf item).toOption) = some pairs) (es : Entries) :
    es.addPairs items = (es.insertAll pairs, none) := by
  induction items generalizing es pairs with
  | nil =>
    obtain rfl := Option.some.inj h
    rfl
  | cons item items ih =>
    rw [List.mapM_cons] at h
    obtain ⟨pair, hpair, h⟩ := Option.bind_eq_some_iff.1 h
    obtain ⟨others, hothers, h⟩ := Option.bind_eq_some_iff.1 h
    obtain rfl := Option.some.inj h
    rw [addPairs]
    cases hitem : pairOf item with
    | ok found =>
      rw [hitem] at hpair
      obtain rfl := Option.some.inj hpair
      exact ih hothers _
    | error e =>
      rw [hitem] at hpair
      exact nomatch hpair

/-- Items one of which is no pair end in a fault. -/
theorem addPairs_of_refused {items : List Value}
    (h : items.mapM (fun item => (pairOf item).toOption) = none) (es : Entries) :
    ∃ e, (es.addPairs items).2 = some e := by
  induction items generalizing es with
  | nil => exact nomatch h
  | cons item items ih =>
    rw [addPairs]
    cases hitem : pairOf item with
    | error e => exact ⟨e, rfl⟩
    | ok pair =>
      refine ih ?_ _
      rw [List.mapM_cons, hitem] at h
      cases hothers : items.mapM fun item => (pairOf item).toOption with
      | none => rfl
      | some others =>
        rw [hothers] at h
        exact nomatch h

/-- What a value adds depends on its items, unless it is a table. -/
theorem fill_eq_addPairs {v : Value} (hv : ∀ es, v ≠ .dict es) (es : Entries) :
    (v.parts? = none ∧ ∃ e, es.fill v = (es, some e)) ∨
      ∃ items, v.parts? = some items ∧ es.fill v = es.addPairs items := by
  unfold fill
  split
  · next more => exact absurd rfl (hv more)
  · next start stop step =>
    refine .inr ⟨_, rfl, ?_⟩
    unfold rangeItems
    cases rangeLength start stop step with
    | zero => rfl
    | succ n =>
      rw [List.range_succ_eq_map]
      rfl
  · split
    · next hnone => exact .inl ⟨hnone, _, rfl⟩
    · next items hitems => exact .inr ⟨items, hitems, rfl⟩

/-- **An offer of pairs adds them all.** -/
theorem fill_of_pairs {v : Value} {pairs : List (Value × Value)} (h : v.pairs? = some pairs)
    (es : Entries) : es.fill v = (es.insertAll pairs, none) := by
  unfold Value.pairs? at h
  split at h
  · obtain rfl := Option.some.inj h
    rfl
  · next v hv =>
    obtain ⟨items, hitems, h⟩ := Option.bind_eq_some_iff.1 h
    rcases fill_eq_addPairs hv es with ⟨hnone, -⟩ | ⟨items', hitems', hfill⟩
    · rw [hitems] at hnone
      exact nomatch hnone
    · obtain rfl := Option.some.inj (hitems.symm.trans hitems')
      rw [hfill, addPairs_of_pairs h]

/-- **Any other offer ends in a fault.** -/
theorem fill_of_refused {v : Value} (h : v.pairs? = none) (es : Entries) :
    ∃ e, (es.fill v).2 = some e := by
  unfold Value.pairs? at h
  split at h
  · exact nomatch h
  · next v hv =>
    rcases fill_eq_addPairs hv es with ⟨-, e, hfill⟩ | ⟨items, hitems, hfill⟩
    · exact ⟨e, by rw [hfill]⟩
    · rw [hitems] at h
      rw [hfill]
      exact addPairs_of_refused h es

end Entries

/-! ## Tables in their places -/

namespace SharedHelpers

/-- A changed copy is one more table. -/
theorem tables_edit (h : SharedHelpers) (f : Entries → Entries) :
    (h.edit f).tables = h.tables ++ [f h.table] := by
  have hnewest : (h.allot h.table).newest = h.tables.length := by simp [allot, newest]
  change (h.tables ++ [h.table]).modify (h.allot h.table).newest f = _
  rw [hnewest]
  generalize h.table = es
  induction h.tables with
  | nil => rfl
  | cons first tables ih => exact congrArg (first :: ·) ih

theorem prefix_edit (h : SharedHelpers) (f : Entries → Entries) :
    h.tables <+: (h.edit f).tables := by
  rw [tables_edit]
  exact List.prefix_append _ _

/-- A table is told from the tables and its place. -/
theorem table_eq_iff (h : SharedHelpers) (es : Entries) :
    h.table = es ↔ h.tables[h.current]? = some es := by
  rw [List.getElem?_eq_getElem h.bound, Option.some.injEq]
  rfl

theorem table_settle {h : SharedHelpers} {tables : List Entries} {es : Entries}
    (htables : h.tables = tables ++ [es]) : h.settle.table = es := by
  rw [table_eq_iff]
  change h.tables[h.newest]? = _
  rw [newest, htables]
  simp

/-- Tables that are there stay as they are. -/
theorem table_eq_of_prefix {h h' : SharedHelpers} (htables : h.tables <+: h'.tables)
    (hcurrent : h'.current = h.current) : h'.table = h.table := by
  obtain ⟨more, hmore⟩ := htables
  rw [table_eq_iff, hcurrent, ← hmore, List.getElem?_append_left h.bound]
  exact (table_eq_iff h _).1 rfl

/-- A changed copy takes the place of the table. -/
theorem table_settle_edit (h : SharedHelpers) (f : Entries → Entries) :
    (h.edit f).settle.table = f h.table :=
  table_settle (h.tables_edit f)

/-- A helper is taken out if its name is held. -/
theorem remove_cases (h : SharedHelpers) (name : Value) :
    (name.isKey && h.table.has name) = true ∧
        h.remove name = ((h.edit fun es => es.erase name).settle, .ok ()) ∨
      (name.isKey && h.table.has name) = false ∧ ∃ e, h.remove name = (h, .error e) := by
  unfold remove Helpers.get now Entries.has
  dsimp only
  cases name.isKey with
  | false => exact .inr ⟨rfl, _, rfl⟩
  | true =>
    cases h.table.get? name with
    | none => exact .inr ⟨rfl, _, rfl⟩
    | some v => exact .inl ⟨rfl, rfl⟩

end SharedHelpers

/-! ## Calls -/

namespace HelperCall

/-- **What a call does**, unless it is refused: an addition needs a name that can be a key, an offer
has to consist of pairs, and a removal needs a name that is held. -/
def effect? (history : List TableEvent) : HelperCall → Option (List TableEvent)
  | add name value => if name.isKey then some [.put name value] else none
  | update more => more.pairs?.map fun pairs => pairs.map fun pair => .put pair.1 pair.2
  | remove name => if name.isKey && TableEvent.holds name history then some [.drop name] else none
  | clear => some [.wipe]
  | snapshot => some []

/-- **What has happened after calls**: what those calls do that are not refused. -/
def history (calls : List HelperCall) : List TableEvent :=
  calls.foldl (fun past call => past ++ (call.effect? past).getD []) []

theorem history_append (calls : List HelperCall) (call : HelperCall) :
    history (calls ++ [call]) = history calls ++ (call.effect? (history calls)).getD [] := by
  unfold history
  rw [List.foldl_append]
  rfl

/-- **How a call may end**: it does what it does and the collection has a new table, or it is
refused and the collection has the table that it had. -/
inductive Ends (h : SharedHelpers) (past : List TableEvent) :
    Option (List TableEvent) → SharedHelpers × Except Fault (Option Nat) → Prop
  | done {h' : SharedHelpers} {events : List TableEvent} {answer : Option Nat}
    (tables : h.tables <+: h'.tables) (table : h'.table = TableEvent.contents (past ++ events)) :
    Ends h past (some events) (h', .ok answer)
  | refused {h' : SharedHelpers} {e : Fault} (tables : h.tables <+: h'.tables)
    (current : h'.current = h.current) : Ends h past none (h', .error e)

theorem contents_append (past events : List TableEvent) : TableEvent.contents (past ++ events) =
    events.foldl TableEvent.apply (TableEvent.contents past) := by
  rw [← (TableEvent.foldl_apply_spec (past ++ events)).2.2,
    ← (TableEvent.foldl_apply_spec past).2.2, List.foldl_append]

/-- **What one call does** to a collection with a known history. -/
theorem ends_act {h : SharedHelpers} {past : List TableEvent}
    (hpast : h.table = TableEvent.contents past) (call : HelperCall) :
    Ends h past (call.effect? past) (call.act h) := by
  have hholds (k : Value) : h.table.has k = TableEvent.holds k past := by
    rw [hpast, ← (TableEvent.foldl_apply_spec past).2.2]
    exact (TableEvent.foldl_apply_spec past).2.1 k
  cases call with
  | add name value =>
    rw [effect?, act, SharedHelpers.add]
    by_cases hname : name.isKey = true
    · rw [if_pos hname, if_pos hname]
      refine .done (h.prefix_edit _) ?_
      rw [contents_append, ← hpast]
      exact h.table_settle_edit _
    · rw [if_neg hname, if_neg hname]
      exact .refused (h.prefix_edit _) rfl
  | update more =>
    rw [effect?, act, SharedHelpers.update]
    cases hpairs : more.pairs? with
    | some pairs =>
      have hfill := Entries.fill_of_pairs hpairs
      simp only [hfill]
      refine .done (h.prefix_edit _) ?_
      rw [contents_append, ← hpast, List.foldl_map]
      exact h.table_settle_edit _
    | none =>
      obtain ⟨e, he⟩ := Entries.fill_of_refused hpairs h.table
      simp only [he]
      exact .refused (h.prefix_edit _) rfl
  | remove name =>
    rw [effect?, act, ← hholds]
    rcases h.remove_cases name with ⟨hheld, hremove⟩ | ⟨hnot, e, hremove⟩
    · rw [hheld, hremove, if_pos rfl]
      refine .done (h.prefix_edit _) ?_
      rw [contents_append, ← hpast]
      exact h.table_settle_edit _
    · rw [hnot, hremove, if_neg Bool.false_ne_true]
      exact .refused List.prefix_rfl rfl
  | clear =>
    refine .done (List.prefix_append _ _) ?_
    rw [contents_append]
    exact SharedHelpers.table_settle rfl
  | snapshot =>
    refine .done List.prefix_rfl ?_
    rw [List.append_nil]
    exact hpast

/-- What a call makes of a collection that has its table to itself. -/
def onHelpers (h : Helpers) : HelperCall → Except Fault Helpers
  | add name value => h.add name value
  | update more => h.update more
  | remove name => h.remove name
  | clear => .ok .empty
  | snapshot => .ok h

/-- **Sharing makes no difference**: a collection that shares its table is changed like one that has
its table to itself, and refuses the same calls with the same faults. -/
theorem onHelpers_now (h : SharedHelpers) (call : HelperCall) :
    call.onHelpers h.now = (call.act h).2.map fun _ => (call.act h).1.now := by
  have hsettle (f : Entries → Entries) : (h.edit f).settle.now = ⟨f h.table⟩ :=
    congrArg Helpers.mk (h.table_settle_edit f)
  cases call with
  | add name value =>
    rw [onHelpers, act, SharedHelpers.add, Helpers.add]
    by_cases hname : name.isKey = true
    · rw [if_pos hname, if_pos hname]
      exact congrArg Except.ok (hsettle fun es => es.insert name value).symm
    · rw [if_neg hname, if_neg hname]
      rfl
  | update more =>
    have hcopy := hsettle fun es => (es.fill more).1
    rw [onHelpers, act, SharedHelpers.update, Helpers.update,
      show h.now.entries = h.table from rfl]
    generalize hfill : h.table.fill more = filled at hcopy
    obtain ⟨es, failure⟩ := filled
    cases failure with
    | none => exact congrArg Except.ok hcopy.symm
    | some e => rfl
  | remove name =>
    rw [onHelpers, act, SharedHelpers.remove, Helpers.remove]
    cases h.now.get name with
    | ok v => exact congrArg Except.ok (hsettle fun es => es.erase name).symm
    | error e => rfl
  | clear => exact congrArg (Except.ok ∘ Helpers.mk) (SharedHelpers.table_settle rfl).symm
  | snapshot => rfl

end HelperCall

/-! ## Any calls -/

/-- **A collection after calls**, whether they are refused or not. -/
def SharedHelpers.after (calls : List HelperCall) : SharedHelpers :=
  calls.foldl (fun h call => (call.act h).1) .empty

namespace SharedHelpers

theorem after_append (calls : List HelperCall) (call : HelperCall) :
    after (calls ++ [call]) = (call.act (after calls)).1 := by
  unfold after
  rw [List.foldl_append]
  rfl

/-- The table after calls is told from what has happened. -/
theorem table_after (calls : List HelperCall) :
    (after calls).table = TableEvent.contents (HelperCall.history calls) := by
  induction calls using List.reverseRecOn with
  | nil => rfl
  | append_singleton calls call ih =>
    have hends := HelperCall.ends_act ih call
    rw [after_append, HelperCall.history_append]
    generalize call.act (after calls) = result at hends
    generalize call.effect? (HelperCall.history calls) = effect at hends
    cases hends with
    | done _ table => exact table
    | refused tables current =>
      rw [Option.getD_none, List.append_nil, ← ih]
      exact table_eq_of_prefix tables current

/-- What is added under a name is found under it. -/
theorem get?_after_add (calls : List HelperCall) {name : Value} (value : Value)
    (hname : name.isKey = true) :
    (after (calls ++ [.add name value])).table.get? name = some value := by
  have htable : (after (calls ++ [.add name value])).table =
      (after calls).table.insert name value := by
    rw [after_append, HelperCall.act, add, if_pos hname]
    exact table_settle_edit _ _
  rw [htable, Entries.get?_insert, if_pos (Value.sameKey_self hname)]

/-- **Tables that are there stay as they are**, whatever is called later. -/
theorem prefix_after (calls later : List HelperCall) :
    (after calls).tables <+: (after (calls ++ later)).tables := by
  induction later using List.reverseRecOn with
  | nil => simp
  | append_singleton later call ih =>
    have hends := HelperCall.ends_act (table_after (calls ++ later)) call
    rw [← List.append_assoc, after_append]
    generalize call.act (after (calls ++ later)) = result at hends
    generalize call.effect? (HelperCall.history (calls ++ later)) = effect at hends
    cases hends with
    | done tables _ => exact ih.trans tables
    | refused tables _ => exact ih.trans tables

end SharedHelpers

/-- A change of the helpers that fails leaves the session as it was. -/
theorem setHelpers_of_error {v : Value} {s s' : Session} {e : Fault}
    (h : setHelpers v s = .error e s') : s' = s := by
  unfold setHelpers at h
  cases hcheck : checkHelpers v with
  | ok helpers =>
    rw [hcheck] at h
    exact nomatch h
  | error e' =>
    rw [hcheck] at h
    exact (EStateM.Result.error.inj h).2.symm

end Mustache
