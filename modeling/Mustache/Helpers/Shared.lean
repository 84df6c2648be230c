import Mustache.Helpers

/-!
# Collections that share their tables

A collection of helpers hands out its table as it is, without copying it. So it never changes a
table: a change is made in a copy, and the copy takes the place of the table once it is complete. A
change that fails leaves an unfinished copy behind, which nobody holds.

## Main definitions

* `Mustache.SharedHelpers` — the tables that a collection has made.
* `Mustache.SharedHelpers.add`, `Mustache.SharedHelpers.update`, `Mustache.SharedHelpers.remove`,
  `Mustache.SharedHelpers.clear` — the changes.
* `Mustache.HelperCall` — a call on a collection.
-/

namespace Mustache

/-- **The tables that a collection has made**, the oldest first, and the place of the one that it
has now. Tables are handed out by their places. -/
structure SharedHelpers where
  tables : List Entries
  current : Nat
  bound : current < tables.length

namespace SharedHelpers

/-- A collection without helpers. -/
def empty : SharedHelpers := ⟨[[]], 0, by decide⟩

/-- The table that the collection has now. -/
def table (h : SharedHelpers) : Entries := h.tables.get ⟨h.current, h.bound⟩

/-- The collection as it is now. -/
def now (h : SharedHelpers) : Helpers := ⟨h.table⟩

/-- The place of the newest table. -/
def newest (h : SharedHelpers) : Nat := h.tables.length - 1

/-- One more table, which nobody holds. -/
def allot (h : SharedHelpers) (es : Entries) : SharedHelpers where
  tables := h.tables ++ [es]
  current := h.current
  bound := by
    have := h.bound
    simp only [List.length_append, List.length_singleton]
    omega

/-- Changes a table in its place. -/
def write (h : SharedHelpers) (place : Nat) (f : Entries → Entries) : SharedHelpers where
  tables := h.tables.modify place f
  current := h.current
  bound := by
    rw [List.length_modify]
    exact h.bound

/-- The newest table takes the place of the present one. -/
def settle (h : SharedHelpers) : SharedHelpers where
  tables := h.tables
  current := h.newest
  bound := by
    have := h.bound
    unfold newest
    omega

/-- A changed copy of the table. -/
def edit (h : SharedHelpers) (f : Entries → Entries) : SharedHelpers :=
  let copy := h.allot h.table
  copy.write copy.newest f

/-- Adds a helper. -/
def add (h : SharedHelpers) (name value : Value) : SharedHelpers × Except Fault Unit :=
  if name.isKey then ((h.edit fun es => es.insert name value).settle, .ok ())
  else (h.edit id, .error .wrongKind)

/-- Adds more helpers. What is added in front of one that is not in order stays in the copy. -/
def update (h : SharedHelpers) (more : Value) : SharedHelpers × Except Fault Unit :=
  let copy := h.edit fun es => (es.fill more).1
  match (h.table.fill more).2 with
  | none => (copy.settle, .ok ())
  | some e => (copy, .error e)

/-- Takes a helper out. -/
def remove (h : SharedHelpers) (name : Value) : SharedHelpers × Except Fault Unit :=
  match h.now.get name with
  | .ok _ => ((h.edit fun es => es.erase name).settle, .ok ())
  | .error e => (h, .error e)

/-- Takes all helpers out. -/
def clear (h : SharedHelpers) : SharedHelpers := (h.allot []).settle

end SharedHelpers

/-- **A call on a collection.** -/
inductive HelperCall
  | add (name value : Value)
  /-- Everything that a value offers is added. -/
  | update (more : Value)
  | remove (name : Value)
  | clear
  | snapshot

/-- What a call makes of a collection, and its answer: a snapshot answers the place of a table. -/
def HelperCall.act (h : SharedHelpers) : HelperCall → SharedHelpers × Except Fault (Option Nat)
  | add name value => (h.add name value).map id fun answer => answer.map fun _ => none
  | update more => (h.update more).map id fun answer => answer.map fun _ => none
  | remove name => (h.remove name).map id fun answer => answer.map fun _ => none
  | clear => (h.clear, .ok none)
  | snapshot => (h, .ok (some h.current))

end Mustache
