import Mathlib.Data.List.Forall2
import Mathlib.Tactic.Common
import Mustache.Session.Call

/-!
# Relations that operations respect

Two values may differ in ways that no operation tells: a number that tells a value from all others,
what is private to an object, what a callable notes down. A relation of values is respected by all
that callables compute with if related values are of one shape, and if sequences of related values
are related. Such values are shown alike, the same questions about their kinds have the same
answers, and sums and products, items and lengths of them are related again.

## Main definitions

* `Mustache.ResultRel` — results that are related.
* `Mustache.Value.Shape` — values of one shape.
* `Mustache.Value.NumbersAlike` — numbers that a relation of values does not tell apart.
* `Mustache.Value.Operable` — relations of values that operations respect.

## Main results

* `Mustache.Value.shown_eq_of_shape` — values of one shape are shown alike, at any depth.
* `Mustache.Value.Operable.add`, `Mustache.Value.Operable.mul`, `Mustache.Value.Operable.item` —
  sums, products and items.
-/

namespace Mustache

/-! ## Results -/

section

variable {α β γ δ : Type} {F : Fault → Fault → Prop} {V : α → β → Prop} {W : γ → δ → Prop}

/-- **Related results**, or related faults. -/
inductive ResultRel (F : Fault → Fault → Prop) (V : α → β → Prop) :
    Except Fault α → Except Fault β → Prop
  | ok {a : α} {b : β} (answers : V a b) : ResultRel F V (.ok a) (.ok b)
  | error {e e' : Fault} (faults : F e e') : ResultRel F V (.error e) (.error e')

namespace ResultRel

theorem refl {V : α → α → Prop} (hF : ∀ e, F e e) (hV : ∀ a, V a a) (x : Except Fault α) :
    ResultRel F V x x := by
  cases x with
  | ok a => exact .ok (hV a)
  | error e => exact .error (hF e)

theorem map {x : Except Fault α} {y : Except Fault β} (h : ResultRel F V x y) {f : α → γ}
    {g : β → δ} (hfg : ∀ a b, V a b → W (f a) (g b)) : ResultRel F W (x.map f) (y.map g) := by
  cases h with
  | ok answers => exact .ok (hfg _ _ answers)
  | error faults => exact .error faults

/-- The same answer on the one side, and further faults. -/
theorem trans {F' F'' : Fault → Fault → Prop} {x : Except Fault α} {y z : Except Fault β}
    (h : ResultRel F V x y) (h' : ResultRel F' Eq y z)
    (hF : ∀ e e' e'', F e e' → F' e' e'' → F'' e e'') : ResultRel F'' V x z := by
  cases h with
  | ok answers =>
    cases h' with
    | ok same => exact .ok (same ▸ answers)
  | error faults =>
    cases h' with
    | error faults' => exact .error (hF _ _ _ faults faults')

end ResultRel

/-- Items of related sequences are related. -/
theorem Value.atIndex_rel {V : Value → Value → Prop} (hF : ∀ e, F e e) {vs ws : List Value}
    (h : List.Forall₂ V vs ws) (i : Int) :
    ResultRel F V (Value.atIndex vs i) (Value.atIndex ws i) := by
  have hget (n : Nat) : Option.Rel V vs[n]? ws[n]? := by
    induction h generalizing n with
    | nil => exact .none
    | cons hv _ ih =>
      cases n with
      | zero => exact .some hv
      | succ n => exact ih n
  unfold Value.atIndex
  rw [h.length_eq]
  dsimp only
  generalize (if i < 0 then i + (ws.length : Int) else i) = j
  split
  · exact .error (hF _)
  · have hj := hget j.toNat
    generalize vs[j.toNat]? = x at hj ⊢
    generalize ws[j.toNat]? = y at hj ⊢
    cases hj with
    | none => exact .error (hF _)
    | some hv => exact .ok hv

/-- The values under a key are related, if those of the tables are and the keys are the same. -/
theorem Entries.get?_rel {V : Value → Value → Prop} {es fs : Entries}
    (h : List.Forall₂ (fun e f => f.1 = e.1 ∧ V e.2 f.2) es fs) (key : Value) :
    Option.Rel V (es.get? key) (fs.get? key) := by
  induction h with
  | nil => exact .none
  | @cons e f es fs hentry _ ih =>
    obtain ⟨k, v⟩ := e
    obtain ⟨k', w⟩ := f
    obtain ⟨rfl, hv⟩ : k' = k ∧ V v w := hentry
    rw [Entries.get?, Entries.get?]
    split
    · exact .some hv
    · exact ih

/-- What is there is related to itself, if it is there. -/
theorem optionRel_refl {V : α → α → Prop} (hV : ∀ a, V a a) (x : Option α) :
    Option.Rel V x x := by
  cases x with
  | none => exact .none
  | some a => exact .some (hV a)

/-- Related sequences are related several times over. -/
theorem Value.times_rel (hF : ∀ e, F e e) {as : List α} {bs : List β} (h : List.Forall₂ V as bs)
    (n : Int) (tooLong : Fault) :
    ResultRel F (List.Forall₂ V) (Value.times n tooLong as) (Value.times n tooLong bs) := by
  have hcopies (k : Nat) :
      List.Forall₂ V (List.replicate k as).flatten (List.replicate k bs).flatten := by
    induction k with
    | zero => exact .nil
    | succ k ih =>
      rw [List.replicate_succ, List.replicate_succ, List.flatten_cons, List.flatten_cons]
      exact List.rel_append h ih
  unfold Value.times
  rw [h.length_eq]
  dsimp only
  split
  · exact .error (hF _)
  · split
    · exact .error (hF _)
    · split
      · exact .error (hF _)
      · split
        · exact .ok .nil
        · exact .ok (hcopies _)

end

/-! ## Values of one shape -/

namespace Value

/-- **Values of one shape**: a value and itself, and values of one kind that are made of related
values. What can be called takes the same arguments, and objects have the same class and text of
their own. -/
inductive Shape (V : Value → Value → Prop) : Value → Value → Prop
  | same (v : Value) : Shape V v v
  | float (x : Float) (id id' : Nat) : Shape V (.float x id) (.float x id')
  | list {vs ws : List Value} (items : List.Forall₂ V vs ws) : Shape V (.list vs) (.list ws)
  | tuple {vs ws : List Value} (items : List.Forall₂ V vs ws) : Shape V (.tuple vs) (.tuple ws)
  | dict {es fs : Entries} (entries : List.Forall₂ (fun e f => f.1 = e.1 ∧ V e.2 f.2) es fs) :
    Shape V (.dict es) (.dict fs)
  | function {f g : Callable} (signature : g.signature = f.signature) :
    Shape V (.function f) (.function g)
  | method {o o' : Object} {f g : Callable} (signature : g.signature = f.signature) :
    Shape V (.method o f) (.method o' g)
  | object {o o' : Object} (className : o'.className = o.className) (shown : o'.shown = o.shown)
    (call : o'.call.map Callable.signature = o.call.map Callable.signature) :
    Shape V (.object o) (.object o')
  | helper (depth : Nat) (delims : Option String) (id id' : Nat) :
    Shape V (.helper id depth delims) (.helper id' depth delims)

namespace Shape

variable {V : Value → Value → Prop} {v w : Value} (h : Shape V v w)

include h

/-! ### Questions about kinds -/

theorem isMissing_eq : w.isMissing = v.isMissing := by cases h <;> rfl

theorem isLambda_eq : w.isLambda = v.isLambda := by
  cases h with
  | @object o o' _ _ call =>
    show o'.call.isSome = o.call.isSome
    rw [← Option.isSome_map (f := Callable.signature), call, Option.isSome_map]
  | _ => rfl

theorem typeName_eq : w.typeName = v.typeName := by
  cases h with
  | object className => exact className
  | _ => rfl

theorem unprintable_eq (o : Occasion) :
    w.unprintable o = { v.unprintable o with values := [("value", w)] } := by
  unfold unprintable
  rw [h.typeName_eq]

theorem ownSignature_eq : w.ownSignature = v.ownSignature := by
  cases h with
  | function signature => exact signature
  | method signature => exact signature
  | @object o o' _ _ call =>
    have hown (o : Object) :
        (Value.object o).ownSignature = (o.call.map Callable.signature).getD .hidden := by
      show ((o.call.map fun f => (f, some o)).map fun c => c.1.signature).getD .hidden = _
      rw [Option.map_map]
      rfl
    rw [hown, hown, call]
  | _ => rfl

theorem whole?_eq : w.whole? = v.whole? := by cases h <;> rfl

theorem number?_eq : w.number? = v.number? := by cases h <;> rfl

theorem joinable_eq : w.joinable = v.joinable := by cases h <;> rfl

theorem truth_eq : w.truth = v.truth := by
  cases h with
  | list items => cases items <;> rfl
  | tuple items => cases items <;> rfl
  | _ => rfl

theorem isVacant_eq : w.isVacant = v.isVacant := by
  cases h with
  | list items => cases items <;> rfl
  | tuple items => cases items <;> rfl
  | dict entries => cases entries <;> rfl
  | _ => rfl

theorem vacant_eq : w.vacant = v.vacant := by
  have hvacant := h.isVacant_eq
  cases h with
  | same => rfl
  | _ => exact congrArg Except.ok hvacant

end Shape

end Value

section

variable {V : Value → Value → Prop}

mutual

/-- **Values of one shape are shown alike**, if they can be written at all. -/
theorem Value.shown_eq_of_shape (hV : ∀ {v w}, V v w → Value.Shape V v w) : (v : Value) →
    ∀ {w : Value}, V v w → w.quoted = v.quoted ∧ w.isUnwritable = v.isUnwritable
  | .list vs, w, h => by
    cases hV h with
    | same => exact ⟨rfl, rfl⟩
    | list items =>
      obtain ⟨hquoted, hunwritable⟩ := shownItems_eq_of_shape hV vs items
      simp only [Value.quoted, Value.isUnwritable, hquoted, hunwritable, and_self]
  | .tuple vs, w, h => by
    cases hV h with
    | same => exact ⟨rfl, rfl⟩
    | tuple items =>
      obtain ⟨hquoted, hunwritable⟩ := shownItems_eq_of_shape hV vs items
      simp only [Value.quoted, Value.isUnwritable, hquoted, hunwritable, and_self]
  | .dict es, w, h => by
    cases hV h with
    | same => exact ⟨rfl, rfl⟩
    | dict entries =>
      obtain ⟨hquoted, hunwritable⟩ := shownEntries_eq_of_shape hV es entries
      simp only [Value.quoted, Value.isUnwritable, hquoted, hunwritable, and_self]
  | .object o, w, h => by
    cases hV h with
    | same => exact ⟨rfl, rfl⟩
    | object className => simp only [Value.quoted, Value.isUnwritable, className, and_self]
  | .missing, w, h | .null, w, h | .bool _, w, h | .int _, w, h | .float _ _, w, h | .text _, w, h
  | .bytes _, w, h | .byteArray _, w, h | .range _ _ _, w, h | .type _ _, w, h | .topType, w, h
  | .lineage _ _, w, h | .function _, w, h | .method _ _, w, h | .helper _ _ _, w, h
  | .tree _, w, h => by cases hV h <;> exact ⟨rfl, rfl⟩

theorem shownItems_eq_of_shape (hV : ∀ {v w}, V v w → Value.Shape V v w) :
    (vs : List Value) → ∀ {ws : List Value}, List.Forall₂ V vs ws →
      Value.quotedItems ws = Value.quotedItems vs ∧
        Value.areUnwritable ws = Value.areUnwritable vs
  | [], _, .nil => ⟨rfl, rfl⟩
  | v :: vs, _, .cons h hs => by
    obtain ⟨hquoted, hunwritable⟩ := Value.shown_eq_of_shape hV v h
    obtain ⟨hquotedItems, hunwritableItems⟩ := shownItems_eq_of_shape hV vs hs
    simp only [Value.quotedItems, Value.areUnwritable, hquoted, hunwritable, hquotedItems,
      hunwritableItems, and_self]

theorem shownEntries_eq_of_shape (hV : ∀ {v w}, V v w → Value.Shape V v w) :
    (es : Entries) → ∀ {fs : Entries}, List.Forall₂ (fun e f => f.1 = e.1 ∧ V e.2 f.2) es fs →
      Value.quotedEntries fs = Value.quotedEntries es ∧
        Value.anyUnwritable fs = Value.anyUnwritable es
  | [], _, .nil => ⟨rfl, rfl⟩
  | (k, v) :: es, _, .cons (b := (k', v')) ⟨hkey, h⟩ hs => by
    obtain ⟨hquoted, hunwritable⟩ := Value.shown_eq_of_shape hV v h
    obtain ⟨hquotedEntries, hunwritableEntries⟩ := shownEntries_eq_of_shape hV es hs
    obtain rfl : k' = k := hkey
    have hquoted' : v'.quoted = v.quoted := hquoted
    have hunwritable' : v'.isUnwritable = v.isUnwritable := hunwritable
    simp only [Value.quotedEntries, Value.anyUnwritable, hquoted', hunwritable', hquotedEntries,
      hunwritableEntries, and_self]

end

/-- Such values have the same text, too. -/
theorem Value.plain_eq_of_shape (hV : ∀ {v w}, V v w → Value.Shape V v w) {v w : Value}
    (h : V v w) : w.plain = v.plain := by
  have hquoted := (Value.shown_eq_of_shape hV v h).1
  cases hV h with
  | same => rfl
  | object className shown => simp only [plain, shown, className]
  | _ => exact hquoted

end

/-! ## Operations -/

/-- Two sequences of one kind joined. -/
def Value.joined (v w : Value) : Except Fault Value :=
  match v, w with
  | text s, text t => .ok (text (s ++ t))
  | list vs, list ws => .ok (list (vs ++ ws))
  | tuple vs, tuple ws => .ok (tuple (vs ++ ws))
  | bytes bs, bytes cs | bytes bs, byteArray cs => .ok (bytes (bs ++ cs))
  | byteArray bs, byteArray cs | byteArray bs, bytes cs => .ok (byteArray (bs ++ cs))
  | _, _ => .error .wrongKind

/-- Sums are those of numbers, or sequences joined. -/
theorem Value.add_eq (id : Nat) (v w : Value) :
    v.add id w = (arithmetic? (· + ·) (· + ·) id v w).getD (v.joined w) := by
  unfold add
  cases arithmetic? (· + ·) (· + ·) id v w <;> rfl

/-- **Numbers that a relation of values does not tell apart**: what is made with the one is related
to what is made with the other. -/
structure Value.NumbersAlike (V : Value → Value → Prop) (id id' : Nat) : Prop where
  float : ∀ x, V (.float x id) (.float x id')
  function : ∀ f : Callable, V (.function { f with id }) (.function { f with id := id' })
  plain : ∀ name, V (.plainObject id name) (.plainObject id' name)
  helper : ∀ depth delims, V (.helper id depth delims) (.helper id' depth delims)

theorem Value.NumbersAlike.refl {V : Value → Value → Prop} (hV : ∀ v, V v v) (id : Nat) :
    NumbersAlike V id id :=
  ⟨fun _ => hV _, fun _ => hV _, fun _ => hV _, fun _ _ => hV _⟩

/-- If values are the same, numbers are. -/
theorem Value.numbersAlike_eq_eq : NumbersAlike (@Eq Value) = Eq := by
  funext id id'
  refine propext ⟨fun h => ?_, fun h => h ▸ .refl (fun _ => rfl) id⟩
  exact (Value.helper.inj (h.helper 0 none)).1

/-- **A relation of values that operations respect**: related values are of one shape, and sequences
of related values are related. -/
structure Value.Operable (F : Fault → Fault → Prop) (V : Value → Value → Prop) : Prop where
  sameFault : ∀ e, F e e
  refl : ∀ v, V v v
  shape : ∀ {v w}, V v w → Shape V v w
  list : ∀ {vs ws}, List.Forall₂ V vs ws → V (.list vs) (.list ws)
  tuple : ∀ {vs ws}, List.Forall₂ V vs ws → V (.tuple vs) (.tuple ws)

/-- Operations respect that values are the same. -/
theorem Value.operable_eq {F : Fault → Fault → Prop} (hF : ∀ e, F e e) :
    Value.Operable F (@Eq Value) where
  sameFault := hF
  refl _ := rfl
  shape h := h ▸ .same _
  list h := congrArg Value.list (List.forall₂_eq_eq_eq ▸ h)
  tuple h := congrArg Value.tuple (List.forall₂_eq_eq_eq ▸ h)

namespace Value.Operable

variable {F : Fault → Fault → Prop} {V : Value → Value → Prop} (h : Operable F V)

section

variable {v w : Value} (hv : V v w)

include h

theorem reflList (vs : List Value) : List.Forall₂ V vs vs := List.forall₂_same.2 fun v _ => h.refl v

/-- The same result on both sides. -/
theorem sameResult (x : Except Fault Value) : ResultRel F V x x := .refl h.sameFault h.refl x

theorem fault (e : Fault) : ResultRel F V (.error e) (.error e) := .error (h.sameFault e)

theorem join {vs ws : List Value} (hvs : List.Forall₂ V vs ws) :
    Value.join ws = Value.join vs := by
  have hparts : ws.mapM joinable = vs.mapM joinable := by
    induction hvs with
    | nil => rfl
    | cons hv _ ih => rw [List.mapM_cons, List.mapM_cons, (h.shape hv).joinable_eq, ih]
  unfold Value.join
  rw [hparts]

include hv

theorem isMissing : w.isMissing = v.isMissing := (h.shape hv).isMissing_eq

theorem isLambda : w.isLambda = v.isLambda := (h.shape hv).isLambda_eq

theorem quote : w.quotedOrFault = v.quotedOrFault := by
  obtain ⟨hquoted, hunwritable⟩ := shown_eq_of_shape h.shape v hv
  unfold quotedOrFault
  rw [hunwritable, hquoted]

/-- **A template writes the same**, if values that have no text are told alike. -/
theorem write (o : Occasion)
    (hfault : F (.unrenderable (v.unprintable o)) (.unrenderable (w.unprintable o))) :
    ResultRel F Eq (v.write o) (w.write o) := by
  have hplain : ResultRel F Eq v.plainOrFault w.plainOrFault := by
    unfold plainOrFault
    rw [(shown_eq_of_shape h.shape v hv).2, plain_eq_of_shape h.shape hv]
    exact .refl h.sameFault (fun _ => rfl) _
  cases h.shape hv with
  | same => exact .refl h.sameFault (fun _ => rfl) _
  | list items => exact .error hfault
  | tuple items => exact .error hfault
  | dict entries => exact .error hfault
  | _ => exact hplain

/-- A section repeats for related items. -/
theorem items : List.Forall₂ V v.items w.items := by
  have hself : List.Forall₂ V [v] [w] := .cons hv .nil
  cases h.shape hv with
  | same => exact h.reflList _
  | list items => exact items
  | tuple items => exact items
  | _ => exact hself

theorem onText (f : List Char → List Char) : ResultRel F V (v.onText f) (w.onText f) := by
  cases h.shape hv with
  | same => exact h.sameResult _
  | _ => exact h.fault _

theorem reverse : ResultRel F V v.reverse w.reverse := by
  cases h.shape hv with
  | same => exact h.sameResult _
  | list items => exact .ok (h.list (List.rel_reverse items))
  | tuple items => exact .ok (h.tuple (List.rel_reverse items))
  | _ => exact h.fault _

theorem length : ResultRel F V v.length w.length := by
  have hcount {m n : Nat} (hmn : m = n) : ResultRel F V (.ok (int m)) (.ok (int n)) :=
    hmn ▸ h.sameResult _
  cases h.shape hv with
  | same => exact h.sameResult _
  | list items => exact hcount items.length_eq
  | tuple items => exact hcount items.length_eq
  | dict entries => exact hcount entries.length_eq
  | _ => exact h.fault _

/-- **Items** are related. -/
theorem item (key : Value) : ResultRel F V (v.item key) (w.item key) := by
  have hsequence {vs ws : List Value} (items : List.Forall₂ V vs ws) :
      ResultRel F V ((Value.list vs).item key) ((Value.list ws).item key) := by
    unfold Value.item
    cases key.whole? with
    | none => exact h.fault _
    | some i => exact atIndex_rel h.sameFault items i
  cases h.shape hv with
  | same => exact h.sameResult _
  | list items => exact hsequence items
  | tuple items => exact hsequence items
  | @dict es fs entries =>
    have hget := Entries.get?_rel entries key
    unfold Value.item
    dsimp only
    split
    · exact h.fault _
    · generalize es.get? key = x at hget ⊢
      generalize fs.get? key = y at hget ⊢
      cases hget with
      | none => exact h.fault _
      | some hv => exact .ok hv
  | _ => exact h.fault _

theorem first : ResultRel F V v.first w.first := by
  unfold Value.first
  rw [(h.shape hv).vacant_eq]
  cases v.vacant with
  | error e => exact h.fault e
  | ok vacant =>
    cases vacant with
    | true => exact .ok (h.refl null)
    | false => exact h.item hv (int 0)

theorem repeated (n : Int) : ResultRel F V (v.repeated n) (w.repeated n) := by
  cases h.shape hv with
  | same => exact h.sameResult _
  | list items => exact (times_rel h.sameFault items n _).map fun _ _ items => h.list items
  | tuple items => exact (times_rel h.sameFault items n _).map fun _ _ items => h.tuple items
  | _ => exact h.fault _

end

section

variable {v w v' w' : Value} (hv : V v w) (hv' : V v' w')

include h hv hv'

theorem arithmetic? (onInt : Int → Int → Int) (onFloat : Float → Float → Float) {id id' : Nat}
    (hid : NumbersAlike V id id') :
    Option.Rel (ResultRel F V) (Value.arithmetic? onInt onFloat id v v')
      (Value.arithmetic? onInt onFloat id' w w') := by
  unfold Value.arithmetic?
  rw [(h.shape hv).whole?_eq, (h.shape hv').whole?_eq, (h.shape hv).number?_eq,
    (h.shape hv').number?_eq]
  split
  · exact .some (h.sameResult _)
  · split
    · exact .some (.ok (hid.float _))
    · exact .some (h.fault _)
    · exact .some (h.fault _)
    · exact .none

theorem joined : ResultRel F V (v.joined v') (w.joined w') := by
  cases h.shape hv with
  | same v =>
    cases h.shape hv' with
    | same => exact h.sameResult _
    | list items =>
      cases v with
      | list vs => exact .ok (h.list (List.rel_append (h.reflList vs) items))
      | _ => exact h.fault _
    | tuple items =>
      cases v with
      | tuple vs => exact .ok (h.tuple (List.rel_append (h.reflList vs) items))
      | _ => exact h.fault _
    | _ => cases v <;> exact h.fault _
  | list items =>
    cases h.shape hv' with
    | same v' =>
      cases v' with
      | list vs => exact .ok (h.list (List.rel_append items (h.reflList vs)))
      | _ => exact h.fault _
    | list items' => exact .ok (h.list (List.rel_append items items'))
    | _ => exact h.fault _
  | tuple items =>
    cases h.shape hv' with
    | same v' =>
      cases v' with
      | tuple vs => exact .ok (h.tuple (List.rel_append items (h.reflList vs)))
      | _ => exact h.fault _
    | tuple items' => exact .ok (h.tuple (List.rel_append items items'))
    | _ => exact h.fault _
  | _ => exact h.fault _

/-- **Sums** are related. -/
theorem add {id id' : Nat} (hid : NumbersAlike V id id') :
    ResultRel F V (v.add id v') (w.add id' w') := by
  have hnumbers := h.arithmetic? hv hv' (· + ·) (· + ·) hid
  rw [add_eq, add_eq]
  generalize Value.arithmetic? (· + ·) (· + ·) id v v' = x at hnumbers ⊢
  generalize Value.arithmetic? (· + ·) (· + ·) id' w w' = y at hnumbers ⊢
  cases hnumbers with
  | some result => exact result
  | none => exact h.joined hv hv'

/-- **Products** are related. -/
theorem mul {id id' : Nat} (hid : NumbersAlike V id id') :
    ResultRel F V (v.mul id v') (w.mul id' w') := by
  have hnumbers := h.arithmetic? hv hv' (· * ·) (· * ·) hid
  unfold Value.mul
  rw [(h.shape hv).whole?_eq, (h.shape hv').whole?_eq]
  generalize Value.arithmetic? (· * ·) (· * ·) id v v' = x at hnumbers ⊢
  generalize Value.arithmetic? (· * ·) (· * ·) id' w w' = y at hnumbers ⊢
  cases hnumbers with
  | some result => exact result
  | none =>
    dsimp only
    split
    · exact h.repeated hv _
    · exact h.repeated hv' _
    · exact h.fault _

end

end Value.Operable

end Mustache
