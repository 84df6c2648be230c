
import Mustache.Proofs.Decimal.Equality

/-!
# What counts of a key

Two values are the same key if they are equal, and numbers are equal across their kinds: an integer
is a floating-point number with the same value, and a true value is one. What has an identity is the
same key as itself only. This module takes from each value what counts of it, so that keys are the
same just in case this is the same. So being the same key is an equivalence on the values that can
be keys.

## Main definitions

* `Mustache.KeyForm` — what counts of a value as a key.
* `Mustache.Value.keyForm?` — the form of a value.

## Main results

* `Mustache.Value.sameKey_iff` — keys are the same if they have the same form.
* `Mustache.Value.sameKey_self` — a key is the same as itself.
* `Mustache.Value.sameKey_symm`, `Mustache.Value.sameKey_trans` — being the same key is symmetric
  and transitive.
-/

namespace Mustache

/-! ## Trees -/

theorem Node.same_iff : ∀ n m : Node, n.same m = true ↔ n = m := by
  refine Node.same.induct (fun n m => n.same m = true ↔ n = m)
    (fun ns ms => sameNodes ns ms = true ↔ ns = ms)
    ?text ?interpolation ?block ?inclusion ?comment ?delimiterChange ?pragma ?flawed ?other ?nil
    ?cons ?lengths
  case block =>
    intro head body head' body' ih
    rw [Node.same, Bool.and_eq_true, ih, beq_iff_eq, Node.block.injEq]
  case other =>
    intro n m h₁ h₂ h₃ h₄ h₅ h₆ h₇ h₈
    refine iff_of_false ?_ ?_
    · rw [Node.same]
      · exact Bool.false_ne_true
      all_goals assumption
    · rintro rfl
      cases n with
      | text place value => exact h₁ _ _ _ _ rfl rfl
      | interpolation place name escaped filters delims => exact h₂ _ _ _ _ _ _ _ _ _ _ rfl rfl
      | block head body => exact h₃ _ _ _ _ rfl rfl
      | inclusion place name indent => exact h₄ _ _ _ _ _ _ rfl rfl
      | comment place value => exact h₅ _ _ _ _ rfl rfl
      | delimiterChange place delims => exact h₆ _ _ _ _ rfl rfl
      | pragma place name => exact h₇ _ _ _ _ rfl rfl
      | flawed flaw => exact h₈ _ _ rfl rfl
  case nil => simp [sameNodes]
  case cons =>
    intro n ns m ms ih ihs
    rw [sameNodes, Bool.and_eq_true, ih, ihs, List.cons.injEq]
  case lengths =>
    intro ns ms hnil hcons
    refine iff_of_false ?_ ?_
    · rw [sameNodes]
      · exact Bool.false_ne_true
      all_goals assumption
    · rintro rfl
      cases ns with
      | nil => exact hnil rfl rfl
      | cons n ns => exact hcons _ _ _ _ rfl rfl
  all_goals simp [Node.same, and_assoc]

theorem sameNodes_iff (ns ms : List Node) : sameNodes ns ms = true ↔ ns = ms := by
  induction ns generalizing ms with
  | nil => cases ms <;> simp [sameNodes]
  | cons n ns ih =>
    cases ms with
    | nil => simp [sameNodes]
    | cons m ms => rw [sameNodes, Bool.and_eq_true, Node.same_iff, ih, List.cons.injEq]

theorem Tree.same_iff {t u : Tree} : t.same u = true ↔ t = u := by
  rw [Tree.same, Bool.and_eq_true, sameNodes_iff, beq_iff_eq, Tree.mk.injEq]

/-! ## Forms -/

/-- **What counts of a value as a key.** -/
inductive KeyForm
  | missing
  | null
  /-- A number with an integer value, or a truth value. -/
  | integer (n : Int)
  /-- A number without one. -/
  | number (x : Float)
  /-- What is no number, by its identity. -/
  | noNumber (id : Nat)
  | text (s : String)
  | bytes (bs : List UInt8)
  | tuple (forms : List KeyForm)
  /-- What counts of a range is how many items it has, with which it begins if there is one, and by
  how much they differ if there are two. -/
  | range (length : Nat) (start step : Int)
  | topType
  | type (id : Nat)
  | lineage (id : Nat)
  | function (id : Nat)
  | method (self id : Nat)
  | object (id : Nat)
  | helper (id : Nat)
  | tree (t : Tree)

namespace Value

mutual

/-- The form of a value, unless the value cannot be a key. -/
def keyForm? : Value → Option KeyForm
  | missing => some .missing
  | null => some .null
  | bool b => some (.integer (if b then 1 else 0))
  | int n => some (.integer n)
  | float x id =>
    match integerOf? x with
    | some n => some (.integer n)
    | none => some (if x == x then .number x else .noNumber id)
  | text s => some (.text s)
  | bytes bs => some (.bytes bs)
  | tuple vs => (keyForms? vs).map .tuple
  | range a b c =>
    let n := rangeLength a b c
    some (.range n (if n = 0 then 0 else a) (if n ≤ 1 then 0 else c))
  | topType => some .topType
  | type id _ => some (.type id)
  | lineage id _ => some (.lineage id)
  | function f => some (.function f.id)
  | method o f => some (.method o.id f.id)
  | object o => some (.object o.id)
  | helper id _ _ => some (.helper id)
  | tree t => some (.tree t)
  | list _ | dict _ | byteArray _ => none

/-- The forms of all items. -/
def keyForms? : List Value → Option (List KeyForm)
  | [] => some []
  | v :: vs => (keyForm? v).bind fun form => (keyForms? vs).map fun forms => form :: forms

end

theorem keyForm?_of_integer? {v : Value} {n : Int} (h : v.integer? = some n) :
    v.keyForm? = some (.integer n) := by
  cases v with
  | bool b =>
    rw [keyForm?]
    exact congrArg _ (congrArg _ (Option.some.inj h))
  | int m =>
    rw [keyForm?]
    exact congrArg _ (congrArg _ (Option.some.inj h))
  | float x id =>
    rw [integer?] at h
    rw [keyForm?, h]
  | _ => simp [integer?] at h

/-- The form of a value tells its kind. -/
theorem of_keyForm?_eq_some {v : Value} {form : KeyForm} (h : v.keyForm? = some form) :
    match form with
    | .missing => v = missing
    | .null => v = null
    | .integer n => v.integer? = some n
    | .number x => ∃ id, v = float x id
    | .noNumber id => ∃ x, v = float x id
    | .text s => v = text s
    | .bytes bs => v = bytes bs
    | .tuple _ => ∃ vs, v = tuple vs
    | .range _ _ _ => ∃ a b c, v = range a b c
    | .topType => v = topType
    | .type id => ∃ name, v = type id name
    | .lineage id => ∃ name, v = lineage id name
    | .function _ => ∃ f, v = function f
    | .method _ _ => ∃ o f, v = method o f
    | .object _ => ∃ o, v = object o
    | .helper id => ∃ depth delims, v = helper id depth delims
    | .tree t => v = tree t := by
  cases v with
  | float x id =>
    rw [keyForm?] at h
    split at h
    · next n hn =>
      obtain rfl := Option.some.inj h
      exact hn
    · cases hself : x == x <;> rw [hself] at h <;> obtain rfl := Option.some.inj h <;> simp
  | tuple vs =>
    rw [keyForm?, Option.map_eq_some_iff] at h
    obtain ⟨forms, -, rfl⟩ := h
    exact ⟨vs, rfl⟩
  | list | dict | byteArray => simp [keyForm?] at h
  | _ =>
    rw [keyForm?] at h
    obtain rfl := Option.some.inj h
    simp [integer?]

theorem length_of_keyForms? {vs : List Value} {forms : List KeyForm}
    (h : keyForms? vs = some forms) : forms.length = vs.length := by
  induction vs generalizing forms with
  | nil =>
    obtain rfl := Option.some.inj h
    rfl
  | cons v vs ih =>
    obtain ⟨form, -, h⟩ := Option.bind_eq_some_iff.1 h
    obtain ⟨others, hothers, rfl⟩ := Option.map_eq_some_iff.1 h
    rw [List.length_cons, List.length_cons, ih hothers]

theorem sameRange_iff {a b c a' b' c' : Int} : sameRange a b c a' b' c' = true ↔
    (range a b c).keyForm? = (range a' b' c').keyForm? := by
  rw [keyForm?, keyForm?]
  simp only [sameRange, Option.some.injEq, KeyForm.range.injEq, Bool.and_eq_true, Bool.or_eq_true,
    beq_iff_eq]
  generalize rangeLength a b c = n
  generalize rangeLength a' b' c' = n'
  constructor
  · rintro ⟨rfl, hn | ⟨rfl, hn | rfl⟩⟩
    · simp [hn]
    · simp [hn]
    · simp
  · rintro ⟨rfl, hstart, hstep⟩
    refine ⟨rfl, ?_⟩
    by_cases hn : n = 0
    · exact .inl hn
    · rw [if_neg hn, if_neg hn] at hstart
      refine .inr ⟨hstart, ?_⟩
      by_cases hone : n = 1
      · exact .inl hone
      · rw [if_neg (by omega), if_neg (by omega)] at hstep
        exact .inr hstep

/-- A number that equals no integer. -/
theorem keyForm?_float {x : Float} (h : integerOf? x = none) (id : Nat) :
    (float x id).keyForm? = some (if x == x then .number x else .noNumber id) := by
  rw [keyForm?, h]

/-- What equals an integer equals itself. -/
theorem integerOf?_eq_none {x : Float} (h : (x == x) = false) : integerOf? x = none := by
  cases hx : integerOf? x with
  | none => rfl
  | some n => rw [(Decimal.beq_iff_of_integerOf? hx).2 hx] at h; simp at h

theorem sameFloat_iff {x y : Float} {i j : Nat} :
    (x == y || (x != x && y != y && i == j)) = true ↔
      ∃ form, (float x i).keyForm? = some form ∧ (float y j).keyForm? = some form := by
  simp only [Bool.or_eq_true, Bool.and_eq_true, bne, Bool.not_eq_true', beq_iff_eq (a := i)]
  constructor
  · rintro (hxy | ⟨⟨hx, hy⟩, rfl⟩)
    · cases hx : integerOf? x with
      | some n =>
        have hy := (Decimal.beq_iff_of_integerOf? hx).1 hxy
        exact ⟨_, keyForm?_of_integer? hx, keyForm?_of_integer? hy⟩
      | none =>
        rcases Decimal.beq_iff.1 hxy with ⟨rfl, hself⟩ | ⟨hzero, -⟩
        · exact ⟨.number x, by rw [keyForm?_float hx, if_pos hself],
            by rw [keyForm?_float hx, if_pos hself]⟩
        · rw [Decimal.integerOf?_eq_zero_iff.2 hzero] at hx
          simp at hx
    · refine ⟨.noNumber i, ?_, ?_⟩
      · rw [keyForm?_float (integerOf?_eq_none hx), hx]
        rfl
      · rw [keyForm?_float (integerOf?_eq_none hy), hy]
        rfl
  · rintro ⟨form, hx, hy⟩
    cases hintx : integerOf? x with
    | some n =>
      obtain rfl := Option.some.inj ((keyForm?_of_integer? (v := .float x i) hintx).symm.trans hx)
      exact .inl ((Decimal.beq_iff_of_integerOf? hintx).2 (of_keyForm?_eq_some hy))
    | none =>
      rw [keyForm?_float hintx] at hx
      obtain rfl := Option.some.inj hx
      cases hself : x == x with
      | true =>
        rw [hself] at hy
        obtain ⟨id, heq⟩ := of_keyForm?_eq_some hy
        obtain ⟨rfl, -⟩ := Value.float.inj heq
        exact .inl hself
      | false =>
        rw [hself] at hy
        obtain ⟨y, heq⟩ := of_keyForm?_eq_some hy
        obtain ⟨rfl, rfl⟩ := Value.float.inj heq
        refine .inr ⟨⟨rfl, ?_⟩, rfl⟩
        cases hy' : y == y with
        | false => rfl
        | true =>
          cases hinty : integerOf? y with
          | some n =>
            have hform := (keyForm?_of_integer? (v := .float y j) hinty).symm.trans hy
            simp at hform
          | none =>
            rw [keyForm?_float hinty, hy'] at hy
            simp at hy

theorem exists_some_iff {α : Type} {a b : α} :
    (∃ c, some a = some c ∧ some b = some c) ↔ a = b := by
  simp [eq_comm]

/-- Lists have the same forms if their first items have, and the others. -/
theorem exists_keyForms?_cons_iff {v w : Value} {vs ws : List Value} :
    (∃ forms, keyForms? (v :: vs) = some forms ∧ keyForms? (w :: ws) = some forms) ↔
      (∃ form, v.keyForm? = some form ∧ w.keyForm? = some form) ∧
        ∃ forms, keyForms? vs = some forms ∧ keyForms? ws = some forms := by
  rw [keyForms?, keyForms?]
  simp only [Option.bind_eq_some_iff, Option.map_eq_some_iff]
  constructor
  · rintro ⟨_, ⟨form, hv, forms, hvs, rfl⟩, form', hw, forms', hws, heq⟩
    obtain ⟨rfl, rfl⟩ := List.cons.inj heq
    exact ⟨⟨form', hv, hw⟩, ⟨forms', hvs, hws⟩⟩
  · rintro ⟨⟨form, hv, hw⟩, ⟨forms, hvs, hws⟩⟩
    exact ⟨form :: forms, ⟨form, hv, forms, hvs, rfl⟩, form, hw, forms, hws, rfl⟩

/-- **Values are the same key if they have the same form.** -/
theorem sameKey_iff : ∀ v w : Value, v.sameKey w = true ↔
    ∃ form, v.keyForm? = some form ∧ w.keyForm? = some form := by
  refine sameKey.induct
    (fun v w => v.sameKey w = true ↔ ∃ form, v.keyForm? = some form ∧ w.keyForm? = some form)
    (fun vs ws => sameKeys vs ws = true ↔
      ∃ forms, keyForms? vs = some forms ∧ keyForms? ws = some forms)
    ?missing ?null ?text ?bytes ?tuple ?range ?float ?topType ?type ?lineage ?function ?method
    ?object ?helper ?tree ?integer ?other ?nil ?cons ?lengths
  case missing => simp [sameKey, keyForm?]
  case null => simp [sameKey, keyForm?]
  case text =>
    intro s t
    rw [sameKey, keyForm?, keyForm?, exists_some_iff, KeyForm.text.injEq, beq_iff_eq]
  case bytes =>
    intro bs cs
    rw [sameKey, keyForm?, keyForm?, exists_some_iff, KeyForm.bytes.injEq, beq_iff_eq]
  case tuple =>
    intro vs ws ih
    rw [sameKey, ih, keyForm?, keyForm?]
    simp
  case range =>
    intro a b c a' b' c'
    rw [sameKey, sameRange_iff, keyForm?, keyForm?, exists_some_iff, Option.some.injEq]
  case float =>
    intro x i y j
    rw [sameKey]
    exact sameFloat_iff
  case topType => simp [sameKey, keyForm?]
  case type =>
    intro i name j name'
    rw [sameKey, keyForm?, keyForm?, exists_some_iff, KeyForm.type.injEq, beq_iff_eq]
  case lineage =>
    intro i name j name'
    rw [sameKey, keyForm?, keyForm?, exists_some_iff, KeyForm.lineage.injEq, beq_iff_eq]
  case function =>
    intro f g
    rw [sameKey, keyForm?, keyForm?, exists_some_iff, KeyForm.function.injEq, beq_iff_eq]
  case method =>
    intro o f o' g
    rw [sameKey, keyForm?, keyForm?, exists_some_iff, KeyForm.method.injEq, Bool.and_eq_true,
      beq_iff_eq, beq_iff_eq]
  case object =>
    intro o o'
    rw [sameKey, keyForm?, keyForm?, exists_some_iff, KeyForm.object.injEq, beq_iff_eq]
  case helper =>
    intro i depth delims j depth' delims'
    rw [sameKey, keyForm?, keyForm?, exists_some_iff, KeyForm.helper.injEq, beq_iff_eq]
  case tree =>
    intro t u
    rw [sameKey, keyForm?, keyForm?, exists_some_iff, KeyForm.tree.injEq, Tree.same_iff]
  case integer =>
    intro v w h₁ h₂ h₃ h₄ h₅ h₆ h₇ h₈ h₉ h₁₀ h₁₁ h₁₂ h₁₃ h₁₄ h₁₅ m n hw hv
    rw [sameKey, hv, hw, keyForm?_of_integer? hv, keyForm?_of_integer? hw, exists_some_iff,
      KeyForm.integer.injEq]
    · exact beq_iff_eq
    all_goals assumption
  case other =>
    intro v w h₁ h₂ h₃ h₄ h₅ h₆ h₇ h₈ h₉ h₁₀ h₁₁ h₁₂ h₁₃ h₁₄ h₁₅ hno
    refine iff_of_false ?_ ?_
    · rw [sameKey]
      · split
        · next m n hv hw => exact (hno m n hv hw).elim
        · exact Bool.false_ne_true
      all_goals assumption
    · rintro ⟨form, hv, hw⟩
      have hkind := of_keyForm?_eq_some hv
      have hkind' := of_keyForm?_eq_some hw
      cases form with
      | missing => exact h₁ hkind hkind'
      | null => exact h₂ hkind hkind'
      | integer n => exact hno n n hkind hkind'
      | number x =>
        obtain ⟨i, rfl⟩ := hkind
        obtain ⟨j, rfl⟩ := hkind'
        exact h₇ _ _ _ _ rfl rfl
      | noNumber id =>
        obtain ⟨x, rfl⟩ := hkind
        obtain ⟨y, rfl⟩ := hkind'
        exact h₇ _ _ _ _ rfl rfl
      | text s => exact h₃ s s hkind hkind'
      | bytes bs => exact h₄ bs bs hkind hkind'
      | tuple forms =>
        obtain ⟨vs, rfl⟩ := hkind
        obtain ⟨ws, rfl⟩ := hkind'
        exact h₅ vs ws rfl rfl
      | range n start step =>
        obtain ⟨a, b, c, rfl⟩ := hkind
        obtain ⟨a', b', c', rfl⟩ := hkind'
        exact h₆ a b c a' b' c' rfl rfl
      | topType => exact h₈ hkind hkind'
      | type id =>
        obtain ⟨name, rfl⟩ := hkind
        obtain ⟨name', rfl⟩ := hkind'
        exact h₉ _ _ _ _ rfl rfl
      | lineage id =>
        obtain ⟨name, rfl⟩ := hkind
        obtain ⟨name', rfl⟩ := hkind'
        exact h₁₀ _ _ _ _ rfl rfl
      | function id =>
        obtain ⟨f, rfl⟩ := hkind
        obtain ⟨g, rfl⟩ := hkind'
        exact h₁₁ _ _ rfl rfl
      | method self id =>
        obtain ⟨o, f, rfl⟩ := hkind
        obtain ⟨o', g, rfl⟩ := hkind'
        exact h₁₂ _ _ _ _ rfl rfl
      | object id =>
        obtain ⟨o, rfl⟩ := hkind
        obtain ⟨o', rfl⟩ := hkind'
        exact h₁₃ _ _ rfl rfl
      | helper id =>
        obtain ⟨depth, delims, rfl⟩ := hkind
        obtain ⟨depth', delims', rfl⟩ := hkind'
        exact h₁₄ _ _ _ _ _ _ rfl rfl
      | tree t => exact h₁₅ _ _ hkind hkind'
  case nil => simp [sameKeys, keyForms?]
  case cons =>
    intro v vs w ws ih ihs
    rw [sameKeys, Bool.and_eq_true, ih, ihs, exists_keyForms?_cons_iff]
  case lengths =>
    intro vs ws hnil hcons
    refine iff_of_false ?_ ?_
    · rw [sameKeys]
      · exact Bool.false_ne_true
      all_goals assumption
    · rintro ⟨forms, hvs, hws⟩
      have hlength : vs.length = ws.length :=
        (length_of_keyForms? hvs).symm.trans (length_of_keyForms? hws)
      cases vs with
      | nil =>
        cases ws with
        | nil => exact hnil rfl rfl
        | cons w ws => simp at hlength
      | cons v vs =>
        cases ws with
        | nil => simp at hlength
        | cons w ws => exact hcons v vs w ws rfl rfl

/-- What can be a key has a form. -/
theorem exists_keyForm? : ∀ v : Value, v.isKey = true → ∃ form, v.keyForm? = some form := by
  refine isKey.induct (fun v => v.isKey = true → ∃ form, v.keyForm? = some form)
    (fun vs => areKeys vs = true → ∃ forms, keyForms? vs = some forms)
    ?list ?dict ?byteArray ?tuple ?other ?nil ?cons
  case tuple =>
    intro vs ih h
    rw [isKey] at h
    obtain ⟨forms, hforms⟩ := ih h
    exact ⟨.tuple forms, by rw [keyForm?, hforms]; rfl⟩
  case other =>
    intro v hlist hdict hbytes htuple _
    cases v with
    | list vs => exact (hlist vs rfl).elim
    | dict es => exact (hdict es rfl).elim
    | byteArray bs => exact (hbytes bs rfl).elim
    | tuple vs => exact (htuple vs rfl).elim
    | float x id =>
      rw [keyForm?]
      split <;> exact ⟨_, rfl⟩
    | _ => exact ⟨_, rfl⟩
  case nil => exact fun _ => ⟨[], rfl⟩
  case cons =>
    intro v vs ih ihs h
    rw [areKeys, Bool.and_eq_true] at h
    obtain ⟨form, hform⟩ := ih h.1
    obtain ⟨forms, hforms⟩ := ihs h.2
    exact ⟨form :: forms, by rw [keyForms?, hform, hforms]; rfl⟩
  all_goals simp [isKey]

/-- **A key is the same as itself.** -/
theorem sameKey_self {v : Value} (h : v.isKey = true) : v.sameKey v = true := by
  obtain ⟨form, hform⟩ := exists_keyForm? v h
  exact (sameKey_iff v v).2 ⟨form, hform, hform⟩

theorem sameKey_symm {v w : Value} (h : v.sameKey w = true) : w.sameKey v = true := by
  obtain ⟨form, hv, hw⟩ := (sameKey_iff v w).1 h
  exact (sameKey_iff w v).2 ⟨form, hw, hv⟩

theorem sameKey_trans {v w u : Value} (h : v.sameKey w = true) (h' : w.sameKey u = true) :
    v.sameKey u = true := by
  obtain ⟨form, hv, hw⟩ := (sameKey_iff v w).1 h
  obtain ⟨form', hw', hu⟩ := (sameKey_iff w u).1 h'
  obtain rfl := Option.some.inj (hw.symm.trans hw')
  exact (sameKey_iff v u).2 ⟨form, hv, hu⟩

/-- Keys that are the same are told apart from the same others. -/
theorem sameKey_congr {v w : Value} (h : v.sameKey w = true) (u : Value) :
    v.sameKey u = w.sameKey u := by
  rw [Bool.eq_iff_iff]
  exact ⟨sameKey_trans (sameKey_symm h), sameKey_trans h⟩

theorem sameKey_comm (v w : Value) : v.sameKey w = w.sameKey v := by
  rw [Bool.eq_iff_iff]
  exact ⟨sameKey_symm, sameKey_symm⟩

end Value

end Mustache
