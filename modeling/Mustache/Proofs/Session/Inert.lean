import Mathlib.Tactic.Common
import Mustache.Render

/-!
# Data without callables

In a value in which nothing can be called, a name stands for an entry of a table or an attribute of
an object. If all frames are like this, looking a name up calls nothing: it comes to a search, and
leaves the session as it is.

## Main definitions

* `Mustache.Value.isInert` — whether there is nothing to be called in a value.
* `Mustache.Value.entryNamed` — the entry or the attribute with a name.
* `Mustache.valueOf` — the value of a name in some frames.

## Main results

* `Mustache.findName_eq` — in such frames, looking a name up comes to a search.
* `Mustache.isInert_valueOf` — nothing can be called in what is found either.
* `Mustache.findFiltered_eq_unknown` — a filter is always missing.
-/

namespace Mustache

/-! ## Inert values -/

mutual

/-- Whether there is nothing to be called in the value, at any depth. -/
def Value.isInert : Value → Bool
  | .missing | .null | .bool _ | .int _ | .float _ _ | .text _ | .bytes _ | .byteArray _
  | .range _ _ _ | .tree _ => true
  | .list vs | .tuple vs => areInert vs
  | .dict es => haveInertValues es
  | .object o => o.isInert
  | .type _ _ | .topType | .lineage _ _ | .function _ | .method _ _ | .helper _ _ _ => false

/-- Whether the object has attributes only, with nothing to be called in them. -/
def Object.isInert : Object → Bool
  | ⟨_, _, attributes, methods, statics, properties, _, call⟩ =>
    haveInertAttributes attributes && methods.isEmpty && statics.isEmpty && properties.isEmpty &&
      call.isNone

/-- Whether there is nothing to be called in the items. -/
def areInert : List Value → Bool
  | [] => true
  | v :: vs => v.isInert && areInert vs

/-- Whether there is nothing to be called in the values of the entries. -/
def haveInertValues : List (Value × Value) → Bool
  | [] => true
  | (_, v) :: es => v.isInert && haveInertValues es

/-- Whether there is nothing to be called in the attributes. -/
def haveInertAttributes : List (String × Value) → Bool
  | [] => true
  | (_, v) :: attributes => v.isInert && haveInertAttributes attributes

end

theorem areInert_iff {vs : List Value} : areInert vs = true ↔ ∀ v ∈ vs, v.isInert = true := by
  induction vs with
  | nil => simp [areInert]
  | cons v vs ih => simp [areInert, ih]

/-- There is nothing to be called in a value under a key. -/
theorem isInert_of_get? {es : Entries} (h : haveInertValues es = true) {key v : Value}
    (hv : es.get? key = some v) : v.isInert = true := by
  induction es with
  | nil => simp [Entries.get?] at hv
  | cons entry es ih =>
    obtain ⟨k, w⟩ := entry
    rw [haveInertValues, Bool.and_eq_true] at h
    rw [Entries.get?] at hv
    split at hv
    · obtain rfl := Option.some.inj hv
      exact h.1
    · exact ih h.2 hv

/-- There is nothing to be called in an attribute. -/
theorem isInert_of_lookup {attributes : List (String × Value)}
    (h : haveInertAttributes attributes = true) {name : String} {v : Value}
    (hv : attributes.lookup name = some v) : v.isInert = true := by
  induction attributes with
  | nil => simp at hv
  | cons entry attributes ih =>
    obtain ⟨n, w⟩ := entry
    rw [haveInertAttributes, Bool.and_eq_true] at h
    rw [List.lookup_cons] at hv
    split at hv
    · obtain rfl := Option.some.inj hv
      exact h.1
    · exact ih h.2 hv

/-- What an inert object is made of. -/
theorem Object.isInert_iff {o : Object} : o.isInert = true ↔
    haveInertAttributes o.attributes = true ∧ o.methods = [] ∧ o.statics = [] ∧
      o.properties = [] ∧ o.call = none := by
  obtain ⟨id, className, attributes, methods, statics, properties, shown, call⟩ := o
  simp only [Object.isInert, Bool.and_eq_true, List.isEmpty_iff, Option.isNone_iff_eq_none,
    and_assoc]

namespace Value

variable {v : Value}

/-- An inert value is not called in place of being written. -/
theorem isLambda_of_isInert (h : v.isInert = true) : v.isLambda = false := by
  cases v with
  | object o =>
    rw [isInert, Object.isInert_iff] at h
    simp [isLambda, h.2.2.2.2]
  | function f => simp [isInert] at h
  | method o f => simp [isInert] at h
  | lineage id name => simp [isInert] at h
  | _ => rfl

/-- A section repeats for inert values if it is opened for one. -/
theorem isInert_of_mem_items (h : v.isInert = true) {item : Value} (hitem : item ∈ v.items) :
    item.isInert = true := by
  cases v with
  | list vs | tuple vs =>
    rw [isInert, areInert_iff] at h
    exact h item hitem
  | range start stop step =>
    obtain ⟨n, -, rfl⟩ := List.mem_map.1 hitem
    rfl
  | _ =>
    obtain rfl := List.mem_singleton.1 hitem
    exact h

/-! ## Names -/

/-- The entry or the attribute with a name. Attributes with a leading underscore are out of
reach. -/
def entryNamed (v : Value) (name : String) : Value :=
  match v with
  | dict es => (Entries.find? es name).getD missing
  | object o => if isPrivate name then missing else (o.attributes.lookup name).getD missing
  | _ => missing

theorem isInert_entryNamed (h : v.isInert = true) (name : String) :
    (v.entryNamed name).isInert = true := by
  cases v with
  | dict es =>
    show ((Entries.find? es name).getD missing).isInert = true
    cases hfind : Entries.find? es name with
    | none => rfl
    | some w => exact isInert_of_get? h hfind
  | object o =>
    rw [isInert, Object.isInert_iff] at h
    show (if isPrivate name then missing
      else (o.attributes.lookup name).getD missing).isInert = true
    split
    · rfl
    · cases hfind : o.attributes.lookup name with
      | none => rfl
      | some w => exact isInert_of_lookup h.1 hfind
  | _ => rfl

/-- An attribute of an inert object, or none. -/
theorem member?_eq (below : Below) {o : Object} (h : o.isInert = true) (name : String) :
    (object o).member? below name = pure (o.attributes.lookup name) := by
  obtain ⟨-, hmethods, hstatics, hproperties, -⟩ := Object.isInert_iff.1 h
  funext s
  unfold member? member Object.member
  simp only [hmethods, hstatics, hproperties, List.lookup_nil]
  cases o.attributes.lookup name with
  | none => rfl
  | some w => rfl

/-- **What a name stands for in an inert value** is the entry or the attribute. -/
theorem memberNamed_eq (below : Below) (h : v.isInert = true) (name : String) :
    v.memberNamed below name = pure (v.entryNamed name) := by
  cases v with
  | dict es => rfl
  | object o =>
    have hinert : o.isInert = true := h
    show (if isPrivate name then pure missing else _) =
      pure (if isPrivate name then missing else (o.attributes.lookup name).getD missing)
    split
    · rfl
    · rw [member?_eq below hinert, pure_bind]
      cases hfind : o.attributes.lookup name with
      | none => rfl
      | some w =>
        have hw := isInert_of_lookup (Object.isInert_iff.1 hinert).1 hfind
        cases w with
        | method self f => simp [isInert] at hw
        | _ => rfl
  | type | topType | lineage | function | method | helper => simp [isInert] at h
  | _ =>
    unfold memberNamed
    show (if isPrivate name then pure missing else _) = pure missing
    split
    · rfl
    · rfl

end Value

/-! ## Frames -/

/-- What a name stands for in the first of the frames that knows it. -/
def firstNamed (name : String) : List Value → Value
  | [] => .missing
  | frame :: frames =>
    if (frame.entryNamed name).isMissing then firstNamed name frames else frame.entryNamed name

/-- Follows the further parts of a path. -/
def followed (v : Value) : List String → Value
  | [] => v
  | part :: parts => if v.isMissing then v else followed (v.entryNamed part) parts

/-- **The value of a name** in frames in which there is nothing to be called. -/
def valueOf (name : String) (frames : List Value) : Value :=
  if name == "." then frames.headD .missing
  else
    match Text.fieldsOf '.' name with
    | [] => .missing
    | first :: rest => followed (firstNamed first frames) rest

section

variable {frames : List Value} (h : ∀ frame ∈ frames, frame.isInert = true)

include h

theorem isInert_firstNamed (name : String) : (firstNamed name frames).isInert = true := by
  induction frames with
  | nil => rfl
  | cons frame frames ih =>
    rw [List.forall_mem_cons] at h
    rw [firstNamed]
    split
    · exact ih h.2
    · exact Value.isInert_entryNamed h.1 name

omit h in
theorem isInert_followed {v : Value} (hv : v.isInert = true) (parts : List String) :
    (followed v parts).isInert = true := by
  induction parts generalizing v with
  | nil => exact hv
  | cons part parts ih =>
    rw [followed]
    split
    · exact hv
    · exact ih (Value.isInert_entryNamed hv part)

/-- There is nothing to be called in the value of a name. -/
theorem isInert_valueOf (name : String) : (valueOf name frames).isInert = true := by
  unfold valueOf
  split
  · cases frames with
    | nil => rfl
    | cons frame frames => exact h frame List.mem_cons_self
  · split
    · rfl
    · exact isInert_followed (isInert_firstNamed h _) _

theorem findIn_eq (below : Below) (name : String) :
    findIn below name frames = pure (firstNamed name frames) := by
  induction frames with
  | nil => rfl
  | cons frame frames ih =>
    rw [List.forall_mem_cons] at h
    rw [findIn, Value.memberNamed_eq below h.1, pure_bind, firstNamed, ih h.2]
    split
    · rfl
    · rfl

omit h in
theorem followPath_eq (below : Below) {v : Value} (hv : v.isInert = true) (parts : List String) :
    followPath below v parts = pure (followed v parts) := by
  induction parts generalizing v with
  | nil => rfl
  | cons part parts ih =>
    rw [followPath, followed]
    split
    · rfl
    · rw [Value.memberNamed_eq below hv, pure_bind, ih (Value.isInert_entryNamed hv part)]

end

section

variable {s : Session} (h : ∀ frame ∈ s.frames, frame.isInert = true)

include h

/-- **Looking a name up comes to a search**, if there is nothing to be called in the frames. -/
theorem findName_eq (below : Below) (name : String) :
    findName below name s = .ok (valueOf name s.frames) s := by
  unfold findName valueOf
  split
  · rfl
  · cases Text.fieldsOf '.' name with
    | nil => rfl
    | cons first rest =>
      show (findIn below first s.frames >>= fun v => followPath below v rest) s = _
      rw [findIn_eq h, pure_bind, followPath_eq below (isInert_firstNamed h first)]
      rfl

/-- The value of a tag without filters. -/
theorem findFiltered_eq_ok (below : Below) (name : String) (place : Place) (templateName : Value)
    (source : String) : findFiltered below ⟨name, [], place, templateName, source⟩ s =
      .ok (valueOf name s.frames) s := by
  show (findName below name >>= pure) s = _
  rw [bind_pure]
  exact findName_eq h below name

/-- **A tag with a filter is refused**: where there is nothing to be called, there is no filter. -/
theorem findFiltered_eq_unknown (below : Below) (name filter : String) (rest : List String)
    (place : Place) (templateName : Value) (source : String) :
    findFiltered below ⟨name, filter :: rest, place, templateName, source⟩ s =
      .error (.unrenderable
        (FilterSite.unknown ⟨name, filter :: rest, place, templateName, source⟩ filter)) s := by
  have hlambda := Value.isLambda_of_isInert (isInert_valueOf h filter)
  have hfind : findName below name s = .ok (valueOf name s.frames) s := findName_eq h below name
  have hfilter : findName below filter s = .ok (valueOf filter s.frames) s :=
    findName_eq h below filter
  show (findName below name >>= fun v => applyFilters below _ v (filter :: rest)) s = _
  show EStateM.bind (findName below name) _ s = _
  rw [EStateM.bind, hfind]
  show EStateM.bind (findName below filter) _ s = _
  rw [EStateM.bind, hfilter]
  simp only [hlambda]
  rfl

/-- A tag with filters ends in a fault. -/
theorem findFiltered_eq_error (below : Below) (name : String) {filters : List String}
    (hfilters : filters ≠ []) (place : Place) (templateName : Value) (source : String) :
    ∃ e, findFiltered below ⟨name, filters, place, templateName, source⟩ s = .error e s := by
  cases filters with
  | nil => exact absurd rfl hfilters
  | cons filter rest =>
    exact ⟨_, findFiltered_eq_unknown h below name filter rest place templateName source⟩

end

/-! ## Data -/

/-- The frames for data without callables. -/
theorem isInert_of_mem_framesFor {e : Option Engine} {data : Value} {locals : Entries}
    (hhelpers : ∀ e' ∈ e, haveInertValues e'.helpers.entries = true) (hdata : data.isInert = true)
    (hlocals : haveInertValues locals = true) :
    ∀ frame ∈ framesFor e data locals, frame.isInert = true := by
  intro frame hframe
  unfold framesFor at hframe
  simp only [List.mem_append] at hframe
  rcases hframe with (hframe | hframe) | hframe
  · split at hframe
    · simp at hframe
    · obtain rfl := List.mem_singleton.1 hframe
      exact hlocals
  · split at hframe
    · simp at hframe
    · obtain rfl := List.mem_singleton.1 hframe
      exact hdata
  · split at hframe
    · split at hframe
      · simp at hframe
      · obtain rfl := List.mem_singleton.1 hframe
        exact hhelpers _ rfl
    · simp at hframe

end Mustache
