import Mathlib.Tactic.Common
import Mustache.Log

/-!
# Events and adapters

An event may pass through the adapters of a logger in two ways. An adapter that is asked by itself
processes the message and the attributes, and asks what it wraps. The library asks the adapters one
after the other and attaches the fields anew each time, so that no adapter can take them away. Both
ways come to the same message, and to the same attributes besides the fields.

## Main definitions

* `Mustache.rewriteAll`, `Mustache.attachAll` — what adapters make of a message and of attributes.
* `Mustache.Logger.delegate` — an event that is handed on from adapter to adapter.

## Main results

* `Mustache.fst_processAll`, `Mustache.lookup_processAll`, `Mustache.others_processAll` — what the
  library hands to the logger: the same message, the fields, and the same other attributes.
* `Mustache.Logger.delegate_of_takes`, `Mustache.Logger.emission?_of_takes` — both ways end at the
  logger itself.
* `Mustache.Logger.emit_eq_ok_iff` — when it hands something out, and what.
-/

namespace Mustache

/-! ## Attributes -/

namespace Fields

/-- An attribute that is added is kept under its name, or left out with it. -/
theorem others_put (extra : Fields) (a : String × Value) :
    (extra.put a).others =
      if a.1 = fieldsAttribute then extra.others else Fields.put extra.others a := by
  -- Attributes keep their names, whether they are replaced or not.
  have hname (x : String × Value) : (if x.1 == a.1 then a else x).1 = x.1 := by
    split
    · next h => exact (beq_iff_eq.1 h).symm
    · rfl
  have hmap : Fields.others (extra.map fun x => if x.1 == a.1 then a else x) =
      extra.others.map fun x => if x.1 == a.1 then a else x := by
    unfold others
    rw [List.filter_map]
    simp only [Function.comp_def, hname]
  by_cases ha : a.1 = fieldsAttribute
  · rw [if_pos ha]
    unfold put
    split
    · refine hmap.trans ((List.map_congr_left fun x hx => ?_).trans (List.map_id _))
      have hx' : x.1 ≠ fieldsAttribute := by simpa using (List.mem_filter.1 hx).2
      exact if_neg (by simpa [ha] using hx')
    · simp [others, ha]
  · have hany : (extra.others.any fun x => x.1 == a.1) = extra.any fun x => x.1 == a.1 := by
      unfold others
      rw [List.any_filter]
      refine congrArg extra.any (funext fun x => ?_)
      by_cases hx : x.1 = a.1
      · simp [hx, ha]
      · simp [hx]
    rw [if_neg ha]
    unfold put
    rw [hany]
    split
    · exact hmap
    · simp [others, ha]

/-- Attributes are merged apart from the fields. -/
theorem others_merge (base more : Fields) :
    (base.merge more).others = Fields.merge base.others more.others := by
  induction more generalizing base with
  | nil => rfl
  | cons a more ih =>
    show ((base.put a).merge more).others = _
    rw [ih, others_put]
    split
    · next ha => simp [others, ha]
    · next ha => simp [others, ha, merge]

/-- An attribute that has been added is found under its name. -/
theorem lookup_put (extra : Fields) (name : String) (v : Value) :
    List.lookup name (extra.put (name, v)) = some v := by
  unfold put
  split
  · next hany =>
    induction extra with
    | nil => simp at hany
    | cons x extra ih =>
      by_cases hx : x.1 = name
      · simp [hx]
      · have hname : (name == x.1) = false := beq_false_of_ne (Ne.symm hx)
        rw [List.map_cons, if_neg (by simpa using hx), List.lookup_cons, hname]
        exact ih (by simpa [hx] using hany)
  · next hany =>
    have hnone : List.lookup name extra = none := by
      refine List.lookup_eq_none_iff.2 fun x hx => ?_
      have hne : x.1 ≠ name := fun heq => hany (List.any_eq_true.2 ⟨x, hx, by simp [heq]⟩)
      simpa using Ne.symm hne
    rw [List.lookup_append, hnone]
    simp

end Fields

/-! ## Adapters one after the other -/

/-- What the adapters make of a message, the outermost first. -/
def rewriteAll (adapters : List Adapter) (message : String) : String :=
  adapters.foldl (fun message a => a.rewrite message) message

/-- What the adapters make of attributes, the outermost first. -/
def attachAll (adapters : List Adapter) (extra : Fields) : Fields :=
  adapters.foldl (fun extra a => a.attach extra) extra

/-- What an adapter attaches besides the fields does not depend on the fields. -/
theorem Adapter.others_attach (a : Adapter) {extra extra' : Fields}
    (h : extra.others = extra'.others) : (a.attach extra).others = (a.attach extra').others := by
  cases a with
  | replacing own => rfl
  | rewriting typeName rewrite precedence own =>
    cases precedence with
    | adapter =>
      show (extra.merge own).others = (extra'.merge own).others
      rw [Fields.others_merge, Fields.others_merge, h]
    | event =>
      show (own.merge extra).others = (own.merge extra').others
      rw [Fields.others_merge, Fields.others_merge, h]

/-- Attaching the fields anew leaves the other attributes as they are. -/
theorem Fields.others_merge_fields (extra fields : Fields) :
    (extra.merge [(fieldsAttribute, fields.toValue)]).others = extra.others :=
  (Fields.others_put extra _).trans (if_pos rfl)

section

variable (fields : Fields) (adapters : List Adapter) (message : String)

theorem fst_processAll (extra : Fields) :
    (processAll fields message extra adapters).1 = rewriteAll adapters message := by
  induction adapters generalizing message extra with
  | nil => rfl
  | cons a adapters ih => exact ih _ _

/-- **The fields stay attached**, whatever the adapters attach. -/
theorem lookup_processAll {extra : Fields}
    (h : List.lookup fieldsAttribute extra = some fields.toValue) :
    List.lookup fieldsAttribute (processAll fields message extra adapters).2 =
      some fields.toValue := by
  induction adapters generalizing message extra with
  | nil => exact h
  | cons a adapters ih => exact ih _ (Fields.lookup_put _ _ _)

/-- **The other attributes are those that are handed on from adapter to adapter.** -/
theorem others_processAll {extra extra' : Fields} (h : extra.others = extra'.others) :
    (processAll fields message extra adapters).2.others = (attachAll adapters extra').others := by
  induction adapters generalizing message extra extra' with
  | nil => exact h
  | cons a adapters ih =>
    exact ih _ ((Fields.others_merge_fields _ fields).trans (a.others_attach h))

end

/-! ## Loggers -/

/-- The attribute that holds the fields is none that every record has. -/
theorem fieldsAttribute_notMem : fieldsAttribute ∉ recordAttributes := by decide

/-- An attribute that is refused is one of those besides the fields. -/
theorem Fields.find?_others (extra : Fields) :
    extra.others.find? (fun a => recordAttributes.contains a.1) =
      extra.find? fun a => recordAttributes.contains a.1 := by
  unfold others
  rw [List.find?_filter]
  refine congrArg (List.find? · extra) (funext fun a => ?_)
  by_cases ha : a.1 = fieldsAttribute
  · simp [ha, fieldsAttribute_notMem]
  · simp [ha]

namespace Logger

variable (l : Logger) (levels : Levels) (level : Level)

/-- **An event that is handed on from adapter to adapter.** An adapter takes the levels that the
logger below it takes; it processes the message and the attributes, and has what it wraps log the
outcome. -/
def delegate (args : Option Fields) :
    List Adapter → String → Fields → Except Fault (Option Emission)
  | [], message, extra => l.emit levels level message args extra
  | a :: adapters, message, extra =>
    if !l.takes levels level then .ok none
    else
      let (message, extra) := a.process message extra
      delegate args adapters message extra

variable {l levels level}

theorem emission?_of_not_takes (h : l.takes levels level = false) (message : String)
    (fields : Fields) : l.emission? levels level message fields = .ok none := by
  unfold emission?
  rw [h]
  rfl

/-- The library hands to the logger what the adapters make of an event. -/
theorem emission?_of_takes (h : l.takes levels level = true) (message : String) (fields : Fields) :
    l.emission? levels level message fields =
      l.emit levels level (rewriteAll l.adapters message) (argsOf fields)
        (processAll fields message [(fieldsAttribute, fields.toValue)] l.adapters).2 := by
  unfold emission?
  rw [h, ← fst_processAll fields l.adapters message [(fieldsAttribute, fields.toValue)]]
  rfl

/-- The adapters hand to the logger what they make of an event. -/
theorem delegate_of_takes (h : l.takes levels level = true) (args : Option Fields)
    (adapters : List Adapter) (message : String) (extra : Fields) :
    l.delegate levels level args adapters message extra =
      l.emit levels level (rewriteAll adapters message) args (attachAll adapters extra) := by
  induction adapters generalizing message extra with
  | nil => rfl
  | cons a adapters ih =>
    rw [delegate, h]
    exact ih _ _

/-- **A logger that takes an event hands it out** unless one of the attributes is refused. -/
theorem emit_eq_ok_iff (h : l.takes levels level = true) {message : String} {args : Option Fields}
    {attributes : Fields} {r : Option Emission} :
    l.emit levels level message args attributes = .ok r ↔
      attributes.others.find? (fun a => recordAttributes.contains a.1) = none ∧
        r = some { level, logger := l.name, message, args, attributes } := by
  unfold emit
  rw [h, Fields.find?_others]
  cases attributes.find? fun a => recordAttributes.contains a.1 with
  | none => simp [eq_comm]
  | some a => simp

end Logger

end Mustache
