import Mathlib.Tactic.Common
import Mustache.Session

/-!
# Messages that fail

A logger may fail to report an event: the message cannot be put into words, or an attribute is in
the way. It then fails as a value does that does not support what is asked of it, and not with one
of the errors that the library raises.

## Main definitions

* `Mustache.Bare` — computations that do not fail with an error of the library.

## Main results

* `Mustache.bare_formatMessage` — messages with references to fields.
* `Mustache.Logger.bare_record?` — records of events.
-/

namespace Mustache

/-- Whether the fault is an error of the library, with a message. -/
def Fault.isTemplate : Fault → Bool
  | template _ => true
  | _ => false

/-- **A computation that does not fail with an error of the library.** -/
def Bare {α : Type} (x : Except Fault α) : Prop := ∀ e, x = .error e → e.isTemplate = false

namespace Bare

variable {α β : Type}

theorem ok (a : α) : Bare (.ok a) := fun e h => by simp at h

theorem error {e : Fault} (h : e.isTemplate = false) : Bare (.error e : Except Fault α) :=
  fun _ heq => Except.error.inj heq ▸ h

theorem ite {c : Prop} [Decidable c] {x y : Except Fault α} (h : Bare x) (h' : Bare y) :
    Bare (if c then x else y) := by
  split
  · exact h
  · exact h'

theorem bind {x : Except Fault α} {next : α → Except Fault β} (h : Bare x)
    (hnext : ∀ a, Bare (next a)) : Bare (x >>= next) := by
  cases x with
  | ok a => exact hnext a
  | error e => exact error (h e rfl)

theorem map {x : Except Fault α} (h : Bare x) (f : α → β) : Bare (x.map f) := by
  cases x with
  | ok a => exact ok (f a)
  | error e => exact error (h e rfl)

end Bare

/-! ## Conversions -/

namespace Conversion

theorem bare_truncated? (x : Float) : Bare (truncated? x) := by
  unfold truncated?
  split
  · split
    · exact .error rfl
    · exact .error rfl
  · exact .ok _

theorem bare_integerOf (v : Value) : Bare (integerOf v) := by
  unfold integerOf
  split
  · exact .ok _
  · exact .ok _
  · exact bare_truncated? _
  · exact .error rfl

theorem bare_wholeOf (v : Value) : Bare (wholeOf v) := by
  unfold wholeOf
  split
  · exact .ok _
  · exact .ok _
  · exact .error rfl

theorem bare_floatOf (v : Value) : Bare (floatOf v) := by
  unfold floatOf Value.number?
  split
  · next hnumber =>
    split at hnumber
    · exact Option.some.inj hnumber ▸ .ok _
    · obtain ⟨n, -, rfl⟩ := Option.map_eq_some_iff.1 hnumber
      exact .ite (.error rfl) (.ok _)
  · exact .error rfl

theorem bare_charOf (v : Value) : Bare (charOf v) := by
  unfold charOf
  split
  · exact .ite (.ok _) (.error rfl)
  · exact .ok _
  · split
    · exact .ok _
    · exact .error rfl
  · exact .error rfl

theorem bare_writeInteger (c : Conversion) (base : Nat) (mark : List Char) (n : Int) :
    Bare (c.writeInteger base mark n) := .ite (.error rfl) (.ok _)

theorem bare_write (c : Conversion) (v : Value) : Bare (c.write v) := by
  unfold write
  split
  · exact .ok _
  · exact .ok _
  · exact .ok _
  · exact (bare_integerOf v).bind (bare_writeInteger c _ _)
  · exact (bare_integerOf v).bind (bare_writeInteger c _ _)
  · exact (bare_integerOf v).bind (bare_writeInteger c _ _)
  · exact (bare_wholeOf v).bind (bare_writeInteger c _ _)
  · exact (bare_wholeOf v).bind (bare_writeInteger c _ _)
  · exact ((bare_wholeOf v).bind (bare_writeInteger c _ _)).map _
  · exact (bare_charOf v).map _
  all_goals first | exact (bare_floatOf v).map _ | exact .error rfl

theorem bare_apply (c : Conversion) (v : Value) : Bare (c.apply v) :=
  .ite (bare_write c v) (.bind (bare_write _ v) fun _ => .error rfl)

end Conversion

/-! ## References -/

namespace Cursor

theorem bare_fetch (c : Cursor) : Bare c.fetch := by
  unfold fetch
  split
  · exact .ok _
  · exact .error rfl

theorem bare_readName (fields : Fields) (c : Cursor) : Bare (c.readName fields) := by
  unfold readName
  split
  · split
    · exact .error rfl
    · split
      · exact .ok _
      · exact .error rfl
  · exact .ok _

theorem bare_readSize (limit : Nat) (c : Cursor) : Bare (c.readSize limit) := by
  unfold readSize
  split
  · refine (bare_fetch c).bind fun _ => ?_
    dsimp only
    split
    · exact .error rfl
    · exact .ite (.error rfl) (.ok _)
  · exact .ite (.ok _) (.error rfl)

theorem bare_readPrecision (c : Cursor) : Bare c.readPrecision := by
  unfold readPrecision
  split
  · exact (bare_readSize _ _).bind fun _ => .ok _
  · exact .ok _

theorem bare_readConversion (c : Cursor) : Bare c.readConversion := by
  unfold readConversion
  refine (bare_readSize _ _).bind fun _ => (bare_readPrecision _).bind fun _ => ?_
  dsimp only
  split
  · exact .error rfl
  · exact .ok _

end Cursor

/-! ## Messages -/

theorem bare_formatFrom (fields : Fields) (next : Option Value) (fuel : Nat) (cs : List Char) :
    Bare (formatFrom fields next fuel cs) := by
  fun_induction formatFrom fields next fuel cs with
  | case1 | case2 => exact .ok _
  | case3 _ _ _ ih => exact ih.map _
  | case4 _ _ _ _ ih =>
    exact (Cursor.bare_readName _ _).bind fun _ => (Cursor.bare_readConversion _).bind fun _ =>
      (Cursor.bare_fetch _).bind fun _ => (Conversion.bare_apply _ _).bind fun _ =>
        (ih _).bind fun _ => .ok _
  | case5 _ _ _ _ _ _ ih => exact ih.map _

theorem bare_formatMessage (message : String) (fields : Fields) :
    Bare (formatMessage message fields) := (bare_formatFrom _ _ _ _).map _

theorem Emission.bare_wording (e : Emission) : Bare e.wording := by
  unfold wording
  split
  · exact .ok _
  · exact bare_formatMessage _ _

namespace Logger

variable (l : Logger) (levels : Levels) (level : Level) (message : String)

theorem bare_emit (args : Option Fields) (attributes : Fields) :
    Bare (l.emit levels level message args attributes) := by
  unfold emit
  refine .ite (.ok _) ?_
  split
  · exact .error rfl
  · exact .ok _

theorem bare_emission? (fields : Fields) : Bare (l.emission? levels level message fields) :=
  .ite (.ok _) (l.bare_emit _ _ _ _ _)

/-- **A logger that refuses an event does not do so with an error of the library.** -/
theorem bare_record? (fields : Fields) : Bare (l.record? levels level message fields) := by
  unfold record?
  split
  · next hemission => exact .error (l.bare_emission? _ _ _ _ _ hemission)
  · exact .ok _
  · exact .ite (.map (Emission.bare_wording _) _) (.ok _)

end Logger

end Mustache
