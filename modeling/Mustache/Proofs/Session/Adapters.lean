import Mustache.Proofs.Session.Events
import Mustache.Proofs.Token.Run

/-!
# Events that pass through adapters

An adapter may put other attributes in the place of those of an event, or even attributes of the
name that is meant for the fields. Whatever the adapters are, an event whose level the innermost
logger takes leads to one record: it has the fields, the message is what the adapters make of it,
and its other attributes are those that it would have if every adapter handed it on by itself.

## Main results

* `Mustache.Emission.wording_argsOf` — a message with and one without fields.
* `Mustache.logEvent_through_adapters` — the record of an event.
-/

namespace Mustache

/-- **A message is put into words** with the fields of its event, and left as it is if there are
none. -/
theorem Emission.wording_argsOf {e : Emission} {fields : Fields}
    (h : e.args = Logger.argsOf fields) :
    (fields = [] → e.wording = .ok e.message) ∧
    (fields ≠ [] → e.wording = formatMessage e.message fields) := by
  unfold wording
  rw [h]
  cases fields with
  | nil => exact ⟨fun _ => rfl, fun hne => absurd rfl hne⟩
  | cons field fields => exact ⟨nofun, fun _ => rfl⟩

/-- A record is added for what the logger hands out, if its records are kept. -/
theorem logEvent_eq_of_emission {l : Logger} {level : Level} {message text : String}
    {fields : Fields} {s : Session} {e : Emission}
    (h : l.emission? s.levels level message fields = .ok (some e)) (htext : e.wording = .ok text) :
    logEvent l level message fields s =
      .ok () { s with records := (if l.isKept then [{ e with text }] else []) ++ s.records } := by
  have hrecord : l.record? s.levels level message fields =
      .ok (if l.isKept then some { e with text } else none) := by
    unfold Logger.record?
    rw [h]
    dsimp only
    split
    · rw [htext]
      rfl
    · rfl
  rw [logEvent_eq_of_ok hrecord]
  split
  · rfl
  · rfl

/-- **An event leads to one record if the innermost logger takes its level**, and to none otherwise.
The record has the fields, whatever the adapters attach; its message is what they make of it, the
outermost first, put into words with the fields; and its other attributes are those of an event that
is handed on from adapter to adapter, unless that is refused. -/
theorem logEvent_through_adapters (l : Logger) (level : Level) (message : String) (fields : Fields)
    (s : Session) :
    (l.takes s.levels level = false → l.emission? s.levels level message fields = .ok none ∧
      logEvent l level message fields s = .ok () s) ∧
    (l.takes s.levels level = true → ∀ standard, l.delegate s.levels level (Logger.argsOf fields)
        l.adapters message [(fieldsAttribute, fields.toValue)] = .ok standard →
      ∃ e e', l.emission? s.levels level message fields = .ok (some e) ∧ standard = some e' ∧
        e.level = level ∧ e.logger = l.name ∧ e.fields? = some fields.toValue ∧
        e.message = l.adapters.foldl (fun message a => a.rewrite message) message ∧
        (fields = [] → e.wording = .ok e.message) ∧
        (fields ≠ [] → e.wording = formatMessage e.message fields) ∧ e.others = e'.others ∧
        ∀ text, e.wording = .ok text → logEvent l level message fields s = .ok ()
          { s with records := (if l.isKept then [{ e with text }] else []) ++ s.records }) := by
  refine ⟨fun htakes => ?_, fun htakes standard hstandard => ?_⟩
  · have hnone := Logger.emission?_of_not_takes htakes message fields
    refine ⟨hnone, ?_⟩
    have hrecord : l.record? s.levels level message fields = .ok none := by
      unfold Logger.record?
      rw [hnone]
    exact logEvent_eq_of_ok hrecord
  · rw [Logger.delegate_of_takes htakes] at hstandard
    obtain ⟨hfree, rfl⟩ := (Logger.emit_eq_ok_iff htakes).1 hstandard
    have hothers := others_processAll fields l.adapters message
      (rfl : Fields.others [(fieldsAttribute, fields.toValue)] = _)
    rw [← hothers] at hfree
    have hemission : l.emission? s.levels level message fields = .ok (some _) :=
      (Logger.emission?_of_takes htakes message fields).trans
        ((Logger.emit_eq_ok_iff htakes).2 ⟨hfree, rfl⟩)
    have hfields : List.lookup fieldsAttribute [(fieldsAttribute, fields.toValue)] =
        some fields.toValue := by simp
    exact ⟨_, _, hemission, rfl, rfl, rfl, lookup_processAll fields l.adapters message hfields, rfl,
      (Emission.wording_argsOf rfl).1, (Emission.wording_argsOf rfl).2, hothers,
      fun _ htext => logEvent_eq_of_emission hemission htext⟩

/-- An adapter that attaches an attribute of the name that is meant for the fields, one that drops
all attributes, and one that adds an attribute. -/
theorem logEvent_through_adapters_chain :
    let l : Logger := ⟨"moustache",
      [.rewriting "Leading" ("> " ++ ·) .adapter [("moustache", .null), ("a", .int 1)],
        .replacing [], .rewriting "Leading" ("r: " ++ ·) .event [("b", .int 2)]]⟩
    let s := Session.start "" .warning
    let message := "Partial not found: \"%(name)s\""
    let fields : Fields := [("name", .text "nav")]
    (l.takes s.levels .debug = false ∧ logEvent l .debug message fields s = .ok () s) ∧
    l.takes s.levels .warning = true ∧
    ∃ e e', l.delegate s.levels .warning (Logger.argsOf fields) l.adapters message
        [(fieldsAttribute, fields.toValue)] = .ok (some e') ∧
      l.emission? s.levels .warning message fields = .ok (some e) ∧
      e.fields? = some (.dict [(.text "name", .text "nav")]) ∧
      e.wording = .ok "r: > Partial not found: \"nav\"" ∧ e.others = e'.others ∧
      logEvent l .warning message fields s = .ok ()
        { s with records := [{ e with text := "r: > Partial not found: \"nav\"" }] } := by
  intro l s message fields
  have hdebug : l.takes s.levels .debug = false := by decide +kernel
  have hwarning : l.takes s.levels .warning = true := by decide +kernel
  obtain ⟨standard, hstandard⟩ : ∃ standard, l.delegate s.levels .warning (Logger.argsOf fields)
      l.adapters message [(fieldsAttribute, fields.toValue)] = .ok standard :=
    ⟨_, (Logger.delegate_of_takes hwarning _ _ _ _).trans
      ((Logger.emit_eq_ok_iff hwarning).2 ⟨rfl, rfl⟩)⟩
  obtain ⟨e, e', hemission, rfl, -, -, hfields, hmessage, -, hwording, hothers, hlog⟩ :=
    (logEvent_through_adapters l .warning message fields s).2 hwarning standard hstandard
  have htext : e.wording = .ok "r: > Partial not found: \"nav\"" := by
    rw [hwording (by simp [fields]), hmessage]
    exact eq_ok_of_toOption_eq_some (by decide +kernel)
  exact ⟨⟨hdebug, ((logEvent_through_adapters l .debug message fields s).1 hdebug).2⟩, hwarning,
    e, e', hstandard, hemission, hfields, htext, hothers, hlog _ htext⟩

end Mustache
