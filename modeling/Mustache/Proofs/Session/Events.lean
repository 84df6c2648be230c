import Mustache.Proofs.Log.Emission
import Mustache.Proofs.Render.Alike

/-!
# Events that are taken

What the library does it also reports. A report is a message with named fields, and a logger may
refuse it: an adapter can attach attributes that no record may carry. A logger that refuses none of
the library's own events makes no difference but for the records.

## Main definitions

* `Mustache.IsEvent` — the events that the library reports on its own account.
* `Mustache.Logger.Serves` — a logger that refuses none of them.

## Main results

* `Mustache.Logger.serves_of_adapters_eq_nil` — a logger without adapters refuses none.
* `Mustache.exists_logEvent_eq` — reporting leaves all but the records as it is.
-/

namespace Mustache

variable {α β : Type}

/-! ## Actions in sequence -/

/-- What follows an action that ends well goes on from there. -/
theorem bind_of_ok {act : Action α} {next : α → Action β} {s s' : Session} {a : α}
    (h : act s = .ok a s') : (act >>= next) s = next a s' := by
  show EStateM.bind act next s = _
  rw [EStateM.bind, h]

/-- What follows an action that ends in a fault is left out. -/
theorem bind_of_error {act : Action α} {next : α → Action β} {s s' : Session} {e : Fault}
    (h : act s = .error e s') : (act >>= next) s = .error e s' := by
  show EStateM.bind act next s = _
  rw [EStateM.bind, h]

/-- An action may depend on the session that it finds. -/
theorem get_bind (next : Session → Action β) (s : Session) : (get >>= next) s = next s s := rfl

/-- What changes the session goes on from the changed one. -/
theorem modify_bind (f : Session → Session) (next : PUnit → Action β) (s : Session) :
    (modify f >>= next) s = next ⟨⟩ (f s) := rfl

/-! ## Events -/

/-- **The events that the library reports on its own account**, by their messages and fields. -/
inductive IsEvent : String → Fields → Prop
  | compiling (key : String) :
    IsEvent "Compiling template to \"%(class_name)s\"" [("class_name", .text key)]
  | instantiating (key : String) :
    IsEvent "Instantiating template: \"%(class_name)s\"" [("class_name", .text key)]
  | disabled (key : String) :
    IsEvent "Template cache disabled, parsing \"%(class_name)s\" at runtime"
      [("class_name", .text key)]
  | miss (key : String) :
    IsEvent "Template cache miss for \"%(class_name)s\"" [("class_name", .text key)]
  | partialNotFound (name : String) :
    IsEvent "Partial not found: \"%(name)s\"" [("name", .text name)]
  | makingDirectory (path : String) :
    IsEvent "Creating template cache directory: \"%(directory)s\"" [("directory", .text path)]
  | writing (key path : String) :
    IsEvent "Writing \"%(class_name)s\" to template cache: \"%(filename)s\""
      [("class_name", .text key), ("filename", .text path)]
  | unmoved (source target : String) :
    IsEvent "Unable to rename temp cache file: \"%(temp_name)s\" -> \"%(filename)s\""
      [("temp_name", .text source), ("filename", .text target)]

/-- The message of an event can be put into words, whatever its fields hold. -/
theorem IsEvent.exists_formatMessage {message : String} {fields : Fields}
    (h : IsEvent message fields) : ∃ text, formatMessage message fields = .ok text := by
  cases h <;> exact ⟨_, rfl⟩

/-- The logger refuses none of the events of the library. -/
def Logger.Serves (l : Logger) (levels : Levels) : Prop :=
  ∀ level message fields, IsEvent message fields →
    ∃ record, l.record? levels level message fields = .ok record

/-- A logger without adapters refuses none: the only attribute of its records is the one that holds
the fields. -/
theorem Logger.serves_of_adapters_eq_nil {l : Logger} (h : l.adapters = []) (levels : Levels) :
    l.Serves levels := by
  intro level message fields hevent
  obtain ⟨text, htext⟩ := hevent.exists_formatMessage
  unfold record?
  cases htakes : l.takes levels level with
  | false => exact ⟨none, by rw [emission?_of_not_takes htakes]⟩
  | true =>
    have hemit : l.emit levels level message (argsOf fields)
        [(fieldsAttribute, fields.toValue)] = .ok (some _) := (emit_eq_ok_iff htakes).2 ⟨rfl, rfl⟩
    obtain ⟨text, hwording⟩ : ∃ text, Emission.wording ⟨level, l.name, message, argsOf fields,
        [(fieldsAttribute, fields.toValue)]⟩ = .ok text := by
      cases fields with
      | nil => exact ⟨message, rfl⟩
      | cons field fields => exact ⟨text, htext⟩
    rw [emission?_of_takes htakes, h]
    dsimp only [processAll, rewriteAll, List.foldl_nil]
    rw [hemit]
    dsimp only
    rw [hwording]
    split
    · exact ⟨_, rfl⟩
    · exact ⟨_, rfl⟩

/-- A logger that refuses every event that it takes: its adapter attaches an attribute that every
record has. -/
def Logger.refusing : Logger := ⟨"moustache", [.replacing [("message", .text "")]]⟩

/-- An event with a record is reported, or dropped if there is none. -/
theorem logEvent_eq_of_ok {logger : Logger} {level : Level} {message : String} {fields : Fields}
    {s : Session} {record : Option Record}
    (h : logger.record? s.levels level message fields = .ok record) :
    logEvent logger level message fields s =
      .ok () { s with records := record.toList ++ s.records } := by
  unfold logEvent
  rw [get_bind, h]
  cases record <;> rfl

theorem logEvent_eq_of_error {logger : Logger} {level : Level} {message : String} {fields : Fields}
    {s : Session} {e : Fault} (h : logger.record? s.levels level message fields = .error e) :
    logEvent logger level message fields s = .error e s := by
  unfold logEvent
  rw [get_bind, h]
  rfl

/-- **Reporting an event leaves all but the records as it is.** -/
theorem exists_logEvent_eq {logger : Logger} {s : Session} (h : logger.Serves s.levels)
    (level : Level) {message : String} {fields : Fields} (hevent : IsEvent message fields) :
    ∃ records, logEvent logger level message fields s = .ok () { s with records } := by
  obtain ⟨record, hrecord⟩ := h level message fields hevent
  exact ⟨_, logEvent_eq_of_ok hrecord⟩

end Mustache
