import BookingDesk.EventKind

/-!
Kinds of event in stored data. A kind is read from its name, which stands alone or is the
only key of an object with nothing under it. All other values are refused, whatever their
size: labels, names in other cases, objects with no key or several, and objects that hold
something under the name.
-/

namespace BookingDesk.EventKind

/-- The two forms in which a kind is recorded; the first is the one that is written. -/
def Recorded (k : EventKind) (x : Json) : Prop :=
  x = k.toJson ∨ x = .object [(k.name, .null)]

def canonical (x : Json) : Except KindRefusal Json :=
  (ofJson x).map toJson

theorem ofName?_eq_some_iff (text : String) (k : EventKind) :
    ofName? text = some k ↔ text = k.name := by
  constructor
  · intro found
    have same := List.find?_some found
    exact (eq_of_beq same).symm
  · rintro rfl
    cases k <;> decide

theorem named_eq_ok_iff (text : String) (k : EventKind) :
    named text = .ok k ↔ text = k.name := by
  rw [← ofName?_eq_some_iff]
  cases known : ofName? text <;> simp [named, known]

theorem named_of_unknown (text : String) (unknown : ∀ k : EventKind, text ≠ k.name) :
    named text = .error (.unknownName text) := by
  cases known : ofName? text with
  | none => simp only [named, known]
  | some k => exact absurd ((ofName?_eq_some_iff text k).mp known) (unknown k)

theorem ofJson_single (key : String) (value : Json) (k : EventKind) :
    ofJson (.object [(key, value)]) = .ok k ↔ key = k.name ∧ value = .null := by
  rw [← named_eq_ok_iff]
  cases read : named key with
  | error refusal => simp [ofJson, read]
  | ok kind => cases value <;> simp [ofJson, read]

theorem ofJson_eq_ok_iff (x : Json) (k : EventKind) : ofJson x = .ok k ↔ k.Recorded x := by
  cases x with
  | null | boolean _ | integer _ | real _ | array _ => simp [ofJson, Recorded, toJson]
  | string text => simp [ofJson, Recorded, toJson, named_eq_ok_iff]
  | object fields =>
    match fields with
    | [] => simp [ofJson, Recorded, toJson]
    | [(key, value)] => simp [ofJson_single, Recorded, toJson]
    | first :: second :: rest => simp [ofJson, Recorded, toJson]

theorem ofJson_toJson (k : EventKind) : ofJson k.toJson = .ok k :=
  (ofJson_eq_ok_iff _ _).mpr (.inl rfl)

theorem recorded_once (x : Json) (k l : EventKind) (first : k.Recorded x)
    (second : l.Recorded x) : k = l := by
  rw [← ofJson_eq_ok_iff] at first second
  exact Except.ok.inj (first.symm.trans second)

theorem exists_refusal (x : Json) (unrecorded : ∀ k : EventKind, ¬k.Recorded x) :
    ∃ refusal, ofJson x = .error refusal := by
  cases read : ofJson x with
  | error refusal => exact ⟨refusal, rfl⟩
  | ok k => exact absurd ((ofJson_eq_ok_iff x k).mp read) (unrecorded k)

theorem ofJson_of_canonical (x y : Json) (written : canonical x = .ok y) :
    ofJson y = ofJson x ∧ canonical y = .ok y := by
  cases read : ofJson x with
  | error refusal => simp [canonical, read, Except.map] at written
  | ok k =>
    obtain rfl : k.toJson = y := by simpa [canonical, read, Except.map] using written
    exact ⟨ofJson_toJson k, by simp [canonical, ofJson_toJson, Except.map]⟩

/-- A text that a reader might take for the kind but that is not its name: its label, or
the name with other cases. -/
def Lookalike (k : EventKind) (text : String) : Prop :=
  text = k.label ∨ (Text.lowerCase text = k.name ∧ text ≠ k.name)

theorem label_ne_name (k l : EventKind) : k.label ≠ l.name := by
  cases k <;> cases l <;> decide

theorem lowerCase_name (k : EventKind) : Text.lowerCase k.name = k.name := by
  cases k <;> decide +kernel

theorem ne_name_of_lookalike (text : String) (l : EventKind) (alike : l.Lookalike text)
    (k : EventKind) : text ≠ k.name := by
  rintro rfl
  rcases alike with label | ⟨lowered, other⟩
  · exact label_ne_name l k label.symm
  · rw [lowerCase_name] at lowered
    exact other lowered

theorem ofJson_of_unknown (text : String) (unknown : ∀ k : EventKind, text ≠ k.name) :
    ofJson (.string text) = .error (.unknownName text) ∧
      ∀ value, ofJson (.object [(text, value)]) = .error (.unknownName text) := by
  have refused := named_of_unknown text unknown
  exact ⟨by simp only [ofJson, refused], fun value => by simp only [ofJson, refused]⟩

theorem choiceOfJson_of_ne_null (x : Json) (given : x ≠ .null) :
    choiceOfJson x = (ofJson x).map some := by
  cases x <;> first | rfl | contradiction

/-- A value is read as a kind just when it records that kind, in one of the two forms, so
as one kind at most; every other value is refused, also where a choice may be left open.
Reading undoes writing, writing what was read gives a form that reads the same and is
written the same, and neither a label nor a name in other cases is ever taken for a name. -/
theorem reads_exactly_records (x : Json) :
    (∀ k, ofJson x = .ok k ↔ k.Recorded x) ∧
    ((∀ k : EventKind, ¬k.Recorded x) → ∃ refusal, ofJson x = .error refusal) ∧
    (x ≠ .null → ∀ k, choiceOfJson x = .ok (some k) ↔ k.Recorded x) ∧
    (∀ k, ofJson (toJson k) = .ok k) ∧
    (∀ y, canonical x = .ok y → ofJson y = ofJson x ∧ canonical y = .ok y) ∧
    (∀ k l : EventKind, k.Recorded x → l.Recorded x → k = l) ∧
    ∀ (k : EventKind) (text : String), k.Lookalike text →
      x = .string text ∨ (∃ value, x = .object [(text, value)]) →
      ofJson x = .error (.unknownName text) := by
  refine ⟨ofJson_eq_ok_iff x, exists_refusal x, ?_, ofJson_toJson, ofJson_of_canonical x,
    recorded_once x, ?_⟩
  · intro given k
    rw [← ofJson_eq_ok_iff, choiceOfJson_of_ne_null x given]
    cases ofJson x <;> simp [Except.map]
  · intro k text alike shape
    obtain ⟨alone, keyed⟩ := ofJson_of_unknown text (ne_name_of_lookalike text k alike)
    rcases shape with rfl | ⟨value, rfl⟩
    · exact alone
    · exact keyed value

/-- The name of a meeting over nothing is read, and written as the name alone; over an
empty list it is refused, and so is its label over nothing. -/
theorem meeting_over_nothing_is_read :
    let keyed := Json.object [("meeting", .null)]
    let filled := Json.object [("meeting", .array [])]
    let label := Json.object [("Réunion", .null)]
    ofJson keyed = .ok .meeting ∧ choiceOfJson keyed = .ok (some .meeting) ∧
      ofJson (.string "meeting") = ofJson keyed ∧
      (∃ refusal, ofJson filled = .error refusal) ∧
      ofJson label = .error (.unknownName "Réunion") := by
  intro keyed filled label
  obtain ⟨read, _, choice, _, rewritten, _⟩ := reads_exactly_records keyed
  have recorded : meeting.Recorded keyed := .inr rfl
  have foreign : ∀ k : EventKind, ¬k.Recorded filled := by
    intro k
    simp [Recorded, toJson, filled]
  have written : canonical keyed = .ok (.string "meeting") := by
    rw [canonical, (read .meeting).mpr recorded]
    rfl
  refine ⟨(read .meeting).mpr recorded, (choice (by simp [keyed]) .meeting).mpr recorded,
    (rewritten _ written).1, (reads_exactly_records filled).2.1 foreign, ?_⟩
  exact (reads_exactly_records label).2.2.2.2.2.2 .meeting "Réunion" (.inl rfl)
    (.inr ⟨.null, rfl⟩)

end BookingDesk.EventKind
