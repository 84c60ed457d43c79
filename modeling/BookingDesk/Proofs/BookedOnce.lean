import BookingDesk.Proofs.DeskRecord

/-!
No entry is booked twice. A booking uses up the name and the date of the draft, so that
before the next one the name has to be set and a day has to be picked again.
-/

namespace BookingDesk

open Calendar

namespace Happening

def isBooking : Happening → Bool
  | .booked _ => true
  | _ => false

def isPick : Happening → Bool
  | .picked _ => true
  | _ => false

def isNaming : Happening → Bool
  | .named _ => true
  | _ => false

theorem length_reservations (happenings : List Happening) :
    (happenings.filterMap reservation?).length = happenings.countP isBooking := by
  induction happenings with
  | nil => rfl
  | cons first rest ih =>
    rw [List.filterMap_cons, List.countP_cons, ← ih]
    cases first <;> rfl

variable (p : Happening → Bool)

def seenNext (seen : Bool) (h : Happening) : Bool :=
  !h.isBooking && (seen || p h)

def seenAfter (seen : Bool) (happenings : List Happening) : Bool :=
  happenings.foldl (seenNext p) seen

/-- Before each booking `p` is seen, and it is to be seen anew for the next one. -/
def Supplied (seen : Bool) : List Happening → Prop
  | [] => True
  | h :: rest => (h.isBooking = true → seen = true) ∧ Supplied (seenNext p seen h) rest

theorem supplied_append (seen : Bool) (first second : List Happening) :
    Supplied p seen (first ++ second) ↔
      Supplied p seen first ∧ Supplied p (seenAfter p seen first) second := by
  induction first generalizing seen with
  | nil => simp [Supplied, seenAfter]
  | cons h rest ih =>
    simp only [List.cons_append, Supplied, ih, seenAfter, List.foldl_cons, and_assoc]

theorem seenAfter_append (seen : Bool) (first second : List Happening) :
    seenAfter p seen (first ++ second) = seenAfter p (seenAfter p seen first) second :=
  List.foldl_append

theorem exists_of_seenAfter (seen : Bool) (happenings : List Happening)
    (found : seenAfter p seen happenings = true) :
    seen = true ∨ ∃ h ∈ happenings, p h = true := by
  induction happenings generalizing seen with
  | nil => exact .inl found
  | cons first rest ih =>
    rcases ih (seenNext p seen first) found with now | ⟨h, member, holds⟩
    · simp only [seenNext, Bool.and_eq_true, Bool.or_eq_true] at now
      rcases now.2 with earlier | holds
      · exact .inl earlier
      · exact .inr ⟨first, List.mem_cons_self, holds⟩
    · exact .inr ⟨h, List.mem_cons_of_mem _ member, holds⟩

theorem exists_between_bookings (seen : Bool) (before between after : List Happening)
    (b c : Reservation)
    (supplied : Supplied p seen (before ++ .booked b :: between ++ .booked c :: after)) :
    ∃ h ∈ between, p h = true := by
  rw [supplied_append, seenAfter_append] at supplied
  have found : seenAfter p (seenAfter p seen before) (.booked b :: between) = true :=
    supplied.2.1 rfl
  have reset : seenNext p (seenAfter p seen before) (.booked b) = false := by
    simp [seenNext, isBooking]
  simp only [seenAfter, List.foldl_cons] at found reset
  rw [reset] at found
  simpa using exists_of_seenAfter p false between found

theorem bookings_le (seen : Bool) (happenings : List Happening)
    (supplied : Supplied p seen happenings) :
    happenings.countP isBooking ≤ happenings.countP p + seen.toNat := by
  induction happenings generalizing seen with
  | nil => simp
  | cons h rest ih =>
    have later := ih _ supplied.2
    rw [List.countP_cons, List.countP_cons]
    cases booking : h.isBooking with
    | true =>
      have earlier : seen = true := supplied.1 booking
      have reset : seenNext p seen h = false := by simp [seenNext, booking]
      simp only [reset, Bool.toNat_false] at later
      simp only [earlier, ↓reduceIte, Bool.toNat_true]
      omega
    | false =>
      have flag : (seenNext p seen h).toNat ≤ (if p h = true then 1 else 0) + seen.toNat := by
        cases seen <;> cases held : p h <;> simp [seenNext, booking, held]
      simp only [Bool.false_eq_true, ↓reduceIte]
      omega

end Happening

open Happening

/-- Something that a draft needs to be booked, that a booking uses up, and that only
the happenings in `p` bring back. -/
structure Ingredient (p : Happening → Bool) (has : Draft → Bool) : Prop where
  needed : ∀ d date, d.Complete date → has d = true
  spent : ∀ d : Draft, has d.cleared = false
  name : ∀ (d : Draft) name, has { d with name := name } = true →
    has d = true ∨ p (.named name) = true
  date : ∀ (d : Draft) date, has { d with date := some date } = true →
    has d = true ∨ p (.picked date) = true
  kind : ∀ (d : Draft) kind, has { d with kind := kind } = has d

theorem name_ingredient : Ingredient isNaming fun d => !Text.allBlank d.name where
  needed := by
    intro d date complete
    simp [complete.1]
  spent := by
    intro d
    show (!Text.allBlank "") = false
    decide
  name := by
    intro d name _
    exact .inr rfl
  date := by
    intro d date had
    exact .inl had
  kind := by
    intro d kind
    rfl

theorem date_ingredient : Ingredient isPick fun d => d.date.isSome where
  needed := by
    intro d date complete
    simp [complete.2]
  spent := by
    intro d
    rfl
  name := by
    intro d name had
    exact .inl had
  date := by
    intro d date _
    exact .inr rfl
  kind := by
    intro d kind
    rfl

/-- All bookings so far were supplied, and what the draft has was seen since the last. -/
structure Stocked (p : Happening → Bool) (has : Draft → Bool) (seen : Bool)
    (past : List Occasion) (d : Desk) : Prop where
  supplied : Supplied p seen (past.map Occasion.happening)
  seen : has d.draft = true → seenAfter p seen (past.map Occasion.happening) = true

variable {p : Happening → Bool} {has : Draft → Bool}

theorem Stocked.snoc {seen : Bool} {past : List Occasion} {d : Desk}
    (stocked : Stocked p has seen past d) (o : Occasion) (h : Happening)
    (told : o.happening = h) (after : Desk)
    (allowed : h.isBooking = true → has d.draft = true)
    (kept : has after.draft = true →
      h.isBooking = false ∧ (has d.draft = true ∨ p h = true)) :
    Stocked p has seen (past ++ [o]) after := by
  subst told
  constructor
  · rw [List.map_append, supplied_append]
    exact ⟨stocked.supplied, fun booking => stocked.seen (allowed booking), trivial⟩
  · intro had
    obtain ⟨other, source⟩ := kept had
    rw [List.map_append, seenAfter_append]
    change seenNext p _ o.happening = true
    rcases source with before | fresh
    · simp [seenNext, other, stocked.seen before]
    · simp [seenNext, other, fresh]

theorem Ingredient.recorded (ingredient : Ingredient p has) (seen : Bool) :
    Desk.Recorded (Stocked p has seen) where
  name := by
    intro past d name stocked
    apply stocked.snoc ⟨d, .naming name⟩ (.named name) rfl
    · simp [isBooking]
    · exact fun had => ⟨rfl, ingredient.name d.draft name had⟩
  kind := by
    intro past d kind stocked
    refine ⟨stocked.supplied, ?_⟩
    rw [ingredient.kind d.draft kind]
    exact stocked.seen
  pending := fun _ _ _ stocked => ⟨stocked.supplied, stocked.seen⟩
  handle := by
    intro past d event stocked
    rcases d.handle_cases event with ⟨date, _, what, done⟩ | ⟨_, what, done⟩ |
      ⟨_, _, what, done⟩ | ⟨date, _, _, complete, what, done⟩ | ⟨missing, _, _, _, what, done⟩
    · rw [done]
      apply stocked.snoc ⟨d, .handling event⟩ _ what
      · simp [isBooking]
      · exact fun had => ⟨rfl, ingredient.date d.draft date had⟩
    · rw [done]
      apply stocked.snoc ⟨d, .handling event⟩ _ what
      · simp [isBooking]
      · exact fun had => ⟨rfl, .inl had⟩
    · rw [done]
      apply stocked.snoc ⟨d, .handling event⟩ _ what
      · simp [isBooking]
      · exact fun had => ⟨rfl, .inl had⟩
    · rw [done]
      apply stocked.snoc ⟨d, .handling event⟩ _ what
      · exact fun _ => ingredient.needed d.draft date complete
      · intro had
        have spent : has (d.booked date).draft = false := ingredient.spent d.draft
        rw [spent] at had
        contradiction
    · rw [done]
      apply stocked.snoc ⟨d, .handling event⟩ _ what
      · simp [isBooking]
      · exact fun had => ⟨rfl, .inl had⟩
  refresh := fun _ _ stocked => ⟨stocked.supplied, stocked.seen⟩

theorem Ingredient.supplied_history (ingredient : Ingredient p has) (today : Date)
    (steps : List DeskStep) : Supplied p false ((Desk.opened today).history steps) := by
  have start : Stocked p has false [] (Desk.opened today) := by
    refine ⟨trivial, ?_⟩
    intro had
    have spent : has (Desk.opened today).draft = false := ingredient.spent Draft.blank
    rw [spent] at had
    contradiction
  exact ((ingredient.recorded false).run [] _ steps start).supplied

namespace Desk

theorem reservations_run (d : Desk) (steps : List DeskStep) :
    (d.run steps).register.reservations =
      d.register.reservations ++ (d.history steps).filterMap Happening.reservation? := by
  rw [history, Occasion.filterMap_happening]
  exact (reservations_recorded d.register.reservations).run [] d steps (List.append_nil _).symm

theorem no_naming_in_handlings (d : Desk) (events : List DeskEvent) :
    ((d.handlings events).map Occasion.happening).countP isNaming = 0 := by
  induction events generalizing d with
  | nil => rfl
  | cons event rest ih =>
    rw [handlings, List.map_cons, List.countP_cons, ih]
    change 0 + (if (d.happening event).isNaming = true then 1 else 0) = 0
    rcases d.handle_cases event with ⟨date, _, what, _⟩ | ⟨_, what, _⟩ |
      ⟨_, _, what, _⟩ | ⟨date, _, _, _, what, _⟩ | ⟨missing, _, _, _, what, _⟩ <;>
      simp [what, isNaming]

/-- All events that wait add one reservation at most, since nothing names the next. -/
theorem handleEvents_adds_at_most_one (d : Desk) :
    ∃ added : Option Reservation,
      d.handleEvents.register.reservations = d.register.reservations ++ added.toList := by
  -- No event sets a name, so the name at the start allows for one booking.
  have stocked := (name_ingredient.recorded true).handleEvents [] d ⟨trivial, fun _ => rfl⟩
  have count := bookings_le isNaming true _ stocked.supplied
  have told := (reservations_recorded d.register.reservations).handleEvents [] d
    (List.append_nil _).symm
  rw [List.nil_append, stepRecord] at count told
  rw [no_naming_in_handlings, ← length_reservations, Occasion.filterMap_happening] at count
  generalize ({ d with pending := [] }.handlings d.pending).filterMap Occasion.reservation? = added
    at count told
  rcases added with _ | ⟨b, _ | ⟨_, _⟩⟩
  · exact ⟨none, told⟩
  · exact ⟨some b, told⟩
  · simp at count

/-- Between two bookings the name was set and a day was picked. So one handling of the
waiting events books once at most, and there are never more reservations than picks. -/
theorem booked_once (today : Date) :
    (∀ (steps : List DeskStep) (before between after : List Happening) (b c : Reservation),
      (opened today).history steps = before ++ .booked b :: between ++ .booked c :: after →
        (∃ name, .named name ∈ between) ∧ ∃ date, .picked date ∈ between) ∧
    (∀ steps : List DeskStep, ((opened today).run steps).register.reservations =
      ((opened today).history steps).filterMap Happening.reservation?) ∧
    (∀ d : Desk, ∃ added : Option Reservation,
      d.handleEvents.register.reservations = d.register.reservations ++ added.toList) ∧
    ∀ steps : List DeskStep, ((opened today).run steps).register.size ≤
      ((opened today).history steps).countP Happening.isPick := by
  refine ⟨?_, ?_, handleEvents_adds_at_most_one, ?_⟩
  · intro steps before between after b c split
    have named := name_ingredient.supplied_history today steps
    have picked := date_ingredient.supplied_history today steps
    rw [split] at named picked
    constructor
    · obtain ⟨h, member, naming⟩ := exists_between_bookings _ _ _ _ _ _ _ named
      cases h with
      | named name => exact ⟨name, member⟩
      | _ => contradiction
    · obtain ⟨h, member, pick⟩ := exists_between_bookings _ _ _ _ _ _ _ picked
      cases h with
      | picked date => exact ⟨date, member⟩
      | _ => contradiction
  · intro steps
    exact reservations_run (opened today) steps
  · intro steps
    have count := bookings_le isPick false _ (date_ingredient.supplied_history today steps)
    have told := reservations_run (opened today) steps
    rw [← length_reservations] at count
    simp only [Register.size, told]
    simpa [opened, Register.subscribe, Register.empty] using count

/-- Two drafts are booked in one run, the first of them being sent twice. -/
theorem two_bookings_are_spaced :
    let today : Date := ⟨2025, 6, 14, by decide⟩
    let steps : List DeskStep := [.setName "Alice", .raise (.pick today), .raise .submit,
      .raise .submit, .raise .dismiss, .handleEvents, .setName "Bob", .raise (.pick today),
      .raise .submit, .tick]
    let between : List Happening := [.refused .name, .dismissed, .named "Bob", .picked today]
    (opened today).history steps =
      [.named "Alice", .picked today] ++ .booked ⟨"Alice", today, .wedding⟩ :: between ++
        .booked ⟨"Bob", today, .wedding⟩ :: [] ∧
    (∃ name, .named name ∈ between) ∧ ∃ date, .picked date ∈ between := by
  intro today steps between
  have told : (opened today).history steps =
      [.named "Alice", .picked today] ++ .booked ⟨"Alice", today, .wedding⟩ :: between ++
        .booked ⟨"Bob", today, .wedding⟩ :: [] := by decide
  exact ⟨told, (booked_once today).1 steps _ between _ _ _ told⟩

end Desk

end BookingDesk
