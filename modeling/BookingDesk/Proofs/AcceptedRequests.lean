import BookingDesk.Proofs.SubscriberStream
import BookingDesk.Proofs.Trimming

/-!
The register holds the requests that were accepted, in the order in which they came, and
nothing else. A request is accepted when it has a date and a name that is not blank; one
that is refused changes nothing. What is stored stays where it is.
-/

namespace BookingDesk

open Calendar Text

namespace Request

def accepted? (q : Request) : Option Reservation :=
  if Legible q.name then q.date.map fun date => ⟨q.name, date, q.kind.getD .wedding⟩ else none

theorem check_cases (q : Request) :
    (¬Legible q.name ∧ q.check = .error .name ∧ q.accepted? = none) ∨
    (Legible q.name ∧ q.date = none ∧ q.check = .error .date ∧ q.accepted? = none) ∨
    ∃ b, Legible q.name ∧ q.date = some b.date ∧ q.check = .ok b ∧ q.accepted? = some b := by
  by_cases legible : Legible q.name
  · have named := (trim_ne_empty_iff q.name).mpr legible
    cases dated : q.date with
    | none =>
      refine .inr (.inl ⟨legible, rfl, ?_, ?_⟩)
      · simp [check, named, dated]
      · simp [accepted?, dated]
    | some date =>
      refine .inr (.inr ⟨⟨q.name, date, q.kind.getD .wedding⟩, legible, rfl, ?_, ?_⟩)
      · simp [check, named, dated, EventKind.preselected]
      · simp [accepted?, legible, dated]
  · have blank : trim q.name = "" := by
      rw [← trim_ne_empty_iff, Decidable.not_not] at legible
      exact legible
    refine .inl ⟨legible, ?_, ?_⟩
    · simp [check, blank]
    · simp [accepted?, legible]

theorem toOption_check (q : Request) : q.check.toOption = q.accepted? := by
  rcases q.check_cases with ⟨_, checked, refused⟩ | ⟨_, _, checked, refused⟩ |
    ⟨b, _, _, checked, accepted⟩
  · rw [checked, refused]
    rfl
  · rw [checked, refused]
    rfl
  · rw [checked, accepted]
    rfl

theorem legible_of_accepted (q : Request) (b : Reservation) (accepted : q.accepted? = some b) :
    Legible b.client := by
  unfold accepted? at accepted
  split at accepted
  · rename_i legible
    obtain ⟨date, _, rfl⟩ := Option.map_eq_some_iff.mp accepted
    exact legible
  · contradiction

end Request

def RegisterStep.added? : RegisterStep → Option Reservation
  | .append b => some b
  | _ => none

theorem Register.reservations_step (r : Register) (s : RegisterStep) (lasts : s ≠ .renew) :
    (r.step s).reservations = r.reservations ++ s.added?.toList := by
  cases s with
  | receive handle => simpa [step, RegisterStep.added?] using (r.receive_frame handle).1
  | drain handle => simpa [step, RegisterStep.added?] using (r.drain_frame handle).1
  | renew => contradiction
  | append b => rfl
  | _ => simp [step, RegisterStep.added?, subscribe, unsubscribe]

theorem Register.added?_additionOf (q : Request) :
    (additionOf q.check).added? = q.accepted? := by
  rw [← q.toOption_check]
  cases q.check <;> rfl

namespace OfficeStep

/-- A request is handed in, or a subscriber comes, reads or goes. -/
def isCall : OfficeStep → Bool
  | .submit _ _ (.ok _) | .subscribe | .unsubscribe _ | .receive _ | .drain _ => true
  | _ => false

def accepted? : OfficeStep → Option Reservation
  | .submit name date (.ok kind) => Request.accepted? ⟨name, date, kind⟩
  | _ => none

theorem isRenewal_of_call (s : OfficeStep) (call : s.isCall = true) : s.isRenewal = false := by
  cases s with
  | renew => contradiction
  | _ => rfl

theorem isRenewal_of_not_mem (steps : List OfficeStep) (lasts : .renew ∉ steps) :
    ∀ s ∈ steps, s.isRenewal = false := by
  intro s member
  cases renews : s.isRenewal with
  | false => rfl
  | true => exact absurd (s.eq_renew renews ▸ member) lasts

end OfficeStep

def OfficeReply.accepted? : OfficeReply → Option (Nat × Reservation)
  | .submission (.ok answer) => some answer
  | _ => none

namespace Office

def replies (o : Office) : List OfficeStep → List OfficeReply
  | [] => []
  | s :: rest => (o.step s).2 :: (o.step s).1.replies rest

theorem reservations_step (o : Office) (s : OfficeStep) (lasts : s.isRenewal = false) :
    (o.step s).1.register.reservations =
      o.register.reservations ++ (o.registerStep s).added?.toList := by
  rw [register_step, Register.reservations_step _ _ (o.registerStep_ne_renew s lasts)]

/-- Nothing that is stored moves or goes as long as the register is not replaced. -/
theorem reservations_prefix_run (o : Office) (steps : List OfficeStep)
    (lasts : ∀ s ∈ steps, s.isRenewal = false) :
    o.register.reservations <+: (o.run steps).register.reservations := by
  induction steps generalizing o with
  | nil => exact List.prefix_rfl
  | cons s rest ih =>
    have first : o.register.reservations <+: (o.step s).1.register.reservations := by
      rw [o.reservations_step s (lasts s List.mem_cons_self)]
      exact List.prefix_append _ _
    exact first.trans (ih (o.step s).1 fun t member => lasts t (List.mem_cons_of_mem _ member))

/-- What a step adds has a legible name or is a copy of what is there. -/
theorem legible_or_stored_of_added (o : Office) (s : OfficeStep) (b : Reservation)
    (adds : (o.registerStep s).added? = some b) :
    Legible b.client ∨ b ∈ o.register.reservations := by
  have requested : ∀ q : Request, o.registerStep s = Register.additionOf q.check →
      Legible b.client := by
    intro q what
    rw [what, Register.added?_additionOf] at adds
    exact q.legible_of_accepted b adds
  cases s with
  | submit name date kind =>
    cases kind with
    | error refusal => contradiction
    | ok kind => exact .inl (requested ⟨name, date, kind⟩ rfl)
  | submitDraft number => exact .inl (requested _ rfl)
  | attempt number => exact .inl (requested _ rfl)
  | appendAgain index =>
    right
    cases found : o.register.reservations[index]? with
    | none => simp [registerStep, found, RegisterStep.added?] at adds
    | some c =>
      have same : c = b := by simpa [registerStep, found, RegisterStep.added?] using adds
      exact same ▸ List.mem_of_getElem? found
  | unsubscribe handle =>
    simp only [registerStep] at adds
    split at adds <;> contradiction
  | _ => contradiction

theorem legible_run (o : Office) (steps : List OfficeStep)
    (start : ∀ b ∈ o.register.reservations, Legible b.client) :
    ∀ b ∈ (o.run steps).register.reservations, Legible b.client := by
  induction steps generalizing o with
  | nil => exact start
  | cons s rest ih =>
    apply ih (o.step s).1
    cases renews : s.isRenewal with
    | true =>
      intro b member
      rw [s.eq_renew renews] at member
      contradiction
    | false =>
      intro b member
      rw [o.reservations_step s renews, List.mem_append, Option.mem_toList] at member
      rcases member with old | new
      · exact start b old
      · exact (o.legible_or_stored_of_added s b new).elim id (start b)

theorem added?_of_call (o : Office) (s : OfficeStep) (call : s.isCall = true) :
    (o.registerStep s).added? = s.accepted? := by
  cases s with
  | submit name date kind =>
    cases kind with
    | error refusal => contradiction
    | ok kind => exact Register.added?_additionOf ⟨name, date, kind⟩
  | unsubscribe handle =>
    simp only [registerStep]
    split <;> rfl
  | subscribe | receive handle | drain handle => rfl
  | _ => contradiction

theorem accepted?_reply (o : Office) (s : OfficeStep) (call : s.isCall = true) :
    (o.step s).2.accepted? = s.accepted?.map fun b => (o.register.size, b) := by
  cases s with
  | submit name date kind =>
    cases kind with
    | error refusal => contradiction
    | ok kind =>
      simp only [Office.step, Register.book, OfficeStep.accepted?, ← Request.toOption_check]
      cases Request.check ⟨name, date, kind⟩ <;> rfl
  | unsubscribe handle | receive handle | drain handle =>
    simp only [Office.step, forSubscriber]
    split <;> rfl
  | subscribe => rfl
  | _ => contradiction

theorem reservations_calls (o : Office) (steps : List OfficeStep)
    (calls : ∀ s ∈ steps, s.isCall = true) :
    (o.run steps).register.reservations =
      o.register.reservations ++ steps.filterMap OfficeStep.accepted? := by
  induction steps generalizing o with
  | nil => simp [run]
  | cons s rest ih =>
    have call := calls s List.mem_cons_self
    have later := ih (o.step s).1 (fun t member => calls t (List.mem_cons_of_mem _ member))
    rw [o.reservations_step s (s.isRenewal_of_call call), o.added?_of_call s call] at later
    refine later.trans ?_
    cases accepted : s.accepted? with
    | none => simp [accepted]
    | some b => simp [accepted]

theorem accepted?_replies (o : Office) (steps : List OfficeStep)
    (calls : ∀ s ∈ steps, s.isCall = true) :
    (o.replies steps).filterMap OfficeReply.accepted? =
      ((steps.filterMap OfficeStep.accepted?).zipIdx o.register.size).map Prod.swap := by
  induction steps generalizing o with
  | nil => rfl
  | cons s rest ih =>
    have call := calls s List.mem_cons_self
    have later := ih (o.step s).1 (fun t member => calls t (List.mem_cons_of_mem _ member))
    have grown := o.reservations_step s (s.isRenewal_of_call call)
    rw [o.added?_of_call s call] at grown
    have size := congrArg List.length grown
    rw [replies, List.filterMap_cons, o.accepted?_reply s call, later]
    cases accepted : s.accepted? with
    | none =>
      have same : (o.step s).1.register.size = o.register.size := by
        simpa [accepted, Register.size] using size
      simp [accepted, same]
    | some b =>
      have next : (o.step s).1.register.size = o.register.size + 1 := by
        simpa [accepted, Register.size] using size
      simp [accepted, next, List.zipIdx_cons]

theorem submit_outcome (o : Office) (q : Request) :
    let result := o.step (.submit q.name q.date (.ok q.kind))
    ((∃ answer, result.2 = .submission (.ok answer)) ↔ Legible q.name ∧ q.date ≠ none) ∧
    (result.2 = .submission (.error .name) ↔ ¬Legible q.name) ∧
    (result.2 = .submission (.error .date) ↔ Legible q.name ∧ q.date = none) ∧
    ∀ missing, result.2 = .submission (.error missing) → result.1 = o := by
  intro result
  have done : result =
      (o.afterBooking (o.register.book q), .submission (submission (o.register.book q))) := rfl
  rcases q.check_cases with ⟨blank, checked, _⟩ | ⟨legible, undated, checked, _⟩ |
    ⟨b, legible, dated, checked, _⟩
  · simp [done, Register.book, checked, Except.map, submission, afterBooking, blank]
  · simp [done, Register.book, checked, Except.map, submission, afterBooking, legible, undated]
  · simp [done, Register.book, checked, Except.map, submission, afterBooking, legible, dated]

/-- A register that starts without reservations holds the accepted requests. A request is
accepted when its name is not blank and it has a date; else it is refused for its name, if
that is blank, or for its date, and nothing changes. Accepted requests are stored as they
came, each at the place that it was told and for good, whether or not subscribers come,
read and go in between. Whatever else is done, additions of copies included, all stored
names are legible, and what is stored stays at the front until the register is replaced. -/
theorem register_holds_accepted (o : Office) (fresh : o.register.reservations = []) :
    (∀ (earlier : List OfficeStep) (q : Request),
      let now := o.run earlier
      let result := now.step (.submit q.name q.date (.ok q.kind))
      ((∃ answer, result.2 = .submission (.ok answer)) ↔
        (∃ c ∈ q.name.toList, isBlank c = false) ∧ q.date ≠ none) ∧
      (result.2 = .submission (.error .name) ↔ ∀ c ∈ q.name.toList, isBlank c = true) ∧
      (result.2 = .submission (.error .date) ↔
        (∃ c ∈ q.name.toList, isBlank c = false) ∧ q.date = none) ∧
      ∀ missing, result.2 = .submission (.error missing) → result.1 = now) ∧
    (∀ calls : List OfficeStep, (∀ s ∈ calls, s.isCall = true) →
      let after := o.run calls
      let accepted := (o.replies calls).filterMap OfficeReply.accepted?
      after.register.reservations = calls.filterMap OfficeStep.accepted? ∧
      (∀ i : Nat, accepted[i]? = after.register.reservations[i]?.map fun b => (i, b)) ∧
      ∀ (i : Nat) (b : Reservation) (later : List OfficeStep),
        accepted[i]? = some (i, b) → .renew ∉ later →
        (after.run later).register.reservations[i]? = some b) ∧
    (∀ steps, ∀ b ∈ (o.run steps).register.reservations,
      ∃ c ∈ b.client.toList, isBlank c = false) ∧
    ∀ earlier later, .renew ∉ later →
      (o.run earlier).register.reservations <+:
        (o.run (earlier ++ later)).register.reservations := by
  refine ⟨?_, ?_, ?_, ?_⟩
  · intro earlier q now result
    obtain ⟨accepted, unnamed, undated, kept⟩ := now.submit_outcome q
    exact ⟨accepted, unnamed.trans (not_legible_iff q.name), undated, kept⟩
  · intro calls only after accepted
    have stored : after.register.reservations = calls.filterMap OfficeStep.accepted? := by
      rw [o.reservations_calls calls only, fresh, List.nil_append]
    have told : ∀ i : Nat, accepted[i]? = after.register.reservations[i]?.map fun b => (i, b) := by
      intro i
      have start : o.register.size = 0 := by rw [Register.size, fresh, List.length_nil]
      show ((o.replies calls).filterMap OfficeReply.accepted?)[i]? = _
      rw [o.accepted?_replies calls only, start, stored, List.getElem?_map,
        List.getElem?_zipIdx, Option.map_map]
      simp [Function.comp_def]
    refine ⟨stored, told, ?_⟩
    intro i b later answered lasts
    have here : after.register.reservations[i]? = some b := by simpa [told i] using answered
    obtain ⟨rest, whole⟩ :=
      after.reservations_prefix_run later (OfficeStep.isRenewal_of_not_mem later lasts)
    obtain ⟨inside, _⟩ := List.getElem?_eq_some_iff.mp here
    rw [← whole, List.getElem?_append_left inside, here]
  · intro steps
    apply o.legible_run steps
    rw [fresh]
    simp
  · intro earlier later lasts
    rw [run_append]
    exact reservations_prefix_run _ later (OfficeStep.isRenewal_of_not_mem later lasts)

/-- Two of five requests are accepted, the second a repetition of the first, with one
subscriber gone and another one reading. -/
theorem accepted_are_held :
    let day : Date := ⟨2025, 6, 14, by decide⟩
    let o := opened.run [.subscribe, .subscribe, .unsubscribe 0]
    let calls : List OfficeStep := [.submit "\t\u00A0" (some day) (.ok none),
      .submit " Alice" (some day) (.ok none), .drain 1, .submit "Bob" none (.ok (some .other)),
      .submit " Alice" (some day) (.ok none), .submit "" none (.ok none)]
    o.register.reservations = [] ∧ (∀ s ∈ calls, s.isCall = true) ∧
      (o.run calls).register.reservations =
        [⟨" Alice", day, .wedding⟩, ⟨" Alice", day, .wedding⟩] := by
  intro day o calls
  have fresh : o.register.reservations = [] := by decide
  have only : ∀ s ∈ calls, s.isCall = true := by decide
  refine ⟨fresh, only, ?_⟩
  exact ((register_holds_accepted o fresh).2.1 calls only).1.trans (by decide)

end Office

end BookingDesk
