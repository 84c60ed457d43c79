import BookingDesk.Proofs.Observers
import Mathlib.Data.List.DropRight
import Mathlib.Data.List.Induction

/-!
Who observes a register. Those that have left are struck off when the next reservation is
added, all at once; what is then written down is the number of those that are still
there. In between the list of observers only gets longer.
-/

namespace BookingDesk

abbrev Exchange := OfficeStep × OfficeReply

namespace Exchange

def joiner? : Exchange → Option Nat
  | (.subscribe, .subscriber handle) => some handle
  | _ => none

def leaver? : Exchange → Option Nat
  | (.unsubscribe handle, .done) => some handle
  | _ => none

/-- All that have come since the register was last replaced, in the order in which they
came. -/
def joiners (past : List Exchange) : List Nat :=
  (past.rtakeWhile fun x => !x.1.isRenewal).filterMap joiner?

def leavers (past : List Exchange) : List Nat :=
  past.filterMap leaver?

/-- The subscribers of the register in use that have not gone. -/
def present (past : List Exchange) : List Nat :=
  (joiners past).filter fun handle => handle ∉ leavers past

theorem leavers_snoc (past : List Exchange) (x : Exchange) :
    leavers (past ++ [x]) = leavers past ++ x.leaver?.toList := by
  rw [leavers, List.filterMap_append, leavers]
  cases gone : x.leaver? with
  | none => simp [gone]
  | some handle => simp [gone]

theorem joiners_snoc (past : List Exchange) (x : Exchange) (lasts : x.1.isRenewal = false) :
    joiners (past ++ [x]) = joiners past ++ x.joiner?.toList := by
  rw [joiners, List.rtakeWhile_concat, if_pos (by simp [lasts]), List.filterMap_append, joiners]
  cases come : x.joiner? with
  | none => simp [come]
  | some handle => simp [come]

theorem present_snoc_renewal (past : List Exchange) (x : Exchange)
    (renews : x.1.isRenewal = true) : present (past ++ [x]) = [] := by
  simp [present, joiners, renews]

theorem present_snoc_joiner (past : List Exchange) (x : Exchange) (lasts : x.1.isRenewal = false)
    (stays : x.leaver? = none) (fresh : ∀ handle ∈ x.joiner?, handle ∉ leavers past) :
    present (past ++ [x]) = present past ++ x.joiner?.toList := by
  have kept : x.joiner?.toList.filter (fun handle => handle ∉ leavers past) =
      x.joiner?.toList := by
    apply List.filter_eq_self.mpr
    intro handle member
    simpa using fresh handle (Option.mem_toList.mp member)
  rw [present, leavers_snoc, stays, Option.toList_none, List.append_nil,
    joiners_snoc past x lasts, List.filter_append, kept, present]

theorem present_snoc_leaver (past : List Exchange) (x : Exchange) (lasts : x.1.isRenewal = false)
    (comes : x.joiner? = none) (handle : Nat) (goes : x.leaver? = some handle) :
    present (past ++ [x]) = (present past).filter (· ≠ handle) := by
  rw [present, leavers_snoc, goes, joiners_snoc past x lasts, comes, Option.toList_none,
    List.append_nil, present, List.filter_filter]
  congr 1
  funext other
  simp [Bool.and_comm]

end Exchange

def OfficeStep.isSubscription : OfficeStep → Bool
  | .subscribe => true
  | _ => false

def LogEntry.observers? : LogEntry → Option Nat
  | .appended _ _ observers => some observers
  | _ => none

namespace Table

theorem observers?_apply (t : Table) (reservations : List Reservation) (a : Announcement) :
    (t.apply reservations a).2.filterMap LogEntry.observers? = [] := by
  unfold apply
  split <;> rfl

theorem observers?_applyAll (t : Table) (reservations : List Reservation)
    (announcements : List Announcement) :
    (t.applyAll reservations announcements).2.filterMap LogEntry.observers? = [] := by
  induction announcements generalizing t with
  | nil => rfl
  | cons a rest ih =>
    rw [applyAll, List.filterMap_append, observers?_apply, ih, List.append_nil]

end Table

namespace Office

open OfficeStep Register Exchange

def dialogue (o : Office) (steps : List OfficeStep) : List Exchange :=
  steps.zip (o.replies steps)

theorem dialogue_snoc (o : Office) (steps : List OfficeStep) (s : OfficeStep) :
    o.dialogue (steps ++ [s]) = o.dialogue steps ++ [(s, ((o.run steps).step s).2)] := by
  induction steps generalizing o with
  | nil => rfl
  | cons first rest ih =>
    have later := ih (o.step first).1
    simp only [dialogue, List.cons_append, replies, List.zip_cons_cons] at later ⊢
    rw [later]
    rfl

theorem joiner?_exchange (o : Office) (s : OfficeStep) :
    Exchange.joiner? (s, (o.step s).2) = o.register.joiner? (o.registerStep s) := by
  cases s with
  | subscribe => rfl
  | unsubscribe handle =>
    simp only [registerStep]
    split <;> rfl
  | submit name date kind =>
    cases kind with
    | error refusal => rfl
    | ok kind => exact (joiner?_additionOf _ _).symm
  | submitDraft number => exact (joiner?_additionOf _ _).symm
  | attempt number => exact (joiner?_additionOf _ _).symm
  | appendAgain index =>
    simp only [registerStep]
    split <;> rfl
  | _ => rfl

theorem leaver?_exchange (o : Office) (s : OfficeStep) :
    Exchange.leaver? (s, (o.step s).2) = (o.registerStep s).leaver? := by
  cases s with
  | unsubscribe handle =>
    simp only [Office.step, forSubscriber, registerStep]
    split <;> rfl
  | submit name date kind =>
    cases kind with
    | error refusal => rfl
    | ok kind => exact (leaver?_additionOf _).symm
  | submitDraft number => exact (leaver?_additionOf _).symm
  | attempt number => exact (leaver?_additionOf _).symm
  | appendAgain index =>
    simp only [registerStep]
    split <;> rfl
  | _ => rfl

theorem registerStep_eq_renew_iff (o : Office) (s : OfficeStep) :
    o.registerStep s = .renew ↔ s.isRenewal = true := by
  constructor
  · intro renews
    rw [← Bool.not_eq_false]
    intro lasts
    exact o.registerStep_ne_renew s lasts renews
  · intro renews
    rw [s.eq_renew renews]
    rfl

/-- The register agrees with what has been said at the office: those of its observers that
still listen are those that have come and not gone. -/
structure Attended (past : List Exchange) (r : Register) : Prop where
  orderly : r.Orderly
  gone : ∀ handle ∈ leavers past, handle < r.nextHandle
  live : r.liveObservers = present past

theorem listening_of_leaver (o : Office) (s : OfficeStep) (handle : Nat)
    (goes : (o.registerStep s).leaver? = some handle) : o.register.isListening handle = true := by
  rcases o.registerStep_cases s with what | ⟨b, what⟩ | ⟨_, what⟩ | ⟨_, what⟩ |
    ⟨leaver, rfl, what⟩ | ⟨reader, _, what | what⟩ <;> rw [what] at goes
  all_goals try contradiction
  obtain rfl := Option.some.inj goes
  by_contra silent
  rw [registerStep, if_neg silent] at what
  contradiction

theorem attended_step (past : List Exchange) (o : Office) (s : OfficeStep)
    (attended : Attended past o.register) :
    Attended (past ++ [(s, (o.step s).2)]) (o.step s).1.register := by
  have come := o.joiner?_exchange s
  have left := o.leaver?_exchange s
  have handles := o.register.nextHandle_le_step (o.registerStep s)
  have lasts (stays : o.registerStep s ≠ .renew) : s.isRenewal = false := by
    rw [← Bool.not_eq_true, ← o.registerStep_eq_renew_iff s]
    exact stays
  rw [register_step]
  refine ⟨attended.orderly.step _, ?_, ?_⟩
  · intro handle member
    rw [leavers_snoc, List.mem_append, Option.mem_toList, left] at member
    rcases member with old | new
    · exact Nat.lt_of_lt_of_le (attended.gone handle old) handles
    · have listening := o.listening_of_leaver s handle new
      exact Nat.lt_of_lt_of_le (o.register.isListening_lt handle listening) handles
  · rcases o.register.liveObservers_step (o.registerStep s) attended.orderly with
      ⟨what, live⟩ | ⟨leaver, what, live⟩ | ⟨what, stays, live⟩
    · rw [live, present_snoc_renewal _ _ ((o.registerStep_eq_renew_iff s).mp what)]
    · rw [what] at come left
      rw [live, attended.live, present_snoc_leaver past _ (lasts (by simp [what])) come leaver left]
    · rw [live, attended.live, ← come, present_snoc_joiner past _ (lasts what) (left.trans stays)]
      intro handle newcomer gone
      -- A handle that is given out now is one that nobody had before.
      rw [come] at newcomer
      have known := attended.gone handle gone
      cases change : o.registerStep s with
      | subscribe =>
        rw [change] at newcomer
        have same : o.register.nextHandle = handle := Option.some.inj newcomer
        omega
      | _ =>
        rw [change] at newcomer
        contradiction

theorem attended_run (steps : List OfficeStep) :
    Attended (opened.dialogue steps) (opened.run steps).register := by
  induction steps using List.reverseRecOn with
  | nil => exact ⟨⟨.nil, by simp [run, opened, empty]⟩, by simp [dialogue, replies, leavers], rfl⟩
  | append_singleton steps s ih =>
    rw [dialogue_snoc, run_append]
    exact attended_step _ (opened.run steps) s ih

/-- What a step writes down about observers: the number of those that still listen, if it
adds a reservation. -/
theorem observers?_logged (o : Office) (s : OfficeStep) :
    ∃ entries, (o.step s).1.journal = o.journal ++ entries ∧
      entries.filterMap LogEntry.observers? =
        ((o.registerStep s).added?.map fun _ => o.register.liveObservers.length).toList := by
  have quiet (same : (o.step s).1.journal = o.journal) (adds : (o.registerStep s).added? = none) :
      ∃ entries, (o.step s).1.journal = o.journal ++ entries ∧
        entries.filterMap LogEntry.observers? =
          ((o.registerStep s).added?.map fun _ => o.register.liveObservers.length).toList :=
    ⟨[], by rw [same, List.append_nil], by simp [adds]⟩
  cases s with
  | submit name date kind =>
    cases kind with
    | error refusal => exact quiet rfl rfl
    | ok kind =>
      simp only [Office.step, registerStep, Register.book]
      cases Request.check ⟨name, date, kind⟩ with
      | ok b => exact ⟨_, rfl, rfl⟩
      | error missing => exact ⟨[], (List.append_nil _).symm, rfl⟩
  | submitDraft number =>
    simp only [Office.step, registerStep, Draft.submit, Register.book]
    cases (o.drafts number).request.check with
    | ok b => exact ⟨_, rfl, rfl⟩
    | error missing => exact ⟨[], (List.append_nil _).symm, rfl⟩
  | attempt number =>
    simp only [Office.step, registerStep, Draft.attempt, Draft.submit, Register.book]
    cases (o.drafts number).request.check with
    | ok b => exact ⟨_, rfl, rfl⟩
    | error missing => exact ⟨_, rfl, rfl⟩
  | appendAgain index =>
    simp only [Office.step, forReservation, registerStep]
    cases o.register.reservations[index]? with
    | some b => exact ⟨_, rfl, rfl⟩
    | none => exact ⟨[], (List.append_nil _).symm, rfl⟩
  | unsubscribe handle =>
    apply quiet
    · simp only [Office.step, forSubscriber]
      split <;> rfl
    · simp only [registerStep]
      split <;> rfl
  | receive handle | drain handle =>
    apply quiet _ rfl
    simp only [Office.step, forSubscriber]
    split <;> rfl
  | row index =>
    apply quiet _ rfl
    simp only [Office.step, forReservation]
    split <;> rfl
  | equal first second =>
    apply quiet _ rfl
    simp only [Office.step, forReservation]
    split
    · split <;> rfl
    · rfl
  | edit number name date kind =>
    apply quiet _ rfl
    simp only [Office.step, edit]
    split <;> rfl
  | pump number handle =>
    simp only [Office.step, forSubscriber]
    split
    · exact ⟨_, rfl, Table.observers?_applyAll _ _ _⟩
    · exact ⟨[], (List.append_nil _).symm, rfl⟩
  | announce number announcement =>
    exact ⟨_, rfl, Table.observers?_apply _ _ _⟩
  | rebuild number => exact ⟨_, rfl, rfl⟩
  | subscribe | renew | list | rows number => exact quiet rfl rfl

theorem observers?_loggedSince (o : Office) (s : OfficeStep) :
    ((o.step s).1.loggedSince o).filterMap LogEntry.observers? =
      ((o.registerStep s).added?.map fun _ => o.register.liveObservers.length).toList := by
  obtain ⟨entries, grown, told⟩ := o.observers?_logged s
  rw [loggedSince, grown, List.drop_left, told]

theorem registerStep_of_longer (o : Office) (s : OfficeStep) (b : Reservation)
    (longer : (o.step s).1.register.reservations = o.register.reservations ++ [b]) :
    o.registerStep s = .append b := by
  cases renews : s.isRenewal with
  | true =>
    rw [s.eq_renew renews] at longer
    have impossible := congrArg List.length longer
    simp [Office.step, Register.renew] at impossible
  | false =>
    rw [o.reservations_step s renews, List.append_cancel_left_eq] at longer
    cases change : o.registerStep s with
    | append c =>
      rw [change] at longer
      simpa [RegisterStep.added?] using longer
    | _ =>
      rw [change] at longer
      contradiction

theorem not_mem_observers_run (o : Office) (steps : List OfficeStep) (subscriber : Nat)
    (known : subscriber < o.register.nextHandle) (absent : subscriber ∉ o.register.observers) :
    subscriber ∉ (o.run steps).register.observers := by
  induction steps generalizing o with
  | nil => exact absent
  | cons s rest ih =>
    have handles := o.register.nextHandle_le_step (o.registerStep s)
    have still := o.register.not_mem_observers_step (o.registerStep s) subscriber known absent
    rw [← register_step] at handles still
    exact ih (o.step s).1 (Nat.lt_of_lt_of_le known handles) still

theorem newcomers_step (o : Office) (s : OfficeStep) :
    (o.register.joiner? (o.registerStep s)).toList =
      List.range' o.register.nextHandle (if s.isSubscription then 1 else 0) := by
  rw [← joiner?_exchange]
  cases s <;> rfl

/-- As long as nothing is added, the observers are joined by one for each subscription. -/
theorem observers_run (o : Office) (steps : List OfficeStep) (lasts : .renew ∉ steps)
    (idle : (o.run steps).register.size = o.register.size) :
    (o.run steps).register.observers = o.register.observers ++
      List.range' o.register.nextHandle (steps.countP isSubscription) := by
  induction steps generalizing o with
  | nil => simp [run]
  | cons s rest ih =>
    have never := isRenewal_of_not_mem (s :: rest) lasts
    have stays := never s List.mem_cons_self
    have added := congrArg List.length (o.reservations_step s stays)
    have later := ((o.step s).1.reservations_prefix_run rest
      (fun t member => never t (List.mem_cons_of_mem _ member))).length_le
    -- The register never gets shorter, so it is as long in between.
    change ((o.step s).1.run rest).register.reservations.length =
      o.register.reservations.length at idle
    rw [List.length_append] at added
    have nothing : (o.registerStep s).added? = none := by
      rw [← Option.toList_eq_nil_iff, ← List.length_eq_zero_iff]
      omega
    have same : (o.step s).1.register.size = o.register.size := by
      unfold Register.size
      omega
    have grown := o.register.observers_step (o.registerStep s)
      (o.registerStep_ne_renew s stays) nothing
    have handles := o.register.nextHandle_step (o.registerStep s)
    rw [← register_step, newcomers_step] at grown handles
    rw [List.length_range'] at handles
    calc ((o.step s).1.run rest).register.observers
      _ = (o.step s).1.register.observers ++
            List.range' (o.step s).1.register.nextHandle (rest.countP isSubscription) :=
        ih (o.step s).1 (fun member => lasts (List.mem_cons_of_mem _ member)) (idle.trans same.symm)
      _ = o.register.observers ++ List.range' o.register.nextHandle
            ((if s.isSubscription then 1 else 0) + rest.countP isSubscription) := by
        rw [grown, handles, List.append_assoc, List.range'_append_1]
      _ = o.register.observers ++
            List.range' o.register.nextHandle ((s :: rest).countP isSubscription) := by
        rw [List.countP_cons, Nat.add_comm]

/-- Whenever a reservation is added, the number of observers that is written down is that
of the subscribers of the register in use that have not gone, and just these are left as
its observers, in the order in which they came; those that have gone are never observers
again. Between additions the observers are only joined by new subscribers, and a new
register has none. -/
theorem observers_are_those_present (steps : List OfficeStep) :
    let now := opened.run steps
    let past := opened.dialogue steps
    (present past).Pairwise (· < ·) ∧ (present past).Nodup ∧
    (∀ s : OfficeStep,
      let after := (now.step s).1
      let told := (after.loggedSince now).filterMap LogEntry.observers?
      ((∃ b, after.register.reservations = now.register.reservations ++ [b]) →
        told = [(present past).length] ∧ after.register.observers = present past ∧
        ∀ handle ∈ leavers past, ∀ later, handle ∉ (after.run later).register.observers) ∧
      ((∀ b, after.register.reservations ≠ now.register.reservations ++ [b]) → told = [])) ∧
    (∀ between, .renew ∉ between →
      (now.run between).register.size = now.register.size →
      (now.run between).register.observers = now.register.observers ++
        List.range' now.register.nextHandle (between.countP isSubscription)) ∧
    (now.step .renew).1.register.observers = [] := by
  intro now past
  have attended : Attended past now.register := attended_run steps
  have ascending : (present past).Pairwise (· < ·) := by
    rw [← attended.live]
    exact attended.orderly.ascending.sublist List.filter_sublist
  refine ⟨ascending, ascending.imp Nat.ne_of_lt, ?_, now.observers_run, rfl⟩
  intro s after told
  have logged : told = _ := now.observers?_loggedSince s
  constructor
  · rintro ⟨b, longer⟩
    have adds := now.registerStep_of_longer s b longer
    have left : after.register.observers = present past := by
      rw [← attended.live, register_step, adds]
      rfl
    refine ⟨?_, left, ?_⟩
    · rw [logged, adds, attended.live]
      rfl
    · intro handle gone later
      have handles := now.register.nextHandle_le_step (now.registerStep s)
      rw [← register_step] at handles
      apply after.not_mem_observers_run later handle
        (Nat.lt_of_lt_of_le (attended.gone handle gone) handles)
      rw [left, present, List.mem_filter]
      simp [gone]
  · intro other
    rw [logged]
    cases change : now.registerStep s with
    | append b =>
      have longer : after.register.reservations = now.register.reservations ++ [b] := by
        rw [register_step, change]
        rfl
      exact absurd longer (other b)
    | _ => rfl

/-- A new register has three subscribers, and the second of them goes after the first
addition. That somebody is told to go who is not there yet, or never comes, counts for
nothing. -/
theorem observers_after_one_has_gone :
    let day : Calendar.Date := ⟨2025, 6, 14, by decide⟩
    let steps : List OfficeStep := [.unsubscribe 2, .subscribe, .renew, .subscribe, .subscribe,
      .subscribe, .submit "Alice" (some day) (.ok none), .unsubscribe 2, .unsubscribe 7]
    let now := opened.run steps
    let after := (now.step (.appendAgain 0)).1
    now.register.observers = [1, 2, 3] ∧ present (opened.dialogue steps) = [1, 3] ∧
      after.register.observers = [1, 3] ∧
      (after.loggedSince now).filterMap LogEntry.observers? = [2] ∧
      2 ∉ (after.run [.subscribe, .appendAgain 0]).register.observers := by
  intro day steps
  obtain ⟨told, left, never⟩ :=
    ((observers_are_those_present steps).2.2.1 (.appendAgain 0)).1
      ⟨⟨"Alice", day, .wedding⟩, by decide⟩
  have here : present (opened.dialogue steps) = [1, 3] := by decide
  rw [here] at told left
  exact ⟨by decide, here, left, told, never 2 (by decide) _⟩

end Office

end BookingDesk
