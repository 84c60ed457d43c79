import BookingDesk.Proofs.AcceptedRequests

/-!
How the observers of a register change. They stand in the order in which they came; those
that have gone stay on the list up to the next addition and are then struck off for good.
-/

namespace BookingDesk

def RegisterStep.leaver? : RegisterStep → Option Nat
  | .unsubscribe handle => some handle
  | _ => none

namespace Register

/-- The observers stand in the order in which they came. -/
structure Orderly (r : Register) : Prop where
  ascending : r.observers.Pairwise (· < ·)
  known : ∀ handle ∈ r.observers, handle < r.nextHandle

def joiner? (r : Register) : RegisterStep → Option Nat
  | .subscribe => some r.nextHandle
  | _ => none

theorem nextHandle_step (r : Register) (s : RegisterStep) :
    (r.step s).nextHandle = r.nextHandle + (r.joiner? s).toList.length := by
  cases s with
  | receive handle => exact (r.receive_frame handle).2.2
  | drain handle => exact (r.drain_frame handle).2.2
  | _ => simp [step, joiner?, nextHandle, subscribe, unsubscribe, renew, append]

/-- Only an addition strikes observers off, and only a replacement dismisses them. -/
theorem observers_step (r : Register) (s : RegisterStep) (lasts : s ≠ .renew)
    (adds : s.added? = none) : (r.step s).observers = r.observers ++ (r.joiner? s).toList := by
  cases s with
  | receive handle => simpa [step, joiner?] using (r.receive_frame handle).2.1
  | drain handle => simpa [step, joiner?] using (r.drain_frame handle).2.1
  | renew => contradiction
  | append b => contradiction
  | _ => simp [step, joiner?, subscribe, unsubscribe]

theorem Orderly.of_sublist {r next : Register} (orderly : r.Orderly)
    (fewer : next.observers.Sublist r.observers) (handles : r.nextHandle ≤ next.nextHandle) :
    next.Orderly where
  ascending := orderly.ascending.sublist fewer
  known := fun handle member =>
    Nat.lt_of_lt_of_le (orderly.known handle (fewer.subset member)) handles

theorem Orderly.step {r : Register} (orderly : r.Orderly) (s : RegisterStep) :
    (r.step s).Orderly := by
  have handles := r.nextHandle_le_step s
  cases s with
  | subscribe =>
    refine ⟨?_, ?_⟩
    · apply List.pairwise_append.mpr
      refine ⟨orderly.ascending, List.pairwise_singleton _ _, ?_⟩
      intro handle member newcomer new
      rw [List.mem_singleton.mp new]
      exact orderly.known handle member
    · intro handle member
      rw [nextHandle_step]
      rcases List.mem_append.mp member with old | new
      · have known := orderly.known handle old
        omega
      · rw [List.mem_singleton.mp new]
        exact Nat.lt_succ_self _
  | renew => exact orderly.of_sublist (List.nil_sublist _) handles
  | append b => exact orderly.of_sublist List.filter_sublist handles
  | receive handle =>
    have same : (r.receive handle).observers = r.observers := (r.receive_frame handle).2.1
    exact orderly.of_sublist (same ▸ List.Sublist.refl _) handles
  | drain handle =>
    have same : (r.drain handle).observers = r.observers := (r.drain_frame handle).2.1
    exact orderly.of_sublist (same ▸ List.Sublist.refl _) handles
  | rest | unsubscribe handle => exact orderly.of_sublist (List.Sublist.refl _) handles

theorem not_mem_observers_step (r : Register) (s : RegisterStep) (subscriber : Nat)
    (known : subscriber < r.nextHandle) (absent : subscriber ∉ r.observers) :
    subscriber ∉ (r.step s).observers := by
  cases s with
  | subscribe =>
    have other : subscriber ≠ r.nextHandle := by omega
    simp [step, subscribe, absent, other]
  | renew => simp [step, renew]
  | append b => simp [step, append, liveObservers, absent]
  | receive handle => rwa [step, (r.receive_frame handle).2.1]
  | drain handle => rwa [step, (r.drain_frame handle).2.1]
  | rest | unsubscribe handle => exact absent

theorem liveObservers_subscribe (r : Register) (orderly : r.Orderly) :
    r.subscribe.liveObservers = r.liveObservers ++ [r.nextHandle] := by
  have old : r.observers.filter r.subscribe.isListening = r.observers.filter r.isListening := by
    apply List.filter_congr
    intro handle member
    have known := orderly.known handle member
    rw [isListening_subscribe, decide_eq_false (by omega), Bool.false_or]
  have new : r.subscribe.isListening r.nextHandle = true := by
    simp [isListening_subscribe]
  calc (r.observers ++ [r.nextHandle]).filter r.subscribe.isListening
    _ = r.observers.filter r.subscribe.isListening ++ [r.nextHandle] := by
      rw [List.filter_append, List.filter_cons_of_pos new, List.filter_nil]
    _ = r.liveObservers ++ [r.nextHandle] := by rw [old, liveObservers]

theorem liveObservers_unsubscribe (r : Register) (leaver : Nat) :
    (r.unsubscribe leaver).liveObservers = r.liveObservers.filter (· ≠ leaver) := by
  have listening (handle : Nat) : (r.unsubscribe leaver).isListening handle =
      (decide (handle ≠ leaver) && r.isListening handle) := by
    by_cases same : handle = leaver
    · rw [same, isListening_unsubscribe_self]
      simp
    · rw [r.isListening_unsubscribe_of_ne leaver handle same]
      simp [same]
  rw [liveObservers, liveObservers, List.filter_filter]
  exact List.filter_congr fun handle _ => listening handle

/-- The observers that still listen change by those that come and go, and go all together
when the register is replaced. -/
theorem liveObservers_step (r : Register) (s : RegisterStep) (orderly : r.Orderly) :
    (s = .renew ∧ (r.step s).liveObservers = []) ∨
    (∃ leaver, s = .unsubscribe leaver ∧
      (r.step s).liveObservers = r.liveObservers.filter (· ≠ leaver)) ∨
    (s ≠ .renew ∧ s.leaver? = none ∧
      (r.step s).liveObservers = r.liveObservers ++ (r.joiner? s).toList) := by
  cases s with
  | renew => exact .inl ⟨rfl, rfl⟩
  | unsubscribe leaver => exact .inr (.inl ⟨leaver, rfl, r.liveObservers_unsubscribe leaver⟩)
  | subscribe => exact .inr (.inr ⟨by simp, rfl, r.liveObservers_subscribe orderly⟩)
  | rest => exact .inr (.inr ⟨by simp, rfl, (List.append_nil _).symm⟩)
  | receive handle =>
    have same : (r.receive handle).liveObservers = r.liveObservers := by
      rw [liveObservers, (r.receive_frame handle).2.1]
      exact List.filter_congr fun other _ => r.isListening_receive handle other
    exact .inr (.inr ⟨by simp, rfl, same.trans (List.append_nil _).symm⟩)
  | drain handle =>
    have same := r.liveObservers_drain handle
    exact .inr (.inr ⟨by simp, rfl, same.trans (List.append_nil _).symm⟩)
  | append b =>
    have listening : (r.append b).isListening = r.isListening := by
      funext handle
      exact r.isListening_append b handle
    have same : (r.append b).liveObservers = r.liveObservers := by
      rw [liveObservers, listening]
      exact List.filter_filter.trans (by simp [liveObservers])
    exact .inr (.inr ⟨by simp, rfl, same.trans (List.append_nil _).symm⟩)

theorem joiner?_additionOf (r : Register) (result : Except Missing Reservation) :
    r.joiner? (additionOf result) = none := by
  cases result <;> rfl

theorem leaver?_additionOf (result : Except Missing Reservation) :
    (additionOf result).leaver? = none := by
  cases result <;> rfl

end Register

end BookingDesk
