import BookingDesk.Proofs.Inbox

/-!
The life of a subscription. While a subscriber is connected, what it is handed followed
by what waits for it grows by the announcements of what is added. Once the register has
been replaced nothing is added any more, and once it has left it is handed nothing.
-/

namespace BookingDesk

inductive RegisterStep where
  | rest
  | subscribe
  | unsubscribe (handle : Nat)
  | receive (handle : Nat)
  | drain (handle : Nat)
  | renew
  | append (reservation : Reservation)
deriving DecidableEq

namespace Register

def step (r : Register) : RegisterStep → Register
  | .rest => r
  | .subscribe => r.subscribe
  | .unsubscribe handle => r.unsubscribe handle
  | .receive handle => r.receive handle
  | .drain handle => r.drain handle
  | .renew => r.renew
  | .append b => r.append b

/-- What an operation takes from the inbox of one subscriber and hands over. -/
def handed (r : Register) (subscriber : Nat) : RegisterStep → List Announcement
  | .receive handle => if handle = subscriber then (r.queue subscriber).take 1 else []
  | .drain handle => if handle = subscriber then r.queue subscriber else []
  | _ => []

/-- The register announces to the subscriber, who listens. -/
def Connected (r : Register) (subscriber : Nat) : Prop :=
  subscriber ∈ r.observers ∧ r.isListening subscriber = true

/-- The subscriber is one of old whom the register does not announce to. -/
def Detached (r : Register) (subscriber : Nat) : Prop :=
  subscriber ∉ r.observers ∧ subscriber < r.nextHandle

theorem connected_subscribe (r : Register) : r.subscribe.Connected r.nextHandle :=
  ⟨by simp [subscribe], by simp [isListening_subscribe]⟩

theorem isListening_step (r : Register) (s : RegisterStep) (subscriber : Nat)
    (stays : s ≠ .unsubscribe subscriber) (listening : r.isListening subscriber = true) :
    (r.step s).isListening subscriber = true := by
  cases s with
  | rest => exact listening
  | subscribe => simp [step, isListening_subscribe, listening]
  | unsubscribe handle =>
    have other : subscriber ≠ handle := by
      intro same
      exact stays (by rw [same])
    rw [step, r.isListening_unsubscribe_of_ne handle subscriber other, listening]
  | receive handle => rw [step, isListening_receive, listening]
  | drain handle => rw [step, isListening_drain, listening]
  | renew => exact listening
  | append b => rw [step, isListening_append, listening]

theorem handed_append_queue (r : Register) (s : RegisterStep) (subscriber : Nat)
    (stays : s ≠ .unsubscribe subscriber)
    (unannounced : ∀ b, s = .append b → subscriber ∉ r.observers) :
    r.handed subscriber s ++ (r.step s).queue subscriber = r.queue subscriber := by
  cases s with
  | rest => rfl
  | subscribe => exact r.queue_subscribe subscriber
  | unsubscribe handle =>
    have other : subscriber ≠ handle := by
      intro same
      exact stays (by rw [same])
    exact r.queue_unsubscribe_of_ne handle subscriber other
  | receive handle =>
    rw [step, queue_receive]
    by_cases same : subscriber = handle
    · subst same
      rw [handed, if_pos rfl, if_pos rfl, ← List.drop_one]
      exact List.take_append_drop 1 _
    · rw [handed, if_neg (Ne.symm same), if_neg same]
      rfl
  | drain handle =>
    rw [step, queue_drain]
    by_cases same : subscriber = handle
    · subst same
      rw [handed, if_pos rfl, if_pos rfl, List.append_nil]
    · rw [handed, if_neg (Ne.symm same), if_neg same]
      rfl
  | renew => rfl
  | append b => exact r.queue_append_of_not_mem b subscriber (unannounced b rfl)

/-- One operation while the subscriber is connected: what it is handed, followed by what
waits for it then, is what waited before and the announcements of what is added. -/
theorem connected_step (r : Register) (s : RegisterStep) (subscriber : Nat)
    (stays : s ≠ .unsubscribe subscriber) (lasts : s ≠ .renew)
    (connected : r.Connected subscriber) :
    (r.step s).Connected subscriber ∧ r.size ≤ (r.step s).size ∧
      r.handed subscriber s ++ (r.step s).queue subscriber =
        r.queue subscriber ++ Announcement.between r.size (r.step s).size := by
  obtain ⟨observing, listening⟩ := connected
  have still := r.isListening_step s subscriber stays listening
  -- An operation that adds nothing leaves the size, and so the announcements, alone.
  have quiet : (∀ b, s ≠ .append b) → (r.step s).size = r.size →
      r.handed subscriber s ++ (r.step s).queue subscriber =
        r.queue subscriber ++ Announcement.between r.size (r.step s).size := by
    intro nothing same
    rw [same, Announcement.between_self, List.append_nil]
    exact r.handed_append_queue s subscriber stays (fun b adds => absurd adds (nothing b))
  cases s with
  | rest => exact ⟨⟨observing, still⟩, Nat.le_refl _, quiet (by simp) rfl⟩
  | subscribe =>
    exact ⟨⟨List.mem_append_left _ observing, still⟩, Nat.le_refl _, quiet (by simp) rfl⟩
  | unsubscribe handle => exact ⟨⟨observing, still⟩, Nat.le_refl _, quiet (by simp) rfl⟩
  | receive handle =>
    obtain ⟨same, observers, _⟩ := r.receive_frame handle
    have size := congrArg List.length same
    exact ⟨⟨observers ▸ observing, still⟩, Nat.le_of_eq size.symm, quiet (by simp) size⟩
  | drain handle =>
    obtain ⟨same, observers, _⟩ := r.drain_frame handle
    have size := congrArg List.length same
    exact ⟨⟨observers ▸ observing, still⟩, Nat.le_of_eq size.symm, quiet (by simp) size⟩
  | renew => exact absurd rfl lasts
  | append b =>
    have live : subscriber ∈ (r.append b).observers := by
      simp [append, liveObservers, observing, listening]
    refine ⟨⟨live, still⟩, ?_, ?_⟩
    · rw [step, r.size_append]
      omega
    · rw [step, r.size_append, Announcement.between_succ]
      exact r.queue_append_of_mem b subscriber observing listening

theorem detached_renew (r : Register) (subscriber : Nat) (known : subscriber < r.nextHandle) :
    r.renew.Detached subscriber :=
  ⟨by simp [renew], known⟩

/-- One operation after the subscriber's register has been replaced: what waits is handed
over or goes on waiting, and nothing is added to it. -/
theorem detached_step (r : Register) (s : RegisterStep) (subscriber : Nat)
    (stays : s ≠ .unsubscribe subscriber) (detached : r.Detached subscriber) :
    (r.step s).Detached subscriber ∧
      r.handed subscriber s ++ (r.step s).queue subscriber = r.queue subscriber := by
  obtain ⟨absent, known⟩ := detached
  refine ⟨?_, r.handed_append_queue s subscriber stays (fun _ _ => absent)⟩
  cases s with
  | rest => exact ⟨absent, known⟩
  | subscribe =>
    have other : subscriber ≠ r.nextHandle := by omega
    refine ⟨by simp [step, subscribe, absent, other], ?_⟩
    simp only [step, subscribe, nextHandle, List.length_append]
    exact Nat.lt_add_right _ known
  | unsubscribe handle => exact ⟨absent, by simpa [step, unsubscribe, nextHandle] using known⟩
  | receive handle =>
    obtain ⟨_, observers, handles⟩ := r.receive_frame handle
    exact ⟨observers ▸ absent, handles ▸ known⟩
  | drain handle =>
    obtain ⟨_, observers, handles⟩ := r.drain_frame handle
    exact ⟨observers ▸ absent, handles ▸ known⟩
  | renew => exact r.detached_renew subscriber known
  | append b =>
    refine ⟨by simp [step, append, liveObservers, absent], ?_⟩
    simpa [step, append, nextHandle] using known

theorem nextHandle_le_step (r : Register) (s : RegisterStep) :
    r.nextHandle ≤ (r.step s).nextHandle := by
  cases s with
  | receive handle => exact Nat.le_of_eq (r.receive_frame handle).2.2.symm
  | drain handle => exact Nat.le_of_eq (r.drain_frame handle).2.2.symm
  | _ => simp [step, nextHandle, subscribe, unsubscribe, renew, append]

theorem gone_step (r : Register) (s : RegisterStep) (subscriber : Nat)
    (known : subscriber < r.nextHandle) (gone : r.isListening subscriber = false) :
    (r.step s).isListening subscriber = false ∧ r.handed subscriber s = [] := by
  have nothing := r.queue_of_not_listening subscriber gone
  cases s with
  | rest => exact ⟨gone, rfl⟩
  | subscribe =>
    have other : subscriber ≠ r.nextHandle := by omega
    exact ⟨by simp [step, isListening_subscribe, gone, other], rfl⟩
  | unsubscribe handle =>
    refine ⟨?_, rfl⟩
    by_cases same : subscriber = handle
    · rw [same]
      exact r.isListening_unsubscribe_self handle
    · rw [step, r.isListening_unsubscribe_of_ne handle subscriber same, gone]
  | receive handle => exact ⟨by rw [step, isListening_receive, gone], by simp [handed, nothing]⟩
  | drain handle => exact ⟨by rw [step, isListening_drain, gone], by simp [handed, nothing]⟩
  | renew => exact ⟨gone, rfl⟩
  | append b => exact ⟨by rw [step, isListening_append, gone], rfl⟩

end Register

end BookingDesk
