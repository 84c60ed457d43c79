import BookingDesk.Proofs.OfficeRegister

/-!
Every subscriber gets the announcements of just those reservations that were made while
it was subscribed, whatever the office does for others in between.
-/

namespace BookingDesk

namespace OfficeStep

def isRenewal : OfficeStep → Bool
  | .renew => true
  | _ => false

def isLeave (subscriber : Nat) : OfficeStep → Bool
  | .unsubscribe handle => handle == subscriber
  | _ => false

theorem takeWhile_append_cons (stop : OfficeStep → Bool) (first second : List OfficeStep)
    (s : OfficeStep) (stops : stop s = true) :
    (first ++ s :: second).takeWhile (fun t => !stop t) = first.takeWhile (fun t => !stop t) := by
  induction first with
  | nil => simp [stops]
  | cons t rest ih =>
    rw [List.cons_append, List.takeWhile_cons, List.takeWhile_cons, ih]

theorem endless_or_stopped (stop : OfficeStep → Bool) (steps : List OfficeStep) :
    ((∀ s ∈ steps, stop s = false) ∧ steps.takeWhile (fun t => !stop t) = steps) ∨
    ∃ first s rest, steps = first ++ s :: rest ∧ (∀ t ∈ first, stop t = false) ∧
      stop s = true ∧ steps.takeWhile (fun t => !stop t) = first := by
  induction steps with
  | nil => exact .inl ⟨by simp, rfl⟩
  | cons s rest ih =>
    cases stops : stop s with
    | true => exact .inr ⟨[], s, rest, rfl, by simp, stops, by simp [stops]⟩
    | false =>
      rcases ih with ⟨none, whole⟩ | ⟨first, t, later, rfl, clear, halts, part⟩
      · exact .inl ⟨by simpa [stops] using none, by simp [stops, whole]⟩
      · refine .inr ⟨s :: first, t, later, rfl, ?_, halts, ?_⟩
        · simpa [stops] using clear
        · rw [List.takeWhile_cons, stops, part]
          rfl

def untilLeave (subscriber : Nat) (steps : List OfficeStep) : List OfficeStep :=
  steps.takeWhile fun s => !s.isLeave subscriber

def untilRenewal (steps : List OfficeStep) : List OfficeStep :=
  steps.takeWhile fun s => !s.isRenewal

theorem eq_renew (s : OfficeStep) (renews : s.isRenewal = true) : s = .renew := by
  cases s with
  | renew => rfl
  | _ => contradiction

theorem untilLeave_append_of_stays (subscriber : Nat) (first second : List OfficeStep)
    (stays : ∀ s ∈ first, s.isLeave subscriber = false) :
    untilLeave subscriber (first ++ second) = first ++ untilLeave subscriber second := by
  rw [untilLeave, List.takeWhile_append_of_pos (by simpa using stays), untilLeave]

theorem untilLeave_append_of_left (subscriber : Nat) (first rest second : List OfficeStep)
    (s : OfficeStep) (leaves : s.isLeave subscriber = true) :
    untilLeave subscriber (first ++ s :: rest ++ second) =
      untilLeave subscriber (first ++ s :: rest) := by
  rw [List.append_assoc, List.cons_append]
  exact (takeWhile_append_cons _ first _ s leaves).trans
    (takeWhile_append_cons _ first _ s leaves).symm

theorem isLeave_untilLeave (subscriber : Nat) (steps : List OfficeStep) :
    ∀ s ∈ untilLeave subscriber steps, s.isLeave subscriber = false := by
  rcases endless_or_stopped (isLeave subscriber) steps with
    ⟨stays, whole⟩ | ⟨first, s, rest, _, stays, _, part⟩
  · rw [untilLeave, whole]
    exact stays
  · rw [untilLeave, part]
    exact stays

theorem untilRenewal_untilLeave (subscriber : Nat) (first later : List OfficeStep) :
    untilRenewal (untilLeave subscriber (first ++ .renew :: later)) =
      untilRenewal (untilLeave subscriber first) := by
  rcases endless_or_stopped (isLeave subscriber) first with
    ⟨stays, whole⟩ | ⟨front, s, rest, rfl, _, leaves, _⟩
  · have renewed : untilLeave subscriber (.renew :: later) =
        .renew :: untilLeave subscriber later := by simp [untilLeave, isLeave]
    rw [untilLeave_append_of_stays subscriber first _ stays, renewed,
      show untilLeave subscriber first = first from whole]
    exact takeWhile_append_cons isRenewal first _ .renew rfl
  · rw [untilLeave_append_of_left subscriber front rest _ s leaves]

end OfficeStep

namespace Office

open OfficeStep Register

/-- What a subscriber has received, followed by what waits for it or was waiting when it
left. -/
def stream (o : Office) (subscriber : Nat) (steps : List OfficeStep) : List Announcement :=
  o.received subscriber steps ++
    (o.run (untilLeave subscriber steps)).register.queue subscriber

theorem registerStep_ne_unsubscribe (o : Office) (s : OfficeStep) (subscriber : Nat)
    (stays : s.isLeave subscriber = false) : o.registerStep s ≠ .unsubscribe subscriber := by
  intro leaves
  rcases o.registerStep_cases s with what | ⟨b, what⟩ | ⟨_, what⟩ | ⟨_, what⟩ |
    ⟨handle, rfl, what⟩ | ⟨handle, _, what | what⟩ <;> rw [what] at leaves
  all_goals try contradiction
  injection leaves with same
  simp [isLeave, same] at stays

theorem registerStep_ne_renew (o : Office) (s : OfficeStep) (lasts : s.isRenewal = false) :
    o.registerStep s ≠ .renew := by
  intro renews
  rcases o.registerStep_cases s with what | ⟨b, what⟩ | ⟨_, what⟩ | ⟨rfl, what⟩ |
    ⟨handle, _, what⟩ | ⟨handle, _, what | what⟩ <;> rw [what] at renews <;> contradiction

theorem run_connected (o : Office) (steps : List OfficeStep) (subscriber : Nat)
    (stays : ∀ s ∈ steps, s.isLeave subscriber = false)
    (lasts : ∀ s ∈ steps, s.isRenewal = false) (connected : o.register.Connected subscriber) :
    (o.run steps).register.Connected subscriber ∧
      o.register.size ≤ (o.run steps).register.size ∧
      o.received subscriber steps ++ (o.run steps).register.queue subscriber =
        o.register.queue subscriber ++
          Announcement.between o.register.size (o.run steps).register.size := by
  induction steps generalizing o with
  | nil =>
    refine ⟨connected, Nat.le_refl _, ?_⟩
    simp [received, run, Announcement.between_self]
  | cons s rest ih =>
    have first := o.register.connected_step (o.registerStep s) subscriber
      (o.registerStep_ne_unsubscribe s subscriber (stays s List.mem_cons_self))
      (o.registerStep_ne_renew s (lasts s List.mem_cons_self)) connected
    rw [← register_step, ← handed_eq] at first
    obtain ⟨still, grown, step⟩ := first
    obtain ⟨last, more, later⟩ := ih (o.step s).1
      (fun t member => stays t (List.mem_cons_of_mem _ member))
      (fun t member => lasts t (List.mem_cons_of_mem _ member)) still
    refine ⟨last, Nat.le_trans grown more, ?_⟩
    calc o.received subscriber (s :: rest) ++ (o.run (s :: rest)).register.queue subscriber
      _ = o.handed subscriber s ++ ((o.step s).1.received subscriber rest ++
            ((o.step s).1.run rest).register.queue subscriber) := List.append_assoc _ _ _
      _ = (o.handed subscriber s ++ (o.step s).1.register.queue subscriber) ++
            Announcement.between (o.step s).1.register.size
              ((o.step s).1.run rest).register.size := by rw [later, List.append_assoc]
      _ = o.register.queue subscriber ++ Announcement.between o.register.size
            ((o.step s).1.run rest).register.size := by
        rw [step, List.append_assoc, Announcement.between_append _ _ _ grown more]

theorem run_detached (o : Office) (steps : List OfficeStep) (subscriber : Nat)
    (stays : ∀ s ∈ steps, s.isLeave subscriber = false)
    (detached : o.register.Detached subscriber) :
    (o.run steps).register.Detached subscriber ∧
      o.received subscriber steps ++ (o.run steps).register.queue subscriber =
        o.register.queue subscriber := by
  induction steps generalizing o with
  | nil => exact ⟨detached, rfl⟩
  | cons s rest ih =>
    have first := o.register.detached_step (o.registerStep s) subscriber
      (o.registerStep_ne_unsubscribe s subscriber (stays s List.mem_cons_self)) detached
    rw [← register_step, ← handed_eq] at first
    obtain ⟨last, later⟩ := ih (o.step s).1
      (fun t member => stays t (List.mem_cons_of_mem _ member)) first.1
    refine ⟨last, ?_⟩
    rw [received, List.append_assoc]
    exact (congrArg (o.handed subscriber s ++ ·) later).trans first.2

theorem run_listening (o : Office) (steps : List OfficeStep) (subscriber : Nat)
    (stays : ∀ s ∈ steps, s.isLeave subscriber = false)
    (listening : o.register.isListening subscriber = true) :
    (o.run steps).register.isListening subscriber = true := by
  induction steps generalizing o with
  | nil => exact listening
  | cons s rest ih =>
    have first := o.register.isListening_step (o.registerStep s) subscriber
      (o.registerStep_ne_unsubscribe s subscriber (stays s List.mem_cons_self)) listening
    rw [← register_step] at first
    exact ih (o.step s).1 (fun t member => stays t (List.mem_cons_of_mem _ member)) first

theorem received_of_gone (o : Office) (steps : List OfficeStep) (subscriber : Nat)
    (known : subscriber < o.register.nextHandle)
    (gone : o.register.isListening subscriber = false) :
    o.received subscriber steps = [] := by
  induction steps generalizing o with
  | nil => rfl
  | cons s rest ih =>
    have first := o.register.gone_step (o.registerStep s) subscriber known gone
    have handles := o.register.nextHandle_le_step (o.registerStep s)
    rw [← register_step] at first handles
    rw [← handed_eq] at first
    rw [received, first.2, List.nil_append]
    exact ih (o.step s).1 (Nat.lt_of_lt_of_le known handles) first.1

theorem nextHandle_le_run (o : Office) (steps : List OfficeStep) :
    o.register.nextHandle ≤ (o.run steps).register.nextHandle := by
  induction steps generalizing o with
  | nil => exact Nat.le_refl _
  | cons s rest ih =>
    have first := o.register.nextHandle_le_step (o.registerStep s)
    rw [← register_step] at first
    exact Nat.le_trans first (ih (o.step s).1)

theorem received_leave (o : Office) (s : OfficeStep) (rest : List OfficeStep) (subscriber : Nat)
    (known : subscriber < o.register.nextHandle) (leaves : s.isLeave subscriber = true) :
    o.received subscriber (s :: rest) = [] := by
  cases s with
  | unsubscribe handle =>
    have same : handle = subscriber := by simpa [isLeave] using leaves
    subst same
    have handles := o.register.nextHandle_le_step (o.registerStep (.unsubscribe handle))
    rw [← register_step] at handles
    have gone : (o.step (.unsubscribe handle)).1.register.isListening handle = false := by
      cases listening : o.register.isListening handle with
      | true =>
        simp only [Office.step, forSubscriber, listening, ↓reduceIte]
        exact o.register.isListening_unsubscribe_self handle
      | false => simp [Office.step, forSubscriber, listening]
    exact received_of_gone _ rest handle (Nat.lt_of_lt_of_le known handles) gone
  | _ => contradiction

theorem received_untilLeave (o : Office) (steps : List OfficeStep) (subscriber : Nat)
    (known : subscriber < o.register.nextHandle) :
    o.received subscriber steps = o.received subscriber (untilLeave subscriber steps) := by
  rcases endless_or_stopped (isLeave subscriber) steps with
    ⟨_, whole⟩ | ⟨first, s, rest, rfl, _, leaves, part⟩
  · rw [untilLeave, whole]
  · have later := nextHandle_le_run o first
    rw [untilLeave, part, received_append,
      received_leave _ s rest subscriber (Nat.lt_of_lt_of_le known later) leaves, List.append_nil]

/-- A run with a replacement in it: the stream has come to its end there. -/
theorem run_renewed (o : Office) (first rest : List OfficeStep) (subscriber : Nat)
    (stays : ∀ s ∈ first ++ .renew :: rest, s.isLeave subscriber = false)
    (lasts : ∀ s ∈ first, s.isRenewal = false) (connected : o.register.Connected subscriber) :
    (o.run (first ++ .renew :: rest)).register.Detached subscriber ∧
      o.received subscriber (first ++ .renew :: rest) ++
        (o.run (first ++ .renew :: rest)).register.queue subscriber =
          o.register.queue subscriber ++
            Announcement.between o.register.size (o.run first).register.size := by
  have staysFirst : ∀ s ∈ first, s.isLeave subscriber = false :=
    fun s member => stays s (List.mem_append_left _ member)
  have staysRest : ∀ s ∈ rest, s.isLeave subscriber = false :=
    fun s member => stays s (List.mem_append_right _ (List.mem_cons_of_mem _ member))
  obtain ⟨held, _, before⟩ := run_connected o first subscriber staysFirst lasts connected
  have inside := (o.run first).register.isListening_lt subscriber held.2
  obtain ⟨detached, after⟩ := run_detached ((o.run first).step .renew).1 rest subscriber staysRest
    ((o.run first).register.detached_renew subscriber inside)
  have handed : (o.run first).handed subscriber .renew = [] := rfl
  rw [run_append, received_append, received, handed, List.nil_append, List.append_assoc]
  exact ⟨detached, (congrArg (o.received subscriber first ++ ·) after).trans before⟩

theorem stream_eq (o : Office) (steps : List OfficeStep) (subscriber : Nat)
    (connected : o.register.Connected subscriber) (fresh : o.register.queue subscriber = []) :
    o.stream subscriber steps = Announcement.between o.register.size
      (o.run (untilRenewal (untilLeave subscriber steps))).register.size := by
  have known := o.register.isListening_lt subscriber connected.2
  have stays := isLeave_untilLeave subscriber steps
  rw [stream, received_untilLeave o steps subscriber known]
  -- What follows the leaving counts for nothing, so the run is cut there.
  generalize untilLeave subscriber steps = alive at stays
  rcases endless_or_stopped isRenewal alive with
    ⟨lasts, whole⟩ | ⟨first, s, rest, rfl, lasts, renews, part⟩
  · have all := (run_connected o alive subscriber stays lasts connected).2.2
    rw [untilRenewal, whole, all, fresh, List.nil_append]
  · have renewed := s.eq_renew renews
    subst renewed
    have all := (run_renewed o first rest subscriber stays lasts connected).2
    rw [untilRenewal, part, all, fresh, List.nil_append]

/-- A step that takes nothing from the queue but what it hands over leaves the stream. -/
theorem stream_snoc (o : Office) (steps : List OfficeStep) (s : OfficeStep) (subscriber : Nat)
    (known : subscriber < o.register.nextHandle) (stays : s.isLeave subscriber = false)
    (kept : (o.run steps).handed subscriber s ++
      ((o.run steps).step s).1.register.queue subscriber =
        (o.run steps).register.queue subscriber) :
    o.stream subscriber (steps ++ [s]) = o.stream subscriber steps := by
  rcases endless_or_stopped (isLeave subscriber) steps with
    ⟨present, whole⟩ | ⟨first, t, rest, rfl, _, leaves, _⟩
  · have one : untilLeave subscriber [s] = [s] := by simp [untilLeave, stays]
    rw [stream, stream, untilLeave_append_of_stays subscriber steps [s] present, one,
      show untilLeave subscriber steps = steps from whole, received_append, run_append,
      List.append_assoc, ← kept]
    simp only [received, List.append_nil]
    rfl
  · rw [stream, stream, received_untilLeave o _ subscriber known,
      received_untilLeave o (first ++ t :: rest) subscriber known,
      untilLeave_append_of_left subscriber first rest [s] t leaves]

theorem handed_append_queue_of_other (o : Office) (s : OfficeStep) (subscriber : Nat)
    (others : s = .subscribe ∨ ∃ other, s.subject? = some other ∧ other ≠ subscriber) :
    s.isLeave subscriber = false ∧
      o.handed subscriber s ++ (o.step s).1.register.queue subscriber =
        o.register.queue subscriber := by
  have stays : s.isLeave subscriber = false := by
    rcases others with rfl | ⟨other, about, different⟩
    · rfl
    · cases s with
      | unsubscribe handle =>
        have same : handle = other := Option.some.inj about
        simpa [isLeave, same] using different
      | _ => rfl
  have unannounced : ∀ b, o.registerStep s ≠ .append b := by
    intro b
    rcases others with rfl | ⟨other, about, _⟩
    · simp [registerStep]
    · cases s with
      | unsubscribe handle =>
        simp only [registerStep]
        split <;> simp
      | receive handle => simp [registerStep]
      | drain handle => simp [registerStep]
      | pump number handle => simp [registerStep]
      | _ => contradiction
  rw [handed_eq, register_step]
  exact ⟨stays, o.register.handed_append_queue _ subscriber
    (o.registerStep_ne_unsubscribe s subscriber stays)
    (fun b adds => absurd adds (unannounced b))⟩

theorem handed_append_queue_of_rejection (o : Office) (s : OfficeStep) (subscriber : Nat)
    (rejected : (o.step s).2.isRejection = true) :
    s.isLeave subscriber = false ∧
      o.handed subscriber s ++ (o.step s).1.register.queue subscriber =
        o.register.queue subscriber := by
  constructor
  · cases s with
    | unsubscribe handle =>
      simp only [Office.step, forSubscriber] at rejected
      split at rejected <;> contradiction
    | _ => rfl
  · rw [handed_eq, register_step, o.registerStep_of_rejection s rejected]
    rfl

theorem mem_observers_run (o : Office) (steps : List OfficeStep) (subscriber : Nat)
    (stays : ∀ s ∈ steps, s.isLeave subscriber = false)
    (connected : o.register.Connected subscriber) :
    subscriber ∈ (o.run steps).register.observers ↔ .renew ∉ steps := by
  rcases endless_or_stopped isRenewal steps with
    ⟨lasts, _⟩ | ⟨first, s, rest, rfl, lasts, renews, _⟩
  · have held := (run_connected o steps subscriber stays lasts connected).1
    refine ⟨?_, fun _ => held.1⟩
    intro _ member
    exact absurd (lasts _ member) (by decide)
  · have renewed := s.eq_renew renews
    subst renewed
    have detached := (run_renewed o first rest subscriber stays lasts connected).1
    exact ⟨fun observing => absurd observing detached.1, fun never => absurd (by simp) never⟩

theorem receive_disconnected (o : Office) (subscriber : Nat)
    (listening : o.register.isListening subscriber = true) :
    (o.step (.receive subscriber)).2 = .delivery .disconnected ↔
      subscriber ∉ o.register.observers ∧ o.register.queue subscriber = [] := by
  simp only [Office.step, forSubscriber, listening, ↓reduceIte, delivery]
  cases o.register.queue subscriber with
  | nil => simp
  | cons a rest => simp

/-- What a subscriber has received and what waits for it (or waited when it left) are the
announcements of the reservations that its register got from the moment it subscribed,
up to now, to the replacement of the register, or to its leaving. Nothing that others
do, no rejected request and no later register changes this, and it is told of being
disconnected just when its register has been replaced and nothing waits any more. -/
theorem stream_of_subscriber (before after : List OfficeStep) :
    let start := opened.run before
    let subscriber := start.register.nextHandle
    let joined := (start.step .subscribe).1
    let now := joined.run after
    let closing := joined.run (untilRenewal (untilLeave subscriber after))
    (start.step .subscribe).2 = .subscriber subscriber ∧
    joined.stream subscriber after =
      (List.range' start.register.size (closing.register.size - start.register.size)).map
        (fun index => ⟨index, index + 1⟩) ∧
    (∀ s : OfficeStep,
      (s = .subscribe ∨ ∃ other, s.subject? = some other ∧ other ≠ subscriber) →
      joined.stream subscriber (after ++ [s]) = joined.stream subscriber after) ∧
    (∀ s : OfficeStep, (now.step s).2.isRejection = true →
      joined.stream subscriber (after ++ [s]) = joined.stream subscriber after) ∧
    (∀ first later, after = first ++ .renew :: later →
      joined.stream subscriber after = joined.stream subscriber first) ∧
    (.unsubscribe subscriber ∉ after →
      ((now.step (.receive subscriber)).2 = .delivery .disconnected ↔
        .renew ∈ after ∧ now.register.queue subscriber = [])) := by
  intro start subscriber joined now closing
  have connected : joined.register.Connected subscriber := start.register.connected_subscribe
  have known := joined.register.isListening_lt subscriber connected.2
  have fresh : joined.register.queue subscriber = [] := by
    have unknown : start.register.isListening subscriber = false := by
      cases listening : start.register.isListening subscriber with
      | false => rfl
      | true =>
        have inside := start.register.isListening_lt subscriber listening
        exact absurd inside (Nat.lt_irrefl _)
    exact (start.register.queue_subscribe subscriber).trans
      (start.register.queue_of_not_listening subscriber unknown)
  refine ⟨rfl, stream_eq joined after subscriber connected fresh, ?_, ?_, ?_, ?_⟩
  · intro s others
    obtain ⟨stays, kept⟩ := handed_append_queue_of_other now s subscriber others
    exact stream_snoc joined after s subscriber known stays kept
  · intro s rejected
    obtain ⟨stays, kept⟩ := handed_append_queue_of_rejection now s subscriber rejected
    exact stream_snoc joined after s subscriber known stays kept
  · intro first later split
    rw [stream_eq joined after subscriber connected fresh,
      stream_eq joined first subscriber connected fresh, split, untilRenewal_untilLeave]
  · intro present
    have stays : ∀ s ∈ after, s.isLeave subscriber = false := by
      intro s member
      cases s with
      | unsubscribe handle =>
        simp only [isLeave, beq_eq_false_iff_ne]
        intro same
        exact present (same ▸ member)
      | _ => rfl
    rw [receive_disconnected now subscriber
        (run_listening joined after subscriber stays connected.2),
      mem_observers_run joined after subscriber stays connected]
    simp

/-- The second subscriber comes after one reservation and one leaver. It reads one of the
two announcements made to it and leaves the other unread when it goes. -/
theorem stream_of_second_subscriber :
    let day : Calendar.Date := ⟨2025, 6, 14, by decide⟩
    let before := [.subscribe, .submit "Alice" (some day) (.ok none), .unsubscribe 0]
    let after := [.submit "Bob" (some day) (.ok none), .receive 1, .submit " " none (.ok none),
      .appendAgain 0, .renew, .submit "Carla" (some day) (.ok none), .unsubscribe 1]
    let start := opened.run before
    start.register.nextHandle = 1 ∧
      (start.step .subscribe).1.stream start.register.nextHandle after = [⟨1, 2⟩, ⟨2, 3⟩] := by
  intro day before after start
  have told := (stream_of_subscriber before after).2.1
  refine ⟨by decide, told.trans ?_⟩
  decide

end Office

end BookingDesk
