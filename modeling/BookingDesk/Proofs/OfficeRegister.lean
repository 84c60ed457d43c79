import BookingDesk.Office
import BookingDesk.Proofs.Subscription

/-!
What an office does to its register. Each step of the office is one operation of the
register or none, and hands a subscriber what that operation takes from its inbox.
-/

namespace BookingDesk

namespace OfficeStep

def subject? : OfficeStep → Option Nat
  | .unsubscribe handle => some handle
  | .receive handle => some handle
  | .drain handle => some handle
  | .pump _ handle => some handle
  | _ => none

end OfficeStep

def Register.additionOf : Except Missing Reservation → RegisterStep
  | .ok b => .append b
  | .error _ => .rest

def OfficeReply.told : OfficeReply → List Announcement
  | .delivery (.announcement a) => [a]
  | .announcements all => all
  | _ => []

def OfficeReply.isRejection : OfficeReply → Bool
  | .submission (.error _) => true
  | .draftSubmission (.error _) _ => true
  | .attempt (some _) _ _ => true
  | .refusedKind _ => true
  | _ => false

namespace Office

open Register

def run (o : Office) (steps : List OfficeStep) : Office :=
  steps.foldl (fun o s => (o.step s).1) o

theorem run_append (o : Office) (first second : List OfficeStep) :
    o.run (first ++ second) = (o.run first).run second :=
  List.foldl_append

/-- The announcements that a step hands to a subscriber: those of the reply, or all that
wait where they go to a table. -/
def handed (o : Office) (subscriber : Nat) : OfficeStep → List Announcement
  | .receive handle =>
    if handle = subscriber then (o.step (.receive handle)).2.told else []
  | .drain handle =>
    if handle = subscriber then (o.step (.drain handle)).2.told else []
  | .pump _ handle => if handle = subscriber then o.register.queue handle else []
  | _ => []

def received (o : Office) (subscriber : Nat) : List OfficeStep → List Announcement
  | [] => []
  | s :: rest => o.handed subscriber s ++ (o.step s).1.received subscriber rest

theorem received_append (o : Office) (subscriber : Nat) (first second : List OfficeStep) :
    o.received subscriber (first ++ second) =
      o.received subscriber first ++ (o.run first).received subscriber second := by
  induction first generalizing o with
  | nil => rfl
  | cons s rest ih =>
    simp only [List.cons_append, received, ih, List.append_assoc]
    rfl

/-- The operation of the register that a step amounts to. -/
def registerStep (o : Office) : OfficeStep → RegisterStep
  | .subscribe => .subscribe
  | .unsubscribe handle => if o.register.isListening handle then .unsubscribe handle else .rest
  | .receive handle => .receive handle
  | .drain handle => .drain handle
  | .pump _ handle => .drain handle
  | .renew => .renew
  | .submit name date (.ok kind) => additionOf (Request.check ⟨name, date, kind⟩)
  | .submitDraft number => additionOf (o.drafts number).request.check
  | .attempt number => additionOf (o.drafts number).request.check
  | .appendAgain index =>
    match o.register.reservations[index]? with
    | some b => .append b
    | none => .rest
  | _ => .rest

theorem additionOf_cases (result : Except Missing Reservation) :
    additionOf result = .rest ∨ ∃ b, additionOf result = .append b := by
  cases result with
  | ok b => exact .inr ⟨b, rfl⟩
  | error missing => exact .inl rfl

theorem registerStep_cases (o : Office) (s : OfficeStep) :
    o.registerStep s = .rest ∨ (∃ b, o.registerStep s = .append b) ∨
    (s = .subscribe ∧ o.registerStep s = .subscribe) ∨
    (s = .renew ∧ o.registerStep s = .renew) ∨
    (∃ handle, s = .unsubscribe handle ∧ o.registerStep s = .unsubscribe handle) ∨
    ∃ handle, s.subject? = some handle ∧
      (o.registerStep s = .receive handle ∨ o.registerStep s = .drain handle) := by
  have addition : ∀ result, o.registerStep s = additionOf result →
      o.registerStep s = .rest ∨ ∃ b, o.registerStep s = .append b := by
    intro result what
    rw [what]
    exact additionOf_cases result
  cases s with
  | subscribe => exact .inr (.inr (.inl ⟨rfl, rfl⟩))
  | renew => exact .inr (.inr (.inr (.inl ⟨rfl, rfl⟩)))
  | unsubscribe handle =>
    cases listening : o.register.isListening handle with
    | true =>
      exact .inr (.inr (.inr (.inr (.inl ⟨handle, rfl, by simp [registerStep, listening]⟩))))
    | false => exact .inl (by simp [registerStep, listening])
  | receive handle => exact .inr (.inr (.inr (.inr (.inr ⟨handle, rfl, .inl rfl⟩))))
  | drain handle => exact .inr (.inr (.inr (.inr (.inr ⟨handle, rfl, .inr rfl⟩))))
  | pump number handle => exact .inr (.inr (.inr (.inr (.inr ⟨handle, rfl, .inr rfl⟩))))
  | submit name date kind =>
    cases kind with
    | error refusal => exact .inl rfl
    | ok kind => exact (addition _ rfl).imp_right .inl
  | submitDraft number => exact (addition _ rfl).imp_right .inl
  | attempt number => exact (addition _ rfl).imp_right .inl
  | appendAgain index =>
    cases found : o.register.reservations[index]? with
    | some b => exact .inr (.inl ⟨b, by simp [registerStep, found]⟩)
    | none => exact .inl (by simp [registerStep, found])
  | _ => exact .inl rfl

theorem register_forSubscriber (o : Office) (handle : Nat) (answer : Office × OfficeReply) :
    (o.forSubscriber handle answer).1.register =
      if o.register.isListening handle then answer.1.register else o.register := by
  unfold forSubscriber
  split <;> rfl

theorem register_step (o : Office) (s : OfficeStep) :
    (o.step s).1.register = o.register.step (o.registerStep s) := by
  cases s with
  | subscribe => rfl
  | unsubscribe handle =>
    simp only [Office.step, register_forSubscriber, registerStep]
    split <;> rfl
  | receive handle =>
    simp only [Office.step, register_forSubscriber, registerStep, Register.step]
    split
    · rfl
    · rename_i gone
      exact (receive_of_not_listening o.register handle (by simpa using gone)).symm
  | drain handle =>
    simp only [Office.step, register_forSubscriber, registerStep, Register.step]
    split
    · rfl
    · rename_i gone
      exact (drain_of_not_listening o.register handle (by simpa using gone)).symm
  | renew => rfl
  | submit name date kind =>
    cases kind with
    | error refusal => rfl
    | ok kind =>
      simp only [Office.step, registerStep, Register.book]
      cases Request.check ⟨name, date, kind⟩ <;> rfl
  | appendAgain index =>
    simp only [Office.step, forReservation, registerStep]
    cases o.register.reservations[index]? <;> rfl
  | list => rfl
  | row index =>
    simp only [Office.step, forReservation, registerStep]
    split <;> rfl
  | equal first second =>
    simp only [Office.step, forReservation, registerStep]
    split
    · split <;> rfl
    · rfl
  | edit number name date kind =>
    simp only [Office.step, edit, registerStep]
    split <;> rfl
  | submitDraft number =>
    simp only [Office.step, registerStep, Draft.submit, Register.book]
    cases (o.drafts number).request.check <;> rfl
  | attempt number =>
    simp only [Office.step, registerStep, Draft.attempt, Draft.submit, Register.book]
    cases (o.drafts number).request.check <;> rfl
  | pump number handle =>
    simp only [Office.step, register_forSubscriber, registerStep, Register.step, showTable]
    split
    · rfl
    · rename_i gone
      exact (drain_of_not_listening o.register handle (by simpa using gone)).symm
  | announce number announcement => rfl
  | rebuild number => rfl
  | rows number => rfl

theorem registerStep_of_rejection (o : Office) (s : OfficeStep)
    (rejected : (o.step s).2.isRejection = true) : o.registerStep s = .rest := by
  have impossible : ∀ result, (∀ b, result = .ok b → (o.step s).2.isRejection = false) →
      additionOf result = .rest := by
    intro result accepts
    cases result with
    | ok b => exact absurd rejected (by simp [accepts b rfl])
    | error missing => rfl
  cases s with
  | submit name date kind =>
    cases kind with
    | error refusal => rfl
    | ok kind =>
      apply impossible
      intro b checked
      simp [Office.step, Register.book, checked, Except.map, submission, OfficeReply.isRejection]
  | submitDraft number =>
    apply impossible
    intro b checked
    simp [Office.step, Draft.submit, Register.book, checked, Except.map, submission,
      OfficeReply.isRejection]
  | attempt number =>
    apply impossible
    intro b checked
    simp [Office.step, Draft.attempt, Draft.submit, Register.book, checked, Except.map,
      OfficeReply.isRejection]
  | unsubscribe handle | receive handle | drain handle | pump number handle =>
    simp only [Office.step, forSubscriber] at rejected
    split at rejected <;> contradiction
  | appendAgain index =>
    simp only [Office.step, forReservation] at rejected
    split at rejected <;> contradiction
  | subscribe | renew => contradiction
  | _ => rfl

theorem told_receive (o : Office) (handle : Nat) :
    (o.step (.receive handle)).2.told = (o.register.queue handle).take 1 := by
  cases listening : o.register.isListening handle with
  | true =>
    simp only [Office.step, forSubscriber, listening, ↓reduceIte, delivery]
    cases o.register.queue handle with
    | nil =>
      simp only []
      split <;> rfl
    | cons a rest => rfl
  | false =>
    simp [Office.step, forSubscriber, listening, OfficeReply.told,
      o.register.queue_of_not_listening handle listening]

theorem told_drain (o : Office) (handle : Nat) :
    (o.step (.drain handle)).2.told = o.register.queue handle := by
  cases listening : o.register.isListening handle with
  | true => simp [Office.step, forSubscriber, listening, OfficeReply.told]
  | false =>
    simp [Office.step, forSubscriber, listening, OfficeReply.told,
      o.register.queue_of_not_listening handle listening]

theorem handed_eq (o : Office) (subscriber : Nat) (s : OfficeStep) :
    o.handed subscriber s = o.register.handed subscriber (o.registerStep s) := by
  cases s with
  | receive handle =>
    simp only [Office.handed, told_receive, registerStep, Register.handed]
    split
    · rename_i same
      rw [same]
    · rfl
  | drain handle =>
    simp only [Office.handed, told_drain, registerStep, Register.handed]
    split
    · rename_i same
      rw [same]
    · rfl
  | pump number handle =>
    simp only [Office.handed, registerStep, Register.handed]
    split
    · rename_i same
      rw [same]
    · rfl
  | unsubscribe handle =>
    simp only [registerStep]
    split <;> rfl
  | submit name date kind =>
    cases kind with
    | error refusal => rfl
    | ok kind =>
      simp only [registerStep]
      cases Request.check ⟨name, date, kind⟩ <;> rfl
  | submitDraft number =>
    simp only [registerStep]
    cases (o.drafts number).request.check <;> rfl
  | attempt number =>
    simp only [registerStep]
    cases (o.drafts number).request.check <;> rfl
  | appendAgain index =>
    simp only [registerStep]
    cases o.register.reservations[index]? <;> rfl
  | _ => rfl

end Office

end BookingDesk
