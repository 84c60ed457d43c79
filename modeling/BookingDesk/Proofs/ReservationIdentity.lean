import BookingDesk.Number.Literal
import BookingDesk.Proofs.DateText
import BookingDesk.Reservation

/-!
A row of the table, and the stored record, tell a reservation from every other one.
Years differ in width and may have a sign, so a date is read from its end: the last
six characters are the month and the day behind their dashes, and a dash before them
can only be a minus.
-/

namespace BookingDesk

namespace Calendar

open Number

def digits? (cs : List Char) : Option Nat :=
  if cs ≠ [] ∧ cs.all Char.isDigit then some (digitsValue cs) else none

def year? (cs : List Char) : Option Int :=
  (digits? (takeSign cs).2).map fun n : Nat => if (takeSign cs).1 then -(n : Int) else (n : Int)

/-- Reads a day from year, month and day between dashes, starting at the end. -/
def Date.ofIsoText? (text : String) : Option Date :=
  let cs := text.toList
  match cs.drop (cs.length - 6) with
  | ['-', m₁, m₂, '-', d₁, d₂] => do
    let year ← year? (cs.take (cs.length - 6))
    let month ← digits? [m₁, m₂]
    let day ← digits? [d₁, d₂]
    ofFields? year month day
  | _ => none

theorem isDigit_of_mem_padded {width n : Nat} {c : Char} (member : c ∈ padded width n) :
    c.isDigit := by
  rcases List.mem_append.mp member with zero | digit
  · rw [List.eq_of_mem_replicate zero]
    decide
  · exact Nat.isDigit_of_mem_toDigits (by decide) (by decide) digit

theorem padded_ne_nil (width n : Nat) : padded width n ≠ [] := by
  simp [padded, List.leftpad, Nat.toDigits_ne_nil]

theorem digitsValue_padded (width n : Nat) : digitsValue (padded width n) = n := by
  calc digitsValue (padded width n)
      = Nat.ofDigitChars 10 (padded width n) 0 := Nat.ofDigitChars_eq_foldl.symm
    _ = Nat.ofDigitChars 10 (Nat.toDigits 10 n) 0 := by
        rw [padded, List.leftpad, Nat.ofDigitChars_append, Nat.ofDigitChars_replicate_zero,
          Nat.mul_zero]
    _ = n := Nat.ofDigitChars_ten_toDigits

theorem digits?_padded (width n : Nat) : digits? (padded width n) = some n := by
  have digits : (padded width n).all Char.isDigit :=
    List.all_eq_true.mpr fun _ => isDigit_of_mem_padded
  rw [digits?, if_pos ⟨padded_ne_nil width n, digits⟩, digitsValue_padded]

theorem takeSign_of_isDigit {c : Char} (digit : c.isDigit) (rest : List Char) :
    takeSign (c :: rest) = (false, c :: rest) := by
  unfold takeSign
  split
  · simp_all
  · simp_all
  · rfl

theorem takeSign_padded (width n : Nat) : takeSign (padded width n) = (false, padded width n) := by
  rcases written : padded width n with _ | ⟨c, rest⟩
  · exact absurd written (padded_ne_nil width n)
  · exact takeSign_of_isDigit (isDigit_of_mem_padded (written ▸ List.mem_cons_self)) rest

theorem year?_yearDigits (year : Int) : year? (yearDigits year) = some year := by
  unfold yearDigits
  split
  · have size : -(year.natAbs : Int) = year := by omega
    simp only [year?, takeSign, digits?_padded, Option.map_some, if_true, size]
  · have size : (year.natAbs : Int) = year := by omega
    split
    · simp only [year?, takeSign, digits?_padded, Option.map_some, Bool.false_eq_true, if_false,
        size]
    · simp only [year?, takeSign_padded, digits?_padded, Option.map_some, Bool.false_eq_true,
        if_false, size]

namespace Date

theorem ofIsoText?_isoText (d : Date) : ofIsoText? d.isoText = some d := by
  obtain ⟨m₁, m₂, month⟩ : ∃ m₁ m₂, padded 2 d.month = [m₁, m₂] := ⟨_, _, d.padded_month⟩
  obtain ⟨d₁, d₂, day⟩ : ∃ d₁ d₂, padded 2 d.day = [d₁, d₂] := ⟨_, _, d.padded_day⟩
  have written : d.isoText.toList = yearDigits d.year ++ ['-', m₁, m₂, '-', d₁, d₂] := by
    simp [isoText, month, day]
  have readMonth : digits? [m₁, m₂] = some d.month := month ▸ digits?_padded 2 d.month
  have readDay : digits? [d₁, d₂] = some d.day := day ▸ digits?_padded 2 d.day
  simp [ofIsoText?, written, year?_yearDigits, readMonth, readDay, ofFields?_fields]

example : (ofIsoText? "-0001-12-31").map (·.year) = some (-1) ∧
    (ofIsoText? "+10000-01-02").map (·.year) = some 10000 ∧ ofIsoText? "2025-02-29" = none := by
  decide +kernel

theorem isoText_inj {d e : Date} (same : d.isoText = e.isoText) : d = e := by
  have read : some d = some e := by
    rw [← ofIsoText?_isoText d, same, ofIsoText?_isoText]
  exact Option.some.inj read

end Date

end Calendar

namespace Reservation

open Calendar

theorem eq_of_parts {b c : Reservation} (client : b.client = c.client)
    (date : b.date.isoText = c.date.isoText) (kind : b.kind = c.kind) : b = c := by
  have sameDay := Date.isoText_inj date
  cases b
  cases c
  simp_all

theorem row_inj {b c : Reservation} (same : b.row = c.row) : b = c := by
  simp only [row_eq, List.cons.injEq, and_true] at same
  obtain ⟨client, date, kind⟩ := same
  exact eq_of_parts client date (EventKind.label_inj kind)

theorem toJson_inj {b c : Reservation} (same : b.toJson = c.toJson) : b = c := by
  simp only [toJson, EventKind.toJson, Json.object.injEq, List.cons.injEq, Prod.mk.injEq,
    Json.string.injEq, true_and, and_true] at same
  obtain ⟨client, date, kind⟩ := same
  exact eq_of_parts client date (EventKind.name_inj kind)

/-- Two reservations are one as soon as their rows are the same, or their records; and
the day is read back from its cell. -/
theorem row_and_record_identify :
    (∀ b c : Reservation, (b = c ↔ b.row = c.row) ∧ (b.row = c.row ↔ b.toJson = c.toJson)) ∧
    ∀ d : Date, Date.ofIsoText? d.isoText = some d := by
  refine ⟨fun b c => ⟨⟨congrArg row, row_inj⟩, fun same => ?_, fun same => ?_⟩,
    Date.ofIsoText?_isoText⟩
  · rw [row_inj same]
  · rw [toJson_inj same]

end Reservation

end BookingDesk
