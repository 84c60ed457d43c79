import BookingDesk.Calendar.Date
import Mathlib.Algebra.Group.Nat.Defs

/-!
How a day is written. Month and day are padded to two figures and always fill them, so
each has its own two places in a text; a year has four figures, and a sign in front when
it lies outside of the years from 0 to 9999.
-/

namespace BookingDesk.Calendar

/-- The last decimal figures of a number, as many as are asked for. -/
def figures : Nat → Nat → List Char
  | 0, _ => []
  | count + 1, n => figures count (n / 10) ++ [Nat.digitChar (n % 10)]

def yearFigures (year : Int) : List Char :=
  if 0 ≤ year ∧ year ≤ 9999 then figures 4 year.natAbs
  else (if year < 0 then '-' else '+') ::
    (if year.natAbs ≤ 9999 then figures 4 year.natAbs else Nat.toDigits 10 year.natAbs)

theorem padded_succ {width : Nat} (pos : 0 < width) (n : Nat) :
    padded (width + 1) n = padded width (n / 10) ++ [Nat.digitChar (n % 10)] := by
  rcases Nat.lt_or_ge n 10 with single | more
  · -- The figure in front of a single one is a zero of the padding.
    obtain ⟨w, rfl⟩ := Nat.exists_eq_add_of_lt pos
    simp [padded, List.leftpad, Nat.toDigits_of_lt_base single, Nat.div_eq_of_lt single,
      Nat.mod_eq_of_lt single, List.replicate_succ']
  · simp [padded, List.leftpad, Nat.toDigits_of_base_le (by decide) more]

theorem padded_eq_figures {width n : Nat} (pos : 0 < width) (fits : n < 10 ^ width) :
    padded width n = figures width n := by
  induction width generalizing n with
  | zero => contradiction
  | succ width ih =>
    rcases Nat.eq_zero_or_pos width with rfl | wide
    · have single : n < 10 := fits
      simp [padded, List.leftpad, figures, Nat.toDigits_of_lt_base single,
        Nat.mod_eq_of_lt single]
    · have shorter : n / 10 < 10 ^ width := by
        rw [Nat.div_lt_iff_lt_mul (by decide)]
        exact fits
      rw [padded_succ wide, ih wide shorter, figures]

theorem padded_of_wide {width n : Nat} (pos : 0 < width) (wide : 10 ^ width ≤ n) :
    padded width n = Nat.toDigits 10 n := by
  have long : width ≤ (Nat.toDigits 10 n).length := by
    rcases Nat.le_total width (Nat.toDigits 10 n).length with long | short
    · exact long
    · have fits := (Nat.length_toDigits_le_iff (by decide) pos).mp short
      omega
  rw [padded, List.leftpad, Nat.sub_eq_zero_of_le long]
  rfl

theorem yearDigits_eq (year : Int) : yearDigits year = yearFigures year := by
  have figured : padded 4 year.natAbs =
      if year.natAbs ≤ 9999 then figures 4 year.natAbs else Nat.toDigits 10 year.natAbs := by
    split
    · exact padded_eq_figures (by decide) (by omega)
    · exact padded_of_wide (by decide) (by omega)
  rw [yearDigits, yearFigures, figured]
  by_cases ordinary : 0 ≤ year ∧ year ≤ 9999
  · have short : year.natAbs ≤ 9999 := by omega
    rw [if_neg (by omega), if_neg (by omega), if_pos ordinary, if_pos short]
  · rw [if_neg ordinary]
    by_cases before : year < 0
    · rw [if_pos before, if_pos before]
    · rw [if_neg before, if_neg before, if_pos (by omega)]

namespace Date

theorem padded_month (d : Date) : padded 2 d.month = figures 2 d.month := by
  have most := d.valid.2.1.2
  exact padded_eq_figures (by decide) (by omega)

theorem padded_day (d : Date) : padded 2 d.day = figures 2 d.day := by
  have most := d.valid.2.2.2
  have longest := daysInMonth_le d.year d.month
  exact padded_eq_figures (by decide) (by omega)

theorem frenchText_eq (d : Date) : d.frenchText = String.ofList
    (figures 2 d.day ++ '/' :: figures 2 d.month ++ '/' :: yearFigures d.year) := by
  rw [frenchText, padded_day, padded_month, yearDigits_eq]

example : frenchText ⟨-1, 12, 3, by decide⟩ = "03/12/-0001" ∧
    frenchText ⟨10000, 1, 2, by decide⟩ = "02/01/+10000" := by
  decide +kernel

theorem isoText_eq (d : Date) : d.isoText = String.ofList
    (yearFigures d.year ++ '-' :: figures 2 d.month ++ '-' :: figures 2 d.day) := by
  rw [isoText, padded_day, padded_month, yearDigits_eq]

end Date

end BookingDesk.Calendar
