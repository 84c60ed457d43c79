import BookingDesk.Text.Blank

/-!
Legible texts, those that are not blank, and trimming. It takes away the blanks at both
ends and nothing else: what it leaves begins and ends with a character that is not blank,
and what it takes is blank throughout.
-/

namespace BookingDesk.Text

def Legible (s : String) : Prop :=
  ∃ c ∈ s.toList, isBlank c = false

theorem allBlank_eq_false_iff (s : String) : allBlank s = false ↔ Legible s := by
  simp [allBlank, Legible]

theorem trim_ne_empty_iff (s : String) : trim s ≠ "" ↔ Legible s := by
  rw [Ne, trim_eq_empty_iff, Bool.not_eq_true, allBlank_eq_false_iff]

theorem not_legible_iff (s : String) : ¬Legible s ↔ ∀ c ∈ s.toList, isBlank c = true := by
  simp [Legible]

instance : DecidablePred Legible :=
  fun s => decidable_of_iff (allBlank s = false) (allBlank_eq_false_iff s)

structure Trimmed (cs : List Char) : Prop where
  first : ∀ c ∈ cs.head?, isBlank c = false
  last : ∀ c ∈ cs.getLast?, isBlank c = false

theorem trimmed_of_all {cs : List Char} (inked : ∀ c ∈ cs, isBlank c = false) : Trimmed cs where
  first := fun c member => inked c (List.mem_of_mem_head? member)
  last := fun c member => inked c (List.mem_of_mem_getLast? member)

theorem dropBlanks_eq_self {cs : List Char} (inked : ∀ c ∈ cs.head?, isBlank c = false) :
    cs.dropWhile isBlank = cs := by
  cases cs with
  | nil => rfl
  | cons c rest => rw [List.dropWhile_cons, inked c rfl, if_neg Bool.false_ne_true]

theorem head_dropBlanks (cs : List Char) :
    ∀ c ∈ (cs.dropWhile isBlank).head?, isBlank c = false := by
  intro c member
  have first := List.head?_dropWhile_not isBlank cs
  rw [Option.mem_def.mp member] at first
  exact first

theorem exists_blanks_dropBlanks (cs : List Char) :
    ∃ blanks, (∀ c ∈ blanks, isBlank c = true) ∧ cs = blanks ++ cs.dropWhile isBlank :=
  ⟨cs.takeWhile isBlank, List.all_eq_true.mp List.all_takeWhile,
    List.takeWhile_append_dropWhile.symm⟩

theorem trimEndList_append (cs blanks : List Char) (blank : ∀ c ∈ blanks, isBlank c = true) :
    trimEndList (cs ++ blanks) = trimEndList cs := by
  rw [trimEndList, List.reverse_append, List.dropWhile_append_of_pos (by simpa using blank),
    trimEndList]

theorem trimEndList_eq_self {cs : List Char} (inked : ∀ c ∈ cs.getLast?, isBlank c = false) :
    trimEndList cs = cs := by
  rw [trimEndList, dropBlanks_eq_self (by simpa using inked), List.reverse_reverse]

theorem exists_blanks_trimEndList (cs : List Char) :
    ∃ blanks, (∀ c ∈ blanks, isBlank c = true) ∧ cs = trimEndList cs ++ blanks := by
  obtain ⟨blanks, blank, split⟩ := exists_blanks_dropBlanks cs.reverse
  refine ⟨blanks.reverse, by simpa using blank, ?_⟩
  rw [trimEndList, ← List.reverse_append, ← split, List.reverse_reverse]

theorem last_trimEndList (cs : List Char) :
    ∀ c ∈ (trimEndList cs).getLast?, isBlank c = false := by
  intro c member
  rw [trimEndList, List.getLast?_reverse] at member
  exact head_dropBlanks cs.reverse c member

theorem trimmed_trimList (cs : List Char) : Trimmed (trimList cs) where
  first := by
    intro c member
    obtain ⟨blanks, _, split⟩ := exists_blanks_trimEndList (cs.dropWhile isBlank)
    apply head_dropBlanks cs c
    rw [split, Option.mem_def, List.head?_append]
    rw [Option.mem_def, trimList] at member
    rw [member, Option.some_or]
  last := last_trimEndList (cs.dropWhile isBlank)

theorem trimList_eq_self {cs : List Char} (trimmed : Trimmed cs) : trimList cs = cs := by
  rw [trimList, dropBlanks_eq_self trimmed.first, trimEndList_eq_self trimmed.last]

theorem trimList_append (front cs back : List Char) (before : ∀ c ∈ front, isBlank c = true)
    (after : ∀ c ∈ back, isBlank c = true) : trimList (front ++ cs ++ back) = trimList cs := by
  rw [trimList, List.append_assoc, List.dropWhile_append_of_pos before, List.dropWhile_append,
    trimList]
  split
  · rename_i nothing
    have gone : back.dropWhile isBlank = [] :=
      (dropBlanks_eq_nil_iff back).mpr (List.all_eq_true.mpr after)
    rw [gone, List.isEmpty_iff.mp nothing]
  · rw [trimEndList_append _ back after]

/-- What trimming leaves is the one part without blanks at its ends that has nothing but
blanks around it. -/
theorem trimList_eq_iff (cs kept : List Char) :
    trimList cs = kept ↔ Trimmed kept ∧ ∃ front back, cs = front ++ kept ++ back ∧
      (∀ c ∈ front, isBlank c = true) ∧ ∀ c ∈ back, isBlank c = true := by
  constructor
  · rintro rfl
    obtain ⟨front, before, start⟩ := exists_blanks_dropBlanks cs
    obtain ⟨back, after, rest⟩ := exists_blanks_trimEndList (cs.dropWhile isBlank)
    refine ⟨trimmed_trimList cs, front, back, ?_, before, after⟩
    rw [List.append_assoc, trimList, ← rest]
    exact start
  · rintro ⟨trimmed, front, back, rfl, before, after⟩
    rw [trimList_append front kept back before after, trimList_eq_self trimmed]

end BookingDesk.Text
