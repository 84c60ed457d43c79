import BookingDesk.EventKind
import BookingDesk.Proofs.Trimming
import BookingDesk.Proofs.Utf8Text
import Mathlib.Data.List.Nodup

/-!
Which texts are read as labels. A text is read as the kind whose label it spells, letter by
letter in either case, with nothing but blanks around it; no other character has a letter
of a label as its lower-case form, so every other text is refused and handed back as it is.
-/

namespace BookingDesk

-- Of a list of characters only its members are tried, never all characters.
local instance (priority := 2000) decidableAllListed (cs : List Char) (P : Char → Prop)
    [DecidablePred P] : Decidable (∀ c ∈ cs, P c) :=
  List.decidableBAll P cs

local instance (priority := 2000) decidableSomeListed (cs : List Char) (P : Char → Prop)
    [DecidablePred P] : Decidable (∃ c ∈ cs, P c) :=
  List.decidableBEx P cs

namespace Text

/-- The letter in the other case, for the letters of the labels: A to Z and é. -/
def counterpart (c : Char) : Char :=
  if c.isLower then c.toUpper
  else if c.isUpper then c.toLower
  else if c = 'é' then 'É'
  else if c = 'É' then 'é'
  else c

def SameLetter (c letter : Char) : Prop :=
  c = letter ∨ c = counterpart letter

instance : DecidableRel SameLetter :=
  fun c letter => inferInstanceAs (Decidable (c = letter ∨ c = counterpart letter))

theorem lowerChar_cases (c : Char) :
    (c = dottedCapitalI ∧ lowerChar c = ['i', combiningDot]) ∨
    (∃ r ∈ caseRanges, (r.first ≤ c.toNat ∧ c.toNat ≤ r.last) ∧
      lowerChar c = [Char.ofNat (c.toNat + r.shift).toNat]) ∨
    lowerChar c = [c] := by
  by_cases dotted : c = dottedCapitalI
  · exact .inl ⟨dotted, by rw [lowerChar, if_pos dotted]⟩
  · cases found : caseRanges.find? (·.contains c.toNat) with
    | none => exact .inr (.inr (by rw [lowerChar, if_neg dotted, found]))
    | some r =>
      have within := List.find?_some found
      simp only [CaseRange.contains, Bool.and_eq_true, decide_eq_true_eq] at within
      exact .inr (.inl ⟨r, List.mem_of_find?_eq_some found, within.1,
        by rw [lowerChar, if_neg dotted, found]⟩)

theorem lowerChar_one_or_two (c : Char) :
    (∃ small, lowerChar c = [small]) ∨ lowerChar c = ['i', combiningDot] := by
  rcases lowerChar_cases c with ⟨_, two⟩ | ⟨r, _, _, one⟩ | self
  · exact .inr two
  · exact .inl ⟨_, one⟩
  · exact .inl ⟨c, self⟩

theorem toNat_of_ofNat_eq {n : Nat} {c : Char} (same : Char.ofNat n = c) (positive : 0 < c.toNat) :
    n = c.toNat := by
  by_cases valid : n.isValidChar
  · rw [← same]
    exact (Utf8.toNat_ofNat n valid).symm
  · rw [← same, Char.ofNat, dif_neg valid] at positive
    contradiction

end Text

open Text

namespace EventKind

def letters : List Char :=
  (all.flatMap fun k => k.label.toList).eraseDups

theorem mem_letters (k : EventKind) (letter : Char) (member : letter ∈ k.label.toList) :
    letter ∈ letters :=
  List.mem_eraseDups.mpr (List.mem_flatMap.mpr ⟨k, k.mem_all, member⟩)

/-- The capital of a small letter of a label lies 32 places before it. -/
def capital (small : Char) : Char :=
  Char.ofNat (small.toNat - 32)

/-- A letter of a label and its counterpart are a small letter and its capital, and both
have the small letter as their lower-case form. -/
theorem letter_cases : ∀ letter ∈ letters, ∃ small ∈ [letter, counterpart letter],
    lowerChar letter = [small] ∧ lowerChar (counterpart letter) = [small] ∧
      (letter = small ∧ counterpart letter = capital small ∨
        letter = capital small ∧ counterpart letter = small) := by
  decide +kernel

/-- Of all ranges of capitals only those that lie 32 places before their small letters
lead to the small letter of a label. -/
theorem shift_of_letter : ∀ letter ∈ letters, ∀ small ∈ lowerChar letter,
    0 < small.toNat ∧ ∀ r ∈ caseRanges, r.first + r.shift ≤ small.toNat →
      small.toNat ≤ r.last + r.shift → r.shift = 32 := by
  decide +kernel

/-- The characters that no letter of a label has in its lower-case form: the second one
of the dotted capital I, and the two small sigmas. -/
theorem not_mem_lowerChar_letter : ∀ letter ∈ letters,
    ∀ c ∈ [combiningDot, 'σ', 'ς'], c ∉ lowerChar letter := by
  decide +kernel

theorem not_isBlank_letter :
    ∀ letter ∈ letters, isBlank letter = false ∧ isBlank (counterpart letter) = false := by
  decide +kernel

theorem eq_or_capital_of_lowerChar (letter small c : Char) (member : letter ∈ letters)
    (lower : lowerChar letter = [small]) (same : lowerChar c = [small]) :
    c = small ∨ c = capital small := by
  obtain ⟨positive, shifts⟩ := shift_of_letter letter member small (by simp [lower])
  rcases lowerChar_cases c with ⟨_, two⟩ | ⟨r, listed, within, one⟩ | self
  · rw [two] at same
    simp at same
  · right
    rw [one, List.cons.injEq] at same
    have value := toNat_of_ofNat_eq same.1 (by omega)
    have shift := shifts r listed (by omega) (by omega)
    rw [capital, ← Char.ofNat_toNat c]
    congr 1
    omega
  · rw [self, List.cons.injEq] at same
    exact .inl same.1

theorem lowerChar_eq_iff (letter c : Char) (member : letter ∈ letters) :
    lowerChar c = lowerChar letter ↔ SameLetter c letter := by
  obtain ⟨small, _, lower, other, pair⟩ := letter_cases letter member
  constructor
  · intro same
    have either := eq_or_capital_of_lowerChar letter small c member lower (same.trans lower)
    rcases pair with ⟨first, second⟩ | ⟨first, second⟩
    · rw [SameLetter, second, first]
      exact either
    · rw [SameLetter, second, first]
      exact either.symm
  · rintro (rfl | rfl)
    · rfl
    · rw [other, lower]

theorem not_mem_flatMap_lowerChar (word : List Char) (spelt : ∀ letter ∈ word, letter ∈ letters)
    (c : Char) (foreign : c ∈ [combiningDot, 'σ', 'ς']) : c ∉ word.flatMap lowerChar := by
  intro member
  obtain ⟨letter, inside, lower⟩ := List.mem_flatMap.mp member
  exact not_mem_lowerChar_letter letter (spelt letter inside) c foreign lower

/-- A text and a label have the same lower-case form just when they agree letter by letter:
no letter of a label comes out of the dotted capital I, whose lower-case form is longer. -/
theorem flatMap_lowerChar_eq_iff (cs word : List Char) (spelt : ∀ letter ∈ word, letter ∈ letters) :
    cs.flatMap lowerChar = word.flatMap lowerChar ↔ List.Forall₂ SameLetter cs word := by
  induction cs generalizing word with
  | nil =>
    cases word with
    | nil => simp
    | cons letter rest =>
      obtain ⟨small, _, lower, _⟩ := letter_cases letter (spelt letter List.mem_cons_self)
      simp [lower]
  | cons c cs ih =>
    cases word with
    | nil => rcases lowerChar_one_or_two c with ⟨small, one⟩ | two <;> simp [*]
    | cons letter rest =>
      have member := spelt letter List.mem_cons_self
      have others : ∀ other ∈ rest, other ∈ letters :=
        fun other inside => spelt other (List.mem_cons_of_mem _ inside)
      obtain ⟨small, _, lower, _⟩ := letter_cases letter member
      rw [List.forall₂_cons, ← lowerChar_eq_iff letter c member, ← ih rest others,
        List.flatMap_cons, List.flatMap_cons, lower]
      rcases lowerChar_one_or_two c with ⟨form, one⟩ | two
      · simp [one]
      · have foreign := not_mem_flatMap_lowerChar rest others combiningDot (by simp)
        rw [two]
        constructor
        · intro same
          have tail : combiningDot :: cs.flatMap lowerChar = rest.flatMap lowerChar :=
            (List.cons.inj same).2
          rw [← tail] at foreign
          simp at foreign
        · rintro ⟨same, _⟩
          simp at same

end EventKind

namespace Text

/-- The lower-case forms of a character: a capital sigma has another one at the end of a
word. -/
def lowerForms (c : Char) : List (List Char) :=
  if c = 'Σ' then [['σ'], ['ς']] else [lowerChar c]

def LowersTo : List Char → List Char → Prop
  | [], lowered => lowered = []
  | c :: cs, lowered => ∃ form ∈ lowerForms c, ∃ rest, lowered = form ++ rest ∧ LowersTo cs rest

theorem sigma_mem_of_lowersTo (cs lowered : List Char) (lowers : LowersTo cs lowered)
    (capital : 'Σ' ∈ cs) : 'σ' ∈ lowered ∨ 'ς' ∈ lowered := by
  induction cs generalizing lowered with
  | nil => contradiction
  | cons c cs ih =>
    obtain ⟨form, among, rest, rfl, later⟩ := lowers
    rcases List.mem_cons.mp capital with rfl | behind
    · simp only [lowerForms, if_true, List.mem_cons, List.not_mem_nil, or_false] at among
      rcases among with rfl | rfl
      · exact .inl (by simp)
      · exact .inr (by simp)
    · rcases ih rest later behind with here | here
      · exact .inl (List.mem_append_right _ here)
      · exact .inr (List.mem_append_right _ here)

theorem eq_flatMap_of_lowersTo (cs lowered : List Char) (lowers : LowersTo cs lowered)
    (without : 'Σ' ∉ cs) : lowered = cs.flatMap lowerChar := by
  induction cs generalizing lowered with
  | nil => exact lowers
  | cons c cs ih =>
    obtain ⟨form, among, rest, rfl, later⟩ := lowers
    simp only [List.mem_cons, not_or] at without
    rw [lowerForms, if_neg (Ne.symm without.1), List.mem_singleton] at among
    rw [List.flatMap_cons, among, ih rest later without.2]

end Text

namespace EventKind

theorem lowersTo_eq_iff (cs lowered word : List Char)
    (spelt : ∀ letter ∈ word, letter ∈ letters) (lowers : LowersTo cs lowered) :
    lowered = word.flatMap lowerChar ↔ cs.flatMap lowerChar = word.flatMap lowerChar := by
  by_cases capital : 'Σ' ∈ cs
  · have sigma := not_mem_flatMap_lowerChar word spelt 'σ' (by simp)
    have final := not_mem_flatMap_lowerChar word spelt 'ς' (by simp)
    constructor
    · rintro rfl
      rcases sigma_mem_of_lowersTo cs _ lowers capital with here | here
      · exact absurd here sigma
      · exact absurd here final
    · intro same
      have here : 'σ' ∈ cs.flatMap lowerChar :=
        List.mem_flatMap.mpr ⟨'Σ', capital, by decide +kernel⟩
      rw [same] at here
      exact absurd here sigma
  · rw [eq_flatMap_of_lowersTo cs lowered lowers capital]

theorem lowerCase_label_nodup : (all.map fun k => lowerCase k.label).Nodup := by
  decide +kernel

theorem find?_cases (spelling : EventKind → String) (wanted : String) :
    (∃ k, all.find? (spelling · == wanted) = some k ∧ spelling k = wanted) ∨
      all.find? (spelling · == wanted) = none ∧ ∀ k, spelling k ≠ wanted := by
  cases found : all.find? (spelling · == wanted) with
  | some k => exact .inl ⟨k, rfl, by simpa using List.find?_some found⟩
  | none =>
    refine .inr ⟨rfl, ?_⟩
    intro k
    simpa using List.find?_eq_none.mp found k k.mem_all

theorem parse_cases (text : String) :
    (∃ k, parse text = .ok k ∧ lowerCase k.label = lowerCase (trim text)) ∨
      parse text = .error ⟨text⟩ ∧ ∀ k : EventKind, lowerCase k.label ≠ lowerCase (trim text) := by
  rcases find?_cases (fun k => lowerCase k.label) (lowerCase (trim text)) with
    ⟨k, found, hit⟩ | ⟨missed, other⟩
  · exact .inl ⟨k, by simp only [parse, found], hit⟩
  · exact .inr ⟨by simp only [parse, missed], other⟩

theorem parse_eq_ok_iff_lowerCase (text : String) (k : EventKind) :
    parse text = .ok k ↔ lowerCase k.label = lowerCase (trim text) := by
  rcases parse_cases text with ⟨l, read, hit⟩ | ⟨refused, missed⟩
  · rw [read, Except.ok.injEq]
    constructor
    · rintro rfl
      exact hit
    · intro same
      exact List.inj_on_of_nodup_map lowerCase_label_nodup l.mem_all k.mem_all
        (hit.trans same.symm)
  · simp only [refused, reduceCtorEq, missed k]

/-- The text spells the label: letter by letter, in either case, between blanks. -/
def Spelled (k : EventKind) (text : String) : Prop :=
  ∃ front word back, text.toList = front ++ word ++ back ∧
    (∀ c ∈ front, isBlank c = true) ∧ (∀ c ∈ back, isBlank c = true) ∧
    List.Forall₂ SameLetter word k.label.toList

theorem exists_letter (cs word : List Char) (spelt : List.Forall₂ SameLetter cs word) :
    ∀ c ∈ cs, ∃ letter ∈ word, SameLetter c letter := by
  induction spelt with
  | nil => simp
  | cons same _ ih =>
    intro c member
    rcases List.mem_cons.mp member with rfl | behind
    · exact ⟨_, List.mem_cons_self, same⟩
    · obtain ⟨letter, inside, later⟩ := ih c behind
      exact ⟨letter, List.mem_cons_of_mem _ inside, later⟩

theorem not_isBlank_of_sameLetter (letter c : Char) (member : letter ∈ letters)
    (same : SameLetter c letter) : isBlank c = false := by
  obtain ⟨self, other⟩ := not_isBlank_letter letter member
  rcases same with rfl | rfl
  · exact self
  · exact other

theorem lowerCase_eq_iff_spelled (text : String) (k : EventKind) :
    lowerCase k.label = lowerCase (trim text) ↔ k.Spelled text := by
  have letterwise := flatMap_lowerChar_eq_iff (trimList text.toList) k.label.toList k.mem_letters
  rw [lowerCase, lowerCase, String.ofList_inj, trim, String.toList_ofList, eq_comm, letterwise]
  constructor
  · intro spelt
    obtain ⟨_, front, back, split, before, after⟩ := (trimList_eq_iff text.toList _).mp rfl
    exact ⟨front, _, back, split, before, after, spelt⟩
  · rintro ⟨front, word, back, split, before, after, spelt⟩
    have inked : ∀ c ∈ word, isBlank c = false := by
      intro c member
      obtain ⟨letter, inside, same⟩ := exists_letter word _ spelt c member
      exact not_isBlank_of_sameLetter letter c (k.mem_letters letter inside) same
    have kept : trimList text.toList = word :=
      (trimList_eq_iff _ _).mpr ⟨trimmed_of_all inked, front, back, split, before, after⟩
    rw [kept]
    exact spelt

theorem parse_eq_ok_iff_spelled (text : String) (k : EventKind) :
    parse text = .ok k ↔ k.Spelled text := by
  rw [parse_eq_ok_iff_lowerCase, lowerCase_eq_iff_spelled]

theorem parse_of_not_spelled (text : String) (foreign : ¬∃ k : EventKind, k.Spelled text) :
    parse text = .error ⟨text⟩ := by
  rcases parse_cases text with ⟨k, _, hit⟩ | ⟨refused, _⟩
  · exact absurd ⟨k, (lowerCase_eq_iff_spelled text k).mp hit⟩ foreign
  · exact refused

theorem not_spelled_of_mem (text : String) (c : Char) (member : c ∈ text.toList)
    (inked : isBlank c = false) (foreign : ∀ letter ∈ letters, ¬SameLetter c letter)
    (k : EventKind) : ¬k.Spelled text := by
  rintro ⟨front, word, back, split, before, after, spelt⟩
  rw [split, List.mem_append, List.mem_append] at member
  rcases member with (inFront | inWord) | inBack
  · rw [before c inFront] at inked
    contradiction
  · obtain ⟨letter, inside, same⟩ := exists_letter word _ spelt c inWord
    exact foreign letter (k.mem_letters letter inside) same
  · rw [after c inBack] at inked
    contradiction

/-- Characters that look like a letter of a label, are turned into one by some mapping of
cases, or belong to a letter written as two: the Kelvin sign, the dotted capital and the
dotless small I, the long s, and the acute accent as a combining mark. -/
def lookalikes : List Char :=
  [Char.ofNat 0x212A, dottedCapitalI, Char.ofNat 0x131, Char.ofNat 0x17F, Char.ofNat 0x301]

theorem lookalikes_foreign : ∀ c ∈ lookalikes,
    isBlank c = false ∧ ∀ letter ∈ letters, ¬SameLetter c letter := by
  decide +kernel

/-- A text is read as a kind just when it spells that kind's label, so as one kind at most;
every other text is refused and handed back untouched, among them all that hold one of the
lookalikes; and it makes no difference which of its two small forms a capital sigma gets. -/
theorem reads_exactly_labels (text : String) :
    (∀ k, parse text = .ok k ↔ k.Spelled text) ∧
    (∀ k l : EventKind, k.Spelled text → l.Spelled text → k = l) ∧
    ((¬∃ k : EventKind, k.Spelled text) → parse text = .error ⟨text⟩) ∧
    (∀ c ∈ lookalikes, c ∈ text.toList → parse text = .error ⟨text⟩) ∧
    ∀ (k : EventKind) (lowered : List Char), LowersTo (trim text).toList lowered →
      (parse text = .ok k ↔ lowered = (lowerCase k.label).toList) := by
  refine ⟨parse_eq_ok_iff_spelled text, ?_, parse_of_not_spelled text, ?_, ?_⟩
  · intro k l first second
    rw [← parse_eq_ok_iff_spelled] at first second
    exact Except.ok.inj (first.symm.trans second)
  · intro c listed member
    obtain ⟨inked, foreign⟩ := lookalikes_foreign c listed
    apply parse_of_not_spelled
    rintro ⟨k, spelt⟩
    exact not_spelled_of_mem text c member inked foreign k spelt
  · intro k lowered lowers
    have either := lowersTo_eq_iff _ lowered k.label.toList k.mem_letters lowers
    rw [parse_eq_ok_iff_lowerCase, lowerCase, lowerCase, String.ofList_inj, String.toList_ofList,
      either, eq_comm]

/-- A label in mixed case between a tab and a wide blank is read; with a dotless i, or with
its accent as a mark of its own, it is not. -/
theorem mixed_case_is_read :
    let text := "\tRÉunION\u2003"
    let dotless := "Réun\u0131on"
    let decomposed := "Re\u0301union"
    meeting.Spelled text ∧ parse text = .ok .meeting ∧
      (∀ k : EventKind, k.Spelled text → k = .meeting) ∧
      parse dotless = .error ⟨dotless⟩ ∧ parse decomposed = .error ⟨decomposed⟩ := by
  intro text dotless decomposed
  obtain ⟨read, one, _⟩ := reads_exactly_labels text
  have spelt : meeting.Spelled text :=
    ⟨['\t'], "RÉunION".toList, ['\u2003'], by decide, by decide, by decide, by decide +kernel⟩
  refine ⟨spelt, (read .meeting).mpr spelt, fun k other => one k .meeting other spelt, ?_, ?_⟩
  · exact (reads_exactly_labels dotless).2.2.2.1 (Char.ofNat 0x131) (by decide) (by decide)
  · exact (reads_exactly_labels decomposed).2.2.2.1 (Char.ofNat 0x301) (by decide) (by decide)

end EventKind

end BookingDesk
