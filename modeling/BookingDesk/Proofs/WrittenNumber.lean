import BookingDesk.Number.Literal
import BookingDesk.Proofs.BitPattern

/-!
Numbers as they are written, and what they stand for. A numeral is read just when it is a
sign, if there is one, before digits, with a point among or around them and a power of ten
behind them, or before one of three words in any mixture of cases. What is read is what the
digits say.
-/

namespace BookingDesk.Number

inductive Sign where
  | absent
  | plus
  | minus
deriving DecidableEq

namespace Sign

def chars : Sign → List Char
  | .absent => []
  | .plus => ['+']
  | .minus => ['-']

def isMinus : Sign → Bool
  | .minus => true
  | _ => false

def apply {α : Type} [Neg α] (sign : Sign) (size : α) : α :=
  if sign.isMinus then -size else size

end Sign

def Unsigned (cs : List Char) : Prop :=
  cs.head? ≠ some '+' ∧ cs.head? ≠ some '-'

theorem takeSign_chars (sign : Sign) (cs : List Char) (unsigned : Unsigned cs) :
    takeSign (sign.chars ++ cs) = (sign.isMinus, cs) := by
  cases sign with
  | absent =>
    unfold takeSign
    rw [Sign.chars, List.nil_append]
    split
    · exact absurd rfl unsigned.2
    · exact absurd rfl unsigned.1
    · rfl
  | plus => rfl
  | minus => rfl

theorem exists_sign (cs : List Char) :
    ∃ sign : Sign, cs = sign.chars ++ (takeSign cs).2 ∧ (takeSign cs).1 = sign.isMinus := by
  unfold takeSign
  split
  · exact ⟨.minus, rfl, rfl⟩
  · exact ⟨.plus, rfl, rfl⟩
  · exact ⟨.absent, rfl, rfl⟩

def Digits (cs : List Char) : Prop :=
  ∀ c ∈ cs, c.isDigit = true

theorem Digits.unsigned {cs : List Char} (digits : Digits cs) : Unsigned cs := by
  constructor <;> intro first <;>
    exact absurd (digits _ (List.mem_of_mem_head? first)) (by decide)

theorem Digits.span {cs rest : List Char} (digits : Digits cs)
    (stops : ∀ c ∈ rest.head?, c.isDigit = false) :
    (cs ++ rest).takeWhile Char.isDigit = cs ∧ (cs ++ rest).dropWhile Char.isDigit = rest := by
  have none : rest.takeWhile Char.isDigit = [] ∧ rest.dropWhile Char.isDigit = rest := by
    cases rest with
    | nil => exact ⟨rfl, rfl⟩
    | cons c rest => simp [stops c rfl]
  rw [List.takeWhile_append_of_pos digits, List.dropWhile_append_of_pos digits, none.1, none.2,
    List.append_nil]
  exact ⟨rfl, rfl⟩

structure Power where
  mark : Char
  sign : Sign
  digits : List Char
  marked : mark = 'e' ∨ mark = 'E'
  some_digit : digits ≠ []
  all_digits : Digits digits

namespace Power

def chars : Option Power → List Char
  | none => []
  | some p => p.mark :: (p.sign.chars ++ p.digits)

def exponent : Option Power → ℤ
  | none => 0
  | some p => p.sign.apply (Nat.ofDigitChars 10 p.digits 0 : ℤ)

theorem head_chars (p : Option Power) :
    ∀ c ∈ (chars p).head?, c = 'e' ∨ c = 'E' := by
  cases p with
  | none => simp [chars]
  | some p => simpa [chars] using p.marked

end Power

theorem exponentPart_eq_some_iff (cs : List Char) (e : ℤ) :
    exponentPart cs = some e ↔ ∃ p, cs = Power.chars p ∧ e = Power.exponent p := by
  constructor
  · intro read
    cases cs with
    | nil => exact ⟨none, rfl, (Option.some.inj read).symm⟩
    | cons mark rest =>
      obtain ⟨sign, written, minus⟩ := exists_sign rest
      simp only [exponentPart] at read
      split at read
      case isTrue accepted =>
        obtain ⟨marked, some_digit, digits⟩ := accepted
        refine ⟨some ⟨mark, sign, _, marked, some_digit, List.all_eq_true.mp digits⟩, ?_, ?_⟩
        · rw [Power.chars, ← written]
        · rw [← Option.some.inj read, Power.exponent, Sign.apply, ← minus]
          rfl
      case isFalse => contradiction
  · rintro ⟨p, rfl, rfl⟩
    cases p with
    | none => rfl
    | some p =>
      have accepted : (p.mark = 'e' ∨ p.mark = 'E') ∧ p.digits ≠ [] ∧ p.digits.all Char.isDigit :=
        ⟨p.marked, p.some_digit, List.all_eq_true.mpr p.all_digits⟩
      simp only [Power.chars, exponentPart, takeSign_chars p.sign _ p.all_digits.unsigned]
      rw [if_pos accepted]
      rfl

/-- A number in figures: digits before the point, digits behind it if there is a point, and
a power of ten if one is written. At least one digit stands before the power. -/
structure Figures where
  whole : List Char
  fraction : Option (List Char)
  power : Option Power
  whole_digits : Digits whole
  fraction_digits : ∀ cs ∈ fraction, Digits cs
  some_digit : whole ++ fraction.getD [] ≠ []

namespace Figures

def chars (u : Figures) : List Char :=
  u.whole ++ ((u.fraction.map ('.' :: ·)).getD [] ++ Power.chars u.power)

def numeral (u : Figures) : Numeral :=
  ⟨u.whole, u.fraction.getD [], Power.exponent u.power⟩

def number (u : Figures) : ℚ :=
  (Nat.ofDigitChars 10 u.whole 0 +
    Nat.ofDigitChars 10 (u.fraction.getD []) 0 / 10 ^ (u.fraction.getD []).length) *
    10 ^ Power.exponent u.power

end Figures

theorem fractionPart_chars (fraction : Option (List Char)) (p : Option Power)
    (digits : ∀ cs ∈ fraction, Digits cs) :
    fractionPart ((fraction.map ('.' :: ·)).getD [] ++ Power.chars p) =
      (fraction.getD [], Power.chars p) := by
  have letter := Power.head_chars p
  cases fraction with
  | none =>
    simp only [Option.map_none, Option.getD_none, List.nil_append]
    unfold fractionPart
    split
    · rename_i rest written
      rw [written] at letter
      simp at letter
    · rfl
  | some cs =>
    have stops : ∀ c ∈ (Power.chars p).head?, c.isDigit = false := by
      intro c first
      rcases letter c first with rfl | rfl <;> decide
    obtain ⟨taken, left⟩ := (digits cs rfl).span stops
    simp only [Option.map_some, Option.getD_some, List.cons_append, fractionPart, taken, left]

theorem exists_fraction (cs : List Char) :
    ∃ fraction : Option (List Char), (∀ ds ∈ fraction, Digits ds) ∧
      cs = (fraction.map ('.' :: ·)).getD [] ++ (fractionPart cs).2 ∧
      (fractionPart cs).1 = fraction.getD [] := by
  unfold fractionPart
  split
  · rename_i rest
    refine ⟨some (rest.takeWhile Char.isDigit), ?_, ?_, rfl⟩
    · intro ds same
      obtain rfl := Option.some.inj same
      exact List.all_eq_true.mp List.all_takeWhile
    · simp
  · exact ⟨none, by simp, by simp, rfl⟩

theorem stops_chars (fraction : Option (List Char)) (p : Option Power) :
    ∀ c ∈ ((fraction.map ('.' :: ·)).getD [] ++ Power.chars p).head?, c.isDigit = false := by
  intro c first
  cases fraction with
  | none =>
    rcases Power.head_chars p c first with rfl | rfl <;> decide
  | some cs =>
    obtain rfl : '.' = c := by simpa using first
    decide

theorem parse?_eq_some_iff (cs : List Char) (n : Numeral) :
    Numeral.parse? cs = some n ↔ ∃ u : Figures, cs = u.chars ∧ n = u.numeral := by
  constructor
  · intro read
    obtain ⟨fraction, digits, written, behind⟩ := exists_fraction (cs.dropWhile Char.isDigit)
    simp only [Numeral.parse?, behind] at read
    split_ifs at read with some_digit
    obtain ⟨e, power, rfl⟩ := Option.map_eq_some_iff.mp read
    obtain ⟨p, left, rfl⟩ := (exponentPart_eq_some_iff _ e).mp power
    refine ⟨⟨cs.takeWhile Char.isDigit, fraction, p, List.all_eq_true.mp List.all_takeWhile,
      digits, some_digit⟩, ?_, rfl⟩
    rw [Figures.chars, ← left, ← written, List.takeWhile_append_dropWhile]
  · rintro ⟨u, rfl, rfl⟩
    obtain ⟨taken, left⟩ := u.whole_digits.span (stops_chars u.fraction u.power)
    have power := (exponentPart_eq_some_iff _ _).mpr ⟨u.power, rfl, rfl⟩
    simp only [Numeral.parse?, Figures.chars, taken, left,
      fractionPart_chars u.fraction u.power u.fraction_digits, if_neg u.some_digit, power]
    rfl

theorem digitsValue_append (whole fraction : List Char) :
    digitsValue (whole ++ fraction) =
      Nat.ofDigitChars 10 whole 0 * 10 ^ fraction.length + Nat.ofDigitChars 10 fraction 0 := by
  change Nat.ofDigitChars 10 (whole ++ fraction) 0 = _
  rw [Nat.ofDigitChars_append, Nat.ofDigitChars_eq_ofDigitChars_zero, mul_comm]

namespace Literal

def value? : Literal → Option Extended
  | .finite negative significand exponent =>
    some (.finite
      (if negative then -(significand * 10 ^ exponent) else significand * 10 ^ exponent))
  | .infinite negative => some (if negative then ⊥ else ⊤)
  | .nan _ => none

theorem value?_ofNumeral (sign : Sign) (u : Figures) :
    (ofNumeral sign.isMinus u.numeral).value? = some (.finite (sign.apply u.number)) := by
  have size : (digitsValue (u.whole ++ u.fraction.getD []) : ℚ) *
      10 ^ (Power.exponent u.power - (u.fraction.getD []).length) = u.number := by
    rw [digitsValue_append, Figures.number, zpow_sub₀ (by norm_num), zpow_natCast]
    push_cast
    field_simp
  simp only [ofNumeral, Figures.numeral, value?, size, Sign.apply]

/-- What may follow the sign, and how it is read. -/
inductive Follows (negative : Bool) : List Char → Literal → Prop
  | figures (u : Figures) : Follows negative u.chars (ofNumeral negative u.numeral)
  | infinity (cs : List Char)
      (word : cs.map Char.toLower = "inf".toList ∨ cs.map Char.toLower = "infinity".toList) :
      Follows negative cs (.infinite negative)
  | nan (cs : List Char) (word : cs.map Char.toLower = "nan".toList) :
      Follows negative cs (.nan negative)

theorem head_figures (u : Figures) : ∃ c rest, u.chars = c :: rest ∧ (c.isDigit ∨ c = '.') := by
  cases written : u.whole with
  | cons c rest =>
    exact ⟨c, _, by rw [Figures.chars, written, List.cons_append],
      .inl (u.whole_digits c (by simp [written]))⟩
  | nil =>
    cases point : u.fraction with
    | none => exact absurd (by simp [written, point]) u.some_digit
    | some cs =>
      refine ⟨'.', cs ++ Power.chars u.power, ?_, .inr rfl⟩
      simp [Figures.chars, written, point]

theorem head_lower_figures (u : Figures) :
    ∀ c ∈ (u.chars.map Char.toLower).head?, c.isDigit ∨ c = '.' := by
  obtain ⟨c, rest, written, first⟩ := head_figures u
  rw [written]
  intro d same
  obtain rfl : c.toLower = d := by simpa using same
  rcases first with digit | rfl
  · have same : c.toLower = c := by
      rw [Char.isDigit, Bool.and_eq_true, decide_eq_true_eq, decide_eq_true_eq] at digit
      exact dif_neg fun upper => absurd (UInt32.le_trans upper.1 digit.2) (by decide)
    rw [same]
    exact .inl digit
  · exact .inr rfl

theorem ofUnsigned?_eq_some_iff (negative : Bool) (cs : List Char) (l : Literal) :
    ofUnsigned? negative cs = some l ↔ Follows negative cs l := by
  have spelled (word : String) (same : String.ofList (cs.map Char.toLower) = word) :
      cs.map Char.toLower = word.toList := by
    rw [← same, String.toList_ofList]
  constructor
  · intro read
    unfold ofUnsigned? at read
    split at read
    · rename_i word
      obtain rfl := Option.some.inj read
      exact .nan cs (spelled _ word)
    · rename_i word
      obtain rfl := Option.some.inj read
      exact .infinity cs (.inl (spelled _ word))
    · rename_i word
      obtain rfl := Option.some.inj read
      exact .infinity cs (.inr (spelled _ word))
    · obtain ⟨n, parsed, rfl⟩ := Option.map_eq_some_iff.mp read
      obtain ⟨u, rfl, rfl⟩ := (parse?_eq_some_iff cs n).mp parsed
      exact .figures u
  · rintro (⟨u⟩ | ⟨_, word | word⟩ | ⟨_, word⟩)
    · have never (word : String) (letter : ∃ c ∈ word.toList.head?, ¬(c.isDigit ∨ c = '.')) :
          String.ofList (u.chars.map Char.toLower) ≠ word := by
        intro same
        obtain ⟨c, first, neither⟩ := letter
        exact neither (head_lower_figures u c (spelled word same ▸ first))
      unfold ofUnsigned?
      split
      · exact absurd ‹_› (never "nan" ⟨'n', rfl, by decide⟩)
      · exact absurd ‹_› (never "inf" ⟨'i', rfl, by decide⟩)
      · exact absurd ‹_› (never "infinity" ⟨'i', rfl, by decide⟩)
      · rw [(parse?_eq_some_iff u.chars u.numeral).mpr ⟨u, rfl, rfl⟩, Option.map_some]
    · simp [ofUnsigned?, word]
    · simp [ofUnsigned?, word]
    · simp [ofUnsigned?, word]

theorem Follows.unsigned {negative : Bool} {cs : List Char} {l : Literal}
    (follows : Follows negative cs l) : cs ≠ [] ∧ Unsigned cs := by
  have named (word : List Char) (same : cs.map Char.toLower = word) (nonempty : word ≠ [])
      (unsigned : Unsigned word) : cs ≠ [] ∧ Unsigned cs := by
    have head (sign : Char) (kept : sign.toLower = sign) (first : cs.head? = some sign) :
        word.head? = some sign := by
      rw [← same, List.head?_map, first, Option.map_some, kept]
    refine ⟨?_, fun plus => unsigned.1 (head '+' rfl plus),
      fun minus => unsigned.2 (head '-' rfl minus)⟩
    rintro rfl
    exact nonempty same.symm
  cases follows with
  | figures u =>
    obtain ⟨c, rest, written, first⟩ := head_figures u
    rw [written]
    refine ⟨List.cons_ne_nil c rest, ?_, ?_⟩ <;>
      · intro same
        obtain rfl := Option.some.inj same
        exact absurd first (by decide)
  | infinity _ word =>
    rcases word with word | word <;>
      exact named _ word (by decide) ⟨by decide, by decide⟩
  | nan _ word => exact named _ word (by decide) ⟨by decide, by decide⟩

theorem parse_eq_ok_iff (text : String) (l : Literal) :
    parse text = .ok l ↔
      ∃ (sign : Sign) (cs : List Char), text.toList = sign.chars ++ cs ∧
        Follows sign.isMinus cs l := by
  constructor
  · intro read
    obtain ⟨sign, written, minus⟩ := exists_sign text.toList
    unfold parse at read
    split_ifs at read
    simp only [minus] at read
    split at read
    · rename_i found
      obtain rfl := Except.ok.inj read
      exact ⟨sign, _, written, (ofUnsigned?_eq_some_iff _ _ _).mp found⟩
    · contradiction
  · rintro ⟨sign, cs, written, follows⟩
    obtain ⟨some, unsigned⟩ := follows.unsigned
    have nonempty : sign.chars ++ cs ≠ [] := List.append_ne_nil_of_right_ne_nil _ some
    rw [parse, written, if_neg nonempty, takeSign_chars sign cs unsigned]
    simp only [(ofUnsigned?_eq_some_iff _ _ _).mpr follows]

end Literal

def Denotes (text : String) (v : ℚ) : Prop :=
  ∃ (sign : Sign) (u : Figures), text.toList = sign.chars ++ u.chars ∧ v = sign.apply u.number

/-- The text is one of the two words for infinity, in any mixture of cases, with this sign. -/
def SpellsInfinity (sign : Sign) (text : String) : Prop :=
  ∃ word, text.toList = sign.chars ++ word ∧
    (word.map Char.toLower = "inf".toList ∨ word.map Char.toLower = "infinity".toList)

/-- The text is the word for no number, in any mixture of cases and with any sign. -/
def SpellsNaN (text : String) : Prop :=
  ∃ (sign : Sign) (word : List Char), text.toList = sign.chars ++ word ∧
    word.map Char.toLower = "nan".toList

inductive Asks (text : String) : Extended → Prop
  | number (v : ℚ) (denotes : Denotes text v) : Asks text (.finite v)
  | infinity (sign : Sign) (above : sign ≠ .minus) (spelled : SpellsInfinity sign text) :
      Asks text ⊤
  | minusInfinity (spelled : SpellsInfinity .minus text) : Asks text ⊥

theorem SpellsInfinity.parse {sign : Sign} {text : String} (spelled : SpellsInfinity sign text) :
    Literal.parse text = .ok (.infinite sign.isMinus) := by
  obtain ⟨word, written, spelled⟩ := spelled
  exact (Literal.parse_eq_ok_iff _ _).mpr ⟨sign, word, written, .infinity word spelled⟩

theorem spellsNaN_iff (text : String) :
    SpellsNaN text ↔ ∃ negative, Literal.parse text = .ok (.nan negative) := by
  constructor
  · rintro ⟨sign, word, written, spelled⟩
    exact ⟨sign.isMinus, (Literal.parse_eq_ok_iff _ _).mpr ⟨sign, word, written, .nan word spelled⟩⟩
  · rintro ⟨negative, read⟩
    obtain ⟨sign, word, written, follows⟩ := (Literal.parse_eq_ok_iff _ _).mp read
    cases follows with
    | nan _ spelled => exact ⟨sign, word, written, spelled⟩

theorem asks_iff (text : String) (v : Extended) :
    Asks text v ↔ ∃ l, Literal.parse text = .ok l ∧ l.value? = some v := by
  constructor
  · intro asks
    cases asks with
    | number v denotes =>
      obtain ⟨sign, u, written, rfl⟩ := denotes
      exact ⟨_, (Literal.parse_eq_ok_iff _ _).mpr ⟨sign, u.chars, written, .figures u⟩,
        Literal.value?_ofNumeral sign u⟩
    | infinity sign above spelled =>
      refine ⟨_, spelled.parse, ?_⟩
      cases sign <;> first | rfl | contradiction
    | minusInfinity spelled => exact ⟨_, spelled.parse, rfl⟩
  · rintro ⟨l, read, value⟩
    obtain ⟨sign, cs, written, follows⟩ := (Literal.parse_eq_ok_iff text l).mp read
    cases follows with
    | figures u =>
      rw [Literal.value?_ofNumeral] at value
      obtain rfl := Option.some.inj value
      exact .number _ ⟨sign, u, written, rfl⟩
    | infinity _ word =>
      obtain rfl := Option.some.inj value
      cases sign with
      | absent => exact .infinity .absent (by decide) ⟨cs, written, word⟩
      | plus => exact .infinity .plus (by decide) ⟨cs, written, word⟩
      | minus => exact .minusInfinity ⟨cs, written, word⟩
    | nan _ word => contradiction

/-- A text is read just when it asks for a number or says that it is none. -/
theorem parse_ok_iff (text : String) :
    (∃ l, Literal.parse text = .ok l) ↔ (∃ v, Asks text v) ∨ SpellsNaN text := by
  simp only [asks_iff, spellsNaN_iff]
  constructor
  · rintro ⟨l, read⟩
    cases l with
    | finite negative significand exponent => exact .inl ⟨_, _, read, rfl⟩
    | infinite negative => exact .inl ⟨_, _, read, rfl⟩
    | nan negative => exact .inr ⟨negative, read⟩
  · rintro (⟨_, l, read, _⟩ | ⟨_, read⟩)
    · exact ⟨l, read⟩
    · exact ⟨_, read⟩

end BookingDesk.Number
