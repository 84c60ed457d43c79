import BookingDesk.Proofs.CommandLine
import BookingDesk.Proofs.Rounding
import BookingDesk.Proofs.WrittenNumber

/-!
The window gets the size that is asked for, or the least size if that is more. A size is
rounded before it is compared with the least one; since rounding keeps the order, the
outcome is the larger of the two numbers, rounded.
-/

namespace BookingDesk.Number

variable {f : Format}

namespace Format

def numberAt (f : Format) (m : ℕ) : Extended :=
  if m < f.infinity then .finite (f.valueAt m) else ⊤

theorem numberAt_mono : Monotone f.numberAt := by
  intro m k le
  unfold numberAt
  split_ifs with first second
  · exact Extended.finite_le.mpr (f.valueAt_strictMono.monotone le)
  · exact le_top
  · omega
  · exact le_rfl

theorem number?_bits (sound : f.Sound) (m : ℕ) (bounded : m ≤ f.infinity) :
    f.number? (⟨false, m⟩ : Binary f).bits = some (f.numberAt m) := by
  rcases bounded.lt_or_eq with finite | rfl
  · rw [Binary.number?_of_finite sound ⟨false, m⟩ finite, numberAt, if_pos finite]
    rfl
  · rw [Binary.number?_of_infinite sound ⟨false, f.infinity⟩ rfl, numberAt, if_neg (lt_irrefl _)]
    rfl

end Format

namespace Literal

/-- The magnitude of a numeral that stands for a number above zero; that of zero for others. -/
def reach (f : Format) : Literal → ℕ
  | .finite false significand exponent => f.nearestDecimal significand exponent
  | .infinite false => f.infinity
  | .finite true _ _ | .infinite true | .nan _ => 0

theorem reach_le_infinity (sound : f.Sound) (l : Literal) : l.reach f ≤ f.infinity := by
  match l with
  | .finite false significand exponent =>
    exact (Format.roundsTo_nearestDecimal sound significand exponent).le_infinity
  | .infinite false => exact le_rfl
  | .finite true _ _ | .infinite true | .nan _ => exact Nat.zero_le _

theorem reach_cases (sound : f.Sound) {l : Literal} {v : Extended} (value : l.value? = some v) :
    (v = ⊥ ∧ l.reach f = 0) ∨ (v = ⊤ ∧ l.reach f = f.infinity) ∨
      ∃ q, v = .finite q ∧ f.RoundsTo (max q 0) (l.reach f) := by
  have zero : f.RoundsTo 0 0 := by
    have rounded := Format.roundsTo_nearestDecimal sound 0 0
    rwa [Nat.cast_zero, zero_mul] at rounded
  have size (significand : ℕ) (exponent : ℤ) : (0 : ℚ) ≤ significand * 10 ^ exponent := by
    positivity
  match l with
  | .finite false significand exponent =>
    refine .inr (.inr ⟨_, (Option.some.inj value).symm, ?_⟩)
    rw [if_neg Bool.false_ne_true, max_eq_left (size significand exponent)]
    exact Format.roundsTo_nearestDecimal sound significand exponent
  | .finite true significand exponent =>
    refine .inr (.inr ⟨_, (Option.some.inj value).symm, ?_⟩)
    rw [if_pos rfl, max_eq_right (neg_nonpos.mpr (size significand exponent))]
    exact zero
  | .infinite false => exact .inr (.inl ⟨(Option.some.inj value).symm, rfl⟩)
  | .infinite true => exact .inl ⟨(Option.some.inj value).symm, rfl⟩
  | .nan _ => contradiction

theorem roundsTo_reach (sound : f.Sound) {l : Literal} {v : ℚ}
    (value : l.value? = some (.finite v)) : f.RoundsTo (max v 0) (l.reach f) := by
  obtain ⟨bottom, _⟩ | ⟨top, _⟩ | ⟨q, same, rounded⟩ := reach_cases sound value
  · exact absurd bottom (Extended.finite_ne_bot v)
  · exact absurd top (Extended.finite_ne_top v)
  · rw [Extended.finite_inj.mp same]
    exact rounded

theorem reach_mono (sound : f.Sound) {l k : Literal} {v w : Extended}
    (first : l.value? = some v) (second : k.value? = some w) (le : v ≤ w) :
    l.reach f ≤ k.reach f := by
  obtain ⟨rfl, bottom⟩ | ⟨rfl, top⟩ | ⟨q, rfl, rounded⟩ := reach_cases sound second
  · obtain rfl := le_bot_iff.mp le
    obtain ⟨_, none⟩ | ⟨never, _⟩ | ⟨q, never, _⟩ := reach_cases sound first
    · rw [none]
      exact Nat.zero_le _
    · exact absurd never bot_ne_top
    · exact absurd never.symm (Extended.finite_ne_bot q)
  · rw [top]
    exact reach_le_infinity sound l
  · obtain ⟨_, none⟩ | ⟨rfl, _⟩ | ⟨p, rfl, lower⟩ := reach_cases sound first
    · rw [none]
      exact Nat.zero_le _
    · exact absurd (top_le_iff.mp le) (Extended.finite_ne_top q)
    · exact lower.mono rounded (max_le_max_right 0 (Extended.finite_le.mp le))

/-- Only a number above zero can replace a least value that is one. -/
theorem atLeast_toBinary (sound : f.Sound) (least : ℕ) (positive : 0 < least) (l : Literal) :
    Binary.atLeast ⟨false, least⟩ (l.toBinary f) = ⟨false, max least (l.reach f)⟩ := by
  have above (m : ℕ) (bounded : m ≤ f.infinity) :
      Binary.atLeast ⟨false, least⟩ (⟨false, m⟩ : Binary f) = ⟨false, max least m⟩ := by
    rcases lt_or_ge m least with less | more
    · simp [Binary.atLeast, Binary.rank, less, less.le]
    · simp [Binary.atLeast, Binary.rank, Binary.isNaN, bounded, more]
  have below (m : ℕ) :
      Binary.atLeast ⟨false, least⟩ (⟨true, m⟩ : Binary f) = ⟨false, max least 0⟩ := by
    have less : -(m : ℤ) < least := by omega
    simp [Binary.atLeast, Binary.rank, less]
  have bounded := reach_le_infinity sound l
  match l with
  | .finite false _ _ => exact above _ bounded
  | .finite true _ _ => exact below _
  | .infinite false => exact above _ bounded
  | .infinite true => exact below _
  | .nan negative => simp [Binary.atLeast, Binary.isNaN, toBinary, reach]

/-- Rounding and then taking the larger is taking the larger and then rounding. -/
theorem roundsTo_max_reach (sound : f.Sound) {l : Literal} {v : ℚ} (least : ℕ)
    (value : l.value? = some (.finite v)) :
    f.RoundsTo (max v least) (max (f.nearest least 1) (l.reach f)) := by
  have rounded := (Format.roundsTo_nearest sound least 1 Nat.one_pos).max
    (roundsTo_reach sound value)
  rw [Nat.cast_one, div_one, max_comm v 0, ← max_assoc, max_eq_left (Nat.cast_nonneg least),
    max_comm] at rounded
  exact rounded

end Literal

namespace Format

theorem single_overflow : single.overflow = 2 ^ 128 - 2 ^ 103 := by
  have largest : single.unitsAt (single.infinity - 1) = (2 ^ 24 - 1) * 2 ^ 253 := by
    decide +kernel
  have next : single.valueAt single.infinity = 2 ^ 128 := valueAt_infinity single_sound
  have scale : single.scale = 149 := by decide
  rw [overflow, next, valueAt, largest, scale]
  norm_num

end Format

end BookingDesk.Number

namespace BookingDesk.Launch

open Number Text.Utf8

inductive Side where
  | width
  | height
deriving DecidableEq

namespace Side

def flag : Side → Flag
  | .width => .width
  | .height => .height

def least : Side → ℕ
  | .width => 320
  | .height => 240

def length (side : Side) (o : Options) : Single :=
  match side with
  | .width => o.innerSize.1
  | .height => o.innerSize.2

def magnitude (side : Side) (l : Literal) : ℕ :=
  max (Format.single.nearest side.least 1) (l.reach .single)

theorem magnitude_le_infinity (side : Side) (l : Literal) :
    side.magnitude l ≤ Format.single.infinity :=
  max_le (Nat.min_le_right _ _) (l.reach_le_infinity Format.single_sound)

theorem nearest_least (side : Side) :
    0 < Format.single.nearest side.least 1 ∧
      Format.single.numberAt (Format.single.nearest side.least 1) = .finite side.least := by
  have computed : 0 < Format.single.nearest side.least 1 ∧
      Format.single.nearest side.least 1 < Format.single.infinity ∧
      Format.single.unitsAt (Format.single.nearest side.least 1) =
        side.least * 2 ^ Format.single.scale := by
    cases side <;> decide +kernel
  obtain ⟨positive, finite, units⟩ := computed
  refine ⟨positive, ?_⟩
  rw [Format.numberAt, if_pos finite, Format.valueAt, units]
  push_cast
  rw [mul_div_assoc, div_self (by positivity), mul_one]

theorem atLeast_least (side : Side) (l : Literal) :
    Binary.atLeast (.ofNat .single side.least) (l.toBinary .single) = ⟨false, side.magnitude l⟩ :=
  Literal.atLeast_toBinary Format.single_sound _ side.nearest_least.1 l

def usual : Side → ℕ
  | .width => 600
  | .height => 400

theorem length_ofSettings (side : Side) (settings : List Setting) :
    side.length (.ofSettings settings) =
      .atLeast (.ofNat .single side.least)
        (((textOf side.flag settings).bind size?).getD (.ofNat .single side.usual)) := by
  cases side <;> rfl

theorem length_of_text (side : Side) {settings : List Setting} {text : String} {l : Literal}
    (given : textOf side.flag settings = some text) (read : Literal.parse text = .ok l) :
    side.length (.ofSettings settings) = ⟨false, side.magnitude l⟩ := by
  have size : size? text = some (l.toBinary .single) := by simp only [size?, read]
  rw [length_ofSettings, given, Option.bind_some, size, Option.getD_some, side.atLeast_least]

/-- The length is always that of some numeral, for the usual one could have been written. -/
theorem exists_literal (side : Side) (settings : List Setting) :
    ∃ l, side.length (.ofSettings settings) = ⟨false, side.magnitude l⟩ := by
  have written :
      .ofNat .single side.usual = (Literal.finite false side.usual 0).toBinary .single := by
    cases side <;> decide +kernel
  rw [length_ofSettings]
  cases size : (textOf side.flag settings).bind size? with
  | none => exact ⟨_, by rw [Option.getD_none, written, side.atLeast_least]⟩
  | some x =>
    obtain ⟨text, _, read⟩ := Option.bind_eq_some_iff.mp size
    unfold size? at read
    split at read
    · obtain rfl := Option.some.inj read
      exact ⟨_, by rw [Option.getD_some, side.atLeast_least]⟩
    · contradiction

theorem bits_lt (side : Side) (l : Literal) :
    (⟨false, side.magnitude l⟩ : Single).bits < 2 ^ 32 := by
  calc (⟨false, side.magnitude l⟩ : Single).bits = side.magnitude l := Nat.zero_add _
    _ ≤ Format.single.infinity := side.magnitude_le_infinity l
    _ < 2 ^ 32 := by decide

theorem least_le (side : Side) (l : Literal) :
    .finite side.least ≤ Format.single.numberAt (side.magnitude l) := by
  rw [← side.nearest_least.2]
  exact Format.numberAt_mono (le_max_left _ _)

theorem magnitude_mono (side : Side) {l k : Literal} {v w : Extended}
    (first : l.value? = some v) (second : k.value? = some w) (le : v ≤ w) :
    side.magnitude l ≤ side.magnitude k :=
  max_le_max_left _ (Literal.reach_mono Format.single_sound first second le)

theorem number?_length (side : Side) (l : Literal) :
    Format.single.number? (⟨false, side.magnitude l⟩ : Single).bits =
      some (Format.single.numberAt (side.magnitude l)) :=
  Format.number?_bits Format.single_sound _ (side.magnitude_le_infinity l)

end Side

def Gives (commandLine : List Argument) (flag : Flag) (text : String) : Prop :=
  ∃ settings closed, Spells commandLine.tail settings closed ∧ textOf flag settings = some text

theorem Gives.accepted {commandLine : List Argument} {side : Side} {text : String}
    (gives : Gives commandLine side.flag text) :
    ∃ o l, parse commandLine = .ok o ∧ Literal.parse text = .ok l ∧
      side.length o = ⟨false, side.magnitude l⟩ := by
  obtain ⟨settings, closed, spells, given⟩ := gives
  obtain ⟨s, member, same⟩ :=
    List.mem_map.mp ((textOf_eq_some_iff side.flag text settings spells.once).mp given)
  obtain ⟨flag, rfl⟩ := Prod.mk.inj same
  have readable : side.flag.Reads s.text := flag ▸ spells.readable s member
  obtain ⟨l, read⟩ : ∃ l, Literal.parse s.text = .ok l := by cases side <;> exact readable
  exact ⟨_, l, (parse_eq_ok_iff commandLine _).mpr ⟨settings, closed, spells, rfl⟩, read,
    side.length_of_text given read⟩

theorem Gives.length_of_asks {commandLine : List Argument} {side : Side} {text : String}
    {o : Options} {v : Extended} (gives : Gives commandLine side.flag text)
    (accepted : parse commandLine = .ok o) (asks : Asks text v) :
    ∃ l : Literal, l.value? = some v ∧ side.length o = ⟨false, side.magnitude l⟩ := by
  obtain ⟨p, l, again, read, length⟩ := gives.accepted
  obtain rfl := Except.ok.inj (accepted.symm.trans again)
  obtain ⟨k, same, value⟩ := (asks_iff text v).mp asks
  obtain rfl := Except.ok.inj (read.symm.trans same)
  exact ⟨l, value, length⟩

theorem exists_gives (side : Side) {text : String} {l : Literal}
    (read : Literal.parse text = .ok l) : ∃ commandLine, Gives commandLine side.flag text := by
  have readable : side.flag.Reads text := by cases side <;> exact ⟨l, read⟩
  have spells :
      Spells (Setting.arguments ⟨side.flag, text, true⟩) [⟨side.flag, text, true⟩] false :=
    ⟨by simp, by simp, by simpa using readable, by simp [Setting.Distinct]⟩
  exact ⟨[] :: _, _, _, spells, by simp [textOf]⟩

/-- What the pattern of a length must be for the text that asks for it. -/
structure Fits (least : ℚ) (text : String) (bits : ℕ) : Prop where
  number : ∀ v, Denotes text v → v < 2 ^ 128 - 2 ^ 103 → Format.single.Nearest (max v least) bits
  overflow : ∀ v, Denotes text v → 2 ^ 128 - 2 ^ 103 ≤ v → Format.single.number? bits = some ⊤
  infinity : ∀ sign, sign ≠ .minus → SpellsInfinity sign text →
    Format.single.number? bits = some ⊤
  minusInfinity : SpellsInfinity .minus text → Format.single.number? bits = some (.finite least)
  nan : SpellsNaN text → Format.single.number? bits = some (.finite least)

namespace Side

theorem fits (side : Side) {text : String} {l : Literal} (read : Literal.parse text = .ok l) :
    Fits side.least text (⟨false, side.magnitude l⟩ : Single).bits := by
  have rounded (v : ℚ) (denotes : Denotes text v) :
      Format.single.RoundsTo (max v side.least) (side.magnitude l) := by
    obtain ⟨other, again, value⟩ := (asks_iff text (.finite v)).mp (.number v denotes)
    obtain rfl := Except.ok.inj (read.symm.trans again)
    exact Literal.roundsTo_max_reach Format.single_sound side.least value
  have infinite (above : side.magnitude l = Format.single.infinity) :
      Format.single.number? (⟨false, side.magnitude l⟩ : Single).bits = some ⊤ := by
    rw [number?_length, above, Format.numberAt, if_neg (lt_irrefl _)]
  have smallest (none : l.reach .single = 0) :
      Format.single.number? (⟨false, side.magnitude l⟩ : Single).bits =
        some (.finite side.least) := by
    rw [number?_length, magnitude, none, max_eq_left (Nat.zero_le _), side.nearest_least.2]
  constructor
  · intro v denotes below
    have inside : max v side.least < Format.single.overflow := by
      rw [Format.single_overflow]
      refine max_lt below ?_
      cases side <;> norm_num [least]
    obtain ⟨finite, nearest⟩ := (rounded v denotes).finite inside
    have nonneg : (0 : ℚ) ≤ max v side.least := le_max_of_le_right (Nat.cast_nonneg _)
    exact Format.nearest_of_nearestAt Format.single_sound nonneg finite nearest
  · intro v denotes beyond
    refine infinite ((rounded v denotes).infinite ?_)
    rw [Format.single_overflow]
    exact le_max_of_le_left beyond
  · intro sign above spelled
    obtain rfl := Except.ok.inj (read.symm.trans spelled.parse)
    have positive : sign.isMinus = false := by cases sign <;> first | rfl | contradiction
    refine infinite ?_
    rw [positive]
    exact max_eq_right (Nat.min_le_right _ _)
  · intro spelled
    obtain rfl := Except.ok.inj (read.symm.trans spelled.parse)
    exact smallest rfl
  · intro spelled
    obtain ⟨negative, again⟩ := (spellsNaN_iff text).mp spelled
    obtain rfl := Except.ok.inj (read.symm.trans again)
    exact smallest rfl

end Side

/-- The window gets the size that is asked for, rounded to the nearest number of the format, or
the least size. Every accepted command line leads to a number that is not less than the
least size, and a line that asks for more never gets less. -/
theorem window_gets_asked_or_least (side : Side) :
    (∀ text, (∃ commandLine, Gives commandLine side.flag text) ↔
      (∃ v, Asks text v) ∨ SpellsNaN text) ∧
    (∀ commandLine text, Gives commandLine side.flag text →
      ∃ o, parse commandLine = .ok o ∧ Fits side.least text (side.length o).bits) ∧
    (∀ commandLine o, parse commandLine = .ok o → (side.length o).bits < 2 ^ 32 ∧
      ∃ a, Format.single.number? (side.length o).bits = some a ∧ .finite side.least ≤ a) ∧
    ∀ commandLine other text asked v w o p,
      parse commandLine = .ok o → Gives commandLine side.flag text → Asks text v →
      parse other = .ok p → Gives other side.flag asked → Asks asked w → v ≤ w →
      ∃ a b, Format.single.number? (side.length o).bits = some a ∧
        Format.single.number? (side.length p).bits = some b ∧ a ≤ b := by
  refine ⟨?_, ?_, ?_, ?_⟩
  · intro text
    rw [← parse_ok_iff]
    constructor
    · rintro ⟨commandLine, gives⟩
      obtain ⟨_, l, _, read, _⟩ := gives.accepted
      exact ⟨l, read⟩
    · rintro ⟨l, read⟩
      exact exists_gives side read
  · intro commandLine text gives
    obtain ⟨o, l, accepted, read, length⟩ := gives.accepted
    refine ⟨o, accepted, ?_⟩
    rw [length]
    exact side.fits read
  · intro commandLine o accepted
    obtain ⟨settings, _, _, rfl⟩ := (parse_eq_ok_iff commandLine o).mp accepted
    obtain ⟨l, length⟩ := side.exists_literal settings
    rw [length, side.number?_length]
    exact ⟨side.bits_lt l, _, rfl, side.least_le l⟩
  · intro commandLine other text asked v w o p accepted gives asks taken givesOther asksOther le
    obtain ⟨l, value, length⟩ := gives.length_of_asks accepted asks
    obtain ⟨k, valueOther, lengthOther⟩ := givesOther.length_of_asks taken asksOther
    rw [length, lengthOther, side.number?_length, side.number?_length]
    exact ⟨_, _, rfl, rfl, Format.numberAt_mono (side.magnitude_mono value valueOther le)⟩

/-- A width halfway between two numbers of the format, a height below all of them, and another
line that asks for the greatest width there is. -/
theorem window_of_tie_and_infinities :
    let commandLine := ["hall_desktop", "--width=1677721.7e+1", "--height=-INF"].map encode
    let other := ["", "--width", "Infinity", "--"].map encode
    ∃ o p a b, parse commandLine = .ok o ∧ parse other = .ok p ∧
      Format.single.Nearest 16777217 (Side.width.length o).bits ∧
      Format.single.number? (Side.height.length o).bits = some (.finite 240) ∧
      Format.single.number? (Side.width.length o).bits = some a ∧
      Format.single.number? (Side.width.length p).bits = some b ∧ .finite 320 ≤ a ∧ a ≤ b := by
  intro commandLine other
  have spells : Spells commandLine.tail
      [⟨.width, "1677721.7e+1", true⟩, ⟨.height, "-INF", true⟩] false :=
    ⟨by decide, by decide, by simp [Flag.Reads]; exact ⟨⟨_, rfl⟩, ⟨_, rfl⟩⟩,
      by simp [Setting.Distinct]⟩
  have spelled : Spells other.tail [⟨.width, "Infinity", false⟩] true :=
    ⟨by decide, by decide, by simp [Flag.Reads]; exact ⟨_, rfl⟩, by simp [Setting.Distinct]; decide⟩
  have wide : Gives commandLine Side.width.flag "1677721.7e+1" := ⟨_, _, spells, rfl⟩
  have high : Gives commandLine Side.height.flag "-INF" := ⟨_, _, spells, rfl⟩
  have wider : Gives other Side.width.flag "Infinity" := ⟨_, _, spelled, rfl⟩
  have tie : Denotes "1677721.7e+1" 16777217 := by
    have digits : Nat.ofDigitChars 10 "1677721".toList 0 = 1677721 ∧
        Nat.ofDigitChars 10 ['7'] 0 = 7 ∧ Nat.ofDigitChars 10 ['1'] 0 = 1 := by decide
    refine ⟨.absent, ⟨"1677721".toList, some ['7'],
      some ⟨'e', .plus, ['1'], .inl rfl, by decide, by simp [Digits]⟩,
      by simp [Digits], by simp [Digits], by decide⟩, by decide, ?_⟩
    norm_num [Sign.apply, Sign.isMinus, Figures.number, Power.exponent, digits]
  have unbounded : SpellsInfinity .absent "Infinity" := ⟨_, rfl, .inr (by decide)⟩
  have bottomless : SpellsInfinity .minus "-INF" := ⟨"INF".toList, by decide, .inl (by decide)⟩
  obtain ⟨_, fits, bounds, mono⟩ := window_gets_asked_or_least .width
  obtain ⟨o, accepted, width⟩ := fits _ _ wide
  obtain ⟨p, taken, _⟩ := fits _ _ wider
  obtain ⟨q, again, height⟩ := (window_gets_asked_or_least .height).2.1 _ _ high
  obtain rfl := Except.ok.inj (accepted.symm.trans again)
  obtain ⟨a, b, first, second, le⟩ := mono _ _ _ _ _ _ o p accepted wide (.number _ tie) taken wider
    (.infinity .absent (by decide) unbounded) le_top
  obtain ⟨_, c, same, least⟩ := bounds _ o accepted
  obtain rfl := Option.some.inj (first.symm.trans same)
  have nearest := width.number _ tie (by norm_num)
  rw [max_eq_left (by norm_num [Side.least])] at nearest
  exact ⟨o, p, a, b, accepted, taken, nearest, height.minusInfinity bottomless, first, second,
    least, le⟩

end BookingDesk.Launch
