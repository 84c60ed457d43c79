import BookingDesk.Launch.LogFilter
import BookingDesk.Proofs.CommandLine
import BookingDesk.Proofs.Trimming

/-!
Where the log filter comes from. An option that is not blank decides alone, and then the
environment has no influence at all; else a legible text in the environment does; else it
is the default. Whatever the filter is, it has no blanks around it and stays as it is when
it is given as an option again.
-/

namespace BookingDesk

namespace Text

/-- The core of a text has no blanks at its two ends, and nothing but blanks is missing. -/
def IsCore (core text : String) : Prop :=
  Trimmed core.toList ∧ ∃ front back, text.toList = front ++ core.toList ++ back ∧
    (∀ c ∈ front, isBlank c = true) ∧ ∀ c ∈ back, isBlank c = true

theorem trim_eq_iff (text core : String) : trim text = core ↔ IsCore core text := by
  rw [IsCore, ← trimList_eq_iff, trim, ← String.toList_inj, String.toList_ofList]

theorem isCore_trim (text : String) : IsCore (trim text) text :=
  (trim_eq_iff text _).mp rfl

theorem trim_trim (text : String) : trim (trim text) = trim text := by
  rw [trim_eq_iff]
  exact ⟨(isCore_trim text).1, [], [], by simp, by simp, by simp⟩

theorem legible_of_trimmed (text : String) (trimmed : Trimmed text.toList) (some : text ≠ "") :
    Legible text := by
  cases written : text.toList with
  | nil => exact absurd (String.toList_eq_nil_iff.mp written) some
  | cons c rest =>
    refine ⟨c, by simp [written], trimmed.first c ?_⟩
    rw [written]
    rfl

theorem legible_trim (text : String) (legible : Legible text) : Legible (trim text) :=
  legible_of_trimmed _ (isCore_trim text).1 ((trim_ne_empty_iff text).mpr legible)

end Text

namespace Launch

open Text Text.Utf8

theorem usable?_of_legible (text : String) (legible : Legible text) :
    usable? text = some (trim text) := by
  exact if_neg ((trim_ne_empty_iff text).mpr legible)

theorem usable?_of_blank (text : String) (blank : ¬Legible text) : usable? text = none := by
  rw [← trim_ne_empty_iff, Decidable.not_not] at blank
  exact if_pos blank

theorem chooseFilter_of_legible (flag : String) (legible : Legible flag)
    (setting : Option (List UInt8)) : chooseFilter (some flag) setting = ⟨trim flag, ""⟩ := by
  simp only [chooseFilter, Option.bind_some, usable?_of_legible flag legible]

def Unset (flag : Option String) : Prop :=
  ∀ text, flag = some text → ¬Legible text

theorem unset_or_legible (flag : Option String) :
    Unset flag ∨ ∃ text, flag = some text ∧ Legible text := by
  cases flag with
  | none => exact .inl (by simp [Unset])
  | some text =>
    by_cases legible : Legible text
    · exact .inr ⟨text, rfl, legible⟩
    · exact .inl (by simpa [Unset] using legible)

theorem setting_cases (setting : Option (List UInt8)) :
    setting = none ∨ (∃ text, setting = some (encode text)) ∨
      ∃ bytes, setting = some bytes ∧ ∀ text, bytes ≠ encode text := by
  cases setting with
  | none => exact .inl rfl
  | some bytes =>
    by_cases written : ∃ text, bytes = encode text
    · obtain ⟨text, rfl⟩ := written
      exact .inr (.inl ⟨text, rfl⟩)
    · exact .inr (.inr ⟨bytes, rfl, fun text same => written ⟨text, same⟩⟩)

namespace Unset

variable {flag : Option String}

theorem bind_usable? (unset : Unset flag) : flag.bind usable? = none := by
  cases flag with
  | none => rfl
  | some text => exact usable?_of_blank text (unset text rfl)

theorem choose_none (unset : Unset flag) : chooseFilter flag none = ⟨defaultFilter, ""⟩ := by
  simp only [chooseFilter, unset.bind_usable?, environmentFilter, Option.getD_none]

theorem choose_legible (unset : Unset flag) (text : String) (legible : Legible text) :
    chooseFilter flag (some (encode text)) = ⟨trim text, ""⟩ := by
  have read := (decode?_eq_some_iff (encode text) text).mpr rfl
  simp only [chooseFilter, unset.bind_usable?, environmentFilter, read,
    usable?_of_legible text legible, Option.getD_some]

theorem choose_blank (unset : Unset flag) (text : String) (blank : ¬Legible text) :
    chooseFilter flag (some (encode text)) = ⟨defaultFilter, FilterFault.blank.notice⟩ := by
  have read := (decode?_eq_some_iff (encode text) text).mpr rfl
  simp only [chooseFilter, unset.bind_usable?, environmentFilter, read,
    usable?_of_blank text blank]

theorem choose_bytes (unset : Unset flag) (bytes : List UInt8)
    (broken : ∀ text, bytes ≠ encode text) :
    chooseFilter flag (some bytes) = ⟨defaultFilter, FilterFault.notUnicode.notice⟩ := by
  have unread : decode? bytes = none := by
    rw [Option.eq_none_iff_forall_ne_some]
    intro text read
    exact broken text ((decode?_eq_some_iff bytes text).mp read)
  simp only [chooseFilter, unset.bind_usable?, environmentFilter, unread]

/-- Without an option the filter is the default or comes from a legible text. -/
theorem filter_cases (unset : Unset flag) (setting : Option (List UInt8)) :
    (chooseFilter flag setting).filter = defaultFilter ∨
      ∃ text, Legible text ∧ (chooseFilter flag setting).filter = trim text := by
  rcases setting_cases setting with rfl | ⟨text, rfl⟩ | ⟨bytes, rfl, broken⟩
  · exact .inl (by rw [unset.choose_none])
  · by_cases legible : Legible text
    · exact .inr ⟨text, legible, by rw [unset.choose_legible text legible]⟩
    · exact .inl (by rw [unset.choose_blank text legible])
  · exact .inl (by rw [unset.choose_bytes bytes broken])

end Unset

theorem exists_legible_filter (flag : Option String) (setting : Option (List UInt8)) :
    ∃ text, Legible text ∧ (chooseFilter flag setting).filter = trim text := by
  have preset : Legible defaultFilter ∧ defaultFilter = trim defaultFilter := by decide
  rcases unset_or_legible flag with unset | ⟨text, rfl, legible⟩
  · rcases unset.filter_cases setting with chosen | chosen
    · exact ⟨defaultFilter, preset.1, chosen.trans preset.2⟩
    · exact chosen
  · exact ⟨text, legible, by rw [chooseFilter_of_legible text legible]⟩

theorem parse_filter (program : Argument) (filter : String) :
    parse [program, Flag.logFilter.option ++ equalsSign :: encode filter] =
      .ok { Options.defaults with logFilter := some filter } := by
  apply (parse_eq_ok_iff _ _).mpr
  exact ⟨[⟨.logFilter, filter, true⟩], false,
    ⟨rfl, by simp, by simp [Flag.Reads], by simp [Setting.Distinct]⟩, rfl⟩

/-- The filter is the core of the option if that is legible. The environment is then of no
consequence and nothing is printed. If the option is missing or blank, the filter is the
core of the text in the environment if that is legible, without a word, and else `info`;
then one line is printed, unless the variable is not set, and it names the cause: a blank
text, or bytes that are no text. The filter is never empty and has no blanks at its ends,
so that it comes out as it is when a command line gives it as the option. -/
theorem filter_from_option_or_environment (options : Options) :
    let flag := options.logFilter
    (∀ text, flag = some text → Legible text → ∀ setting,
      IsCore (chooseFilter flag setting).filter text ∧ (chooseFilter flag setting).notices = "" ∧
      ∀ other, chooseFilter flag other = chooseFilter flag setting) ∧
    ((∀ text, flag = some text → ¬Legible text) →
      chooseFilter flag none = ⟨"info", ""⟩ ∧
      (∀ text, Legible text → IsCore (chooseFilter flag (some (encode text))).filter text ∧
        (chooseFilter flag (some (encode text))).notices = "") ∧
      (∀ text, ¬Legible text → chooseFilter flag (some (encode text)) =
        ⟨"info", "ignoring log filter override: HALL_LOG was set but empty\n"⟩) ∧
      ∀ bytes, (∀ text, bytes ≠ encode text) → chooseFilter flag (some bytes) =
        ⟨"info", "ignoring log filter override: HALL_LOG is not valid unicode\n"⟩) ∧
    ∀ setting,
      let filter := (chooseFilter flag setting).filter
      filter ≠ "" ∧ Trimmed filter.toList ∧
      (∀ other, chooseFilter (some filter) other = ⟨filter, ""⟩) ∧
      ∀ program, ∃ again, again.logFilter = some filter ∧
        parse [program, encode "--log-filter=" ++ encode filter] = .ok again := by
  intro flag
  refine ⟨?_, ?_, ?_⟩
  · intro text given legible setting
    rw [given, chooseFilter_of_legible text legible]
    exact ⟨isCore_trim text, rfl, chooseFilter_of_legible text legible⟩
  · intro unset
    have unset : Unset flag := unset
    refine ⟨unset.choose_none, ?_, unset.choose_blank, unset.choose_bytes⟩
    intro text legible
    rw [unset.choose_legible text legible]
    exact ⟨isCore_trim text, rfl⟩
  · intro setting filter
    obtain ⟨text, legible, chosen⟩ := exists_legible_filter flag setting
    have core : filter = trim text := chosen
    rw [core]
    refine ⟨(trim_ne_empty_iff text).mpr legible, (isCore_trim text).1, ?_, ?_⟩
    · intro other
      rw [chooseFilter_of_legible _ (legible_trim text legible), trim_trim]
    · intro program
      exact ⟨_, rfl, parse_filter program (trim text)⟩

/-- An option of one tab leaves the choice to the environment, which holds a text between
blanks, a byte that starts no character, or nothing. An option with characters in it does
not. -/
theorem filter_of_tab :
    let blank : Options := { Options.defaults with logFilter := some "\t" }
    let legible : Options := { Options.defaults with logFilter := some " a=b\u3000" }
    ¬Legible "\t" ∧ Legible " a=b\u3000" ∧ Legible "\n warn" ∧
      (∀ text, [0xFF] ≠ encode text) ∧
      IsCore (chooseFilter blank.logFilter (some (encode "\n warn"))).filter "\n warn" ∧
      chooseFilter blank.logFilter (some [0xFF]) =
        ⟨"info", "ignoring log filter override: HALL_LOG is not valid unicode\n"⟩ ∧
      chooseFilter legible.logFilter (some [0xFF]) = chooseFilter legible.logFilter none ∧
      IsCore (chooseFilter legible.logFilter none).filter " a=b\u3000" := by
  intro blank legible
  have inked : Legible "\n warn" := by decide
  have broken : ∀ text, [0xFF] ≠ encode text := by
    intro text same
    rw [← decode?_eq_some_iff] at same
    simp [decode?, pieces, piece, lead] at same
  obtain ⟨_, unset, _⟩ := filter_from_option_or_environment blank
  obtain ⟨_, fromText, _, fromBytes⟩ := unset (by
    intro text given
    obtain rfl := Option.some.inj given
    decide)
  obtain ⟨set, _⟩ := filter_from_option_or_environment legible
  obtain ⟨core, _, same⟩ := set " a=b\u3000" rfl (by decide) none
  exact ⟨by decide, by decide, inked, broken, (fromText _ inked).1, fromBytes _ broken,
    same _, core⟩

end Launch

end BookingDesk
