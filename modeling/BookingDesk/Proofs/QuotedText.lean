import BookingDesk.Proofs.LabelReading
import Mathlib.Data.List.DropRight

/-!
Quoted texts are safe to print and can be read back. No control character is left in them,
the quotes inside are told from the one that ends them by their backslash, and a reader
finds the text again however much it looks like its own escapes. So does the message about
an unknown label, which ends with the label in quotes.
-/

namespace BookingDesk

namespace Text

/-- The control characters: those below the space, delete, and the thirty-two after it. -/
def IsControl (c : Char) : Prop :=
  c.toNat < 0x20 ∨ (0x7F ≤ c.toNat ∧ c.toNat ≤ 0x9F)

instance : DecidablePred IsControl :=
  fun c => inferInstanceAs (Decidable (c.toNat < 0x20 ∨ (0x7F ≤ c.toNat ∧ c.toNat ≤ 0x9F)))

def shortEscapes : List (Char × Char) :=
  [('\x00', '0'), ('\t', 't'), ('\r', 'r'), ('\n', 'n'), ('\x22', '\x22'), ('\x5c', '\x5c')]

theorem mem_shortEscapes (c letter : Char) (short : shortEscape c = some letter) :
    (c, letter) ∈ shortEscapes := by
  unfold shortEscape at short
  split_ifs at short <;> obtain rfl := Option.some.inj short <;> simp_all [shortEscapes]

theorem ne_of_shortEscape_eq_none (c : Char) (long : shortEscape c = none) :
    c ≠ '\x22' ∧ c ≠ '\x5c' := by
  constructor <;> rintro rfl <;> exact absurd long (by decide)

theorem quoteChar_cases (c : Char) :
    (∃ letter, (c, letter) ∈ shortEscapes ∧ quoteChar c = ['\x5c', letter]) ∨
    (quoteChar c = ['\x5c', 'u', '\x7b'] ++ hexDigits c ++ ['\x7d']) ∨
    (c ≠ '\x22' ∧ c ≠ '\x5c' ∧ isShownByNumber c = false ∧ quoteChar c = [c]) := by
  cases short : shortEscape c with
  | some letter => exact .inl ⟨letter, mem_shortEscapes c letter short, by simp [quoteChar, short]⟩
  | none =>
    obtain ⟨notQuote, notBackslash⟩ := ne_of_shortEscape_eq_none c short
    cases numbered : isShownByNumber c with
    | true => exact .inr (.inl (by simp [quoteChar, short, numbered]))
    | false => exact .inr (.inr ⟨notQuote, notBackslash, rfl, by simp [quoteChar, short, numbered]⟩)

theorem mem_toDigits (n : Nat) (c : Char) (member : c ∈ Nat.toDigits 16 n) :
    ∃ d < 16, c = Nat.digitChar d := by
  induction n using Nat.strongRecOn with
  | ind n ih =>
    rw [Nat.toDigits_eq_if (by decide)] at member
    split at member
    · exact ⟨n, by assumption, List.mem_singleton.mp member⟩
    · rcases List.mem_append.mp member with front | last
      · exact ih (n / 16) (by omega) front
      · exact ⟨n % 16, by omega, List.mem_singleton.mp last⟩

theorem not_isControl_of_not_isShownByNumber (c : Char) (plain : isShownByNumber c = false) :
    ¬IsControl c := by
  have printable : isUnprintable c = false := (Bool.or_eq_false_iff.mp plain).2
  rintro control
  have listed : isUnprintable c = true := by
    rw [isUnprintable, inRanges_iff]
    rcases control with low | ⟨lower, upper⟩
    · exact ⟨(0x0, 0x1F), List.mem_cons_self, Nat.zero_le _, Nat.le_of_lt_succ low⟩
    · exact ⟨(0x7F, 0xA0), List.mem_cons_of_mem _ List.mem_cons_self, lower,
        Nat.le_succ_of_le upper⟩
  rw [printable] at listed
  contradiction

theorem numbered_clean (c d : Char)
    (member : d ∈ ['\x5c', 'u', '\x7b'] ++ hexDigits c ++ ['\x7d']) :
    ¬IsControl d ∧ d ≠ '\x22' := by
  have marks (d : Char) (mark : d ∈ ['\x5c', 'u', '\x7b', '\x7d']) :
      ¬IsControl d ∧ d ≠ '\x22' := by
    simp only [List.mem_cons, List.not_mem_nil, or_false] at mark
    rcases mark with rfl | rfl | rfl | rfl <;> decide
  have digits : ∀ n < 16, ¬IsControl (Nat.digitChar n) ∧ Nat.digitChar n ≠ '\x22' := by decide
  rw [List.mem_append, List.mem_append] at member
  rcases member with (opening | digit) | closing
  · exact marks d (List.mem_append_left ['\x7d'] opening)
  · obtain ⟨n, small, rfl⟩ := mem_toDigits _ d digit
    exact digits n small
  · exact marks d (List.mem_append_right ['\x5c', 'u', '\x7b'] closing)

theorem not_isControl_of_mem_quoteChar (c d : Char) (member : d ∈ quoteChar c) :
    ¬IsControl d := by
  obtain ⟨letter, listed, written⟩ | written | ⟨_, _, plain, written⟩ := quoteChar_cases c
  · have letters : ∀ e ∈ shortEscapes, ¬IsControl e.2 := by decide
    rw [written] at member
    rcases List.mem_pair.mp member with rfl | rfl
    · decide
    · exact letters _ listed
  · rw [written] at member
    exact (numbered_clean c d member).1
  · rw [written, List.mem_singleton] at member
    rw [member]
    exact not_isControl_of_not_isShownByNumber c plain

theorem not_isControl_of_mem_quote (s : String) (d : Char) (member : d ∈ (quote s).toList) :
    ¬IsControl d := by
  rw [toList_quote, List.mem_append, List.mem_cons, List.mem_flatMap, List.mem_singleton] at member
  rcases member with (rfl | ⟨c, _, inside⟩) | rfl
  · decide
  · exact not_isControl_of_mem_quoteChar c d inside
  · decide

/-- A quote in the way a character is written is the second half of an escaped quote. -/
theorem quoteChar_eq_append (c : Char) (before after : List Char)
    (written : quoteChar c = before ++ '\x22' :: after) :
    c = '\x22' ∧ before = ['\x5c'] ∧ after = [] := by
  have member : '\x22' ∈ quoteChar c := by simp [written]
  obtain ⟨letter, listed, short⟩ | numbered | ⟨notQuote, _, _, plain⟩ := quoteChar_cases c
  · have only : ∀ e ∈ shortEscapes, e.2 = '\x22' → e.1 = '\x22' := by decide
    have last : letter = '\x22' := by simpa [short, eq_comm] using member
    refine ⟨only _ listed last, ?_⟩
    rw [short, last] at written
    rcases before with _ | ⟨b, _ | ⟨_, _⟩⟩
    · simp at written
    · obtain ⟨rfl, rfl⟩ : '\x5c' = b ∧ after = [] := by simpa using written
      exact ⟨rfl, rfl⟩
    · simp at written
  · rw [numbered] at member
    exact absurd rfl (numbered_clean c _ member).2
  · rw [plain, List.mem_singleton] at member
    exact absurd member.symm notQuote

theorem flatMap_quoteChar_eq_append (cs before after : List Char)
    (written : cs.flatMap quoteChar = before ++ '\x22' :: after) :
    ∃ front back, cs = front ++ '\x22' :: back ∧ before = front.flatMap quoteChar ++ ['\x5c'] := by
  induction cs generalizing before with
  | nil => simp at written
  | cons c cs ih =>
    rw [List.flatMap_cons, List.append_eq_append_iff] at written
    rcases written with ⟨more, rfl, later⟩ | ⟨more, here, later⟩
    · obtain ⟨front, back, rfl, rfl⟩ := ih more later
      exact ⟨c :: front, back, rfl, by simp⟩
    · cases more with
      | nil =>
        obtain ⟨front, back, _, none⟩ := ih [] later.symm
        simp at none
      | cons d more =>
        obtain ⟨rfl, rest⟩ := List.cons.inj later
        obtain ⟨rfl, rfl, _⟩ := quoteChar_eq_append c before more here
        exact ⟨[], cs, rfl, rfl⟩

def backslashesAtEnd (cs : List Char) : Nat :=
  (cs.rtakeWhile (· = '\x5c')).length

theorem backslashesAtEnd_concat (cs : List Char) (c : Char) :
    backslashesAtEnd (cs ++ [c]) = if c = '\x5c' then backslashesAtEnd cs + 1 else 0 := by
  by_cases backslash : c = '\x5c' <;> simp [backslashesAtEnd, backslash]

/-- Whole escapes leave an even number of backslashes at the end. -/
theorem even_backslashesAtEnd_append (cs : List Char) (c : Char)
    (even : backslashesAtEnd cs % 2 = 0) : backslashesAtEnd (cs ++ quoteChar c) % 2 = 0 := by
  obtain ⟨letter, _, written⟩ | written | ⟨_, notBackslash, _, written⟩ := quoteChar_cases c
  · have split : cs ++ quoteChar c = (cs ++ ['\x5c']) ++ [letter] := by simp [written]
    rw [split, backslashesAtEnd_concat, backslashesAtEnd_concat, if_pos rfl]
    split_ifs <;> omega
  · rw [written, ← List.append_assoc, backslashesAtEnd_concat, if_neg (by decide)]
  · rw [written, backslashesAtEnd_concat, if_neg notBackslash]

theorem even_backslashesAtEnd (cs : List Char) :
    backslashesAtEnd (cs.flatMap quoteChar) % 2 = 0 := by
  induction cs using List.reverseRecOn with
  | nil => rfl
  | append_singleton cs c ih =>
    rw [List.flatMap_append, List.flatMap_singleton]
    exact even_backslashesAtEnd_append _ c ih

/-- A backslash that is not itself escaped stands before each quote inside. -/
theorem odd_backslashes_before_quote (cs before after : List Char)
    (written : cs.flatMap quoteChar = before ++ '\x22' :: after) :
    backslashesAtEnd before % 2 = 1 := by
  obtain ⟨front, back, _, rfl⟩ := flatMap_quoteChar_eq_append cs before after written
  have even := even_backslashesAtEnd front
  rw [backslashesAtEnd_concat, if_pos rfl]
  omega

/-- Where a reader of quoted text is: between characters, behind a backslash, before the
brace of a number, or in the number. -/
inductive Place where
  | text
  | escape
  | brace
  | number (value : Nat)

def longForm? (letter : Char) : Option Char :=
  (shortEscapes.find? (·.2 = letter)).map Prod.fst

def hexValue? (digit : Char) : Option Nat :=
  (List.range 16).find? (Nat.digitChar · = digit)

/-- Reads what follows the opening quote up to the closing one, which ends it. -/
def unquoteFrom : Place → List Char → Option (List Char)
  | .text, c :: rest =>
    if c = '\x22' then (if rest = [] then some [] else none)
    else if c = '\x5c' then unquoteFrom .escape rest
    else (unquoteFrom .text rest).map (c :: ·)
  | .escape, letter :: rest =>
    if letter = 'u' then unquoteFrom .brace rest
    else (longForm? letter).bind fun c => (unquoteFrom .text rest).map (c :: ·)
  | .brace, mark :: rest => if mark = '\x7b' then unquoteFrom (.number 0) rest else none
  | .number value, digit :: rest =>
    if digit = '\x7d' then (unquoteFrom .text rest).map (Char.ofNat value :: ·)
    else (hexValue? digit).bind fun d => unquoteFrom (.number (16 * value + d)) rest
  | _, [] => none

def unquote? (quoted : String) : Option String :=
  match quoted.toList with
  | '\x22' :: rest => (unquoteFrom .text rest).map String.ofList
  | _ => none

theorem unquoteFrom_digit (value d : Nat) (rest : List Char) (small : d < 16) :
    unquoteFrom (.number value) (Nat.digitChar d :: rest) =
      unquoteFrom (.number (16 * value + d)) rest := by
  have digits : ∀ d < 16, Nat.digitChar d ≠ '\x7d' ∧ hexValue? (Nat.digitChar d) = some d := by
    decide
  obtain ⟨inside, known⟩ := digits d small
  rw [unquoteFrom, if_neg inside, known, Option.bind_some]

theorem unquoteFrom_toDigits (n : Nat) (rest : List Char) :
    unquoteFrom (.number 0) (Nat.toDigits 16 n ++ rest) = unquoteFrom (.number n) rest := by
  induction n using Nat.strongRecOn generalizing rest with
  | ind n ih =>
    rw [Nat.toDigits_eq_if (by decide)]
    split
    case isTrue small =>
      rw [List.singleton_append, unquoteFrom_digit 0 n rest small, Nat.mul_zero, Nat.zero_add]
    case isFalse large =>
      have value : 16 * (n / 16) + n % 16 = n := Nat.div_add_mod n 16
      rw [List.append_assoc, ih (n / 16) (by omega), List.singleton_append,
        unquoteFrom_digit _ _ _ (Nat.mod_lt n (by decide)), value]

theorem unquoteFrom_quoteChar (c : Char) (rest : List Char) :
    unquoteFrom .text (quoteChar c ++ rest) = (unquoteFrom .text rest).map (c :: ·) := by
  obtain ⟨letter, listed, written⟩ | written | ⟨notQuote, notBackslash, _, written⟩ :=
    quoteChar_cases c
  · have letters : ∀ e ∈ shortEscapes, e.2 ≠ 'u' ∧ longForm? e.2 = some e.1 := by decide
    obtain ⟨short, known⟩ := letters _ listed
    simp [written, unquoteFrom, short, known]
  · rw [written]
    simp only [List.append_assoc, List.cons_append, List.nil_append]
    simp [unquoteFrom, hexDigits, unquoteFrom_toDigits, Char.ofNat_toNat]
  · simp [written, unquoteFrom, notQuote, notBackslash]

theorem unquoteFrom_flatMap (cs : List Char) :
    unquoteFrom .text (cs.flatMap quoteChar ++ ['\x22']) = some cs := by
  induction cs with
  | nil => rfl
  | cons c cs ih =>
    rw [List.flatMap_cons, List.append_assoc, unquoteFrom_quoteChar, ih, Option.map_some]

theorem unquote?_quote (s : String) : unquote? (quote s) = some s := by
  simp [unquote?, toList_quote, unquoteFrom_flatMap]

example : quote "a\"\\u\x7b9\x7d\t\u200b" = "\"a\\\"\\\\u\x7b9\x7d\\t\\u\x7b200b\x7d\"" := by
  decide +kernel

end Text

namespace UnknownLabel

def ofMessage? (message : String) : Option UnknownLabel :=
  ("unknown event type: ".toList.isPrefixOf? message.toList).bind fun quoted =>
    (Text.unquote? (String.ofList quoted)).map (⟨·⟩)

theorem toList_message (e : UnknownLabel) :
    e.message.toList = "unknown event type: ".toList ++ (Text.quote e.text).toList := by
  unfold message
  exact String.toList_append

theorem ofMessage?_message (e : UnknownLabel) : ofMessage? e.message = some e := by
  have stripped : "unknown event type: ".toList.isPrefixOf? e.message.toList =
      some (Text.quote e.text).toList :=
    List.isPrefixOf?_eq_some_iff_append_eq.mpr e.toList_message.symm
  rw [ofMessage?, stripped, Option.bind_some, String.ofList_toList, Text.unquote?_quote,
    Option.map_some]

theorem not_isControl_of_mem_message (e : UnknownLabel) (c : Char)
    (member : c ∈ e.message.toList) : ¬Text.IsControl c := by
  rw [toList_message, List.mem_append] at member
  rcases member with heading | quoted
  · have clean : "unknown event type: ".toList.all (fun c => ¬Text.IsControl c) = true := by
      decide
    exact of_decide_eq_true (List.all_eq_true.mp clean c heading)
  · exact Text.not_isControl_of_mem_quote e.text c quoted

theorem eq_of_message_eq (e other : UnknownLabel) (same : e.message = other.message) :
    e = other := by
  have read : some e = some other := by
    rw [← ofMessage?_message e, same, ofMessage?_message]
  exact Option.some.inj read

end UnknownLabel

namespace EventKind

theorem text_of_refused (text : String) (e : UnknownLabel) (refused : parse text = .error e) :
    e.text = text := by
  obtain ⟨k, read, _⟩ | ⟨returned, _⟩ := parse_cases text
  · rw [read] at refused
    contradiction
  · rw [returned] at refused
    rw [← Except.error.inj refused]

/-- The message about a text that is no label ends with the text in quotes. It has no
control character, an unescaped backslash stands before each quote inside its quotes, the
text can be read back from it, and no other refused text has the same message. -/
theorem refusal_is_safe_and_lossless (text : String) (e : UnknownLabel)
    (refused : parse text = .error e) :
    (∃ body, e.message.toList =
        "unknown event type: ".toList ++ '\x22' :: body ++ ['\x22'] ∧
      ∀ before after, body = before ++ '\x22' :: after →
        Text.backslashesAtEnd before % 2 = 1) ∧
    e.message = "unknown event type: " ++ Text.quote text ∧
    (∀ c ∈ e.message.toList, ¬Text.IsControl c) ∧
    UnknownLabel.ofMessage? e.message = some ⟨text⟩ ∧
    ∀ other e', parse other = .error e' → e'.message = e.message → other = text := by
  obtain rfl := text_of_refused text e refused
  refine ⟨⟨e.text.toList.flatMap Text.quoteChar, ?_, Text.odd_backslashes_before_quote _⟩, rfl,
    e.not_isControl_of_mem_message, e.ofMessage?_message, ?_⟩
  · rw [e.toList_message, Text.toList_quote, List.append_assoc]
  · intro other e' refused' same
    rw [← text_of_refused other e' refused', e'.eq_of_message_eq e same]

/-- A text of a backslash, a letter, a quote, a line break and an escape character: the
message keeps all five apart and shows them in one line. -/
theorem refusal_of_escape_lookalike :
    let text := "\\n\"\n\x1b"
    let e := UnknownLabel.mk text
    parse text = .error e ∧ e.message = "unknown event type: \"\\\\n\\\"\\n\\u\x7b1b\x7d\"" ∧
      '\n' ∉ e.message.toList ∧ '\x1b' ∉ e.message.toList ∧
      UnknownLabel.ofMessage? e.message = some e := by
  intro text e
  have refused : parse text = .error e := by decide +kernel
  obtain ⟨_, _, clean, read, _⟩ := refusal_is_safe_and_lossless text e refused
  exact ⟨refused, by decide +kernel, fun newline => clean _ newline (by decide),
    fun escape => clean _ escape (by decide), read⟩

end EventKind

end BookingDesk
