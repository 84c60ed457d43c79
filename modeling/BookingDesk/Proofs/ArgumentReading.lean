import BookingDesk.Launch.Options
import BookingDesk.Proofs.Utf8Text

/-!
What a single argument does to a reading that comes to a good end. The value of an option
that waits may be taken in late, but the reading ends as if it had been taken in at once.
-/

namespace BookingDesk.Launch

open Number Text.Utf8

/-- A text that the option takes as its value: any for the filter, a number for a size. -/
def Flag.Reads : Flag → String → Prop
  | .logFilter, _ => True
  | .width, text | .height, text => ∃ literal, Literal.parse text = .ok literal

def Flag.option (flag : Flag) : Argument :=
  dash :: dash :: ascii flag.name

def size? (text : String) : Option Single :=
  match Literal.parse text with
  | .ok literal => some (literal.toBinary .single)
  | .error _ => none

theorem name_ne_help (flag : Flag) : ascii flag.name ≠ ascii "help" := by
  cases flag <;> decide

theorem ofName?_name (flag : Flag) : Flag.ofName? (ascii flag.name) = some flag := by
  cases flag <;> decide

theorem eq_name_of_ofName? (name : List UInt8) (flag : Flag)
    (known : Flag.ofName? name = some flag) : name = ascii flag.name := by
  have found := List.find?_some known
  exact (eq_of_beq found).symm

theorem shape_two_dashes (name : List UInt8) (more : name ≠ []) :
    shape (dash :: dash :: name) =
      .long (name.takeWhile (· ≠ equalsSign)) (attachedValue name) := by
  simp [shape, more]

theorem shape_cases (a : Argument) :
    ((a = [dash] ∨ a.head? ≠ some dash) ∧ shape a = .plain) ∨
    (∃ letters, letters ≠ [] ∧ a = dash :: letters ∧ shape a = .cluster letters) ∨
    (a = [dash, dash] ∧ shape a = .separator) ∨
    (∃ name, name ≠ [] ∧ a = dash :: dash :: name ∧
      shape a = .long (name.takeWhile (· ≠ equalsSign)) (attachedValue name)) := by
  match a with
  | [] => exact .inl ⟨by simp, rfl⟩
  | [b] =>
    by_cases first : b = dash
    · exact .inl ⟨by simp [first], rfl⟩
    · exact .inl ⟨by simp [first], rfl⟩
  | first :: second :: rest =>
    by_cases firstDash : first = dash
    · subst firstDash
      by_cases secondDash : second = dash
      · subst secondDash
        by_cases alone : rest = []
        · exact .inr (.inr (.inl ⟨by rw [alone], by simp [shape, alone]⟩))
        · exact .inr (.inr (.inr ⟨rest, alone, rfl, shape_two_dashes rest alone⟩))
      · exact .inr (.inl ⟨second :: rest, by simp, rfl, by simp [shape, secondDash]⟩)
    · exact .inl ⟨by simp [firstDash], by simp [shape, firstDash]⟩

theorem shape_option (flag : Flag) : shape flag.option = .long (ascii flag.name) none := by
  cases flag <;> decide

theorem shape_joined (flag : Flag) (value : List UInt8) :
    shape (flag.option ++ equalsSign :: value) = .long (ascii flag.name) (some value) := by
  have letters : (ascii flag.name).all (· ≠ equalsSign) = true := by
    cases flag <;> decide
  have plain := List.all_eq_true.mp letters
  rw [Flag.option, List.cons_append, List.cons_append, shape_two_dashes _ (by simp),
    attachedValue, List.takeWhile_append_of_pos plain, List.dropWhile_append_of_pos plain]
  simp

theorem eq_append_attachedValue (bytes : List UInt8) :
    bytes = bytes.takeWhile (· ≠ equalsSign) ++
      ((attachedValue bytes).map (equalsSign :: ·)).getD [] := by
  induction bytes with
  | nil => rfl
  | cons b rest ih =>
    by_cases equals : b = equalsSign
    · simp [attachedValue, equals]
    · have same : attachedValue (b :: rest) = attachedValue rest := by
        simp [attachedValue, equals]
      rw [same, List.takeWhile_cons_of_pos (by simpa using equals), List.cons_append, ← ih]

theorem eq_of_shape_long (a : Argument) (name : List UInt8) (value : Option (List UInt8))
    (long : shape a = .long name value) :
    a = dash :: dash :: (name ++ (value.map (equalsSign :: ·)).getD []) := by
  obtain ⟨_, seen⟩ | ⟨_, _, _, seen⟩ | ⟨_, seen⟩ | ⟨whole, _, written, seen⟩ := shape_cases a
  · simp [seen] at long
  · simp [seen] at long
  · simp [seen] at long
  · obtain ⟨rfl, rfl⟩ := Shape.long.inj (seen.symm.trans long)
    rw [← eq_append_attachedValue, written]

theorem eq_of_shape_separator (a : Argument) (ends : shape a = .separator) : a = [dash, dash] := by
  obtain ⟨_, seen⟩ | ⟨_, _, _, seen⟩ | ⟨written, _⟩ | ⟨_, _, _, seen⟩ := shape_cases a
  · simp [seen] at ends
  · simp [seen] at ends
  · exact written
  · simp [seen] at ends

theorem shape_plain_iff (a : Argument) :
    shape a = .plain ↔ a = [dash] ∨ a.head? ≠ some dash := by
  obtain ⟨apart, seen⟩ | ⟨letters, some, rfl, seen⟩ | ⟨rfl, seen⟩ | ⟨name, _, rfl, seen⟩ :=
    shape_cases a
  · simp [seen, apart]
  · simp [seen, some]
  · simp [seen]
  · simp [seen]

theorem except_bind_eq_ok {α β : Type} (x : Except Refusal α) (f : α → Except Refusal β) (b : β) :
    x >>= f = .ok b ↔ ∃ a, x = .ok a ∧ f a = .ok b := by
  cases x <;> simp [bind, Except.bind]

namespace Reading

def take (r : Reading) (flag : Flag) (text : String) : Reading :=
  match flag with
  | .logFilter => { r with logFilter := some text }
  | .width => { r with width := size? text }
  | .height => { r with height := size? text }

theorem pending_take (r : Reading) (flag : Flag) (text : String) :
    (r.take flag text).pending = r.pending := by
  cases flag <;> rfl

theorem has_take (r : Reading) (flag other : Flag) (text : String) (readable : flag.Reads text) :
    (r.take flag text).has other = (decide (flag = other) || r.has other) := by
  have sized (number : ∃ literal, Literal.parse text = .ok literal) :
      (size? text).isSome = true := by
    obtain ⟨literal, read⟩ := number
    simp [size?, read]
  cases flag with
  | logFilter => cases other <;> simp [take, has]
  | width => cases other <;> simp [take, has, sized readable]
  | height => cases other <;> simp [take, has, sized readable]

theorem set_eq_ok_iff (r next : Reading) (flag : Flag) (text : String) :
    r.set flag text = .ok next ↔ flag.Reads text ∧ next = r.take flag text := by
  have sized (kept : Option Single → Reading) :
      (size flag text).map (fun size => kept (some size)) = .ok next ↔
        (∃ literal, Literal.parse text = .ok literal) ∧ next = kept (size? text) := by
    cases read : Literal.parse text with
    | ok literal => simp [size, size?, read, Except.map, eq_comm]
    | error cause => simp [size, read, Except.map]
  cases flag with
  | logFilter => simp [set, Flag.Reads, take, eq_comm]
  | width => exact sized fun width => { r with width := width }
  | height => exact sized fun height => { r with height := height }

theorem accept_eq_ok_iff (r next : Reading) (flag : Flag) (value : Argument) :
    r.accept flag value = .ok next ↔
      ∃ text, value = encode text ∧ r.has flag = false ∧ flag.Reads text ∧
        next = r.take flag text := by
  cases given : r.has flag with
  | true => simp [accept, given]
  | false =>
    cases read : decode? value with
    | none =>
      have unread : ∀ text, value ≠ encode text := by
        intro text same
        rw [← decode?_eq_some_iff, read] at same
        contradiction
      simp [accept, given, read, unread]
    | some text =>
      obtain rfl := (decode?_eq_some_iff value text).mp read
      have only (other : String) (same : encode text = encode other) : text = other := by
        rw [← decode?_eq_some_iff, read] at same
        exact Option.some.inj same
      simp only [accept, given, read, Bool.false_eq_true, if_false, set_eq_ok_iff, true_and]
      constructor
      · intro taken
        exact ⟨text, rfl, taken⟩
      · rintro ⟨other, same, taken⟩
        rw [only other same]
        exact taken

theorem resolve_of_idle (r : Reading) (idle : r.pending = none) : r.resolve = .ok r := by
  simp [resolve, idle]

theorem without_pending (r : Reading) (idle : r.pending = none) :
    { r with pending := none } = r := by
  rw [← idle]

theorem pending_accept (r next : Reading) (flag : Flag) (value : Argument)
    (accepted : r.accept flag value = .ok next) : next.pending = r.pending := by
  obtain ⟨text, _, _, _, rfl⟩ := (r.accept_eq_ok_iff next flag value).mp accepted
  exact r.pending_take flag text

/-- Whether an option that waits is taken in now or with the next known option does not
show, as long as its value is accepted. -/
theorem read_held (program : String) (r next : Reading) (flag : Flag) (value : Argument)
    (arguments : List Argument) (held : r.pending = some (flag, some value))
    (accepted : { r with pending := none }.accept flag value = .ok next) :
    r.read program arguments = next.read program arguments := by
  have resolved : r.resolve = .ok next := by simp only [resolve, held, accepted]
  have idle : next.pending = none := pending_accept _ next flag value accepted
  have again : next.resolve = .ok next := next.resolve_of_idle idle
  cases arguments with
  | nil => simp only [read, resolved, again]
  | cons a rest => simp only [read, help, resolved, again, held, idle]

/-- What an argument can be if the reading goes on to a good end. -/
theorem read_cons_ok (program : String) (r next : Reading) (a : Argument) (rest : List Argument)
    (done : r.read program (a :: rest) = .ok next) :
    (a = [dash, dash] ∧ rest = [] ∧ r.resolve = .ok next) ∨
    (∃ flag between, a = flag.option ∧ r.resolve = .ok between ∧
      { between with pending := some (flag, none) }.read program rest = .ok next) ∨
    (∃ flag value between after, a = flag.option ++ equalsSign :: value ∧
      r.resolve = .ok between ∧ between.accept flag value = .ok after ∧
      after.read program rest = .ok next) ∨
    (∃ flag, shape a = .plain ∧ r.pending = some (flag, none) ∧
      { r with pending := some (flag, some a) }.read program rest = .ok next) := by
  have never_help : r.help program ≠ .ok next := by
    cases resolved : r.resolve <;> simp [help, resolved, bind, Except.bind]
  unfold read at done
  cases seen : shape a with
  | separator =>
    cases rest with
    | nil => exact .inl ⟨eq_of_shape_separator a seen, rfl, by simpa [seen] using done⟩
    | cons extra more => simp [seen] at done
  | long name value =>
    have spelled := eq_of_shape_long a name value seen
    by_cases asked : name = ascii "help"
    · cases value <;> simp [seen, asked, never_help] at done
    cases known : Flag.ofName? name with
    | none => simp [seen, asked, known] at done
    | some flag =>
      obtain rfl := eq_name_of_ofName? name flag known
      cases value with
      | none =>
        simp only [seen, asked, if_false, known, except_bind_eq_ok] at done
        obtain ⟨between, resolved, goes⟩ := done
        exact .inr (.inl ⟨flag, between, by simpa [Flag.option] using spelled, resolved, goes⟩)
      | some value =>
        simp only [seen, asked, if_false, known, except_bind_eq_ok] at done
        obtain ⟨between, resolved, after, accepted, goes⟩ := done
        exact .inr (.inr (.inl ⟨flag, value, between, after,
          by simpa [Flag.option] using spelled, resolved, accepted, goes⟩))
  | cluster letters =>
    by_cases asked : letters.head? = some helpLetter <;>
      simp [seen, asked, never_help] at done
  | plain =>
    cases waits : r.pending with
    | none => simp [seen, waits] at done
    | some waiting =>
      obtain ⟨flag, value⟩ := waiting
      cases value with
      | none => exact .inr (.inr (.inr ⟨flag, rfl, rfl, by simpa [seen, waits] using done⟩))
      | some value => simp [seen, waits] at done

theorem accepted_of_read_held (program : String) (r next : Reading) (flag : Flag)
    (value : Argument) (arguments : List Argument) (held : r.pending = some (flag, some value))
    (done : r.read program arguments = .ok next) :
    ∃ between, { r with pending := none }.accept flag value = .ok between := by
  have resolved : r.resolve = { r with pending := none }.accept flag value := by
    simp only [resolve, held]
  rw [← resolved]
  cases arguments with
  | nil => exact ⟨next, done⟩
  | cons a rest =>
    -- every way on takes the value in, and a second value is refused
    obtain ⟨_, _, ends⟩ | ⟨_, between, _, ends, _⟩ | ⟨_, _, between, _, _, ends, _⟩ |
      ⟨_, _, waits, _⟩ := r.read_cons_ok program next a rest done
    · exact ⟨next, ends⟩
    · exact ⟨between, ends⟩
    · exact ⟨between, ends⟩
    · simp [held] at waits

end Reading

end BookingDesk.Launch
