import BookingDesk.Proofs.ArgumentReading

/-!
The command lines that are accepted are exactly those that spell out a list of settings,
each option at most once. What they lead to depends on the options and their values alone,
not on their order, nor on whether a value is joined to its option or stands by itself.
-/

namespace BookingDesk.Launch

open Number Text.Utf8

/-- An option and the text of its value, joined by an equals sign or in two arguments. -/
structure Setting where
  flag : Flag
  text : String
  joined : Bool
deriving DecidableEq

namespace Setting

def arguments (s : Setting) : List Argument :=
  if s.joined then [s.flag.option ++ equalsSign :: encode s.text]
  else [s.flag.option, encode s.text]

def given (s : Setting) : Flag × String := (s.flag, s.text)

/-- A value that stands by itself must not look like an option. -/
def Distinct (s : Setting) : Prop :=
  s.joined = false → encode s.text = [dash] ∨ (encode s.text).head? ≠ some dash

theorem length_arguments_pos (s : Setting) : 0 < s.arguments.length := by
  cases spelling : s.joined <;> simp [arguments, spelling]

end Setting

/-- The arguments spell out the settings; two dashes may close them. -/
structure Spells (arguments : List Argument) (settings : List Setting) (closed : Bool) : Prop where
  written : arguments =
    settings.flatMap Setting.arguments ++ if closed then [[dash, dash]] else []
  once : (settings.map Setting.flag).Nodup
  readable : ∀ s ∈ settings, s.flag.Reads s.text
  distinct : ∀ s ∈ settings, s.Distinct

def textOf (flag : Flag) (settings : List Setting) : Option String :=
  (settings.find? (·.flag = flag)).map Setting.text

theorem textOf_cons (flag : Flag) (s : Setting) (settings : List Setting) :
    textOf flag (s :: settings) = if s.flag = flag then some s.text else textOf flag settings := by
  by_cases same : s.flag = flag <;> simp [textOf, same]

theorem textOf_eq_none (flag : Flag) (settings : List Setting)
    (absent : flag ∉ settings.map Setting.flag) : textOf flag settings = none := by
  rw [textOf, Option.map_eq_none_iff, List.find?_eq_none]
  intro s member same
  exact absent (List.mem_map.mpr ⟨s, member, of_decide_eq_true same⟩)

theorem textOf_eq_some_iff (flag : Flag) (text : String) (settings : List Setting)
    (once : (settings.map Setting.flag).Nodup) :
    textOf flag settings = some text ↔ (flag, text) ∈ settings.map Setting.given := by
  induction settings with
  | nil => simp [textOf]
  | cons s settings ih =>
    obtain ⟨fresh, once⟩ := List.nodup_cons.mp once
    rw [textOf_cons, List.map_cons, List.mem_cons, ← ih once]
    by_cases same : s.flag = flag
    · rw [if_pos same, textOf_eq_none flag settings (same ▸ fresh)]
      simp [Setting.given, same, eq_comm]
    · rw [if_neg same]
      simp [Setting.given, Ne.symm same]

def Options.ofSettings (settings : List Setting) : Options where
  logFilter := textOf .logFilter settings
  width := ((textOf .width settings).bind size?).getD (.ofNat .single 600)
  height := ((textOf .height settings).bind size?).getD (.ofNat .single 400)

namespace Reading

theorem read_setting (program : String) (r : Reading) (s : Setting) (rest : List Argument)
    (idle : r.pending = none) (fresh : r.has s.flag = false) (readable : s.flag.Reads s.text)
    (distinct : s.Distinct) :
    r.read program (s.arguments ++ rest) = (r.take s.flag s.text).read program rest := by
  have resolved := r.resolve_of_idle idle
  have accepted : r.accept s.flag (encode s.text) = .ok (r.take s.flag s.text) :=
    (r.accept_eq_ok_iff _ _ _).mpr ⟨s.text, rfl, fresh, readable, rfl⟩
  cases spelling : s.joined with
  | true =>
    simp only [Setting.arguments, spelling, if_true, List.cons_append, List.nil_append]
    simp only [read, shape_joined, name_ne_help, if_false, ofName?_name, resolved, accepted,
      bind, Except.bind]
  | false =>
    have plain := (shape_plain_iff _).mpr (distinct spelling)
    simp only [Setting.arguments, spelling, Bool.false_eq_true, if_false, List.cons_append,
      List.nil_append]
    simp only [read, shape_option, plain, name_ne_help, if_false, ofName?_name, resolved,
      bind, Except.bind]
    exact read_held program _ _ s.flag (encode s.text) rest rfl
      (by rw [← accepted, r.without_pending idle])

def takeAll (r : Reading) (settings : List Setting) : Reading :=
  settings.foldl (fun r s => r.take s.flag s.text) r

def Lacks (r : Reading) (settings : List Setting) : Prop :=
  ∀ s ∈ settings, r.has s.flag = false

theorem lacks_take (r : Reading) (s : Setting) (settings : List Setting)
    (readable : s.flag.Reads s.text) :
    (r.take s.flag s.text).Lacks settings ↔
      s.flag ∉ settings.map Setting.flag ∧ r.Lacks settings := by
  simp only [Lacks, has_take _ _ _ _ readable, Bool.or_eq_false_iff, decide_eq_false_iff_not,
    List.mem_map, not_exists, not_and]
  constructor
  · intro lacks
    exact ⟨fun t member same => (lacks t member).1 same.symm, fun t member => (lacks t member).2⟩
  · rintro ⟨other, lacks⟩ t member
    exact ⟨fun same => other t member same.symm, lacks t member⟩

end Reading

theorem Spells.cons (rest : List Argument) (s : Setting) (settings : List Setting) (closed : Bool)
    (spells : Spells rest settings closed) (fresh : s.flag ∉ settings.map Setting.flag)
    (readable : s.flag.Reads s.text) (distinct : s.Distinct) :
    Spells (s.arguments ++ rest) (s :: settings) closed where
  written := by rw [spells.written, List.flatMap_cons, List.append_assoc]
  once := List.nodup_cons.mpr ⟨fresh, spells.once⟩
  readable := List.forall_mem_cons.mpr ⟨readable, spells.readable⟩
  distinct := List.forall_mem_cons.mpr ⟨distinct, spells.distinct⟩

namespace Reading

theorem read_spelled (program : String) (r : Reading) (arguments : List Argument)
    (settings : List Setting) (closed : Bool) (idle : r.pending = none)
    (spells : Spells arguments settings closed) (lacks : r.Lacks settings) :
    r.read program arguments = .ok (r.takeAll settings) := by
  induction settings generalizing r arguments with
  | nil =>
    rw [spells.written]
    cases closed with
    | true =>
      have ends : shape [dash, dash] = .separator := by decide
      simp [read, ends, takeAll, r.resolve_of_idle idle]
    | false => simp [read, takeAll, r.resolve_of_idle idle]
  | cons s settings ih =>
    obtain ⟨written, once, readable, distinct⟩ := spells
    obtain ⟨fresh, once⟩ := List.nodup_cons.mp once
    obtain ⟨reads, readable⟩ := List.forall_mem_cons.mp readable
    obtain ⟨apart, distinct⟩ := List.forall_mem_cons.mp distinct
    obtain ⟨unset, lacks⟩ := List.forall_mem_cons.mp lacks
    rw [written, List.flatMap_cons, List.append_assoc,
      r.read_setting program s _ idle unset reads apart]
    exact ih (r.take s.flag s.text) _ (by rw [pending_take, idle])
      ⟨rfl, once, readable, distinct⟩ ((r.lacks_take s settings reads).mpr ⟨fresh, lacks⟩)

/-- An idle reading that comes to a good end takes in one whole setting first, unless two
dashes close the arguments. -/
theorem read_idle_ok (program : String) (r next : Reading) (a : Argument) (rest : List Argument)
    (idle : r.pending = none) (done : r.read program (a :: rest) = .ok next) :
    (a = [dash, dash] ∧ rest = []) ∨
    ∃ (s : Setting) (more : List Argument), a :: rest = s.arguments ++ more ∧
      r.has s.flag = false ∧ s.flag.Reads s.text ∧ s.Distinct ∧
      (r.take s.flag s.text).read program more = .ok next := by
  have resolved := r.resolve_of_idle idle
  obtain ⟨ends, alone, _⟩ | ⟨flag, between, rfl, ends, goes⟩ |
    ⟨flag, value, between, after, rfl, ends, accepted, goes⟩ | ⟨flag, _, waits, _⟩ :=
    r.read_cons_ok program next a rest done
  · exact .inl ⟨ends, alone⟩
  · obtain rfl := Except.ok.inj (resolved.symm.trans ends)
    cases rest with
    | nil => simp [read, resolve] at goes
    | cons value more =>
      -- the option waits, so a value must follow
      obtain ⟨_, _, stuck⟩ | ⟨_, _, _, stuck, _⟩ | ⟨_, _, _, _, _, stuck, _⟩ |
        ⟨same, plain, waits, goes⟩ := read_cons_ok program _ next value more goes
      · simp [resolve] at stuck
      · simp [resolve] at stuck
      · simp [resolve] at stuck
      · obtain rfl : flag = same := by simpa using waits
        obtain ⟨after, accepted⟩ := accepted_of_read_held program _ next flag value more rfl goes
        rw [read_held program _ after flag value more rfl accepted] at goes
        obtain ⟨text, rfl, fresh, reads, rfl⟩ :=
          (r.accept_eq_ok_iff after flag value).mp (by rw [← accepted, r.without_pending idle])
        exact .inr ⟨⟨flag, text, false⟩, more, rfl, fresh, reads,
          fun _ => (shape_plain_iff _).mp plain, goes⟩
  · obtain rfl := Except.ok.inj (resolved.symm.trans ends)
    obtain ⟨text, rfl, fresh, reads, rfl⟩ := (r.accept_eq_ok_iff after flag value).mp accepted
    exact .inr ⟨⟨flag, text, true⟩, rest, rfl, fresh, reads, by simp [Setting.Distinct], goes⟩
  · simp [idle] at waits

theorem spelled_of_read (program : String) (r next : Reading) (arguments : List Argument)
    (idle : r.pending = none) (done : r.read program arguments = .ok next) :
    ∃ settings closed, Spells arguments settings closed ∧ r.Lacks settings := by
  match arguments with
  | [] => exact ⟨[], false, ⟨rfl, .nil, by simp, by simp⟩, by simp [Lacks]⟩
  | a :: rest =>
    obtain ⟨rfl, rfl⟩ | ⟨s, more, written, fresh, reads, apart, goes⟩ :=
      r.read_idle_ok program next a rest idle done
    · exact ⟨[], true, ⟨rfl, .nil, by simp, by simp⟩, by simp [Lacks]⟩
    · have shorter : more.length < (a :: rest).length := by
        have := s.length_arguments_pos
        rw [written, List.length_append]
        omega
      obtain ⟨settings, closed, spells, lacks⟩ :=
        spelled_of_read program (r.take s.flag s.text) next more (by rw [pending_take, idle]) goes
      obtain ⟨other, lacks⟩ := (r.lacks_take s settings reads).mp lacks
      rw [written]
      exact ⟨s :: settings, closed, spells.cons more s settings closed other reads apart,
        List.forall_mem_cons.mpr ⟨fresh, lacks⟩⟩
termination_by arguments.length
decreasing_by exact shorter

/-- The value of one option after all settings: the one given for it, else what was there. -/
theorem field_takeAll {α : Type} (field : Reading → α) (value : String → α) (flag : Flag)
    (hit : ∀ (r : Reading) text, field (r.take flag text) = value text)
    (miss : ∀ (r : Reading) other text, other ≠ flag → field (r.take other text) = field r)
    (r : Reading) (settings : List Setting) (once : (settings.map Setting.flag).Nodup) :
    field (r.takeAll settings) = ((textOf flag settings).map value).getD (field r) := by
  induction settings generalizing r with
  | nil => rfl
  | cons s settings ih =>
    obtain ⟨fresh, once⟩ := List.nodup_cons.mp once
    have step : r.takeAll (s :: settings) = (r.take s.flag s.text).takeAll settings := rfl
    rw [step, ih _ once]
    by_cases same : s.flag = flag
    · subst same
      rw [textOf_cons, if_pos rfl, textOf_eq_none _ _ fresh]
      exact hit r s.text
    · rw [textOf_cons, if_neg same, miss _ _ _ same]

theorem options_takeAll (settings : List Setting) (once : (settings.map Setting.flag).Nodup) :
    (start.takeAll settings).options = Options.ofSettings settings := by
  have filter := field_takeAll Reading.logFilter some .logFilter (fun _ _ => rfl)
    (by intro r other text different; cases other <;> first | rfl | contradiction)
    start settings once
  have width := field_takeAll Reading.width size? .width (fun _ _ => rfl)
    (by intro r other text different; cases other <;> first | rfl | contradiction)
    start settings once
  have height := field_takeAll Reading.height size? .height (fun _ _ => rfl)
    (by intro r other text different; cases other <;> first | rfl | contradiction)
    start settings once
  simp only [options, filter, width, height, Options.ofSettings]
  cases textOf .logFilter settings <;> cases textOf .width settings <;>
    cases textOf .height settings <;> rfl

end Reading

/-- The order of the settings and their spellings do not show in what they set. -/
theorem ofSettings_perm (settings others : List Setting)
    (once : (settings.map Setting.flag).Nodup)
    (same : (settings.map Setting.given).Perm (others.map Setting.given)) :
    Options.ofSettings settings = Options.ofSettings others := by
  have flags (some : List Setting) :
      some.map Setting.flag = (some.map Setting.given).map Prod.fst := by
    simp [Setting.given, Function.comp_def]
  have others_once : (others.map Setting.flag).Nodup := by
    rw [flags] at once ⊢
    exact (same.map Prod.fst).nodup once
  have texts (flag : Flag) : textOf flag settings = textOf flag others := by
    apply Option.ext
    intro text
    rw [textOf_eq_some_iff flag text settings once, same.mem_iff,
      textOf_eq_some_iff flag text others others_once]
  simp only [Options.ofSettings, texts]

theorem parse_eq_ok_iff (commandLine : List Argument) (o : Options) :
    parse commandLine = .ok o ↔ ∃ settings closed,
      Spells commandLine.tail settings closed ∧ o = Options.ofSettings settings := by
  have parsed : ∃ program, parse commandLine =
      (Reading.start.read program commandLine.tail).map Reading.options := by
    cases commandLine with
    | nil => exact ⟨defaultProgram, rfl⟩
    | cons path arguments => exact ⟨programName path, rfl⟩
  obtain ⟨program, parsed⟩ := parsed
  rw [parsed]
  have fresh (settings : List Setting) : Reading.start.Lacks settings := by
    intro s _
    cases s.flag <;> rfl
  have spelled (settings : List Setting) (closed : Bool)
      (spells : Spells commandLine.tail settings closed) :
      (Reading.start.read program commandLine.tail).map Reading.options =
        .ok (Options.ofSettings settings) := by
    rw [Reading.read_spelled program _ _ settings closed rfl spells (fresh settings),
      Except.map, Reading.options_takeAll settings spells.once]
  constructor
  · intro accepted
    cases done : Reading.start.read program commandLine.tail with
    | error refusal => simp [done, Except.map] at accepted
    | ok next =>
      obtain ⟨settings, closed, spells, _⟩ :=
        Reading.spelled_of_read program _ next _ rfl done
      rw [spelled settings closed spells] at accepted
      exact ⟨settings, closed, spells, (Except.ok.inj accepted).symm⟩
  · rintro ⟨settings, closed, spells, rfl⟩
    exact spelled settings closed spells

/-- A command line is accepted if and only if it spells out settings. What it then gives is
what was set, and any other spelling of the same settings, in any order, gives the same. -/
theorem accepts_exactly_settings (commandLine : List Argument) :
    ((∃ o, parse commandLine = .ok o) ↔
      ∃ settings closed, Spells commandLine.tail settings closed) ∧
    ∀ settings closed, Spells commandLine.tail settings closed →
      parse commandLine = .ok (Options.ofSettings settings) ∧
      ∀ other others ended, Spells other.tail others ended →
        (settings.map Setting.given).Perm (others.map Setting.given) →
        parse other = parse commandLine := by
  refine ⟨⟨?_, ?_⟩, ?_⟩
  · rintro ⟨o, accepted⟩
    obtain ⟨settings, closed, spells, _⟩ := (parse_eq_ok_iff commandLine o).mp accepted
    exact ⟨settings, closed, spells⟩
  · rintro ⟨settings, closed, spells⟩
    exact ⟨_, (parse_eq_ok_iff commandLine _).mpr ⟨settings, closed, spells, rfl⟩⟩
  · intro settings closed spells
    have parsed := (parse_eq_ok_iff commandLine _).mpr ⟨settings, closed, spells, rfl⟩
    refine ⟨parsed, ?_⟩
    intro other others ended spelled same
    rw [parsed, ofSettings_perm settings others spells.once same]
    exact (parse_eq_ok_iff other _).mpr ⟨others, ended, spelled, rfl⟩

/-- One line closes its options, one joins what the other sets apart; both ask for the same. -/
theorem two_spellings_agree :
    let commandLine := ["hall_desktop", "--height=240.5", "--log-filter", "a=ü", "--width", "1e3",
      "--"].map encode
    let other := ["", "--width=1e3", "--height", "240.5", "--log-filter=a=ü"].map encode
    let settings : List Setting :=
      [⟨.height, "240.5", true⟩, ⟨.logFilter, "a=ü", false⟩, ⟨.width, "1e3", false⟩]
    let others : List Setting :=
      [⟨.width, "1e3", true⟩, ⟨.height, "240.5", false⟩, ⟨.logFilter, "a=ü", true⟩]
    Spells commandLine.tail settings true ∧ Spells other.tail others false ∧
      (settings.map Setting.given).Perm (others.map Setting.given) ∧
      parse commandLine = .ok (Options.ofSettings settings) ∧ parse other = parse commandLine := by
  intro commandLine other settings others
  have wide : ∃ literal, Literal.parse "1e3" = .ok literal :=
    ⟨.finite false 1 3, rfl⟩
  have high : ∃ literal, Literal.parse "240.5" = .ok literal :=
    ⟨.finite false 2405 (-1), rfl⟩
  have spells : Spells commandLine.tail settings true :=
    ⟨by decide, by decide, by simp [settings, Flag.Reads, wide, high],
      by simp [settings, Setting.Distinct]; decide⟩
  have spelled : Spells other.tail others false :=
    ⟨by decide, by decide, by simp [others, Flag.Reads, wide, high],
      by simp [others, Setting.Distinct]; decide⟩
  have same : (settings.map Setting.given).Perm (others.map Setting.given) := by decide
  have result := (accepts_exactly_settings commandLine).2 settings true spells
  exact ⟨spells, spelled, same, result.1, result.2 other others false spelled same⟩

end BookingDesk.Launch
