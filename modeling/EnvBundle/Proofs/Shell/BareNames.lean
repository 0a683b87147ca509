import EnvBundle.Proofs.DotEnv.Written
import EnvBundle.Proofs.Shell.Standard

/-!
Variables as assignments, one a line, their names outside quotes. A name may have whatever can stand
between single quotes, so these lines are read as the variables only if no name has a character that
may be special outside them.
-/
namespace EnvBundle.Shell

open DotEnv (written render_cons)

/-- A character that stands for itself outside quotes, wherever it is in a word. -/
def isPlain (c : Char) : Bool :=
  !endsWord c && !isSpecial c && c != '\'' && c != '"' && c != '\\'

/-- A name that stands for itself outside quotes. A number sign is special only in front. -/
structure BareName (name : Text) : Prop where
  uncommented : name.head? ≠ some '#'
  plain : ∀ c ∈ name, isPlain c = true

instance (name : Text) : Decidable (BareName name) :=
  decidable_of_iff (name.head? ≠ some '#' ∧ name.all isPlain = true)
    ⟨fun h => ⟨h.1, List.all_eq_true.1 h.2⟩, fun h => ⟨h.uncommented, List.all_eq_true.2 h.plain⟩⟩

theorem isPlain_iff {c : Char} :
    isPlain c = true ↔
      endsWord c = false ∧ isSpecial c = false ∧ c ≠ '\'' ∧ c ≠ '"' ∧ c ≠ '\\' := by
  simp only [isPlain, Bool.and_eq_true, Bool.not_eq_true', bne_iff_ne, ne_eq, and_assoc]

theorem step_bare_of_plain {c : Char} (plain : isPlain c = true) :
    step .bare c = .go [(c, .bare)] .bare := by
  obtain ⟨inside, simple, single, double, backslash⟩ := isPlain_iff.1 plain
  simp only [step, inside, simple, single, double, backslash, Bool.false_eq_true, if_false]

/-- How many characters beyond one a reader can give at its next step. -/
def debt : Mode → Nat
  | .doubleEscape => 1
  | _ => 0

/-- No reader gives more than it has taken, what it still owes included. -/
theorem debt_of_step {mode next : Mode} {c : Char} {given : Word}
    (taken : step mode c = .go given next) : given.length + debt next ≤ 1 + debt mode := by
  cases mode with
  | bare | bareEscape | single | double | doubleEscape =>
      simp only [step] at taken
      repeat' split at taken
      all_goals cases taken
      all_goals simp [debt]

theorem outside_of_step {mode next : Mode} {c : Char} {given : Word} (outside : mode ≠ .single)
    (unquoted : c ≠ '\'') (taken : step mode c = .go given next) : next ≠ .single := by
  cases mode with
  | single => exact absurd rfl outside
  | bare | bareEscape | double | doubleEscape =>
      simp only [step, if_neg unquoted] at taken
      repeat' split at taken
      all_goals cases taken
      all_goals exact Mode.noConfusion

/-- A character that is not plain is not read: it ends the word, is refused, or is passed over. -/
theorem step_bare_of_not_plain {c : Char} (special : ¬isPlain c = true) :
    step .bare c = .stop ∨ step .bare c = .refuse ∨
      ∃ next, step .bare c = .go [] next ∧ (next = .single → c = '\'') ∧ debt next = 0 := by
  simp only [step]
  split
  · exact .inl rfl
  · next inside =>
    split
    · next single => exact .inr (.inr ⟨.single, rfl, fun _ => single, rfl⟩)
    · next unquoted =>
      split
      · exact .inr (.inr ⟨.double, rfl, Mode.noConfusion, rfl⟩)
      · next double =>
        split
        · exact .inr (.inr ⟨.bareEscape, rfl, Mode.noConfusion, rfl⟩)
        · next backslash =>
          split
          · exact .inr (.inl rfl)
          · next simple =>
            exact absurd (isPlain_iff.2 ⟨by simpa using inside, by simpa using simple, unquoted,
              double, backslash⟩) special

/-- Outside single quotes an equals sign is given at once, or after what the reader still owes. -/
theorem equals_mem_take {mode : Mode} (outside : mode ≠ .single) {rest tail : Text} {word : Word}
    (read : wordFrom mode ('=' :: rest) = some (word, tail)) :
    '=' ∈ word.value.take (1 + debt mode) := by
  cases mode with
  | single => exact absurd rfl outside
  | bare | bareEscape | double | doubleEscape =>
      obtain ⟨⟨more, last⟩, _, whole⟩ := Option.map_eq_some_iff.1 read
      cases whole
      simp [Word.value, debt]

/-- A reader that is behind a name stays behind it, and so gives the equals sign too early. -/
theorem value_ne_of_behind {name : Text} (unquoted : '\'' ∉ name) {mode : Mode}
    (outside : mode ≠ .single) {lag : Text} (free : '=' ∉ lag ++ name)
    (behind : debt mode < lag.length) {rest tail value : Text} {word : Word}
    (read : wordFrom mode (name ++ '=' :: rest) = some (word, tail)) :
    word.value ≠ lag ++ name ++ '=' :: value := by
  intro same
  induction name generalizing mode lag word with
  | nil =>
      have early := equals_mem_take outside read
      rw [List.append_nil] at free same
      rw [same, List.take_append_of_le_length (by omega)] at early
      exact free (List.mem_of_mem_take early)
  | cons c name ih =>
      obtain ⟨apart, unquoted⟩ := List.ne_and_not_mem_of_not_mem_cons unquoted
      rcases wordFrom_cons_eq_some read with ⟨_, rfl, rfl⟩ | ⟨given, next, more, taken, later, rfl⟩
      · have length := congrArg List.length same
        simp [Word.value] at length
      · have bound := debt_of_step taken
        have short : given.length ≤ lag.length := by omega
        -- What is given now comes out of the lag, and the character taken joins the rest of it.
        have split : lag ++ c :: name = lag.take given.length ++
            ((lag.drop given.length ++ [c]) ++ name) := by
          rw [← List.append_assoc, ← List.append_assoc, List.take_append_drop]
          simp
        rw [split] at free same
        have free : '=' ∉ (lag.drop given.length ++ [c]) ++ name := fun inside =>
          free (List.mem_append_right _ inside)
        have behind : debt next < (lag.drop given.length ++ [c]).length := by
          rw [List.length_append, List.length_drop, List.length_singleton]
          omega
        have same : Word.value more = (lag.drop given.length ++ [c]) ++ name ++ '=' :: value := by
          have length : (Word.value given).length = (lag.take given.length).length := by
            rw [Word.value, List.length_map, List.length_take_of_le short]
          rw [value_append, List.append_assoc] at same
          exact List.append_inj_right same length
        exact ih unquoted (outside_of_step outside (Ne.symm apart) taken) free behind later same

/-- A name that comes back as it was written has been read bare, character by character. -/
theorem plain_of_value {name : Text} (named : '=' ∉ name) (unquoted : '\'' ∉ name)
    {rest tail value : Text} {word : Word}
    (read : wordFrom .bare (name ++ '=' :: rest) = some (word, tail))
    (same : word.value = name ++ '=' :: value) : ∀ c ∈ name, isPlain c = true := by
  induction name generalizing word with
  | nil => nofun
  | cons c name ih =>
      obtain ⟨apart, unquotedRest⟩ := List.ne_and_not_mem_of_not_mem_cons unquoted
      rw [List.cons_append] at read
      by_cases plain : isPlain c = true
      · obtain ⟨more, later, rfl⟩ := wordFrom_of_go (step_bare_of_plain plain) read
        have rest := ih (List.not_mem_of_not_mem_cons named) unquotedRest later
          (List.cons.inj same).2
        exact List.forall_mem_cons.2 ⟨plain, rest⟩
      · exfalso
        rcases step_bare_of_not_plain plain with ends | refused | ⟨next, passed⟩
        · rw [wordFrom, ends] at read
          cases read
          cases same
        · rw [wordFrom, refused] at read
          cases read
        · obtain ⟨taken, quoted, solvent⟩ := passed
          have outside : next ≠ .single := fun single => apart (quoted single).symm
          have free : '=' ∉ [c] ++ name := named
          have behind : debt next < [c].length := by simp [solvent]
          obtain ⟨more, later, rfl⟩ := wordFrom_of_go taken read
          exact value_ne_of_behind unquotedRest outside free behind later same

/-- The word of a variable whose name stands outside quotes. -/
def lineWord (name value : Text) : Word := bareWord name ++ ('=', .bare) :: escapedWord value

@[simp] theorem value_lineWord (name value : Text) :
    (lineWord name value).value = name ++ '=' :: value := by
  rw [lineWord, value_append, value_bareWord]
  change name ++ '=' :: (escapedWord value).value = _
  rw [value_escapedWord]

/-- Bare text and an escaped value behind it are one word. -/
theorem spells_escape {front : Text} (bare : BareName front) (value : Text) :
    Spells (front ++ escape value) (bareWord front ++ escapedWord value) := by
  have name : Reads .bare front (bareWord front) .bare :=
    Reads.bare fun c member => step_bare_of_plain (bare.plain c member)
  refine ⟨?_, name.append (Reads.escape value)⟩
  cases front with
  | nil => exact ⟨'\'', _, rfl, rfl, by decide⟩
  | cons c rest =>
      have first := isPlain_iff.1 (bare.plain c List.mem_cons_self)
      exact ⟨c, _, rfl, first.1, fun comment => bare.uncommented (congrArg some comment)⟩

theorem spells_written {name : Text} (filled : name ≠ []) (bare : BareName name) (value : Text) :
    Spells (written name value) (lineWord name value) := by
  have marked : BareName (name ++ ['=']) := by
    constructor
    · obtain ⟨c, rest, rfl⟩ := List.exists_cons_of_ne_nil filled
      exact bare.uncommented
    · exact List.forall_mem_append.2 ⟨bare.plain, List.forall_mem_singleton.2 rfl⟩
  simpa [written, lineWord, bareWord] using spells_escape marked value

/-- A word that is a line of its own is a command. -/
theorem Spells.commands?_line {t : Text} {word : Word} (h : Spells t word) (rest : Text) :
    commands? (t ++ '\n' :: rest) = (commands? rest).map ([word] :: ·) := by
  rw [commands?, commands?, h.wordLines (ended_cons rfl rest), wordLines_newline]
  cases Shell.wordLines rest <;> rfl

theorem commands?_render_dotEnv {entries : List (Text × Text)}
    (filled : ∀ e ∈ entries, e.1 ≠ []) (bare : ∀ e ∈ entries, BareName e.1) :
    commands? (render entries .dotEnv) = some (entries.map fun e => [lineWord e.1 e.2]) := by
  induction entries with
  | nil =>
      change commands? [] = some []
      rw [commands?, wordLines_nil]
      rfl
  | cons e entries ih =>
      obtain ⟨first, filled⟩ := List.forall_mem_cons.1 filled
      obtain ⟨firstBare, bare⟩ := List.forall_mem_cons.1 bare
      rw [render_cons, (spells_written first firstBare e.2).commands?_line, ih filled bare]
      rfl

/-- The values of the words of each command. -/
def commandValues? (t : Text) : Option (List (List Text)) :=
  (commands? t).map fun commands => commands.map fun words => words.map Word.value

theorem Spells.commandValues?_line {t : Text} {word : Word} (h : Spells t word) (rest : Text) :
    commandValues? (t ++ '\n' :: rest) = (commandValues? rest).map ([word.value] :: ·) := by
  rw [commandValues?, commandValues?, h.commands?_line]
  cases commands? rest <;> rfl

/-- The first command of a text begins with the word that the text begins with. -/
theorem word?_of_commandValues? {c : Char} (filled : isBlank c = false) (apart : c ≠ '\n')
    {t : Text} {first : List Text} {others : List (List Text)}
    (read : commandValues? (c :: t) = some (first :: others)) :
    ∃ word rest, word? (c :: t) = some (word, rest) ∧ first.head? = some word.value := by
  rw [commandValues?, commands?, wordLines_filled filled apart] at read
  cases found : word? (c :: t) with
  | none =>
      rw [found] at read
      cases read
  | some pair =>
      obtain ⟨word, rest⟩ := pair
      refine ⟨word, rest, rfl, ?_⟩
      rw [found, Option.bind_some] at read
      cases lines : wordLines rest with
      | none =>
          rw [lines] at read
          cases read
      | some lines' =>
          rw [lines] at read
          cases lines' <;> cases read <;> rfl

theorem bareName_of_line {name value : Text} (sound : Variable.Sound name value) {rest : Text}
    {others : List (List Text)}
    (read : commandValues? (written name value ++ '\n' :: rest) =
      some ([name ++ '=' :: value] :: others)) : BareName name := by
  have text : written name value ++ '\n' :: rest =
      name ++ '=' :: (escape value ++ '\n' :: rest) := by
    rw [written, List.append_assoc, List.cons_append]
  rw [text] at read
  obtain ⟨c, more, rfl⟩ := List.exists_cons_of_ne_nil sound.name_ne_nil
  have solid : Text.isBlank c = false := sound.not_blank List.mem_cons_self
  have apart : c ≠ '\n' := by
    rintro rfl
    cases solid
  have filled : isBlank c = false := by
    rw [isBlank, Bool.or_eq_false_iff, decide_eq_false_iff_not, decide_eq_false_iff_not]
    constructor
    · rintro rfl
      cases solid
    · rintro rfl
      cases solid
  obtain ⟨word, tail, found, same⟩ := word?_of_commandValues? filled apart read
  rw [word?] at found
  split at found
  · cases found
  · next starts =>
    obtain ⟨_, uncommented⟩ := not_or.1 starts
    refine ⟨fun comment => uncommented (Option.some.inj comment), ?_⟩
    exact plain_of_value sound.ne_equals sound.ne_quote found (Option.some.inj same).symm

theorem commandValues?_render_dotEnv_iff {entries : List (Text × Text)}
    (sound : ∀ e ∈ entries, Variable.Sound e.1 e.2) :
    commandValues? (render entries .dotEnv) =
        some (entries.map fun e => [e.1 ++ '=' :: e.2]) ↔ ∀ e ∈ entries, BareName e.1 := by
  constructor
  · intro read
    induction entries with
    | nil => nofun
    | cons e entries ih =>
        obtain ⟨first, sound⟩ := List.forall_mem_cons.1 sound
        rw [render_cons] at read
        have bare := bareName_of_line first read
        rw [(spells_written first.name_ne_nil bare e.2).commandValues?_line] at read
        obtain ⟨others, rest, same⟩ := Option.map_eq_some_iff.1 read
        rw [(List.cons.inj same).2] at rest
        exact List.forall_mem_cons.2 ⟨bare, ih sound rest⟩
  · intro bare
    have filled : ∀ e ∈ entries, e.1 ≠ [] := fun e member => (sound e member).name_ne_nil
    rw [commandValues?, commands?_render_dotEnv filled bare, Option.map_some, List.map_map]
    simp only [Function.comp_def, List.map_singleton, value_lineWord]

/-- The lines written for a bundle are read as the words `name=value`, one a line and in the order
of the names, exactly if no name has a character that may be special outside quotes. Then every
character of a name is read as itself, and every value stands between quotes. That no other names
are read is a fact about this reader, which is careful: a shell takes a tilde inside a name and a
bracket that nothing closes as they are. -/
theorem assignment_lines_read_iff {t : Text} {bundle : Bundle}
    (parsed : Bundle.parse t = .ok bundle) :
    Ascending bundle.entries ∧
      (commandValues? (render bundle.entries .dotEnv) =
          some (bundle.entries.map fun e => [e.1 ++ '=' :: e.2]) ↔
        ∀ e ∈ bundle.entries, BareName e.1) ∧
      ((∀ e ∈ bundle.entries, BareName e.1) →
        commands? (render bundle.entries .dotEnv) =
          some (bundle.entries.map fun e => [lineWord e.1 e.2])) := by
  have sound := Bundle.sound_of_parse parsed
  refine ⟨bundle.ascending, commandValues?_render_dotEnv_iff sound, ?_⟩
  intro bare
  exact commands?_render_dotEnv (fun e member => (sound e member).name_ne_nil) bare

theorem assignment_lines_read_hostile_values :
    ∃ bundle, Bundle.parse "\x7b\"b#\":\"it's\",\"A.1\":\"$(x)\\n;\"\x7d".toList = .ok bundle ∧
      commandValues? (render bundle.entries .dotEnv) =
        some [["A.1=$(x)\n;".toList], ["b#=it's".toList]] := by
  have read : Json.object "\x7b\"b#\":\"it's\",\"A.1\":\"$(x)\\n;\"\x7d".toList =
      .ok [("b#".toList, "it's".toList), ("A.1".toList, "$(x)\n;".toList)] := by decide +kernel
  have parsed := Bundle.parse_of_object read (by decide)
  exact ⟨_, parsed, (assignment_lines_read_iff parsed).2.1.2 (by decide)⟩

/-- A name that passes the checks and asks the shell to run a command. -/
theorem assignment_line_of_substitution_is_no_word :
    ∃ bundle, Bundle.parse "\x7b\"$(x)\":\"1\"\x7d".toList = .ok bundle ∧
      render bundle.entries .dotEnv = "$(x)='1'\n".toList ∧
      commands? (render bundle.entries .dotEnv) = none := by
  have read : Json.object "\x7b\"$(x)\":\"1\"\x7d".toList = .ok [("$(x)".toList, ['1'])] := by
    decide +kernel
  have parsed := Bundle.parse_of_object read (by decide)
  refine ⟨_, parsed, by decide, ?_⟩
  have refused : word? ('$' :: "(x)='1'\n".toList) = none := by decide
  change commands? ('$' :: "(x)='1'\n".toList) = none
  rw [commands?, wordLines_filled (by decide) (by decide), refused]
  rfl

end EnvBundle.Shell
