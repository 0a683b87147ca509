import EnvBundle.Proofs.Shell.BareNames

/-!
Values between quotes that are left as they are. A shell reads such a value as one whole word and as
itself exactly if it has no single quote: behind one inside it a reader has too little left to make
up for what quoting takes away. Then the `export` lines of variables are as good as the one command
for all of them.
-/
namespace EnvBundle.Shell

open DotEnv (written requoted requoted_eq_self_iff)

/-- A word and what follows it are no longer than the text they are read from, except by what the
reader owes. -/
theorem length_le_of_wordFrom {mode : Mode} {t rest : Text} {word : Word}
    (read : wordFrom mode t = some (word, rest)) :
    word.length + rest.length ≤ t.length + debt mode := by
  induction t generalizing mode word with
  | nil =>
      obtain ⟨rfl, rfl⟩ := wordFrom_nil_eq_some read
      exact Nat.zero_le _
  | cons c t ih =>
      rcases wordFrom_cons_eq_some read with ⟨_, rfl, rfl⟩ | ⟨_, _, _, taken, later, rfl⟩
      · simp
      · have now := debt_of_step taken
        have rest := ih later
        rw [List.length_append, List.length_cons]
        omega

/-- A word of all the characters there are has been read bare, one after the other. -/
theorem unquoted_of_length {t : Text} {word : Word} (read : wordFrom .bare t = some (word, []))
    (full : word.length = t.length) : '\'' ∉ t := by
  induction t generalizing word with
  | nil => exact List.not_mem_nil
  | cons c t ih =>
      by_cases plain : isPlain c = true
      · obtain ⟨more, later, rfl⟩ := wordFrom_of_go (step_bare_of_plain plain) read
        have apart : c ≠ '\'' := (isPlain_iff.1 plain).2.2.1
        exact List.not_mem_cons_of_ne_of_not_mem apart.symm (ih later (Nat.succ.inj full))
      · exfalso
        rcases step_bare_of_not_plain plain with ends | refused | ⟨next, taken, _, solvent⟩
        · rw [wordFrom, ends] at read
          cases read
        · rw [wordFrom, refused] at read
          cases read
        · -- The character gives nothing, and what is left is too short.
          obtain ⟨more, later, rfl⟩ := wordFrom_of_go taken read
          have bound := length_le_of_wordFrom later
          rw [solvent] at bound
          simp only [List.length_cons, List.length_nil] at full bound
          omega

theorem spells_rawQuote {value : Text} (unquoted : '\'' ∉ value) :
    Spells (rawQuote value) (value.map fun c => (c, .single)) :=
  ⟨⟨'\'', _, rfl, rfl, by decide⟩, Reads.rawQuote unquoted⟩

/-- The first quote inside a value ends its quoting, so the rest of the value is read from a text
that is only as long, and has the closing quote in it. -/
theorem unquoted_of_word?_rawQuote {value : Text} {word : Word}
    (read : word? (rawQuote value) = some (word, [])) (same : word.value = value) :
    '\'' ∉ value := by
  intro inside
  obtain ⟨before, behind, rfl, free⟩ := List.eq_append_cons_of_mem inside
  have text : rawQuote (before ++ '\'' :: behind) = rawQuote before ++ (behind ++ ['\'']) := by
    simp [rawQuote]
  have read : wordFrom .bare (rawQuote (before ++ '\'' :: behind)) = some (word, []) := read
  rw [text, Reads.rawQuote free] at read
  obtain ⟨⟨more, last⟩, later, whole⟩ := Option.map_eq_some_iff.1 read
  cases whole
  rw [value_append, value_map_quoting before fun _ => .single] at same
  have rest : Word.value more = '\'' :: behind := List.append_cancel_left same
  have full : more.length = (behind ++ ['\'']).length := by
    have length := congrArg List.length rest
    rw [Word.value, List.length_map] at length
    rw [length, List.length_append]
    rfl
  exact unquoted_of_length later full (List.mem_append_right behind (List.mem_singleton_self _))

def isNameChar (c : Char) : Bool := c.isAlphanum || c = '_'

/-- A name of the form `[A-Za-z_][A-Za-z0-9_]*`. -/
def isIdentifier : Text → Bool
  | [] => false
  | c :: rest => (c.isAlpha || c = '_') && rest.all isNameChar

theorem isNameChar_of_isIdentifier {name : Text} (proper : isIdentifier name = true) :
    ∀ c ∈ name, isNameChar c = true := by
  cases name with
  | nil => nofun
  | cons c rest =>
      obtain ⟨first, later⟩ := Bool.and_eq_true_iff.1 proper
      refine List.forall_mem_cons.2 ⟨?_, List.all_eq_true.1 later⟩
      rw [isNameChar, Char.isAlphanum]
      rcases Bool.or_eq_true_iff.1 first with letter | underscore
      · rw [letter, Bool.true_or, Bool.true_or]
      · rw [underscore, Bool.or_true]

theorem notMem_of_isIdentifier {name : Text} (proper : isIdentifier name = true) {c : Char}
    (special : isNameChar c = false) : c ∉ name := by
  intro inside
  cases special.symm.trans (isNameChar_of_isIdentifier proper c inside)

theorem isPlain_of_isNameChar {c : Char} (proper : isNameChar c = true) : isPlain c = true := by
  have apart : ∀ marks : Text, marks.all (fun d => !isNameChar d) = true → c ∉ marks := by
    intro marks special inside
    have improper := List.all_eq_true.1 special c inside
    rw [proper] at improper
    cases improper
  have operators : c ∉ "|&;<>()".toList := apart _ (by decide)
  have expansions : c ∉ "$`*?[~".toList := apart _ (by decide)
  have others : c ∉ [' ', '\t', '\n', '\'', '"', '\\'] := apart _ (by decide)
  simp only [List.mem_cons, List.not_mem_nil, or_false, not_or] at others
  obtain ⟨space, tab, newline, quotes⟩ := others
  refine isPlain_iff.2 ⟨?_, ?_, quotes⟩
  · simp only [endsWord, isBlank, isOperator, List.contains_eq_mem, space, tab, newline, operators,
      decide_false, Bool.or_self]
  · simp only [isSpecial, List.contains_eq_mem, expansions, decide_false]

theorem bareName_of_isIdentifier {name : Text} (proper : isIdentifier name = true) :
    BareName name := by
  refine ⟨fun comment => ?_, fun c inside => ?_⟩
  · exact notMem_of_isIdentifier proper (c := '#') (by decide) (List.mem_of_head? comment)
  · exact isPlain_of_isNameChar (isNameChar_of_isIdentifier proper c inside)

/-- Without quotes in the value the line is the word `export` and the line of an assignment. -/
theorem exportLine_of_unquoted {value : Text} (unquoted : '\'' ∉ value) (name : Text) :
    exportLine name value = "export".toList ++ ' ' :: written name value := by
  have same : escape value = rawQuote value :=
    congrArg rawQuote (requoted_eq_self_iff.2 unquoted)
  unfold exportLine written
  rw [same, List.append_assoc]
  rfl

theorem wordLines_exportLine {name value : Text} (proper : isIdentifier name = true)
    (unquoted : '\'' ∉ value) {rest : Text} (ended : Ended rest) :
    wordLines (exportLine name value ++ rest) = (wordLines rest).map fun lines =>
      wordFirst (bareWord "export".toList) (wordFirst (lineWord name value) lines) := by
  have filled : name ≠ [] := by
    rintro rfl
    cases proper
  have line := spells_written filled (bareName_of_isIdentifier proper) value
  rw [exportLine_of_unquoted unquoted, List.append_assoc, List.cons_append,
    spells_export.wordLines (ended_cons rfl _), wordLines_blank rfl, line.wordLines ended,
    Option.map_map]
  rfl

/-- Every line is a command. A line feed in a value stands between quotes, so it ends none. -/
theorem commands?_render_pamCompatible {entries : List (Text × Text)}
    (proper : ∀ e ∈ entries, isIdentifier e.1 = true) (unquoted : ∀ e ∈ entries, '\'' ∉ e.2) :
    commands? (render entries .pamCompatible) =
      some (entries.map fun e => [bareWord "export".toList, lineWord e.1 e.2]) := by
  induction entries with
  | nil =>
      change commands? [] = some []
      rw [commands?, wordLines_nil]
      rfl
  | cons e entries ih =>
      obtain ⟨first, proper⟩ := List.forall_mem_cons.1 proper
      obtain ⟨value, unquoted⟩ := List.forall_mem_cons.1 unquoted
      cases entries with
      | nil =>
          have line := wordLines_exportLine first value ended_nil
          rw [List.append_nil, wordLines_nil] at line
          rw [render_pamCompatible_single, commands?, line]
          rfl
      | cons f more =>
          have line := wordLines_exportLine first value
            (ended_cons (c := '\n') rfl (render (f :: more) .pamCompatible))
          rw [wordLines_newline, Option.map_map] at line
          have later := ih proper unquoted
          rw [commands?] at later ⊢
          obtain ⟨lines, read, commands⟩ := Option.map_eq_some_iff.1 later
          rw [render_pamCompatible_cons, line, read]
          exact congrArg (fun commands => some (_ :: commands)) commands

/-- What a command exports, if it is an `export` of words with an equals sign, each cut at the
first. -/
def exported? : List Word → Option (List (Text × Text))
  | [] => none
  | first :: words =>
    if first.value = "export".toList then words.mapM fun word => Split.first? '=' word.value
    else none

/-- What the commands of a text export, one after the other. -/
def exports? (t : Text) : Option (List (Text × Text)) :=
  (commands? t).bind fun commands => (commands.mapM exported?).map List.flatten

/-- A text of one command exports what the command assigns. -/
theorem exports?_of_assignments? {t : Text} {entries : List (Text × Text)}
    (assigned : assignments? t = some entries) : exports? t = some entries := by
  rw [assignments?] at assigned
  split at assigned
  · next none =>
    cases assigned
    rw [exports?, none]
    rfl
  · next first words command =>
    split at assigned
    · next lead =>
      rw [exports?, command, Option.bind_some, List.mapM_cons, exported?, if_pos lead, assigned]
      exact congrArg some (List.append_nil entries)
    · cases assigned
  · cases assigned

theorem mapM_exported? {entries : List (Text × Text)} (named : ∀ e ∈ entries, '=' ∉ e.1) :
    (entries.map fun e => [bareWord "export".toList, lineWord e.1 e.2]).mapM exported? =
      some (entries.map fun e => [e]) := by
  induction entries with
  | nil => rfl
  | cons e entries ih =>
      obtain ⟨first, named⟩ := List.forall_mem_cons.1 named
      have one : exported? [bareWord "export".toList, lineWord e.1 e.2] = some [e] := by
        rw [exported?, value_bareWord, if_pos rfl, List.mapM_cons, value_lineWord,
          Split.first?_append e.2 first]
        rfl
      rw [List.map_cons, List.mapM_cons, one, ih named]
      rfl

theorem exports?_render_pamCompatible {entries : List (Text × Text)}
    (proper : ∀ e ∈ entries, isIdentifier e.1 = true) (unquoted : ∀ e ∈ entries, '\'' ∉ e.2) :
    exports? (render entries .pamCompatible) = some entries := by
  have named : ∀ e ∈ entries, '=' ∉ e.1 := fun e member =>
    notMem_of_isIdentifier (proper e member) (by decide)
  rw [exports?, commands?_render_pamCompatible proper unquoted, Option.bind_some,
    mapM_exported? named, Option.map_some, ← List.flatMap_def, List.flatMap_singleton']

/-- A value between single quotes is read as one whole word, and as itself, exactly if it has no
single quote in it. So if no value has one, the `export` lines of variables are a command each, in
order, and export what the one command for all of them does. -/
theorem rawQuote_reads_iff_unquoted :
    (∀ value : Text, (∃ word, word? (rawQuote value) = some (word, []) ∧ word.value = value) ↔
      '\'' ∉ value) ∧
    ∀ entries : List (Text × Text), (∀ e ∈ entries, isIdentifier e.1 = true) →
      (∀ e ∈ entries, '\'' ∉ e.2) →
        commandValues? (render entries .pamCompatible) =
            some (entries.map fun e => ["export".toList, e.1 ++ '=' :: e.2]) ∧
          exports? (render entries .pamCompatible) = some entries ∧
          exports? (render entries .standard) = some entries := by
  refine ⟨fun value => ⟨?_, fun unquoted => ?_⟩, fun entries proper unquoted => ⟨?_, ?_, ?_⟩⟩
  · rintro ⟨word, read, same⟩
    exact unquoted_of_word?_rawQuote read same
  · have read := (spells_rawQuote unquoted).word? ended_nil
    rw [List.append_nil] at read
    exact ⟨_, read, value_map_quoting value fun _ => .single⟩
  · rw [commandValues?, commands?_render_pamCompatible proper unquoted, Option.map_some,
      List.map_map]
    simp only [Function.comp_def, List.map_cons, List.map_nil, value_bareWord, value_lineWord]
  · exact exports?_render_pamCompatible proper unquoted
  · apply exports?_of_assignments?
    apply assignments?_render_standard
    · intro e member
      exact notMem_of_isIdentifier (proper e member) (by decide)
    · intro e member
      exact notMem_of_isIdentifier (proper e member) (by decide)

/-- A value that goes on like a further line, and one that asks for more than words. -/
def lookalikeEntries : List (Text × Text) :=
  [("_a".toList, "1\nexport B2=$(x)".toList), ("B2".toList, "\"`;#\\".toList)]

theorem rawQuote_reads_iff_unquoted_lookalike :
    commandValues? (render lookalikeEntries .pamCompatible) =
        some [["export".toList, "_a=1\nexport B2=$(x)".toList],
          ["export".toList, "B2=\"`;#\\".toList]] ∧
      exports? (render lookalikeEntries .pamCompatible) =
        exports? (render lookalikeEntries .standard) ∧
      ¬∃ word, word? (rawQuote "it's".toList) = some (word, []) ∧ word.value = "it's".toList := by
  obtain ⟨commands, lines, one⟩ :=
    rawQuote_reads_iff_unquoted.2 lookalikeEntries (by decide) (by decide)
  refine ⟨commands, lines.trans one.symm, ?_⟩
  exact mt (rawQuote_reads_iff_unquoted.1 "it's".toList).1 (by decide)

end EnvBundle.Shell
