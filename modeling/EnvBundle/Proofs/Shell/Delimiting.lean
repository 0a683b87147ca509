import EnvBundle.Proofs.Shell.BareNames

/-!
Where an escaped value ends. A reader of words goes through it up to its last quote, whatever the
value is and whatever bare text stands before it, and leaves what follows. On its way it is between
double quotes for nothing but the single quotes of the value, and those are not special there.
-/
namespace EnvBundle.Shell

/-- The characters that a reader goes through, each with where the reader stands before it. -/
def passed (mode : Mode) : Text → List (Mode × Char)
  | [] => []
  | c :: rest =>
    match step mode c with
    | .stop => []
    | .refuse => []
    | .go _ next => (mode, c) :: passed next rest

/-- Whether a character stands between double quotes. The one that closes them does not. -/
def isDoubleQuoted : Mode × Char → Bool
  | (.double, c) => c != '"'
  | (.doubleEscape, _) => true
  | _ => false

/-- What a reader goes through between double quotes, all such parts of the text together. -/
def doubleQuoted (mode : Mode) (t : Text) : Text :=
  ((passed mode t).filter isDoubleQuoted).map Prod.snd

section Passing

variable {mode next : Mode} {c : Char} {given : Word} (taken : step mode c = .go given next)
include taken

theorem passed_cons (rest : Text) : passed mode (c :: rest) = (mode, c) :: passed next rest := by
  rw [passed, taken]

theorem doubleQuoted_cons (outside : isDoubleQuoted (mode, c) = false) (rest : Text) :
    doubleQuoted mode (c :: rest) = doubleQuoted next rest := by
  simp [doubleQuoted, passed_cons taken, outside]

end Passing

/-- A reader that finds the rest of a word has gone through all that it does not leave. -/
theorem passed_append_of_wordFrom {mode : Mode} {t rest : Text} {word : Word}
    (read : wordFrom mode t = some (word, rest)) : (passed mode t).map Prod.snd ++ rest = t := by
  induction t generalizing mode word with
  | nil =>
      obtain ⟨rfl, rfl⟩ := wordFrom_nil_eq_some read
      rfl
  | cons c t ih =>
      rcases wordFrom_cons_eq_some read with ⟨stopped, rfl, rfl⟩ | ⟨_, _, _, taken, later, _⟩
      · rw [passed, stopped]
        rfl
      · rw [passed_cons taken, List.map_cons, List.cons_append, ih later]

theorem passed_append_of_word? {t rest : Text} {word : Word}
    (read : word? t = some (word, rest)) : (passed .bare t).map Prod.snd ++ rest = t := by
  cases t with
  | nil => cases read
  | cons c t =>
      rw [word?] at read
      split at read
      · cases read
      · exact passed_append_of_wordFrom read

theorem doubleQuoted_of_ended {rest : Text} (ended : Ended rest) :
    doubleQuoted .bare rest = [] := by
  cases rest with
  | nil => rfl
  | cons c rest =>
      have ends : endsWord c = true := ended c rfl
      simp [doubleQuoted, passed, step, ends]

theorem doubleQuoted_append_of_plain {front : Text} (plain : ∀ c ∈ front, isPlain c = true)
    (rest : Text) : doubleQuoted .bare (front ++ rest) = doubleQuoted .bare rest := by
  induction front with
  | nil => rfl
  | cons c front ih =>
      obtain ⟨first, plain⟩ := List.forall_mem_cons.1 plain
      rw [List.cons_append, doubleQuoted_cons (step_bare_of_plain first) rfl, ih plain]

/-- A single quote is the one character for which the reader leaves the quotes it is in. -/
theorem doubleQuoted_escapeChar (c : Char) (rest : Text) :
    doubleQuoted .single (escapeChar c ++ rest) =
      [c].filter (· == '\'') ++ doubleQuoted .single rest := by
  by_cases quote : c = '\''
  · subst quote
    rfl
  · have taken : step .single c = .go [(c, .single)] .single := if_neg quote
    rw [escapeChar, if_neg quote, List.singleton_append, doubleQuoted_cons taken rfl]
    simp [quote]

theorem doubleQuoted_flatMap_escapeChar (value rest : Text) :
    doubleQuoted .single (value.flatMap escapeChar ++ rest) =
      value.filter (· == '\'') ++ doubleQuoted .single rest := by
  induction value with
  | nil => rfl
  | cons c value ih =>
      rw [List.flatMap_cons, List.append_assoc, doubleQuoted_escapeChar, ih, ← List.append_assoc,
        ← List.filter_append]
      rfl

/-- An escaped value has its single quotes between double quotes and nothing else. -/
theorem doubleQuoted_escape (value rest : Text) :
    doubleQuoted .bare (escape value ++ rest) =
      value.filter (· == '\'') ++ doubleQuoted .bare rest := by
  have opens : step .bare '\'' = .go [] .single := rfl
  have closes : step .single '\'' = .go [] .bare := rfl
  rw [escape, List.cons_append, List.cons_append, List.append_assoc,
    doubleQuoted_cons opens rfl, doubleQuoted_flatMap_escapeChar, List.singleton_append,
    doubleQuoted_cons closes rfl]

/-- Behind any bare text, an escaped value ends the word where it ends itself: the reader goes
through the two and no further, gives the bare text and then the value, and leaves what follows.
Nothing that it finds between double quotes is special there. -/
theorem escape_delimits_itself {front : Text} (bare : BareName front) (value : Text) {rest : Text}
    (ended : Ended rest) :
    word? (front ++ escape value ++ rest) =
        some (bareWord front ++ escapedWord value, rest) ∧
      Word.value (bareWord front ++ escapedWord value) = front ++ value ∧
      (passed .bare (front ++ escape value ++ rest)).map Prod.snd = front ++ escape value ∧
      ∀ c ∈ doubleQuoted .bare (front ++ escape value ++ rest), isEscapable c = false := by
  have read := (spells_escape bare value).word? ended
  refine ⟨read, ?_, ?_, ?_⟩
  · rw [value_append, value_bareWord, value_escapedWord]
  · exact List.append_cancel_right (passed_append_of_word? read)
  · rw [List.append_assoc, doubleQuoted_append_of_plain bare.plain, doubleQuoted_escape,
      doubleQuoted_of_ended ended, List.append_nil]
    intro c inside
    obtain ⟨_, quote⟩ := List.mem_filter.1 inside
    rw [beq_iff_eq.1 quote]
    decide

/-- A value of quotes and of what would be a command, between a name and a further command. -/
theorem escape_delimits_itself_inContext :
    BareName "A.1=".toList ∧ Ended "\t;B".toList ∧
      word? "A.1='it'\"'\"'s\n`x`'\t;B".toList =
          some (bareWord "A.1=".toList ++ escapedWord "it's\n`x`".toList, "\t;B".toList) ∧
      Word.value (bareWord "A.1=".toList ++ escapedWord "it's\n`x`".toList) =
        "A.1=it's\n`x`".toList ∧
      '\'' ∈ doubleQuoted .bare "A.1='it'\"'\"'s\n`x`'\t;B".toList ∧
      ∀ c ∈ doubleQuoted .bare "A.1='it'\"'\"'s\n`x`'\t;B".toList, isEscapable c = false := by
  have bare : BareName "A.1=".toList := by decide
  have ended : Ended "\t;B".toList := ended_cons rfl _
  obtain ⟨read, value, _, quoted⟩ := escape_delimits_itself bare "it's\n`x`".toList ended
  exact ⟨bare, ended, read, value, by decide, quoted⟩

end EnvBundle.Shell
