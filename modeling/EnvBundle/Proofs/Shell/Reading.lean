import EnvBundle.Shell.Render
import EnvBundle.Shell.Words

/-! How a reader goes through quoted text. What it takes and where it stands afterwards do not
depend on what follows, so the parts of a word can be read one by one. -/
namespace EnvBundle.Shell

theorem wordFrom_nil_eq_some {mode : Mode} {word : Word} {rest : Text}
    (read : wordFrom mode [] = some (word, rest)) : word = [] ∧ rest = [] := by
  rw [wordFrom] at read
  split at read
  · cases read
    exact ⟨rfl, rfl⟩
  · cases read

/-- A reader that goes on from a character finds the rest of the word behind it. -/
theorem wordFrom_of_go {mode next : Mode} {c : Char} {given word : Word} {t rest : Text}
    (taken : step mode c = .go given next) (read : wordFrom mode (c :: t) = some (word, rest)) :
    ∃ more, wordFrom next t = some (more, rest) ∧ word = given ++ more := by
  rw [wordFrom, taken] at read
  obtain ⟨⟨more, last⟩, later, whole⟩ := Option.map_eq_some_iff.1 read
  cases whole
  exact ⟨more, later, rfl⟩

/-- What a reader that finds the rest of a word does with the next character: it stops at it, or
goes on from it. -/
theorem wordFrom_cons_eq_some {mode : Mode} {c : Char} {word : Word} {t rest : Text}
    (read : wordFrom mode (c :: t) = some (word, rest)) :
    step mode c = .stop ∧ word = [] ∧ rest = c :: t ∨
      ∃ given next more, step mode c = .go given next ∧ wordFrom next t = some (more, rest) ∧
        word = given ++ more := by
  cases does : step mode c with
  | stop =>
      rw [wordFrom, does] at read
      cases read
      exact .inl ⟨rfl, rfl, rfl⟩
  | refuse =>
      rw [wordFrom, does] at read
      cases read
  | go given next =>
      obtain ⟨more, later, whole⟩ := wordFrom_of_go does read
      exact .inr ⟨given, next, more, rfl, later, whole⟩

/-- A reader that stands in `mode` takes all of `t` as `word`, and then stands in `after`. -/
def Reads (mode : Mode) (t : Text) (word : Word) (after : Mode) : Prop :=
  ∀ rest, wordFrom mode (t ++ rest) =
    (wordFrom after rest).map fun (tail, rest) => (word ++ tail, rest)

namespace Reads

theorem nil (mode : Mode) : Reads mode [] [] mode := by
  intro rest
  simp only [List.nil_append]
  exact Option.map_id_apply.symm

theorem append {mode middle after : Mode} {s t : Text} {first last : Word}
    (before : Reads mode s first middle) (behind : Reads middle t last after) :
    Reads mode (s ++ t) (first ++ last) after := by
  intro rest
  rw [List.append_assoc, before, behind, Option.map_map]
  simp only [Function.comp_def, List.append_assoc]

theorem char {mode next : Mode} {c : Char} {read : Word} (h : step mode c = .go read next) :
    Reads mode [c] read next := by
  intro rest
  rw [List.singleton_append, wordFrom, h]

theorem cons {mode next after : Mode} {c : Char} {t : Text} {read word : Word}
    (h : step mode c = .go read next) (behind : Reads next t word after) :
    Reads mode (c :: t) (read ++ word) after := (char h).append behind

theorem sign {mode next after : Mode} {c : Char} {t : Text} {word : Word}
    (h : step mode c = .go [] next) (behind : Reads next t word after) :
    Reads mode (c :: t) word after := cons h behind

theorem single {t : Text} (h : '\'' ∉ t) :
    Reads .single t (t.map fun c => (c, .single)) .single := by
  induction t with
  | nil => exact nil .single
  | cons c t ih =>
      obtain ⟨apart, rest⟩ := not_or.1 (mt List.mem_cons.2 h)
      have taken : step .single c = .go [(c, .single)] .single := if_neg (Ne.symm apart)
      exact cons taken (ih rest)

theorem rawQuote {t : Text} (h : '\'' ∉ t) :
    Reads .bare (rawQuote t) (t.map fun c => (c, .single)) .bare := by
  have closed : Reads .single (t ++ ['\'']) (t.map (fun c => (c, .single)) ++ []) .bare :=
    (single h).append (char rfl)
  rw [List.append_nil] at closed
  exact sign rfl closed

end Reads

/-- An escaped value as it is read: its quotes between double quotes, the rest between single
ones. -/
def escapedWord (value : Text) : Word :=
  value.map fun c => (c, if c = '\'' then .double else .single)

namespace Reads

theorem escapeChar (c : Char) :
    Reads .single (escapeChar c) [(c, if c = '\'' then .double else .single)] .single := by
  by_cases quote : c = '\''
  · subst quote
    have taken : step .double '\'' = .go [('\'', .double)] .double := rfl
    have between : Reads .double ['"', '\''] [] .single := sign rfl (char rfl)
    exact sign rfl (sign rfl (cons taken between))
  · rw [Shell.escapeChar, if_neg quote, if_neg quote]
    exact char (if_neg quote)

theorem flatMap_escapeChar (value : Text) :
    Reads .single (value.flatMap Shell.escapeChar) (escapedWord value) .single := by
  induction value with
  | nil => exact nil .single
  | cons c value ih => exact (escapeChar c).append ih

theorem escape (value : Text) : Reads .bare (escape value) (escapedWord value) .bare := by
  have closed :
      Reads .single (value.flatMap Shell.escapeChar ++ ['\'']) (escapedWord value ++ []) .bare :=
    (flatMap_escapeChar value).append (char rfl)
  rw [List.append_nil] at closed
  exact sign rfl closed

theorem bare {t : Text} (h : ∀ c ∈ t, step .bare c = .go [(c, .bare)] .bare) :
    Reads .bare t (t.map fun c => (c, .bare)) .bare := by
  induction t with
  | nil => exact nil .bare
  | cons c t ih =>
      obtain ⟨taken, rest⟩ := List.forall_mem_cons.1 h
      exact cons taken (ih rest)

end Reads

/-- A text that is one word from its first character to its last. -/
structure Spells (t : Text) (word : Word) : Prop where
  begins : ∃ c rest, t = c :: rest ∧ endsWord c = false ∧ c ≠ '#'
  reads : Reads .bare t word .bare

/-- Nothing, or a character that ends a word. -/
def Ended (rest : Text) : Prop := ∀ c ∈ rest.head?, endsWord c = true

theorem ended_nil : Ended [] := fun _ absent => nomatch absent

theorem ended_cons {c : Char} (h : endsWord c = true) (rest : Text) : Ended (c :: rest) := by
  intro d head
  cases head
  exact h

theorem wordFrom_of_ended {rest : Text} (h : Ended rest) :
    wordFrom .bare rest = some ([], rest) := by
  cases rest with
  | nil => rfl
  | cons c rest =>
      have ends : endsWord c = true := h c rfl
      rw [wordFrom, step, if_pos ends]

theorem Spells.word? {t rest : Text} {word : Word} (h : Spells t word) (ended : Ended rest) :
    word? (t ++ rest) = some (word, rest) := by
  have whole := h.reads rest
  rw [wordFrom_of_ended ended] at whole
  obtain ⟨c, more, rfl, inside, plain⟩ := h.begins
  have starts : ¬(endsWord c = true ∨ c = '#') := by
    rintro (ends | comment)
    · rw [inside] at ends
      cases ends
    · exact plain comment
  rw [List.cons_append, Shell.word?, if_neg starts]
  simpa using whole

theorem wordLines_nil : wordLines [] = some [[]] := by rw [wordLines]

theorem wordLines_blank {c : Char} (h : isBlank c = true) (rest : Text) :
    wordLines (c :: rest) = wordLines rest := by
  have apart : c ≠ '\n' := by
    rintro rfl
    cases h
  rw [wordLines, if_neg apart, if_pos h]

theorem wordLines_newline (rest : Text) :
    wordLines ('\n' :: rest) = (wordLines rest).map ([] :: ·) := by
  rw [wordLines, if_pos rfl]

/-- A text that does not begin with a blank begins with a word, if it has a reading. -/
theorem wordLines_filled {c : Char} (filled : isBlank c = false) (apart : c ≠ '\n') (t : Text) :
    wordLines (c :: t) =
      (word? (c :: t)).bind fun found => (wordLines found.2).map (wordFirst found.1) := by
  rw [wordLines, if_neg apart, if_neg (by simp [filled])]
  split
  · next none => simp only [none, Option.bind_none]
  · next found => simp only [found, Option.bind_some]

theorem Spells.wordLines {t rest : Text} {word : Word} (h : Spells t word) (ended : Ended rest) :
    wordLines (t ++ rest) = (wordLines rest).map (wordFirst word) := by
  have taken := h.word? ended
  obtain ⟨c, more, rfl, inside, _⟩ := h.begins
  obtain ⟨⟨filled, apart⟩, _⟩ : (isBlank c = false ∧ c ≠ '\n') ∧ isOperator c = false := by
    simpa [endsWord] using inside
  rw [List.cons_append] at taken ⊢
  rw [wordLines_filled filled apart, taken]
  rfl

/-- Words with a space between neighbours are one line. -/
theorem wordLines_joinWith {words : List (Text × Word)} (nonempty : words ≠ [])
    (spelled : ∀ w ∈ words, Spells w.1 w.2) :
    wordLines (Text.joinWith ' ' (words.map Prod.fst)) = some [words.map Prod.snd] := by
  induction words with
  | nil => exact absurd rfl nonempty
  | cons w more ih =>
      obtain ⟨first, rest⟩ := List.forall_mem_cons.1 spelled
      cases more with
      | nil =>
          have alone := first.wordLines ended_nil
          rw [List.append_nil, wordLines_nil] at alone
          exact alone
      | cons next more =>
          -- The space ends the first word and belongs to no other.
          have joined := ih (List.cons_ne_nil next more) rest
          change wordLines (w.1 ++ ' ' :: Text.joinWith ' ' ((next :: more).map Prod.fst)) = _
          rw [first.wordLines (ended_cons rfl _), wordLines_blank rfl, joined]
          rfl

end EnvBundle.Shell
