import EnvBundle.Text

/-!
What a POSIX shell reads in a text that consists of plain words. Each character of a word is kept
with the quoting it stood under. Texts that ask for more than words (operators, expansions, file
name patterns, comments) have no reading here. The reader is careful: it also refuses some texts in
which a character that may ask for more happens to ask for nothing.
-/
namespace EnvBundle.Shell

/-- How a character of a word was quoted. -/
inductive Quoting where
  | bare
  | single
  | double
  | escaped
  deriving DecidableEq, Repr

abbrev Word := List (Char × Quoting)

/-- The word with its quoting removed. -/
def Word.value (word : Word) : Text := word.map Prod.fst

def isBlank (c : Char) : Bool := c = ' ' || c = '\t'

def isOperator (c : Char) : Bool := "|&;<>()".toList.contains c

/-- The characters that end an unquoted part. -/
def endsWord (c : Char) : Bool := isBlank c || c = '\n' || isOperator c

/-- The characters that may ask for an expansion or a pattern when they are not quoted. They are
refused wherever they stand, also a tilde inside a word and a bracket that nothing closes, which a
shell takes as they are. -/
def isSpecial (c : Char) : Bool := "$`*?[~".toList.contains c

/-- The characters a backslash quotes between double quotes. -/
def isEscapable (c : Char) : Bool := "$`\"\\".toList.contains c

/-- Where in a word a reader stands: the quotes it is inside of, and whether it has just read a
backslash. -/
inductive Mode where
  | bare
  | bareEscape
  | single
  | double
  | doubleEscape
  deriving DecidableEq, Repr

/-- What a reader does with a character. -/
inductive Step where
  /-- The word is over, and the character is no part of it. -/
  | stop
  /-- The text may be more than words. -/
  | refuse
  | go (read : Word) (next : Mode)
  deriving DecidableEq, Repr

/-- A line feed after a backslash is no part of a word. -/
def step : Mode → Char → Step
  | .bare, c =>
    if endsWord c then .stop
    else if c = '\'' then .go [] .single
    else if c = '"' then .go [] .double
    else if c = '\\' then .go [] .bareEscape
    else if isSpecial c then .refuse
    else .go [(c, .bare)] .bare
  | .bareEscape, c => if c = '\n' then .go [] .bare else .go [(c, .escaped)] .bare
  | .single, c => if c = '\'' then .go [] .bare else .go [(c, .single)] .single
  | .double, c =>
    if c = '"' then .go [] .bare
    else if c = '\\' then .go [] .doubleEscape
    else if c = '$' ∨ c = '`' then .refuse
    else .go [(c, .double)] .double
  | .doubleEscape, c =>
    if c = '\n' then .go [] .double
    else if isEscapable c then .go [(c, .escaped)] .double
    else .go [('\\', .double), (c, .double)] .double

/-- The rest of a word, and what follows it. Quotes have to be closed. -/
def wordFrom (mode : Mode) : Text → Option (Word × Text)
  | [] => if mode = .bare then some ([], []) else none
  | c :: rest =>
    match step mode c with
    | .stop => some ([], c :: rest)
    | .refuse => none
    | .go read next => (wordFrom next rest).map fun (tail, rest) => (read ++ tail, rest)

/-- A word from its first character on. A number sign there begins a comment. -/
def word? : Text → Option (Word × Text)
  | [] => none
  | c :: rest => if endsWord c ∨ c = '#' then none else wordFrom .bare (c :: rest)

theorem wordFrom_length {mode : Mode} {t rest : Text} {word : Word}
    (h : wordFrom mode t = some (word, rest)) : rest.length ≤ t.length := by
  induction t generalizing mode word with
  | nil =>
    simp only [wordFrom] at h
    split at h
    · cases h; exact Nat.le_refl _
    · cases h
  | cons c t ih =>
    simp only [wordFrom] at h
    split at h
    · cases h; exact Nat.le_refl _
    · cases h
    · obtain ⟨⟨tail, last⟩, ht, hw⟩ := Option.map_eq_some_iff.1 h
      cases hw
      exact Nat.le_succ_of_le (ih ht)

theorem step_bare_ne_stop {c : Char} (h : ¬endsWord c) : step .bare c ≠ .stop := by
  rw [step, if_neg h]
  repeat' split
  all_goals exact Step.noConfusion

theorem word?_length {t rest : Text} {word : Word} (h : word? t = some (word, rest)) :
    rest.length < t.length := by
  cases t with
  | nil => cases h
  | cons c t =>
    simp only [word?] at h
    split at h
    · cases h
    · next hc =>
      simp only [wordFrom] at h
      split at h
      · next hs => exact absurd hs (step_bare_ne_stop fun he => hc (.inl he))
      · cases h
      · obtain ⟨⟨tail, last⟩, ht, hw⟩ := Option.map_eq_some_iff.1 h
        cases hw
        exact Nat.lt_succ_of_le (wordFrom_length ht)

/-- Adds a word to the first of the lines that follow it. -/
def wordFirst (word : Word) : List (List Word) → List (List Word)
  | [] => [[word]]
  | line :: more => (word :: line) :: more

/-- The words of each line. The text after the last line feed is a line too. -/
def wordLines (t : Text) : Option (List (List Word)) :=
  match t with
  | [] => some [[]]
  | c :: rest =>
    if c = '\n' then (wordLines rest).map ([] :: ·)
    else if isBlank c then wordLines rest
    else
      match h : word? (c :: rest) with
      | none => none
      | some (word, rest') =>
        have : rest'.length < rest.length + 1 := word?_length h
        (wordLines rest').map (wordFirst word)
  termination_by t.length

/-- The simple commands of a text, one a line. Lines without words are none. -/
def commands? (t : Text) : Option (List (List Word)) :=
  (wordLines t).map (·.filter (· != []))

end EnvBundle.Shell
