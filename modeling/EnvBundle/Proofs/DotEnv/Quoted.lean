import EnvBundle.Proofs.DotEnv.Lines

/-!
How any value at all is put into an environment file: between double quotes, with escapes for what
the reader would take otherwise. The names that go with it are those that some line can assign, less
the ones that would make the line a comment or an exported one.
-/
namespace EnvBundle.DotEnv

def escapedChar : Char → Text
  | '\\' => ['\\', '\\']
  | '"' => ['\\', '"']
  | '\n' => ['\\', 'n']
  | '\r' => ['\\', 'r']
  | c => [c]

/-- A value with escapes for backslashes, double quotes and line ends. -/
def escaped (value : Text) : Text := value.flatMap escapedChar

def doubleQuoted (value : Text) : Text := '"' :: escaped value ++ ['"']

/-- A line that assigns a value, whatever the value is. -/
def assignment (name value : Text) : Text := name ++ '=' :: doubleQuoted value

theorem unescape_cons {c : Char} (plain : c ≠ '\\') (rest : Text) :
    unescape (c :: rest) = c :: unescape rest :=
  unescape.eq_7 c rest (fun _ begun _ => plain begun) (fun _ begun _ => plain begun)
    (fun _ begun _ => plain begun) (fun _ begun _ => plain begun) fun _ _ begun _ => plain begun

/-- An escape is read as its character, no matter what follows: no two escapes run together. -/
theorem unescape_escapedChar_append (c : Char) (rest : Text) :
    unescape (escapedChar c ++ rest) = c :: unescape rest := by
  unfold escapedChar
  split
  · rfl
  · rfl
  · rfl
  · rfl
  · next plain _ _ _ =>
    exact unescape_cons plain rest

theorem unescape_escaped (value : Text) : unescape (escaped value) = value := by
  induction value with
  | nil => rfl
  | cons c value ih =>
      rw [escaped, List.flatMap_cons, ← escaped, unescape_escapedChar_append, ih]

theorem newline_notMem_escaped (value : Text) : '\n' ∉ escaped value := by
  intro inside
  obtain ⟨c, _, written⟩ := List.mem_flatMap.1 inside
  unfold escapedChar at written
  split at written
  · exact absurd written (by decide)
  · exact absurd written (by decide)
  · exact absurd written (by decide)
  · exact absurd written (by decide)
  · next apart _ =>
    exact apart (List.mem_singleton.1 written).symm

theorem value_doubleQuoted (raw : Text) : value (doubleQuoted raw) = raw := by
  have inner : Text.between? '"' (doubleQuoted raw) = some (escaped raw) :=
    between?_eq_some_iff.2 rfl
  rw [value, inner]
  exact unescape_escaped raw

theorem newline_notMem_assignment {name : Text} (oneLine : '\n' ∉ name) (raw : Text) :
    '\n' ∉ assignment name raw := by
  simp [assignment, doubleQuoted, oneLine, newline_notMem_escaped]

/-- The closing quote and what the line begins with keep all that is between them. -/
theorem trim_cons_doubleQuoted {c : Char} (solid : Text.isBlank c = false) (front raw : Text) :
    Text.trim (c :: (front ++ doubleQuoted raw)) = c :: (front ++ doubleQuoted raw) := by
  have ends := Text.trim_of_ends solid (show Text.isBlank '"' = false by decide)
    (front ++ '"' :: escaped raw)
  have whole : c :: (front ++ '"' :: escaped raw) ++ ['"'] = c :: (front ++ doubleQuoted raw) := by
    rw [doubleQuoted, List.cons_append, List.append_assoc]
  rw [← whole]
  exact ends

theorem trim_doubleQuoted (raw : Text) : Text.trim (doubleQuoted raw) = doubleQuoted raw :=
  Text.trim_of_ends (by decide) (by decide) (escaped raw)

section

variable {name : Text} (assignable : Assignable name) (raw : Text)
include assignable

theorem trim_assignment : Text.trim (assignment name raw) = assignment name raw := by
  obtain ⟨c, rest, rfl⟩ := List.exists_cons_of_ne_nil assignable.filled
  have kept := trim_cons_doubleQuoted (Text.solid_of_trim_eq assignable.trimmed) (rest ++ ['=']) raw
  rw [List.append_assoc] at kept
  exact kept

theorem head?_assignment : (assignment name raw).head? = name.head? := by
  obtain ⟨c, rest, rfl⟩ := List.exists_cons_of_ne_nil assignable.filled
  rfl

/-- It is enough that the line shows the name and the quoted value once the lead is gone. -/
theorem entries_of_unexported {line : Text} (oneLine : '\n' ∉ line) (kept : Text.trim line = line)
    (plain : line.head? ≠ some '#') (whole : unexported line = assignment name raw) :
    entries line = [(name, raw)] := by
  rw [entries_of_notMem oneLine, kept, assignment?_of_assignable assignable plain whole,
    trim_doubleQuoted, value_doubleQuoted]
  rfl

theorem entries_assignment (plain : name.head? ≠ some '#') (bare : ¬"export ".toList <+: name) :
    entries (assignment name raw) = [(name, raw)] := by
  have first : (assignment name raw).head? ≠ some '#' := by
    rw [head?_assignment assignable]
    exact plain
  exact entries_of_unexported assignable raw (newline_notMem_assignment assignable.oneLine raw)
    (trim_assignment assignable raw) first (unexported_of_bare bare _)

/-- Behind the lead any name goes that some line can assign. -/
theorem entries_export_assignment :
    entries ("export ".toList ++ assignment name raw) = [(name, raw)] := by
  have oneLine : '\n' ∉ "export ".toList ++ assignment name raw :=
    List.not_mem_append (by decide) (newline_notMem_assignment assignable.oneLine raw)
  have kept := trim_cons_doubleQuoted (show Text.isBlank 'e' = false by decide)
    ("xport ".toList ++ name ++ ['=']) raw
  rw [List.append_assoc, List.append_assoc] at kept
  have plain : ("export ".toList ++ assignment name raw).head? ≠ some '#' := by
    change some 'e' ≠ some '#'
    decide
  exact entries_of_unexported assignable raw oneLine kept plain (unexported_export _)

theorem plain_of_entries_assignment
    (read : entries (assignment name raw) = [(name, raw)]) :
    name.head? ≠ some '#' ∧ ¬"export ".toList <+: name := by
  rw [entries_of_notMem (newline_notMem_assignment assignable.oneLine raw),
    trim_assignment assignable] at read
  have found : assignment? (assignment name raw) = some (name, raw) := by
    cases found : assignment? (assignment name raw) with
    | none =>
        rw [found] at read
        cases read
    | some e =>
        rw [found] at read
        exact congrArg some (List.cons.inj read).1
  obtain ⟨_, plain, _, before, rest, whole, free, named, _⟩ := cut_of_assignment? found
  rw [head?_assignment assignable] at plain
  refine ⟨plain, ?_⟩
  rintro ⟨more, rfl⟩
  -- The lead is taken away, and no name that is longer than the rest is left.
  have free' : '=' ∉ more := fun inside => assignable.free (List.mem_append_right _ inside)
  rw [assignment, List.append_assoc, unexported_export] at whole
  have cut := congrArg (Split.first? '=') whole
  rw [Split.first?_append _ free', Split.first?_append _ free] at cut
  have same : more = before := congrArg Prod.fst (Option.some.inj cut)
  have shorter := (Text.sublist_trim before).length_le
  rw [named, same, List.length_append] at shorter
  have lead : "export ".toList.length = 7 := rfl
  omega

end

/-- Every value can be written into an environment file and is read back as it was, with any blanks
and line ends around its line. With `export` before it this goes for exactly those names that a line
can assign at all; without it, for those among them that do not look like a comment or like an
exported line themselves. -/
theorem quoted_value_reads_back_iff (name raw : Text) {before after : Text}
    (blank : ∀ c ∈ before, Text.isBlank c = true) (blank' : ∀ c ∈ after, Text.isBlank c = true) :
    (entries (before ++ assignment name raw ++ after) = [(name, raw)] ↔
      Assignable name ∧ name.head? ≠ some '#' ∧ ¬"export ".toList <+: name) ∧
      (entries (before ++ ("export ".toList ++ assignment name raw) ++ after) = [(name, raw)] ↔
        Assignable name) := by
  rw [entries_between_blanks blank blank', entries_between_blanks blank blank']
  have assignable : ∀ t, entries t = [(name, raw)] → Assignable name := by
    intro t read
    exact assignable_of_mem_entries (e := (name, raw)) (read ▸ List.mem_cons_self)
  constructor
  · constructor
    · intro read
      exact ⟨assignable _ read, plain_of_entries_assignment (assignable _ read) raw read⟩
    · rintro ⟨assignable, plain, bare⟩
      exact entries_assignment assignable raw plain bare
  · constructor
    · exact assignable _
    · intro assignable
      exact entries_export_assignment assignable raw

/-- A value of quotes, escapes and line ends, with blank lines around it; and a name that only an
exported line can assign. -/
theorem quoted_value_reads_back_escapes :
    (∀ c ∈ "\n \t".toList, Text.isBlank c = true) ∧
      (∀ c ∈ " \r\n\n".toList, Text.isBlank c = true) ∧
      entries ("\n \t".toList ++ assignment "A B".toList "\"\\n\r\n'\\\"\\".toList ++
        " \r\n\n".toList) = [("A B".toList, "\"\\n\r\n'\\\"\\".toList)] ∧
      entries ("export ".toList ++ assignment "#A".toList ['"']) = [("#A".toList, ['"'])] ∧
      entries (assignment "#A".toList ['"']) ≠ [("#A".toList, ['"'])] := by
  have blank : ∀ c ∈ "\n \t".toList, Text.isBlank c = true := List.all_eq_true.1 rfl
  have blank' : ∀ c ∈ " \r\n\n".toList, Text.isBlank c = true := List.all_eq_true.1 rfl
  have spaced : Assignable "A B".toList := ⟨by decide, by decide, by decide, by decide⟩
  have comment : Assignable "#A".toList := ⟨by decide, by decide, by decide, by decide⟩
  have alone := quoted_value_reads_back_iff "#A".toList ['"'] (List.forall_mem_nil _)
    (List.forall_mem_nil _)
  simp only [List.nil_append, List.append_nil] at alone
  refine ⟨blank, blank', ?_, alone.2.2 comment, ?_⟩
  · exact (quoted_value_reads_back_iff "A B".toList _ blank blank').1.2
      ⟨spaced, by decide, by decide⟩
  · intro read
    exact (alone.1.1 read).2.1 rfl

end EnvBundle.DotEnv
