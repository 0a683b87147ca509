import EnvBundle.DotEnv
import EnvBundle.Proofs.Text.Lines
import EnvBundle.Proofs.Text.Trim

/-! What a line of an environment file assigns. -/
namespace EnvBundle.DotEnv

/-- The line without a leading `export`. -/
def unexported (line : Text) : Text := (Split.after? "export ".toList line).getD line

theorem sublist_unexported (line : Text) : (unexported line).Sublist line := by
  rw [unexported]
  cases found : Split.after? "export ".toList line with
  | none => exact List.Sublist.refl line
  | some rest => exact Split.after?_eq_some found ▸ List.sublist_append_right _ rest

theorem unexported_export (t : Text) : unexported ("export ".toList ++ t) = t := by
  rw [unexported, Split.after?_append]
  rfl

/-- A line is taken for an exported one only if its name is: the lead has no equals sign. -/
theorem unexported_of_bare {name : Text} (bare : ¬"export ".toList <+: name) (raw : Text) :
    unexported (name ++ '=' :: raw) = name ++ '=' :: raw := by
  rw [unexported]
  cases found : Split.after? "export ".toList (name ++ '=' :: raw) with
  | none => rfl
  | some rest =>
      exfalso
      rcases List.append_eq_append_iff.1 (Split.after?_eq_some found) with
        ⟨more, lead, tail⟩ | ⟨more, whole, _⟩
      · cases more with
        | nil =>
            rw [List.append_nil] at lead
            exact bare (lead ▸ List.prefix_rfl)
        | cons c more =>
            obtain ⟨rfl, _⟩ := List.cons.inj tail
            have equals : '=' ∈ "export ".toList := lead ▸ by simp
            exact absurd equals (by decide)
      · exact bare ⟨more, whole.symm⟩

/-- What a name has to be for some line to assign to it. -/
structure Assignable (name : Text) : Prop where
  filled : name ≠ []
  trimmed : Text.trim name = name
  free : '=' ∉ name
  oneLine : '\n' ∉ name

/-- A line that shows a name before its first equals sign, once the lead is gone, assigns to it. -/
theorem assignment?_of_assignable {line name raw : Text} (assignable : Assignable name)
    (plain : line.head? ≠ some '#') (whole : unexported line = name ++ '=' :: raw) :
    assignment? line = some (name, value (Text.trim raw)) := by
  have filled : line ≠ [] := by
    rintro rfl
    exact List.append_ne_nil_of_left_ne_nil assignable.filled _ whole.symm
  have cut : Split.first? '=' (unexported line) = some (name, raw) :=
    Split.first?_eq_some_iff.2 ⟨whole, assignable.free⟩
  rw [unexported] at cut
  rw [assignment?, if_neg (not_or.2 ⟨filled, plain⟩), cut]
  dsimp only
  rw [assignable.trimmed]
  exact if_neg assignable.filled

theorem cut_of_assignment? {line name result : Text}
    (found : assignment? line = some (name, result)) :
    line ≠ [] ∧ line.head? ≠ some '#' ∧ name ≠ [] ∧
      ∃ before raw, unexported line = before ++ '=' :: raw ∧ '=' ∉ before ∧
        Text.trim before = name ∧ value (Text.trim raw) = result := by
  rw [assignment?] at found
  split at found
  · cases found
  · next counted =>
    obtain ⟨filled, plain⟩ := not_or.1 counted
    split at found
    · cases found
    · next before raw cut =>
      obtain ⟨whole, free⟩ := Split.first?_eq_some_iff.1 cut
      split at found
      · cases found
      · next named =>
        cases found
        exact ⟨filled, plain, named, before, raw, whole, free, rfl, rfl⟩

/-- What stands on the two sides of the equals sign is taken from the line. -/
theorem sublist_of_cut {line before raw : Text} (whole : unexported line = before ++ '=' :: raw) :
    (Text.trim before).Sublist line ∧ (Text.trim raw).Sublist line := by
  have part : (before ++ '=' :: raw).Sublist line := whole ▸ sublist_unexported line
  constructor
  · exact (Text.sublist_trim before).trans ((List.sublist_append_left before _).trans part)
  · exact (Text.sublist_trim raw).trans <| (List.sublist_cons_self '=' raw).trans <|
      (List.sublist_append_right before _).trans part

theorem assignable_of_assignment? {line : Text} {e : Text × Text} (oneLine : '\n' ∉ line)
    (found : assignment? line = some e) : Assignable e.1 := by
  obtain ⟨_, _, filled, before, raw, whole, free, named, _⟩ := cut_of_assignment? found
  refine ⟨filled, ?_, ?_, ?_⟩
  · rw [← named, Text.trim_trim]
  · rw [← named]
    intro inside
    exact free ((Text.sublist_trim before).subset inside)
  · rw [← named]
    intro inside
    exact oneLine ((sublist_of_cut whole).1.subset inside)

theorem newline_notMem_trim {t line : Text} (read : line ∈ t.lines) : '\n' ∉ Text.trim line :=
  fun inside => Text.notMem_of_mem_lines t line read ((Text.sublist_trim line).subset inside)

theorem assignable_of_mem_entries {t : Text} {e : Text × Text} (member : e ∈ entries t) :
    Assignable e.1 := by
  obtain ⟨line, read, found⟩ := List.mem_filterMap.1 member
  exact assignable_of_assignment? (newline_notMem_trim read) found

/-- A text between two marks is cut from a text that has it there. -/
theorem between?_eq_some_iff {mark : Char} {raw inner : Text} :
    Text.between? mark raw = some inner ↔ raw = mark :: (inner ++ [mark]) := by
  constructor
  · intro found
    cases raw with
    | nil => cases found
    | cons c rest =>
        rw [Text.between?] at found
        split at found
        · next ends =>
          obtain ⟨rfl, last⟩ := ends
          obtain ⟨front, rfl⟩ := List.getLast?_eq_some_iff.1 last
          cases found
          rw [List.dropLast_concat]
        · cases found
  · rintro rfl
    rw [Text.between?, if_pos ⟨rfl, List.getLast?_concat⟩, List.dropLast_concat]

theorem sublist_of_between? {mark : Char} {raw inner : Text}
    (found : Text.between? mark raw = some inner) : inner.Sublist raw := by
  rw [between?_eq_some_iff.1 found]
  exact (List.sublist_append_left inner [mark]).trans (List.sublist_cons_self mark _)

end EnvBundle.DotEnv
