import EnvBundle.Proofs.DotEnv.Written

/-!
What becomes of variables that are written as `export` lines and read as an environment file. The
writer puts quotes around a value and the reader takes the outermost ones away, and neither looks
at those inside. So every value comes back, except that a line feed in it ends its line too soon.
-/
namespace EnvBundle.DotEnv

open Shell (exportLine rawQuote render_pamCompatible_single render_pamCompatible_cons)

/-- What stands before the value in an `export` line. -/
def opening (name : Text) : Text := "export ".toList ++ name ++ ['=', '\'']

theorem opening_append (name rest : Text) :
    opening name ++ rest = "export ".toList ++ (name ++ '=' :: '\'' :: rest) := by
  unfold opening
  rw [List.append_assoc, List.append_assoc]
  rfl

theorem exportLine_eq (name raw : Text) :
    exportLine name raw = opening name ++ (raw ++ ['\'']) := by
  rw [opening_append]
  unfold exportLine rawQuote
  rw [List.append_assoc]
  rfl

theorem newline_notMem_opening {name : Text} (sound : Variable.Sound name []) :
    '\n' ∉ opening name :=
  List.not_mem_append (List.not_mem_append (by decide) (sound.ne_blank rfl)) (by decide)

theorem opening_eq_cons (name rest : Text) :
    opening name ++ rest = 'e' :: (("xport ".toList ++ name ++ ['=']) ++ '\'' :: rest) := by
  rw [opening_append, List.append_assoc, List.append_assoc]
  rfl

theorem trim_opening (name rest : Text) :
    Text.trim (opening name ++ rest) = opening name ++ Text.trimEnd rest := by
  rw [opening_eq_cons, opening_eq_cons, Text.trim_cons (by decide), Text.trimEnd_append (by decide)]

/-- A line with a proper name assigns, whatever stands behind its equals sign. -/
theorem assignment?_opening {name : Text} (sound : Variable.Sound name []) (rest : Text) :
    assignment? (opening name ++ rest) = some (name, value (Text.trim ('\'' :: rest))) := by
  have plain : (opening name ++ rest).head? ≠ some '#' := by
    rw [opening_eq_cons, List.head?_cons]
    decide
  have bare : unexported (opening name ++ rest) = name ++ '=' :: '\'' :: rest := by
    rw [opening_append, unexported_export]
  exact assignment?_of_assignable (assignable_of_sound sound) plain bare

theorem assignment?_exportLine {name : Text} (sound : Variable.Sound name []) (raw : Text) :
    assignment? (Text.trim (exportLine name raw)) = some (name, raw) := by
  have ends : Text.trimEnd (raw ++ ['\'']) = raw ++ ['\''] := Text.trimEnd_append (by decide) raw []
  have kept : Text.trim (rawQuote raw) = rawQuote raw := Text.trim_of_ends (by decide) (by decide) raw
  rw [exportLine_eq, trim_opening, ends, assignment?_opening sound]
  change some (name, value (Text.trim (rawQuote raw))) = _
  rw [kept, value_rawQuote]

theorem sublist_value_quote (rest : Text) : (value ('\'' :: rest)).Sublist ('\'' :: rest) := by
  rw [value_quote]
  cases found : Text.between? '\'' ('\'' :: rest) with
  | none => exact List.Sublist.refl _
  | some inner => exact sublist_of_between? found

theorem entries_opening_line {name line : Text} (sound : Variable.Sound name [])
    (free : '\n' ∉ line) :
    ∃ first, '\n' ∉ first ∧ entries (opening name ++ line) = [(name, first)] := by
  have whole : '\n' ∉ opening name ++ line :=
    List.not_mem_append (newline_notMem_opening sound) free
  refine ⟨value (Text.trim ('\'' :: Text.trimEnd line)), ?_, ?_⟩
  · intro inside
    rw [Text.trim_cons (by decide)] at inside
    have within := (sublist_value_quote _).subset inside
    rcases List.mem_cons.1 within with quote | inside
    · cases quote
    · exact free ((Text.sublist_trimEnd _).subset ((Text.sublist_trimEnd _).subset inside))
  · rw [entries_of_notMem whole, trim_opening, assignment?_opening sound]
    rfl

/-- A text that begins as an `export` line gives the name a value from this line first. -/
theorem entries_opening {name : Text} (sound : Variable.Sound name []) (rest : Text) :
    ∃ first later, '\n' ∉ first ∧ entries (opening name ++ rest) = (name, first) :: later := by
  induction rest using Text.lineInduction with
  | last line free =>
      obtain ⟨first, oneLine, read⟩ := entries_opening_line sound free
      exact ⟨first, [], oneLine, read⟩
  | more line rest free _ =>
      obtain ⟨first, oneLine, read⟩ := entries_opening_line sound free
      refine ⟨first, entries rest, oneLine, ?_⟩
      rw [← List.append_assoc, entries_append, read, List.singleton_append]

/-- The first of the variables opens the text. -/
theorem render_pamCompatible_opens (e : Text × Text) (entries : List (Text × Text)) :
    ∃ rest, Shell.render (e :: entries) .pamCompatible = opening e.1 ++ rest := by
  cases entries with
  | nil => exact ⟨_, exportLine_eq e.1 e.2⟩
  | cons f more =>
      rw [render_pamCompatible_cons, exportLine_eq, List.append_assoc]
      exact ⟨_, rfl⟩

/-- A value of one line is read back, and what follows it is read by itself. -/
theorem entries_render_pamCompatible {e : Text × Text} (sound : Variable.Sound e.1 [])
    (oneLine : '\n' ∉ e.2) (entries : List (Text × Text)) :
    DotEnv.entries (Shell.render (e :: entries) .pamCompatible) =
      e :: DotEnv.entries (Shell.render entries .pamCompatible) := by
  have free : '\n' ∉ exportLine e.1 e.2 := by
    rw [exportLine_eq]
    exact List.not_mem_append (newline_notMem_opening sound)
      (List.not_mem_append oneLine (by decide))
  have line : DotEnv.entries (exportLine e.1 e.2) = [e] := by
    rw [entries_of_notMem free, assignment?_exportLine sound]
    rfl
  cases entries with
  | nil =>
      rw [render_pamCompatible_single, line]
      rfl
  | cons f more =>
      rw [render_pamCompatible_cons, entries_append, line]
      rfl

/-- Variables with proper names that are written as `export` lines are read back from an
environment file, in order and with all the quotes in their values, exactly if every value is of
one line. -/
theorem exported_lines_read_back_iff {entries : List (Text × Text)}
    (named : ∀ e ∈ entries, Variable.checkName e.1 = .ok ()) :
    DotEnv.entries (Shell.render entries .pamCompatible) = entries ↔
      ∀ e ∈ entries, '\n' ∉ e.2 := by
  constructor
  · intro same
    induction entries with
    | nil => nofun
    | cons e entries ih =>
        obtain ⟨first, named⟩ := List.forall_mem_cons.1 named
        have sound := Variable.sound_of_checkName first
        -- The first value that is read is of one line, so the value written is.
        have oneLine : '\n' ∉ e.2 := by
          obtain ⟨rest, opens⟩ := render_pamCompatible_opens e entries
          obtain ⟨value, later, free, read⟩ := entries_opening sound rest
          rw [opens, read] at same
          rw [← (List.cons.inj same).1]
          exact free
        rw [entries_render_pamCompatible sound oneLine] at same
        exact List.forall_mem_cons.2 ⟨oneLine, ih named (List.cons.inj same).2⟩
  · intro oneLine
    induction entries with
    | nil => rfl
    | cons e entries ih =>
        obtain ⟨first, named⟩ := List.forall_mem_cons.1 named
        obtain ⟨line, oneLine⟩ := List.forall_mem_cons.1 oneLine
        rw [entries_render_pamCompatible (Variable.sound_of_checkName first) line,
          ih named oneLine]

/-- A name that would begin a comment, and values with quotes, escapes and blanks in them. -/
def awkwardEntries : List (Text × Text) :=
  [("#A".toList, " it's \"\\n\" #=' ".toList), (['B'], "'\r".toList), (['B'], [])]

theorem exported_lines_read_back_awkward :
    DotEnv.entries (Shell.render awkwardEntries .pamCompatible) = awkwardEntries ∧
      DotEnv.entries (Shell.render [(['A'], "1\n2".toList)] .pamCompatible) ≠
        [(['A'], "1\n2".toList)] := by
  constructor
  · exact (exported_lines_read_back_iff (by decide)).2 (by decide)
  · exact mt (exported_lines_read_back_iff (by decide)).1 (by decide)

end EnvBundle.DotEnv
