import EnvBundle.Proofs.Text.Lines
import EnvBundle.Proofs.Text.Trim

/-!
The lines of a text that say something. Neither a carriage return at the end of a line nor a missing
last line feed makes a difference to them, so the lines of two texts joined by a line feed are those
of the one and then those of the other.
-/
namespace EnvBundle.Text

/-- The lines that are not blank, without the blanks at their ends. -/
def filledLines (t : Text) : List Text := (t.lines.map trim).filter (· != [])

/-- What a line loses to its line feed, trimming would take from it as well. -/
theorem exists_lines_cut {line : Text} (free : '\n' ∉ line) (rest : Text) :
    ∃ shown, trim shown = trim line ∧ lines (line ++ '\n' :: rest) = shown :: lines rest := by
  rcases List.eq_nil_or_concat line with rfl | ⟨front, last, whole⟩
  · exact ⟨[], rfl, lines_newline rest⟩
  · rw [List.concat_eq_append] at whole
    subst whole
    have free' : '\n' ∉ front := fun inside => free (List.mem_append_left _ inside)
    rw [List.append_assoc, List.singleton_append]
    by_cases carriage : last = '\r'
    · subst carriage
      refine ⟨front, ?_, lines_append_carriage free' rest⟩
      exact (trim_append_of_blank (List.forall_mem_singleton.2 rfl) front).symm
    · have apart : last ≠ '\n' := by
        rintro rfl
        exact free (List.mem_append_right _ List.mem_cons_self)
      exact ⟨front ++ [last], rfl, lines_append free' apart carriage rest⟩

theorem filledLines_of_notMem {line : Text} (free : '\n' ∉ line) :
    filledLines line = [trim line].filter (· != []) := by
  cases line with
  | nil => rfl
  | cons c line =>
      rw [filledLines, lines_of_notMem (List.cons_ne_nil c line) free, List.map_singleton]

theorem filledLines_cut {line : Text} (free : '\n' ∉ line) (rest : Text) :
    filledLines (line ++ '\n' :: rest) = filledLines line ++ filledLines rest := by
  obtain ⟨shown, same, cut⟩ := exists_lines_cut free rest
  rw [filledLines_of_notMem free, filledLines, cut, List.map_cons, same, filledLines,
    ← List.filter_append, List.singleton_append]

theorem filledLines_append (s t : Text) :
    filledLines (s ++ '\n' :: t) = filledLines s ++ filledLines t := by
  induction s using lineInduction with
  | last line free => exact filledLines_cut free t
  | more line rest free ih =>
      rw [List.append_assoc, List.cons_append, filledLines_cut free, ih, filledLines_cut free,
        List.append_assoc]

theorem filledLines_joinWith (texts : List Text) :
    filledLines (joinWith '\n' texts) = texts.flatMap filledLines := by
  induction texts with
  | nil => rfl
  | cons t more ih =>
      cases more with
      | nil => exact (List.append_nil _).symm
      | cons next more =>
          have joined : joinWith '\n' (t :: next :: more) =
              t ++ '\n' :: joinWith '\n' (next :: more) := rfl
          rw [joined, filledLines_append, ih]
          exact List.flatMap_cons.symm

theorem filledLines_cons_of_blank {c : Char} (blank : isBlank c = true) (t : Text) :
    filledLines (c :: t) = filledLines t := by
  by_cases newline : c = '\n'
  · rw [newline]
    exact filledLines_append [] t
  · have of_line : ∀ line, '\n' ∉ line → filledLines (c :: line) = filledLines line := by
      intro line free
      have free' : '\n' ∉ c :: line := List.not_mem_cons_of_ne_of_not_mem (Ne.symm newline) free
      have same : trim (c :: line) = trim line := trim_cons_of_blank blank line
      rw [filledLines_of_notMem free, filledLines_of_notMem free', same]
    induction t using lineInduction with
    | last line free => exact of_line line free
    | more line rest free _ =>
        have free' : '\n' ∉ c :: line := List.not_mem_cons_of_ne_of_not_mem (Ne.symm newline) free
        rw [← List.cons_append, filledLines_cut free', of_line line free, filledLines_cut free]

theorem filledLines_concat_of_blank {c : Char} (blank : isBlank c = true) (t : Text) :
    filledLines (t ++ [c]) = filledLines t := by
  by_cases newline : c = '\n'
  · rw [newline, filledLines_append]
    exact List.append_nil _
  · induction t using lineInduction with
    | last line free =>
        have free' : '\n' ∉ line ++ [c] := by simp [free, Ne.symm newline]
        rw [filledLines_of_notMem free, filledLines_of_notMem free',
          trim_append_of_blank (by simpa using blank)]
    | more line rest free ih =>
        rw [List.append_assoc, List.cons_append, filledLines_cut free, ih, filledLines_cut free]

/-- Blanks before and behind a text add no lines that say something, whatever line ends are among
them. -/
theorem filledLines_between_blanks {before after : Text}
    (blank : ∀ c ∈ before, isBlank c = true) (blank' : ∀ c ∈ after, isBlank c = true) (t : Text) :
    filledLines (before ++ t ++ after) = filledLines t := by
  have front : filledLines (before ++ t) = filledLines t := by
    induction before with
    | nil => rfl
    | cons c before ih =>
        obtain ⟨first, blank⟩ := List.forall_mem_cons.1 blank
        rw [List.cons_append, filledLines_cons_of_blank first, ih blank]
  rw [← front]
  generalize before ++ t = s
  induction after generalizing s with
  | nil => rw [List.append_nil]
  | cons c after ih =>
      obtain ⟨first, blank'⟩ := List.forall_mem_cons.1 blank'
      rw [List.append_cons, ih blank', filledLines_concat_of_blank first]

end EnvBundle.Text
