import EnvBundle.Text

/-! How the characters of a text make up its lines. -/
namespace EnvBundle.Text

theorem lines_newline (t : Text) : lines ('\n' :: t) = [] :: lines t := rfl

/-- A character that is no part of a line's end is the first of its line. -/
theorem lines_cons {c : Char} {t : Text} (apart : c ≠ '\n')
    (whole : ¬(c = '\r' ∧ t.head? = some '\n')) :
    lines (c :: t) = (c :: (lines t).headD []) :: (lines t).tail := by
  have ending : ∀ rest, c = '\r' → t = '\n' :: rest → False := by
    intro rest carriage newline
    exact whole ⟨carriage, by rw [newline]; rfl⟩
  rw [lines.eq_4 c t apart ending]
  cases lines t <;> rfl

theorem lines_of_notMem {t : Text} (nonempty : t ≠ []) (free : '\n' ∉ t) : lines t = [t] := by
  induction t with
  | nil => exact absurd rfl nonempty
  | cons c t ih =>
      obtain ⟨apart, free⟩ := List.ne_and_not_mem_of_not_mem_cons free
      have whole : ¬(c = '\r' ∧ t.head? = some '\n') := by
        rintro ⟨_, next⟩
        exact free (List.mem_of_head? next)
      rw [lines_cons (Ne.symm apart) whole]
      cases t with
      | nil => rfl
      | cons d t =>
          rw [ih (List.cons_ne_nil d t) free]
          rfl

/-- What has no line feed in it is read as the beginning of a line. -/
theorem lines_append_of_notMem {t : Text} {c : Char} (free : '\n' ∉ t) (apart : c ≠ '\n')
    (rest : Text) :
    lines (t ++ c :: rest) = (t ++ (lines (c :: rest)).headD []) :: (lines (c :: rest)).tail := by
  induction t with
  | nil =>
      by_cases ending : c = '\r' ∧ rest.head? = some '\n'
      · obtain ⟨rfl, next⟩ := ending
        obtain ⟨more, rfl⟩ := List.head?_eq_some_iff.1 next
        rfl
      · rw [List.nil_append, lines_cons apart ending]
        rfl
  | cons d t ih =>
      obtain ⟨first, free⟩ := List.ne_and_not_mem_of_not_mem_cons free
      have whole : ¬(d = '\r' ∧ (t ++ c :: rest).head? = some '\n') := by
        rintro ⟨_, next⟩
        cases t with
        | nil => exact apart (Option.some.inj next)
        | cons e t => exact free (Option.some.inj next ▸ List.mem_cons_self)
      rw [List.cons_append, lines_cons (Ne.symm first) whole, ih free]
      rfl

/-- A line that does not end in a carriage return is read as it stands. -/
theorem lines_append {t : Text} {last : Char} (free : '\n' ∉ t) (apart : last ≠ '\n')
    (plain : last ≠ '\r') (rest : Text) :
    lines (t ++ last :: '\n' :: rest) = (t ++ [last]) :: lines rest := by
  rw [lines_append_of_notMem free apart, lines_cons apart fun whole => plain whole.1,
    lines_newline]
  rfl

theorem lines_append_carriage {t : Text} (free : '\n' ∉ t) (rest : Text) :
    lines (t ++ '\r' :: '\n' :: rest) = t :: lines rest := by
  rw [lines_append_of_notMem free (by decide)]
  exact congrArg (· :: lines rest) (List.append_nil t)

/-- A text is a line, or a line that is followed by a line feed and a text. -/
@[elab_as_elim]
theorem lineInduction {motive : Text → Prop} (last : ∀ line, '\n' ∉ line → motive line)
    (more : ∀ line rest, '\n' ∉ line → motive rest → motive (line ++ '\n' :: rest)) (t : Text) :
    motive t := by
  have behind : ∀ front : Text, '\n' ∉ front → motive (front ++ t) := by
    induction t with
    | nil =>
        intro front free
        rw [List.append_nil]
        exact last front free
    | cons c t ih =>
        intro front free
        by_cases newline : c = '\n'
        · rw [newline]
          exact more front t free (ih [] List.not_mem_nil)
        · rw [List.append_cons]
          apply ih
          simp [free, Ne.symm newline]
  exact behind [] List.not_mem_nil

theorem notMem_of_mem_lines (t : Text) : ∀ line ∈ lines t, '\n' ∉ line := by
  fun_induction lines t with
  | case1 => nofun
  | case2 rest ih => exact List.forall_mem_cons.2 ⟨List.not_mem_nil, ih⟩
  | case3 rest ih => exact List.forall_mem_cons.2 ⟨List.not_mem_nil, ih⟩
  | case4 c rest apart _ read ih =>
      exact List.forall_mem_singleton.2 fun inside => apart (List.mem_singleton.1 inside).symm
  | case5 c rest apart _ line more read ih =>
      rw [read] at ih
      obtain ⟨first, later⟩ := List.forall_mem_cons.1 ih
      refine List.forall_mem_cons.2 ⟨?_, later⟩
      exact List.not_mem_cons_of_ne_of_not_mem (Ne.symm apart) first

/-- The lines are the text without what ends them. -/
theorem sublist_flatten_lines (t : Text) : t.lines.flatten.Sublist t := by
  fun_induction lines t with
  | case1 => exact List.Sublist.refl []
  | case2 rest ih => exact ih.cons '\n'
  | case3 rest ih => exact (ih.cons '\n').cons '\r'
  | case4 c rest _ _ read ih =>
      rw [read] at ih
      exact ih.cons_cons c
  | case5 c rest _ _ line more read ih =>
      rw [read] at ih
      exact ih.cons_cons c

end EnvBundle.Text
