import EnvBundle.Proofs.Fetch.Failure

/-!
What a backend tells of its progress. No line without the error mark makes a difference to the reason
that the last line with one gives, wherever it stands.
-/
namespace EnvBundle.Fetch

theorem bareReason_injective : Function.Injective bareReason := by
  intro ending ending' same
  cases ending with
  | exited status =>
      cases ending' with
      | exited status' =>
          rw [bareReason_exited, bareReason_exited] at same
          have number := List.append_cancel_left same
          rw [Text.ofNat_injective number]
      | killed => cases congrArg (·[14]?) same
  | killed =>
      cases ending' with
      | exited status' => cases congrArg (·[14]?) same
      | killed => rfl

/-- The second text has the lines of the first and further ones, none of them with the error mark,
before, between and behind those. They end in a line feed, with a carriage return before it or
without; at the very end it can be missing, and a line of the first text that was the last one
without a line feed gets one if there is more behind it. -/
inductive Interspersed : Text → Text → Prop
  | same (t : Text) : Interspersed t t
  | kept (front : Text) {t t' : Text} (more : Interspersed t t') :
      Interspersed (front ++ '\n' :: t) (front ++ '\n' :: t')
  | added {line t t' : Text} (free : '\n' ∉ line) (plain : ¬Marked (Text.trim line))
      (more : Interspersed t t') : Interspersed t (line ++ '\n' :: t')
  | behind (front : Text) {t' : Text} (more : Interspersed [] t') :
      Interspersed front (front ++ '\n' :: t')
  | unended {line : Text} (free : '\n' ∉ line) (plain : ¬Marked (Text.trim line)) :
      Interspersed [] line

theorem markedLines_append (s t : Text) :
    markedLines (s ++ '\n' :: t) = markedLines s ++ markedLines t := by
  rw [← filter_spokenLines, ← filter_spokenLines, ← filter_spokenLines, ← List.filter_append]
  exact congrArg (List.filter (Marked ·)) (Text.filledLines_append s t)

theorem markedLines_of_plain {line : Text} (free : '\n' ∉ line)
    (plain : ¬Marked (Text.trim line)) : markedLines line = [] := by
  have alone : spokenLines line = [Text.trim line].filter (· != []) :=
    Text.filledLines_of_notMem free
  rw [← filter_spokenLines, alone, List.filter_eq_nil_iff]
  intro said member
  rw [List.mem_singleton.1 (List.mem_filter.1 member).1]
  simpa using plain

theorem markedLines_interspersed {t t' : Text} (more : Interspersed t t') :
    markedLines t' = markedLines t := by
  induction more with
  | same t => rfl
  | kept front _ ih => rw [markedLines_append, markedLines_append, ih]
  | added free plain _ ih =>
      rw [markedLines_append, markedLines_of_plain free plain, List.nil_append, ih]
  | behind front _ ih =>
      rw [markedLines_append, ih]
      exact List.append_nil _
  | unended free plain =>
      rw [markedLines_of_plain free plain]
      rfl

theorem lastLine_interspersed {t t' said : Text} (more : Interspersed t t') :
    LastLine Marked t' said ↔ LastLine Marked t said := by
  rw [← getLast?_markedLines_eq_some_iff, markedLines_interspersed more,
    getLast?_markedLines_eq_some_iff]

/-- If some line has the error mark, the reason is what the last such line says behind one mark, and
remains so whatever other lines are put between. If none has it, the reason is the last line that is
not blank. Only if all lines are blank it depends on how the backend ended, and then each way to end
has its own. -/
theorem last_marked_line_decides (t : Text) :
    ((∃ line ∈ t.lines, Marked (Text.trim line)) →
      ∃ rest, LastLine Marked t (errorMark ++ rest) ∧
        ∀ t', Interspersed t t' → ∀ ending, failureReason t' ending = Text.trim rest) ∧
    ((∀ line ∈ t.lines, ¬Marked (Text.trim line)) →
      (∃ line ∈ t.lines, Text.trim line ≠ []) →
        ∃ said, LastLine (· ≠ []) t said ∧ ∀ ending, failureReason t ending = said) ∧
    ∀ ending ending', failureReason t ending = failureReason t ending' ↔
      (∃ line ∈ t.lines, Text.trim line ≠ []) ∨ ending = ending' := by
  refine ⟨?_, ?_, fun ending ending' => ?_⟩
  · intro marked
    obtain ⟨said, last⟩ := exists_lastLine marked
    obtain ⟨rest, rfl⟩ : Marked said := last.such
    exact ⟨rest, last, fun t' more => failureReason_of_marked ((lastLine_interspersed more).2 last)⟩
  · intro plain spoken
    obtain ⟨said, last⟩ := @exists_lastLine t (· ≠ []) _ spoken
    exact ⟨said, last, failureReason_of_plain plain last⟩
  · rcases marked_or_plain_or_silent t with ⟨rest, last⟩ | ⟨plain, said, last⟩ | silent
    · obtain ⟨line, member, trimmed⟩ := last.exists_line
      have spoken : Text.trim line ≠ [] := by
        rw [trimmed]
        exact List.append_ne_nil_of_left_ne_nil (by decide) rest
      rw [failureReason_of_marked last, failureReason_of_marked last]
      exact iff_of_true rfl (.inl ⟨line, member, spoken⟩)
    · obtain ⟨line, member, trimmed⟩ := last.exists_line
      rw [failureReason_of_plain plain last, failureReason_of_plain plain last]
      exact iff_of_true rfl (.inl ⟨line, member, trimmed ▸ last.such⟩)
    · have nothing : ¬∃ line ∈ t.lines, Text.trim line ≠ [] := by
        rintro ⟨line, member, spoken⟩
        exact spoken (silent line member)
      rw [failureReason_of_silent silent, failureReason_of_silent silent, or_iff_right nothing]
      exact bareReason_injective.eq_iff

/-- Progress before, between and behind, with either line end, and more than one mark in a line; and
lines without a mark, the last of them blank. -/
theorem last_marked_line_decides_noisy :
    let t : Text := "error: a\r\n error: error: b \nbye".toList
    let t' : Text := "go\r\nerror: a\r\n\n error: error: b \nbye\nerror".toList
    let quiet : Text := "one\n two \r\n\n".toList
    ((∃ line ∈ t.lines, Marked (Text.trim line)) ∧ Interspersed t t' ∧
      failureReason t' (.exited 2) = "error: b".toList ∧
      failureReason t .killed = "error: b".toList) ∧
    (∀ line ∈ quiet.lines, ¬Marked (Text.trim line)) ∧
      (∃ line ∈ quiet.lines, Text.trim line ≠ []) ∧ failureReason quiet .killed = "two".toList := by
  intro t t' quiet
  have marked : ∃ line ∈ t.lines, Marked (Text.trim line) := by decide
  have more : Interspersed t t' := by
    have noise : Interspersed [] "error".toList := .unended (by decide) (by decide)
    have bye := Interspersed.behind "bye".toList noise
    have last := Interspersed.kept " error: error: b ".toList bye
    have empty := Interspersed.added (show '\n' ∉ [] by decide) (by decide) last
    have first := Interspersed.kept "error: a\r".toList empty
    exact .added (show '\n' ∉ "go\r".toList by decide) (by decide) first
  obtain ⟨rest, last, reason⟩ := (last_marked_line_decides t).1 marked
  have last' : LastLine Marked t (errorMark ++ " error: b".toList) :=
    getLast?_markedLines_eq_some_iff.1 (by decide)
  have said : Text.trim rest = "error: b".toList := by
    rw [List.append_cancel_left (last.unique last')]
    decide
  have plain : ∀ line ∈ quiet.lines, ¬Marked (Text.trim line) := by decide
  have spoken : ∃ line ∈ quiet.lines, Text.trim line ≠ [] := by decide
  obtain ⟨two, last, reason'⟩ := (last_marked_line_decides quiet).2.1 plain spoken
  have last' : LastLine (· ≠ []) quiet "two".toList :=
    getLast?_spokenLines_eq_some_iff.1 (by decide)
  exact ⟨⟨marked, more, (reason t' more _).trans said, (reason t (.same t) _).trans said⟩,
    plain, spoken, (reason' _).trans (last.unique last')⟩

end EnvBundle.Fetch
