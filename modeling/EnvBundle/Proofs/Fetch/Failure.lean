import EnvBundle.Proofs.Fetch.Answer
import EnvBundle.Proofs.Text.Digits
import EnvBundle.Proofs.Text.FilledLines

/-!
What is said about a backend that ended without success. The last line with the error mark decides,
for want of one the last line, and for want of any line how the backend ended.
-/
namespace EnvBundle.Fetch

/-- `said` is the last of the lines that are such, without the blanks at its ends. -/
def LastLine (Such : Text → Prop) (t said : Text) : Prop :=
  ∃ before line after, t.lines = before ++ line :: after ∧ Text.trim line = said ∧ Such said ∧
    ∀ other ∈ after, ¬Such (Text.trim other)

/-- A line that tells what went wrong. -/
def Marked (line : Text) : Prop := errorMark <+: line

instance : DecidablePred Marked := fun line => inferInstanceAs (Decidable (errorMark <+: line))

/-- The lines with the error mark, without the blanks at their ends. -/
def markedLines (t : Text) : List Text := (t.lines.map Text.trim).filter (Marked ·)

section

variable {t said : Text} {Such : Text → Prop}

theorem LastLine.such (last : LastLine Such t said) : Such said := by
  obtain ⟨_, _, _, _, _, such, _⟩ := last
  exact such

theorem LastLine.exists_line (last : LastLine Such t said) :
    ∃ line ∈ t.lines, Text.trim line = said := by
  obtain ⟨before, line, _, cut, trimmed, _⟩ := last
  exact ⟨line, cut ▸ List.mem_append_right before List.mem_cons_self, trimmed⟩

theorem LastLine.trim_eq (last : LastLine Such t said) : Text.trim said = said := by
  obtain ⟨line, _, rfl⟩ := last.exists_line
  exact Text.trim_trim line

theorem LastLine.newline_notMem (last : LastLine Such t said) : '\n' ∉ said := by
  obtain ⟨line, member, rfl⟩ := last.exists_line
  intro inside
  exact Text.notMem_of_mem_lines t line member ((Text.sublist_trim line).subset inside)

variable [DecidablePred Such]

theorem getLast?_filter_lines_eq_some_iff :
    ((t.lines.map Text.trim).filter (Such ·)).getLast? = some said ↔ LastLine Such t said := by
  rw [List.filter_map, List.getLast?_map, List.getLast?_filter, Option.map_eq_some_iff]
  constructor
  · rintro ⟨line, found, rfl⟩
    obtain ⟨such, after, before, cut, others⟩ := List.find?_eq_some_iff_append.1 found
    refine ⟨before.reverse, line, after.reverse, ?_, rfl, of_decide_eq_true such, ?_⟩
    · rw [← List.reverse_reverse t.lines, cut, List.reverse_append, List.reverse_cons,
        List.append_assoc, List.singleton_append]
    · intro other member
      have unlike := others other (List.mem_reverse.1 member)
      rw [Bool.not_eq_true'] at unlike
      exact of_decide_eq_false unlike
  · rintro ⟨before, line, after, cut, rfl, such, others⟩
    refine ⟨line, List.find?_eq_some_iff_append.2 ⟨decide_eq_true such, ?_⟩, rfl⟩
    refine ⟨after.reverse, before.reverse, ?_, ?_⟩
    · rw [cut, List.reverse_append, List.reverse_cons, List.append_assoc, List.singleton_append]
    · intro other member
      rw [Bool.not_eq_true']
      exact decide_eq_false (others other (List.mem_reverse.1 member))

theorem getLast?_filter_lines_eq_none_iff :
    ((t.lines.map Text.trim).filter (Such ·)).getLast? = none ↔
      ∀ line ∈ t.lines, ¬Such (Text.trim line) := by
  rw [List.getLast?_eq_none_iff, List.filter_eq_nil_iff, List.forall_mem_map]
  simp only [decide_eq_true_eq]

theorem LastLine.unique {said' : Text} (last : LastLine Such t said)
    (last' : LastLine Such t said') : said = said' := by
  rw [← getLast?_filter_lines_eq_some_iff] at last last'
  exact Option.some.inj (last.symm.trans last')

theorem exists_lastLine (some_line : ∃ line ∈ t.lines, Such (Text.trim line)) :
    ∃ said, LastLine Such t said := by
  cases last : ((t.lines.map Text.trim).filter (Such ·)).getLast? with
  | none =>
      obtain ⟨line, member, such⟩ := some_line
      exact absurd such (getLast?_filter_lines_eq_none_iff.1 last line member)
  | some said => exact ⟨said, getLast?_filter_lines_eq_some_iff.1 last⟩

end

section

variable {t : Text}

theorem getLast?_markedLines_eq_some_iff {said : Text} :
    (markedLines t).getLast? = some said ↔ LastLine Marked t said :=
  getLast?_filter_lines_eq_some_iff

theorem getLast?_markedLines_eq_none_iff :
    (markedLines t).getLast? = none ↔ ∀ line ∈ t.lines, ¬Marked (Text.trim line) :=
  getLast?_filter_lines_eq_none_iff

theorem spokenLines_eq : spokenLines t = (t.lines.map Text.trim).filter (· ≠ []) := by
  apply List.filter_congr
  intro line _
  rw [decide_not, bne, beq_eq_decide]

theorem getLast?_spokenLines_eq_some_iff {said : Text} :
    (spokenLines t).getLast? = some said ↔ LastLine (· ≠ []) t said := by
  rw [spokenLines_eq]
  exact getLast?_filter_lines_eq_some_iff

theorem getLast?_spokenLines_eq_none_iff :
    (spokenLines t).getLast? = none ↔ ∀ line ∈ t.lines, Text.trim line = [] := by
  rw [spokenLines_eq, getLast?_filter_lines_eq_none_iff]
  simp only [ne_eq, not_not]

theorem isSome_after?_iff {line : Text} :
    (Split.after? errorMark line).isSome = true ↔ Marked line := by
  rw [Option.isSome_iff_exists]
  constructor
  · rintro ⟨rest, after⟩
    exact ⟨rest, (Split.after?_eq_some after).symm⟩
  · rintro ⟨rest, whole⟩
    exact ⟨rest, Split.after?_eq_some_iff.2 whole.symm⟩

/-- A blank line has no mark, so the marked lines can be taken from all of them. -/
theorem filter_spokenLines : (spokenLines t).filter (Marked ·) = markedLines t := by
  rw [spokenLines, List.filter_filter]
  apply List.filter_congr
  intro line _
  cases line with
  | nil => rfl
  | cons c line => exact Bool.and_true _

theorem tellingLine?_eq :
    tellingLine? t = (markedLines t).getLast?.or (spokenLines t).getLast? := by
  have marked : (spokenLines t).reverse.find? (fun line =>
      (Split.after? errorMark line).isSome) = (markedLines t).getLast? := by
    rw [← filter_spokenLines, List.getLast?_filter]
    congr 1
    funext line
    rw [Bool.eq_iff_iff, isSome_after?_iff, decide_eq_true_eq]
  unfold tellingLine?
  simp only [marked, List.head?_reverse]
  cases (markedLines t).getLast? <;> rfl

/-- How a backend ended, for want of anything that it said. -/
def bareReason : Ending → Text
  | .exited status => "fetch backend exited with status ".toList ++ Text.ofNat status
  | .killed => "fetch backend terminated by signal".toList

theorem bareReason_exited (status : Nat) : bareReason (.exited status) =
    "fetch backend exited with status ".toList ++ Text.ofNat status := rfl

theorem failureReason_of_telling {line : Text} (telling : tellingLine? t = some line)
    (ending : Ending) :
    failureReason t ending = Text.trim ((Split.after? errorMark line).getD line) := by
  unfold failureReason
  rw [telling]

theorem failureReason_of_not_telling (telling : tellingLine? t = none) (ending : Ending) :
    failureReason t ending = bareReason ending := by
  unfold failureReason
  rw [telling]
  cases ending <;> rfl

theorem failureReason_of_marked {rest : Text} (last : LastLine Marked t (errorMark ++ rest))
    (ending : Ending) : failureReason t ending = Text.trim rest := by
  have telling : tellingLine? t = some (errorMark ++ rest) := by
    rw [tellingLine?_eq, getLast?_markedLines_eq_some_iff.2 last, Option.some_or]
  rw [failureReason_of_telling telling, Split.after?_append, Option.getD_some]

theorem failureReason_of_plain {said : Text} (plain : ∀ line ∈ t.lines, ¬Marked (Text.trim line))
    (last : LastLine (· ≠ []) t said) (ending : Ending) : failureReason t ending = said := by
  have telling : tellingLine? t = some said := by
    rw [tellingLine?_eq, getLast?_markedLines_eq_none_iff.2 plain, Option.none_or,
      getLast?_spokenLines_eq_some_iff.2 last]
  obtain ⟨line, member, rfl⟩ := last.exists_line
  have unmarked : Split.after? errorMark (Text.trim line) = none := by
    rw [← Option.not_isSome_iff_eq_none, isSome_after?_iff]
    exact plain line member
  rw [failureReason_of_telling telling, unmarked, Option.getD_none, Text.trim_trim]

theorem failureReason_of_silent (silent : ∀ line ∈ t.lines, Text.trim line = [])
    (ending : Ending) : failureReason t ending = bareReason ending := by
  have plain : ∀ line ∈ t.lines, ¬Marked (Text.trim line) := by
    intro line member
    rw [silent line member]
    decide
  apply failureReason_of_not_telling
  rw [tellingLine?_eq, getLast?_markedLines_eq_none_iff.2 plain, Option.none_or,
    getLast?_spokenLines_eq_none_iff.2 silent]

/-- A mark decides, else what is said at all, else how the backend ended. -/
theorem marked_or_plain_or_silent (t : Text) :
    (∃ rest, LastLine Marked t (errorMark ++ rest)) ∨
      ((∀ line ∈ t.lines, ¬Marked (Text.trim line)) ∧ ∃ said, LastLine (· ≠ []) t said) ∨
      ∀ line ∈ t.lines, Text.trim line = [] := by
  by_cases marked : ∃ line ∈ t.lines, Marked (Text.trim line)
  · obtain ⟨said, last⟩ := exists_lastLine marked
    obtain ⟨rest, rfl⟩ : Marked said := last.such
    exact .inl ⟨rest, last⟩
  · by_cases spoken : ∃ line ∈ t.lines, Text.trim line ≠ []
    · exact .inr (.inl ⟨by simpa using marked, @exists_lastLine t (· ≠ []) _ spoken⟩)
    · exact .inr (.inr (by simpa using spoken))

end

/-- A text on one line with no blank at either end. -/
structure Clean (t : Text) : Prop where
  oneLine : '\n' ∉ t
  first : ∀ c ∈ t.head?, Text.isBlank c = false
  last : ∀ c ∈ t.getLast?, Text.isBlank c = false

theorem clean_trim {t : Text} (oneLine : '\n' ∉ t) : Clean (Text.trim t) where
  oneLine inside := oneLine ((Text.sublist_trim t).subset inside)
  first := by
    intro c first
    obtain ⟨rest, kept⟩ := List.head?_eq_some_iff.1 first
    apply Text.solid_of_trim_eq (t := rest)
    rw [← kept, Text.trim_trim]
  last _ last := Text.solid_of_getLast?_trim last

theorem clean_bareReason (ending : Ending) : Clean (bareReason ending) := by
  cases ending with
  | exited status =>
      have digit : ∀ c ∈ Text.ofNat status, c.isDigit = true := fun _ => Text.isDigit_of_mem_ofNat
      refine ⟨?_, ?_, ?_⟩
      · intro inside
        rcases List.mem_append.1 inside with words | number
        · exact absurd words (by decide)
        · exact absurd (digit _ number) (by decide)
      · intro c first
        have letter : (bareReason (.exited status)).head? = some 'f' := rfl
        rw [letter, Option.mem_some_iff] at first
        rw [← first]
        decide
      · intro c last
        have number : (bareReason (.exited status)).getLast? = (Text.ofNat status).getLast? := by
          rw [bareReason_exited, List.getLast?_append_of_ne_nil _ (Text.ofNat_ne_nil status)]
        rw [number] at last
        exact Text.solid_of_isDigit (digit c (List.mem_of_getLast? last))
  | killed =>
      have kept : Text.trim (bareReason .killed) = bareReason .killed := by decide
      rw [← kept]
      exact clean_trim (by decide)

/-- What stands behind the mark is not blank, unless the mark is all of the line. -/
theorem LastLine.trim_rest_eq_nil_iff {t rest : Text}
    (last : LastLine Marked t (errorMark ++ rest)) : Text.trim rest = [] ↔ rest = [] := by
  constructor
  · intro blank
    -- The line has no blanks at its end, so what trimming would leave of it is all of it.
    have kept := last.trim_eq
    rw [Text.trim_append_of_blank (Text.trim_eq_nil_iff.1 blank)] at kept
    exact List.append_right_eq_self.1 kept.symm
  · rintro rfl
    rfl

theorem failureReason_eq_nil_iff {t : Text} {ending : Ending} :
    failureReason t ending = [] ↔ LastLine Marked t errorMark := by
  rcases marked_or_plain_or_silent t with ⟨rest, last⟩ | ⟨plain, said, last⟩ | silent
  · rw [failureReason_of_marked last, last.trim_rest_eq_nil_iff]
    constructor
    · rintro rfl
      exact last
    · intro bare
      exact List.append_right_eq_self.1 (last.unique bare)
  · rw [failureReason_of_plain plain last]
    refine iff_of_false last.such fun bare => ?_
    obtain ⟨line, member, trimmed⟩ := bare.exists_line
    exact plain line member (trimmed ▸ bare.such)
  · rw [failureReason_of_silent silent]
    refine iff_of_false (by cases ending <;> exact List.cons_ne_nil _ _) fun bare => ?_
    obtain ⟨line, member, trimmed⟩ := bare.exists_line
    rw [silent line member] at trimmed
    cases trimmed

theorem clean_failureReason (t : Text) (ending : Ending) : Clean (failureReason t ending) := by
  rcases marked_or_plain_or_silent t with ⟨rest, last⟩ | ⟨plain, said, last⟩ | silent
  · rw [failureReason_of_marked last]
    exact clean_trim fun inside => last.newline_notMem (List.mem_append_right _ inside)
  · rw [failureReason_of_plain plain last, ← last.trim_eq]
    exact clean_trim last.newline_notMem
  · rw [failureReason_of_silent silent]
    exact clean_bareReason ending

namespace Backend

/-- A backend that ends without success is always reported with a reason on one line without blanks
at its ends. The reason is empty exactly if the last line with the error mark has nothing else. -/
theorem rejection_reason_empty_iff (report : Report) (failure : report.ending ≠ .exited 0) :
    ∃ reason, result report = .error (.rejected reason) ∧ Clean reason ∧
      (reason = [] ↔ LastLine Marked (Utf8.decodeLossy report.stderr) errorMark) :=
  ⟨_, result_of_failure failure, clean_failureReason _ _, failureReason_eq_nil_iff⟩

/-- A mark with nothing behind it is made good by a later line, broken bytes and all. -/
theorem rejection_reason_empty_iff_later :
    let report : Report := ⟨[], Utf8.encode "error:\n error: ".toList ++ [0xFF, 0x0D], .killed⟩
    report.ending ≠ .exited 0 ∧
      ∃ reason, result report = .error (.rejected reason) ∧ Clean reason ∧ reason ≠ [] := by
  intro report
  have failure : report.ending ≠ .exited 0 := by decide
  have later : LastLine Marked (Utf8.decodeLossy report.stderr)
      (errorMark ++ [' ', Char.ofNat 0xFFFD]) :=
    getLast?_markedLines_eq_some_iff.1 (by decide)
  obtain ⟨reason, rejected, clean, empty⟩ := rejection_reason_empty_iff report failure
  refine ⟨failure, reason, rejected, clean, fun none => ?_⟩
  exact absurd ((empty.1 none).unique later) (by decide)

/-- A backend that says no more than the mark is rejected without a reason. -/
theorem rejected_for_no_reason :
    result ⟨[], Utf8.encode "error:\n".toList, .exited 1⟩ = .error (.rejected []) := by decide

end Backend

end EnvBundle.Fetch
