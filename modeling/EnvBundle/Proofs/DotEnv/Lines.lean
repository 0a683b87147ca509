import EnvBundle.Proofs.DotEnv.Assignment
import EnvBundle.Proofs.Text.FilledLines

/-!
An environment file is read line by line. What a line assigns depends on no other line, so a text of
several texts assigns what these assign, one after the other.
-/
namespace EnvBundle.DotEnv

/-- Blank lines assign nothing, so the others alone are looked at. -/
theorem entries_eq_filterMap (t : Text) :
    entries t = (Text.filledLines t).filterMap assignment? := by
  have blank : (fun line => if (line != []) = true then assignment? line else none) =
      assignment? := by
    funext line
    cases line with
    | nil => rfl
    | cons c rest => rfl
  rw [Text.filledLines, List.filterMap_filter, blank, List.filterMap_map]
  rfl

theorem entries_append (s t : Text) : entries (s ++ '\n' :: t) = entries s ++ entries t := by
  rw [entries_eq_filterMap, Text.filledLines_append, List.filterMap_append, ← entries_eq_filterMap,
    ← entries_eq_filterMap]

theorem entries_joinWith (texts : List Text) :
    entries (Text.joinWith '\n' texts) = texts.flatMap entries := by
  have each : (fun t => (Text.filledLines t).filterMap assignment?) = entries := by
    funext t
    exact (entries_eq_filterMap t).symm
  rw [entries_eq_filterMap, Text.filledLines_joinWith, List.filterMap_flatMap, each]

theorem entries_between_blanks {before after : Text}
    (blank : ∀ c ∈ before, Text.isBlank c = true) (blank' : ∀ c ∈ after, Text.isBlank c = true)
    (t : Text) : entries (before ++ t ++ after) = entries t := by
  rw [entries_eq_filterMap, Text.filledLines_between_blanks blank blank', ← entries_eq_filterMap]

/-- A text without a line feed is one line. -/
theorem entries_of_notMem {line : Text} (free : '\n' ∉ line) :
    entries line = (assignment? (Text.trim line)).toList := by
  cases line with
  | nil => rfl
  | cons c rest =>
      rw [entries, Text.lines_of_notMem (List.cons_ne_nil c rest) free]
      cases found : assignment? (Text.trim (c :: rest)) with
      | none => exact List.filterMap_cons_none found
      | some e => exact List.filterMap_cons_some found

/-- What is assigned later counts first. -/
theorem get?_append (former later : List (Text × Text)) (name : Text) :
    get? (former ++ later) name = (get? later name).or (get? former name) := by
  rw [get?, List.reverse_append, List.lookup_append, get?, get?]

/-- Texts that are put together as lines of one text are read as each by itself, in their order, and
whatever is wrong with one of them, it makes no difference to the others. So a name has its value in
the last of the texts that assigns it. -/
theorem joined_texts_read_apart (s t : Text) :
    entries (s ++ '\n' :: t) = entries s ++ entries t ∧
      entries (s ++ '\r' :: '\n' :: t) = entries s ++ entries t ∧
      (∀ texts : List Text, entries (Text.joinWith '\n' texts) = texts.flatMap entries) ∧
      ∀ name, get? (entries (s ++ '\n' :: t)) name =
        (get? (entries t) name).or (get? (entries s) name) := by
  refine ⟨entries_append s t, ?_, entries_joinWith, ?_⟩
  · -- The carriage return belongs to the first text and is a blank at its end.
    have carriage : entries ([] ++ s ++ ['\r']) = entries s :=
      entries_between_blanks (List.forall_mem_nil _) (List.forall_mem_singleton.2 rfl) s
    rw [List.append_cons, entries_append]
    exact congrArg (· ++ entries t) carriage
  · intro name
    rw [entries_append, get?_append]

/-- Open quotes, a backslash at the end and a name that is missing stay with their own lines. -/
example : entries "A=\"1\\\r\n'\n=\nA='2\r\nB=3".toList =
    [(['A'], "\"1\\".toList), (['A'], "'2".toList), (['B'], ['3'])] := by decide

end EnvBundle.DotEnv
