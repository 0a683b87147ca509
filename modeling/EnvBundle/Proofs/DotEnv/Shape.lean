import EnvBundle.Proofs.DotEnv.Counting
import EnvBundle.Proofs.DotEnv.Quoted
import EnvBundle.Proofs.DotEnv.Slicing
import Mathlib.Data.List.Forall2

/-!
What any text at all gives as an environment file. Every assignment has a line that makes it. The
names are those that a line can assign, a value has line feeds only where the line has escapes for
them, and no other character is in an assignment more often than in its line.
-/
namespace EnvBundle.DotEnv

/-- An escape for a line feed, with what is read before it and what is read behind it. -/
def HasFeed (t before after : Text) : Prop :=
  ∃ left right, t = left ++ '\\' :: 'n' :: right ∧ unescape left = before ∧ unescape right = after

/-- What is read as other characters, whatever follows it, is before the escape or behind it. -/
theorem HasFeed.append (unit given : Text) {rest before after : Text}
    (read : ∀ more, unescape (unit ++ more) = given ++ unescape more) (free : '\n' ∉ given)
    (later : ∀ before, unescape rest = before ++ '\n' :: after → HasFeed rest before after)
    (whole : given ++ unescape rest = before ++ '\n' :: after) :
    HasFeed (unit ++ rest) before after := by
  have behind : ∃ more, before = given ++ more ∧ unescape rest = more ++ '\n' :: after := by
    rcases List.append_eq_append_iff.1 whole with ⟨more, front, back⟩ | ⟨more, front, back⟩
    · exact ⟨more, front, back⟩
    · cases more with
      | nil => exact ⟨[], by simp [front], by simpa using back.symm⟩
      | cons c more =>
          obtain ⟨rfl, _⟩ := List.cons.inj back
          exact absurd (front ▸ by simp) free
  obtain ⟨more, front, back⟩ := behind
  obtain ⟨left, right, cut, same, same'⟩ := later more back
  refine ⟨unit ++ left, right, ?_, ?_, same'⟩
  · rw [cut, List.append_assoc]
  · rw [read, same, front]

/-- Every line feed that is read stands for an escape, as long as there is none in the text. -/
theorem hasFeed_of_unescape {t before after : Text} (free : '\n' ∉ t)
    (read : unescape t = before ++ '\n' :: after) : HasFeed t before after := by
  fun_induction unescape t generalizing before with
  | case1 => simp at read
  | case2 rest ih =>
      simp only [List.mem_cons, not_or] at free
      cases before with
      | nil => exact ⟨[], rest, rfl, rfl, (List.cons.inj read).2⟩
      | cons c before =>
          obtain ⟨rfl, back⟩ := List.cons.inj read
          obtain ⟨left, right, rfl, rfl, same⟩ := ih free.2.2 back
          exact ⟨'\\' :: 'n' :: left, right, rfl, rfl, same⟩
  | case3 rest ih =>
      simp only [List.mem_cons, not_or] at free
      have carriage : '\n' ∉ ['\r'] := by decide
      exact .append ['\\', 'r'] ['\r'] (fun _ => rfl) carriage (fun _ => ih free.2.2) read
  | case4 rest ih =>
      simp only [List.mem_cons, not_or] at free
      have quote : '\n' ∉ ['"'] := by decide
      exact .append ['\\', '"'] ['"'] (fun _ => rfl) quote (fun _ => ih free.2.2) read
  | case5 rest ih =>
      simp only [List.mem_cons, not_or] at free
      have backslash : '\n' ∉ ['\\'] := by decide
      exact .append ['\\', '\\'] ['\\'] (fun _ => rfl) backslash (fun _ => ih free.2.2) read
  | case6 c rest feed carriage quote backslash ih =>
      have itself : ∀ more, unescape ('\\' :: c :: more) = '\\' :: c :: unescape more :=
        fun more => unescape.eq_6 c more feed carriage quote backslash
      simp only [List.mem_cons, not_or] at free
      have both : '\n' ∉ ['\\', c] := by simp [free.2.1]
      exact .append ['\\', c] ['\\', c] itself both (fun _ => ih free.2.2) read
  | case7 c rest _ _ _ _ last ih =>
      simp only [List.mem_cons, not_or] at free
      have one : '\n' ∉ [c] := by simp [free.1]
      by_cases backslash : c = '\\'
      · -- Nothing is behind this backslash, or it would not stand for itself.
        cases rest with
        | nil =>
            subst backslash
            cases before <;> simp [unescape] at read
        | cons d more => exact absurd rfl (last d more backslash)
      · exact .append [c] [c] (unescape_cons backslash) one (fun _ => ih free.2) read

/-- Without a line feed between the quotes a value has none, and bare it is the text itself. -/
theorem hasFeed_of_value {raw before after : Text} (free : '\n' ∉ raw)
    (read : value raw = before ++ '\n' :: after) :
    ∃ inner, raw = '"' :: (inner ++ ['"']) ∧ HasFeed inner before after := by
  rw [value] at read
  split at read
  · next inner found =>
    have whole := between?_eq_some_iff.1 found
    have oneLine : '\n' ∉ inner := fun inside => free ((sublist_of_between? found).subset inside)
    exact ⟨inner, whole, hasFeed_of_unescape oneLine read⟩
  · exfalso
    have feed : '\n' ∈ (Text.between? '\'' raw).getD raw := by simp [read]
    cases found : Text.between? '\'' raw with
    | none =>
        rw [found] at feed
        exact free feed
    | some inner =>
        rw [found] at feed
        exact free ((sublist_of_between? found).subset feed)

/-- The value as a line has it: what stands behind its first equals sign, without the blanks at its
ends. -/
def written? (line : Text) : Option Text :=
  (Split.first? '=' (unexported (Text.trim line))).map fun parts => Text.trim parts.2

/-- A line and what it assigns: every line feed of the value is there as an escape between double
quotes, and every other character, carriage returns apart, as it is. -/
structure Assigns (line : Text) (e : Text × Text) : Prop where
  found : assignment? (Text.trim line) = some e
  name : Assignable e.1
  feeds : ∀ before after, e.2 = before ++ '\n' :: after →
    ∃ inner, written? line = some ('"' :: (inner ++ ['"'])) ∧ HasFeed inner before after
  others : ∀ c, c ≠ '\n' → c ≠ '\r' → (e.1 ++ e.2).count c ≤ line.count c

theorem written?_of_cut {line before raw : Text} (free : '=' ∉ before)
    (whole : unexported (Text.trim line) = before ++ '=' :: raw) :
    written? line = some (Text.trim raw) := by
  rw [written?, whole, Split.first?_append raw free]
  rfl

theorem assigns_of_assignment? {t line : Text} {e : Text × Text} (member : line ∈ t.lines)
    (found : assignment? (Text.trim line) = some e) : Assigns line e where
  found := found
  name := assignable_of_assignment? (newline_notMem_trim member) found
  feeds := by
    intro front back read
    obtain ⟨_, _, _, before, raw, whole, free, _, valued⟩ := cut_of_assignment? found
    have oneLine : '\n' ∉ Text.trim raw := fun inside =>
      newline_notMem_trim member ((sublist_of_cut whole).2.subset inside)
    obtain ⟨inner, quoted, feed⟩ := hasFeed_of_value oneLine (valued.trans read)
    exact ⟨inner, quoted ▸ written?_of_cut free whole, feed⟩
  others _ feed carriage := count_le_of_assignment? feed carriage found

/-- Every member of a filtered list has been got from one of the list, and these are in order. -/
theorem exists_forall₂_filterMap {α β : Type} {f : α → Option β} {r : α → β → Prop} {l : List α}
    (each : ∀ a ∈ l, ∀ b, f a = some b → r a b) :
    ∃ kept, kept.Sublist l ∧ List.Forall₂ r kept (l.filterMap f) := by
  induction l with
  | nil => exact ⟨[], .slnil, .nil⟩
  | cons a l ih =>
      obtain ⟨first, each⟩ := List.forall_mem_cons.1 each
      obtain ⟨kept, part, pairs⟩ := ih each
      cases found : f a with
      | none =>
          rw [List.filterMap_cons_none found]
          exact ⟨kept, part.cons a, pairs⟩
      | some b =>
          rw [List.filterMap_cons_some found]
          exact ⟨a :: kept, part.cons_cons a, .cons (first b found) pairs⟩

/-- Any text at all can be read as an environment file, with no cut out of place. Each assignment
has a line of its own, in the order of the lines: its name is one that a line can assign, and it has
a line feed only where the line has an escape for it between double quotes. And all the assignments
together have no more null characters than the text. -/
theorem entries_are_as_written (t : Text) :
    sliceEntries? t = some (entries t) ∧
      (∃ lines, lines.Sublist t.lines ∧ List.Forall₂ Assigns lines (entries t)) ∧
      (contents (entries t)).count '\x00' ≤ t.count '\x00' := by
  refine ⟨sliceEntries?_eq t, ?_, count_contents_entries_le (by decide) (by decide) t⟩
  exact exists_forall₂_filterMap fun _ member _ found => assigns_of_assignment? member found

end EnvBundle.DotEnv
