import EnvBundle.Proofs.DotEnv.Assignment

/-!
How much of a file is in what it assigns. Whatever characters are counted, there are no more of them
in an assignment than in its line, if the letters of the escapes are counted along with the line ends
that they stand for. So a character that is no line end never comes from nowhere.
-/
namespace EnvBundle.DotEnv

/-- The names and values of variables, one after the other. -/
def contents (entries : List (Text × Text)) : Text := entries.flatMap fun e => e.1 ++ e.2

theorem contents_cons (e : Text × Text) (entries : List (Text × Text)) :
    contents (e :: entries) = e.1 ++ e.2 ++ contents entries := List.flatMap_cons

section Counting

variable {counts : Char → Bool}

theorem countP_cons_le {c d : Char} {s t : Text} (lighter : counts c = true → counts d = true)
    (rest : s.countP counts ≤ t.countP counts) :
    (c :: s).countP counts ≤ (d :: t).countP counts := by
  rw [List.countP_cons, List.countP_cons]
  by_cases heavy : counts c = true
  · rw [if_pos heavy, if_pos (lighter heavy)]
    exact Nat.add_le_add_right rest 1
  · rw [if_neg heavy]
    exact Nat.le_trans rest (Nat.le_add_right _ _)

/-- If a line gives up some of what it has for each assignment, so do all the lines. -/
theorem countP_contents_filterMap_le {f : Text → Option (Text × Text)} {spent : Nat}
    (bound : ∀ line e, f line = some e →
      (e.1 ++ e.2).countP counts + spent ≤ line.countP counts) (ls : List Text) :
    (contents (ls.filterMap f)).countP counts + spent * (ls.filterMap f).length ≤
      ls.flatten.countP counts := by
  induction ls with
  | nil => exact Nat.le_refl _
  | cons line ls ih =>
      rw [List.flatten_cons, List.countP_append]
      cases found : f line with
      | none =>
          rw [List.filterMap_cons_none found]
          omega
      | some e =>
          have one := bound line e found
          rw [List.filterMap_cons_some found, contents_cons, List.countP_append, List.length_cons,
            Nat.mul_succ]
          omega

variable (feed : counts '\n' = true → counts 'n' = true)
  (carriage : counts '\r' = true → counts 'r' = true)
include feed carriage

/-- A character stands for an escape of two, so nothing is gained. -/
theorem countP_unescape_le (t : Text) : (unescape t).countP counts ≤ t.countP counts := by
  have drop : ∀ (c : Char) (s : Text), s.countP counts ≤ (c :: s).countP counts := fun c s =>
    (List.sublist_cons_self c s).countP_le
  fun_induction unescape t with
  | case1 => exact Nat.le_refl _
  | case2 rest ih => exact Nat.le_trans (countP_cons_le feed ih) (drop '\\' ('n' :: rest))
  | case3 rest ih => exact Nat.le_trans (countP_cons_le carriage ih) (drop '\\' ('r' :: rest))
  | case4 rest ih => exact Nat.le_trans (countP_cons_le id ih) (drop '\\' ('"' :: rest))
  | case5 rest ih => exact Nat.le_trans (countP_cons_le id ih) (drop '\\' ('\\' :: rest))
  | case6 c rest _ _ _ _ ih => exact countP_cons_le id (countP_cons_le id ih)
  | case7 c rest _ _ _ _ _ ih => exact countP_cons_le id ih

theorem countP_value_le (raw : Text) : (value raw).countP counts ≤ raw.countP counts := by
  rw [value]
  split
  · next inner found =>
    exact Nat.le_trans (countP_unescape_le feed carriage inner) (sublist_of_between? found).countP_le
  · cases found : Text.between? '\'' raw with
    | none => exact Nat.le_refl _
    | some inner => exact (sublist_of_between? found).countP_le

/-- The equals sign of a line is in neither the name nor the value. -/
theorem countP_add_le_of_assignment? {line : Text} {e : Text × Text}
    (found : assignment? line = some e) :
    (e.1 ++ e.2).countP counts + ['='].countP counts ≤ line.countP counts := by
  obtain ⟨_, _, _, before, raw, whole, _, named, valued⟩ := cut_of_assignment? found
  have name : e.1.countP counts ≤ before.countP counts :=
    named ▸ (Text.sublist_trim before).countP_le
  have value : e.2.countP counts ≤ raw.countP counts :=
    valued ▸ Nat.le_trans (countP_value_le feed carriage _) (Text.sublist_trim raw).countP_le
  have part : (unexported line).countP counts ≤ line.countP counts :=
    (sublist_unexported line).countP_le
  rw [whole, List.append_cons, List.countP_append, List.countP_append] at part
  rw [List.countP_append]
  omega

theorem countP_contents_entries_le (t : Text) :
    (contents (entries t)).countP counts + ['='].countP counts * (entries t).length ≤
      t.lines.flatten.countP counts := by
  apply countP_contents_filterMap_le
  intro line e found
  have trimmed := (Text.sublist_trim line).countP_le (p := counts)
  exact Nat.le_trans (countP_add_le_of_assignment? feed carriage found) trimmed

end Counting

section Character

variable {c : Char} (feed : c ≠ '\n') (carriage : c ≠ '\r')
include feed carriage

theorem count_le_of_assignment? {line : Text} {e : Text × Text}
    (found : assignment? (Text.trim line) = some e) : (e.1 ++ e.2).count c ≤ line.count c := by
  have trimmed := (Text.sublist_trim line).count_le c
  have counted : (e.1 ++ e.2).count c + ['='].count c ≤ (Text.trim line).count c := by
    apply countP_add_le_of_assignment? _ _ found
    · exact fun same => absurd (beq_iff_eq.1 same).symm feed
    · exact fun same => absurd (beq_iff_eq.1 same).symm carriage
  omega

theorem count_contents_entries_le (t : Text) : (contents (entries t)).count c ≤ t.count c := by
  have whole := (Text.sublist_flatten_lines t).count_le c
  have parts : (contents (entries t)).count c + 0 * (entries t).length ≤
      t.lines.flatten.count c :=
    countP_contents_filterMap_le (fun _ _ => count_le_of_assignment? feed carriage) t.lines
  omega

end Character

end EnvBundle.DotEnv
