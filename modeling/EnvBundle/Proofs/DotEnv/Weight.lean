import EnvBundle.Proofs.DotEnv.Counting
import EnvBundle.Shell.Render

/-!
A bound on what a file can assign. Quotes weigh nothing, since a writer adds them and a reader
takes them away; every other character weighs one. Then no line yields more than its weight.
-/
namespace EnvBundle.DotEnv

def isSolid (c : Char) : Bool := c != '\'' && c != '"'

def weight (t : Text) : Nat := t.countP isSolid

@[simp] theorem weight_nil : weight [] = 0 := rfl

theorem weight_cons (c : Char) (t : Text) :
    weight (c :: t) = weight t + if isSolid c then 1 else 0 := List.countP_cons

theorem weight_append (s t : Text) : weight (s ++ t) = weight s + weight t := List.countP_append

/-- Escaping adds quotes only, so it does not change a count that leaves them out. -/
theorem countP_escape {counts : Char → Bool} (single : counts '\'' = false)
    (double : counts '"' = false) (value : Text) :
    (Shell.escape value).countP counts = value.countP counts := by
  have one : ∀ c, (Shell.escapeChar c).countP counts = [c].countP counts := by
    intro c
    by_cases quote : c = '\''
    · rw [quote, Shell.escapeChar, if_pos rfl]
      simp [single, double]
    · rw [Shell.escapeChar, if_neg quote]
  have inner : (value.flatMap Shell.escapeChar).countP counts = value.countP counts := by
    induction value with
    | nil => rfl
    | cons c value ih =>
        rw [List.flatMap_cons, List.countP_append, ih, one, ← List.countP_append]
        rfl
  rw [Shell.escape, List.countP_append, List.countP_cons, inner]
  simp [single]

theorem weight_escape (value : Text) : weight (Shell.escape value) = weight value :=
  countP_escape rfl rfl value

/-- The line feeds of a text are no part of its lines. -/
theorem weight_flatten_lines_le (t : Text) : weight t.lines.flatten + t.count '\n' ≤ weight t := by
  have feed : isSolid '\n' = true := rfl
  fun_induction Text.lines t with
  | case1 => exact Nat.le_refl _
  | case2 rest ih =>
      rw [List.flatten_cons, List.nil_append, List.count_cons_self, weight_cons, if_pos feed]
      omega
  | case3 rest ih =>
      -- The carriage return is in no line either, so this is no equation.
      rw [List.flatten_cons, List.nil_append, List.count_cons_of_ne (by decide),
        List.count_cons_self, weight_cons, weight_cons, if_pos feed]
      omega
  | case4 c rest apart _ read ih =>
      rw [read, List.flatten_nil, weight_nil] at ih
      rw [List.count_cons_of_ne apart, weight_cons, List.flatten_singleton, weight_cons, weight_nil]
      omega
  | case5 c rest apart _ line more read ih =>
      rw [read, List.flatten_cons] at ih
      rw [List.count_cons_of_ne apart, weight_cons, List.flatten_cons, List.cons_append, weight_cons]
      omega

/-- What a file assigns leaves in the file's weight one equals sign for each assignment, and every
line feed. -/
theorem weight_contents_entries_le (t : Text) :
    weight (contents (entries t)) + (entries t).length + t.count '\n' ≤ weight t := by
  have solid : isSolid 'n' = true ∧ isSolid 'r' = true := ⟨rfl, rfl⟩
  have parts : weight (contents (entries t)) + 1 * (entries t).length ≤ weight t.lines.flatten :=
    countP_contents_entries_le (fun _ => solid.1) (fun _ => solid.2) t
  have whole := weight_flatten_lines_le t
  omega

end EnvBundle.DotEnv
