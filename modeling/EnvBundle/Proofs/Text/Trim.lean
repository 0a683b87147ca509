import EnvBundle.Text
import Mathlib.Data.List.TakeWhile

/-! Trimming takes only blanks, and only at the ends. -/
namespace EnvBundle.Text

theorem sublist_trimEnd (t : Text) : (trimEnd t).Sublist t := by
  have back : (trimStart t.reverse).Sublist t.reverse := List.dropWhile_sublist isBlank
  have whole := List.reverse_sublist.2 back
  rw [List.reverse_reverse] at whole
  exact whole

theorem sublist_trim (t : Text) : (trim t).Sublist t := by
  have front : (trimStart t).Sublist t := List.dropWhile_sublist isBlank
  exact (sublist_trimEnd _).trans front

theorem trimStart_of_head {c : Char} (solid : isBlank c = false) (t : Text) :
    trimStart (c :: t) = c :: t := by
  rw [trimStart, List.dropWhile_cons, if_neg (by simp [solid])]

theorem solid_of_head?_trimStart {t : Text} {c : Char} (first : (trimStart t).head? = some c) :
    isBlank c = false := by
  have kept := List.head?_dropWhile_not isBlank t
  rw [trimStart] at first
  rw [first] at kept
  exact kept

theorem solid_of_getLast?_trim {t : Text} {c : Char} (last : (trim t).getLast? = some c) :
    isBlank c = false := by
  rw [trim, trimEnd, List.getLast?_reverse] at last
  exact solid_of_head?_trimStart last

theorem trimStart_append {c : Char} (solid : isBlank c = false) (s t : Text) :
    trimStart (s ++ c :: t) = trimStart s ++ c :: t := by
  induction s with
  | nil => exact trimStart_of_head solid t
  | cons d s ih =>
      rw [List.cons_append, trimStart, trimStart, List.dropWhile_cons, List.dropWhile_cons]
      split
      · exact ih
      · rfl

/-- A character that is not blank keeps everything before it. -/
theorem trimEnd_append {c : Char} (solid : isBlank c = false) (s t : Text) :
    trimEnd (s ++ c :: t) = s ++ c :: trimEnd t := by
  have turned : (s ++ c :: t).reverse = t.reverse ++ c :: s.reverse := by simp
  rw [trimEnd, turned, trimStart_append solid, trimEnd]
  simp

theorem trim_cons {c : Char} (solid : isBlank c = false) (t : Text) :
    trim (c :: t) = c :: trimEnd t := by
  rw [trim, trimStart_of_head solid]
  exact trimEnd_append solid [] t

/-- Characters at both ends that are not blank keep everything between them. -/
theorem trim_of_ends {first last : Char} (solid : isBlank first = false)
    (solid' : isBlank last = false) (t : Text) :
    trim (first :: t ++ [last]) = first :: t ++ [last] := by
  rw [List.cons_append, trim_cons solid, trimEnd_append solid']
  rfl

theorem trim_of_solid {t : Text} (solid : ∀ c ∈ t, isBlank c = false) : trim t = t := by
  have keep : ∀ s : Text, (∀ c ∈ s, isBlank c = false) → trimStart s = s := by
    intro s solid
    cases s with
    | nil => rfl
    | cons c s => exact trimStart_of_head (solid c List.mem_cons_self) s
  have back : ∀ c ∈ t.reverse, isBlank c = false := fun c member =>
    solid c (List.mem_reverse.1 member)
  rw [trim, keep t solid, trimEnd, keep _ back, List.reverse_reverse]

/-- Blanks before a text are taken away with those that it begins with. -/
theorem trimStart_append_of_blank {s : Text} (blank : ∀ c ∈ s, isBlank c = true) (t : Text) :
    trimStart (s ++ t) = trimStart t := List.dropWhile_append_of_pos blank

theorem trimStart_of_blank {s : Text} (blank : ∀ c ∈ s, isBlank c = true) : trimStart s = [] := by
  have nothing := trimStart_append_of_blank blank []
  rw [List.append_nil] at nothing
  exact nothing

theorem trim_eq_nil_iff {t : Text} : trim t = [] ↔ ∀ c ∈ t, isBlank c = true := by
  constructor
  · intro nothing
    cases kept : trimStart t with
    | nil => exact List.dropWhile_eq_nil_iff.1 kept
    | cons c rest =>
        have solid := solid_of_head?_trimStart (congrArg List.head? kept)
        have left := trimEnd_append solid [] rest
        rw [List.nil_append, ← kept] at left
        rw [trim, left] at nothing
        cases nothing
  · intro blank
    rw [trim, trimStart_of_blank blank]
    rfl

theorem trimEnd_append_of_blank {s : Text} (blank : ∀ c ∈ s, isBlank c = true) (t : Text) :
    trimEnd (t ++ s) = trimEnd t := by
  have turned : ∀ c ∈ s.reverse, isBlank c = true := fun c member =>
    blank c (List.mem_reverse.1 member)
  rw [trimEnd, List.reverse_append, trimStart_append_of_blank turned, trimEnd]

/-- Blanks behind a text are not left of it, even if there is nothing else in it. -/
theorem trim_append_of_blank {s : Text} (blank : ∀ c ∈ s, isBlank c = true) (t : Text) :
    trim (t ++ s) = trim t := by
  have front := @List.dropWhile_append _ isBlank t s
  change trimStart (t ++ s) =
    if (trimStart t).isEmpty = true then trimStart s else trimStart t ++ s at front
  rw [trim, trim, front]
  cases kept : trimStart t with
  | nil => rw [List.isEmpty_nil, if_pos rfl, trimStart_of_blank blank]
  | cons c rest =>
      rw [List.isEmpty_cons, if_neg Bool.false_ne_true]
      exact trimEnd_append_of_blank blank (c :: rest)

theorem trim_cons_of_blank {c : Char} (blank : isBlank c = true) (t : Text) :
    trim (c :: t) = trim t := by
  rw [trim, trimStart, List.dropWhile_cons_of_pos blank, trim, trimStart]

/-- A text that trimming leaves as it is does not begin with a blank. -/
theorem solid_of_trim_eq {c : Char} {t : Text} (kept : trim (c :: t) = c :: t) :
    isBlank c = false := by
  rw [← Bool.not_eq_true]
  intro blank
  have shorter := (sublist_trim t).length_le
  rw [← trim_cons_of_blank blank, kept, List.length_cons] at shorter
  omega

theorem trimStart_trimStart (t : Text) : trimStart (trimStart t) = trimStart t := by
  cases kept : trimStart t with
  | nil => rfl
  | cons c rest =>
      have first : (trimStart t).head? = some c := by rw [kept, List.head?_cons]
      exact trimStart_of_head (solid_of_head?_trimStart first) rest

theorem trimEnd_trimEnd (t : Text) : trimEnd (trimEnd t) = trimEnd t := by
  rw [trimEnd, trimEnd, List.reverse_reverse, trimStart_trimStart]

/-- What is left has no blanks at its ends. -/
theorem trim_trim (t : Text) : trim (trim t) = trim t := by
  cases kept : trimStart t with
  | nil =>
      rw [trim, trim, kept]
      rfl
  | cons c rest =>
      have first : (trimStart t).head? = some c := by rw [kept, List.head?_cons]
      have solid := solid_of_head?_trimStart first
      have left : trim t = c :: trimEnd rest := by
        rw [trim, kept]
        exact trimEnd_append solid [] rest
      rw [left, trim_cons solid, trimEnd_trimEnd]

end EnvBundle.Text
