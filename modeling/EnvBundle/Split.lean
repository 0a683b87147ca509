/-!
Cutting a list at a mark or after a lead. The laws say how the parts make up the whole.
-/
namespace EnvBundle.Split

variable {α : Type} [DecidableEq α]

/-- What stands before the first mark, and what stands after it. -/
def first? (mark : α) : List α → Option (List α × List α)
  | [] => none
  | a :: rest =>
    if a = mark then some ([], rest)
    else (first? mark rest).map fun (before, behind) => (a :: before, behind)

/-- The pieces between the marks, one more than there are marks. -/
def pieces (mark : α) : List α → List (List α)
  | [] => [[]]
  | a :: rest =>
    if a = mark then [] :: pieces mark rest
    else match pieces mark rest with
      | [] => [[a]]
      | piece :: more => (a :: piece) :: more

/-- What follows `lead` in a list that begins with it. -/
def after? : List α → List α → Option (List α)
  | [], t => some t
  | _ :: _, [] => none
  | a :: lead, b :: t => if a = b then after? lead t else none

theorem first?_append {mark : α} {before : List α} (behind : List α) (h : mark ∉ before) :
    first? mark (before ++ mark :: behind) = some (before, behind) := by
  induction before with
  | nil => simp [first?]
  | cons a before ih =>
    have apart : a ≠ mark := fun same => h (same ▸ List.mem_cons_self)
    have rest : mark ∉ before := fun inside => h (List.mem_cons_of_mem a inside)
    simp [first?, apart, ih rest]

theorem first?_eq_some {mark : α} {t before behind : List α}
    (h : first? mark t = some (before, behind)) : t = before ++ mark :: behind ∧ mark ∉ before := by
  induction t generalizing before with
  | nil => cases h
  | cons a t ih =>
    simp only [first?] at h
    split at h
    · next same => cases h; simp [same]
    · next apart =>
      obtain ⟨⟨front, back⟩, ht, hp⟩ := Option.map_eq_some_iff.1 h
      cases hp
      obtain ⟨rfl, absent⟩ := ih ht
      exact ⟨rfl, by simp [Ne.symm apart, absent]⟩

theorem first?_eq_some_iff {mark : α} {t before behind : List α} :
    first? mark t = some (before, behind) ↔ t = before ++ mark :: behind ∧ mark ∉ before :=
  ⟨first?_eq_some, fun ⟨whole, absent⟩ => whole ▸ first?_append behind absent⟩

theorem first?_eq_none_iff {mark : α} {t : List α} : first? mark t = none ↔ mark ∉ t := by
  induction t with
  | nil => simp [first?]
  | cons a t ih =>
    simp only [first?]
    split
    · next same => simp [same]
    · next apart => simp [ih, Ne.symm apart]

theorem after?_append (lead t : List α) : after? lead (lead ++ t) = some t := by
  induction lead with
  | nil => cases t <;> rfl
  | cons a lead ih => simp [after?, ih]

theorem after?_eq_some {lead t rest : List α} (h : after? lead t = some rest) :
    t = lead ++ rest := by
  induction lead generalizing t with
  | nil => cases t <;> cases h <;> rfl
  | cons a lead ih =>
    cases t with
    | nil => cases h
    | cons b t =>
      simp only [after?] at h
      split at h
      · next same => rw [same, ih h, List.cons_append]
      · cases h

theorem after?_eq_some_iff {lead t rest : List α} :
    after? lead t = some rest ↔ t = lead ++ rest :=
  ⟨after?_eq_some, fun whole => whole ▸ after?_append lead rest⟩

end EnvBundle.Split
