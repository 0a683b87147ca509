import EnvBundle.Fetch.Options

/-! Which options a fetch can use, in terms of the numbers themselves. -/
namespace EnvBundle

namespace Binary64

theorem isFinite_and_isPositive_iff {x : Binary64} :
    (x.isFinite = true ∧ x.isPositive = true) ↔ ∃ m, x = .finite false m ∧ m.units ≠ 0 := by
  cases x with
  | nan => simp [isFinite]
  | infinity negative => simp [isFinite]
  | finite negative m => cases negative <;> simp [isFinite, isPositive]

theorem isFinite_and_not_isNegative_iff {x : Binary64} :
    (x.isFinite = true ∧ x.isNegative = false) ↔
      ∃ negative m, x = .finite negative m ∧ (negative = true → m.units = 0) := by
  cases x with
  | nan => simp [isFinite]
  | infinity negative => simp [isFinite]
  | finite negative m => cases negative <;> simp [isFinite, isNegative]

end Binary64

namespace Fetch.Options

/-- A time limit above zero and a backoff factor that is not below it, both of them finite. -/
structure Usable (options : Options) : Prop where
  timeout : ∃ m : Magnitude, options.timeoutSecs = .finite false m ∧ m.units ≠ 0
  retryBackoff : ∃ (negative : Bool) (m : Magnitude),
    options.retryBackoff = .finite negative m ∧ (negative = true → m.units = 0)

theorem usable_iff {options : Options} :
    options.Usable ↔
      (options.timeoutSecs.isFinite = true ∧ options.timeoutSecs.isPositive = true) ∧
        (options.retryBackoff.isFinite = true ∧ options.retryBackoff.isNegative = false) := by
  rw [Binary64.isFinite_and_isPositive_iff, Binary64.isFinite_and_not_isNegative_iff]
  exact ⟨fun ⟨limit, factor⟩ => ⟨limit, factor⟩, fun ⟨limit, factor⟩ => ⟨limit, factor⟩⟩

theorem validate_eq_ok_iff {options : Options} : options.validate = .ok () ↔ options.Usable := by
  rw [usable_iff, validate]
  split
  · next refused =>
    refine iff_of_false nofun ?_
    rintro ⟨⟨finite, positive⟩, _⟩
    rw [finite, positive] at refused
    cases refused
  · next limited =>
    have limit : options.timeoutSecs.isFinite = true ∧ options.timeoutSecs.isPositive = true := by
      simpa using limited
    split
    · next refused =>
      refine iff_of_false nofun ?_
      rintro ⟨_, finite, notNegative⟩
      rw [finite, notNegative] at refused
      cases refused
    · next factored => exact iff_of_true rfl ⟨limit, by simpa using factored⟩

end Fetch.Options

end EnvBundle
