import EnvBundle.Bundle
import EnvBundle.Proofs.Variable
import Mathlib.Control.Monad.Basic

/-! Every variable of a bundle that was read has passed the checks. -/
namespace EnvBundle.Bundle

theorem checkAll_eq_ok_iff {entries : List (Text × Text)} :
    checkAll entries = .ok () ↔ ∀ e ∈ entries, Variable.Sound e.1 e.2 := by
  induction entries with
  | nil => simp [checkAll]
  | cons e entries ih =>
      obtain ⟨name, value⟩ := e
      rw [List.forall_mem_cons, ← ih, ← Variable.check_eq_ok_iff, checkAll]
      split
      · next failed => simp [failed]
      · next passed => simp [passed]

theorem parse_eq_ok_iff {t : Text} {bundle : Bundle} :
    parse t = .ok bundle ↔
      ∃ pairs, Json.object t = .ok pairs ∧ bundle = NameMap.ofList pairs ∧
        ∀ e ∈ bundle.entries, Variable.Sound e.1 e.2 := by
  simp only [parse, ← checkAll_eq_ok_iff]
  split
  · next failed => simp [failed]
  · next pairs read =>
    simp only [read, Except.ok.injEq, exists_eq_left']
    split
    · next failed =>
      simp only [reduceCtorEq, false_iff, not_and]
      rintro rfl
      simp [failed]
    · next passed =>
      constructor
      · intro same
        cases same
        exact ⟨rfl, passed⟩
      · rintro ⟨rfl, _⟩
        rfl

theorem parse_of_object {t : Text} {pairs : List (Text × Text)} (read : Json.object t = .ok pairs)
    (passed : checkAll (NameMap.ofList pairs).entries = .ok ()) :
    parse t = .ok (NameMap.ofList pairs) :=
  parse_eq_ok_iff.2 ⟨pairs, read, rfl, checkAll_eq_ok_iff.1 passed⟩

/-- One variable that does not pass spoils a bundle, whatever else is in it. -/
theorem parse_of_unsound {t : Text} {pairs : List (Text × Text)} {e : Text × Text}
    (read : Json.object t = .ok pairs) (member : e ∈ (NameMap.ofList pairs).entries)
    (bad : ¬Variable.Sound e.1 e.2) : ∃ fault, parse t = .error (.badVariable fault) := by
  simp only [parse, read]
  split
  · next fault _ => exact ⟨fault, rfl⟩
  · next passed => exact absurd (checkAll_eq_ok_iff.1 passed e member) bad

theorem sound_of_parse {t : Text} {bundle : Bundle} (parsed : parse t = .ok bundle) :
    ∀ e ∈ bundle.entries, Variable.Sound e.1 e.2 := by
  obtain ⟨pairs, _, _, sound⟩ := parse_eq_ok_iff.1 parsed
  exact sound

theorem settable_of_parse {t : Text} {bundle : Bundle} (parsed : parse t = .ok bundle) :
    ∀ e ∈ bundle.entries, Environment.settable e.1 e.2 = true := by
  intro e member
  exact (sound_of_parse parsed e member).settable

end EnvBundle.Bundle
