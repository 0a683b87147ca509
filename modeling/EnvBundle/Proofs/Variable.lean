import EnvBundle.Proofs.Environment.Stored
import EnvBundle.Variable

/-! Which variables pass the checks, and that a process can hold every one of them. -/
namespace EnvBundle.Variable

/-- A name and a value without anything that is refused in them. -/
structure Sound (name value : Text) : Prop where
  name_ne_nil : name ≠ []
  unmarked : ∀ c ∈ name, Mark.ofChar? c = none
  whole : '\x00' ∉ value

theorem ofChar?_eq_none_iff {c : Char} :
    Mark.ofChar? c = none ↔
      c ≠ '=' ∧ c ≠ '\x00' ∧ c ≠ '\'' ∧ Text.isBlank c = false := by
  unfold Mark.ofChar?
  repeat' split
  all_goals simp_all

theorem firstMark?_eq_none_iff {name : Text} :
    firstMark? name = none ↔ ∀ c ∈ name, Mark.ofChar? c = none := by
  induction name with
  | nil => simp [firstMark?]
  | cons c name ih =>
      simp only [firstMark?, List.forall_mem_cons]
      split
      · next marked => simp [marked]
      · next free => simp [free, ih]

theorem checkName_eq_ok_iff {name : Text} :
    checkName name = .ok () ↔ name ≠ [] ∧ ∀ c ∈ name, Mark.ofChar? c = none := by
  rw [← firstMark?_eq_none_iff, checkName]
  split
  · next empty => simp [empty]
  · next filled =>
    split
    · next found => simp [found]
    · next free => simp [filled, free]

theorem checkValue_eq_ok_iff {name value : Text} :
    checkValue name value = .ok () ↔ '\x00' ∉ value := by
  rw [checkValue]
  split
  · next bad => simp [bad]
  · next good => simp [good]

theorem check_eq_ok_iff {name value : Text} : check name value = .ok () ↔ Sound name value := by
  constructor
  · intro passed
    rw [check] at passed
    split at passed
    · cases passed
    · next named =>
      obtain ⟨filled, free⟩ := checkName_eq_ok_iff.1 named
      exact ⟨filled, free, checkValue_eq_ok_iff.1 passed⟩
  · intro sound
    rw [check, checkName_eq_ok_iff.2 ⟨sound.name_ne_nil, sound.unmarked⟩]
    exact checkValue_eq_ok_iff.2 sound.whole

/-- A name that passes is sound beside the empty value. -/
theorem sound_of_checkName {name : Text} (passed : checkName name = .ok ()) : Sound name [] := by
  obtain ⟨filled, unmarked⟩ := checkName_eq_ok_iff.1 passed
  exact ⟨filled, unmarked, List.not_mem_nil⟩

namespace Sound

variable {name value : Text}

theorem ne_equals (sound : Sound name value) : '=' ∉ name :=
  fun member => (ofChar?_eq_none_iff.1 (sound.unmarked _ member)).1 rfl

theorem ne_nul (sound : Sound name value) : '\x00' ∉ name :=
  fun member => (ofChar?_eq_none_iff.1 (sound.unmarked _ member)).2.1 rfl

theorem ne_quote (sound : Sound name value) : '\'' ∉ name :=
  fun member => (ofChar?_eq_none_iff.1 (sound.unmarked _ member)).2.2.1 rfl

theorem not_blank (sound : Sound name value) {c : Char} (member : c ∈ name) :
    Text.isBlank c = false := (ofChar?_eq_none_iff.1 (sound.unmarked c member)).2.2.2

theorem ne_blank (sound : Sound name value) {c : Char} (blank : Text.isBlank c = true) :
    c ∉ name := by
  intro member
  cases blank.symm.trans (sound.not_blank member)

theorem settable (sound : Sound name value) : Environment.settable name value = true :=
  Environment.settable_iff.2 ⟨sound.name_ne_nil, sound.ne_equals, sound.ne_nul, sound.whole⟩

end Sound

end EnvBundle.Variable
