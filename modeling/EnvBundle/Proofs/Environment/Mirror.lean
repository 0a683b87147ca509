import EnvBundle.Proofs.Environment.Filling
import EnvBundle.Proofs.Text.Order

/-! The process store that holds what a memory store holds. A process takes and gives back what the
memory does, as long as every name and every value is one a process can have. -/
namespace EnvBundle

open Utf8 (encode)

theorem Environment.map_place (name value : Text) (entries : List (Text × Text)) :
    (NameMap.place name value entries).map encodeEntry =
      NameMap.place (encode name) (encode value) (entries.map encodeEntry) := by
  induction entries with
  | nil => rfl
  | cons e entries ih =>
      obtain ⟨k, v⟩ := e
      change _ = NameMap.place (encode name) (encode value)
        ((encode k, encode v) :: entries.map encodeEntry)
      rw [NameMap.place, NameMap.place, Utf8.compare_encode]
      cases compare name k with
      | lt => rfl
      | eq => rfl
      | gt => exact congrArg (encodeEntry (k, v) :: ·) ih

/-- The variables of a memory store as a process holds them. -/
def NameMap.encoded (vars : NameMap Text Text) : NameMap Bytes Bytes where
  entries := vars.entries.map Environment.encodeEntry
  ascending := by
    rw [Ascending, List.pairwise_map]
    refine vars.ascending.imp ?_
    intro a b less
    exact (Utf8.compare_encode a.1 b.1).trans less

/-- Variables that a process can have. -/
def NameMap.Holdable (vars : NameMap Text Text) : Prop :=
  ∀ e ∈ vars.entries, Environment.settable e.1 e.2 = true

namespace Environment

theorem entries_encoded (vars : NameMap Text Text) :
    (process vars.encoded).entries = (memory vars).entries := rfl

theorem encoded_insert (vars : NameMap Text Text) (name value : Text) :
    (vars.insert name value).encoded = vars.encoded.insert (encode name) (encode value) :=
  NameMap.entries_injective (map_place name value vars.entries)

theorem holdable_insert {vars : NameMap Text Text} {name value : Text} (holdable : vars.Holdable)
    (holds : settable name value = true) : (vars.insert name value).Holdable := by
  intro e member
  rcases NameMap.mem_place member with rfl | kept
  · exact holds
  · exact holdable e kept

theorem set?_encoded (vars : NameMap Text Text) {name value : Text}
    (holds : settable name value = true) :
    (process vars.encoded).set? name value = some (process (vars.insert name value).encoded) := by
  rw [set?, if_pos holds, encoded_insert]

/-- A name that a process variable can have. -/
def Nameable (name : Text) : Prop := settable name [] = true

instance (name : Text) : Decidable (Nameable name) :=
  inferInstanceAs (Decidable (settable name [] = true))

theorem nameable_of_settable {name value : Text} (holds : settable name value = true) :
    Nameable name := by
  obtain ⟨filled, named, clean, _⟩ := settable_iff.1 holds
  exact settable_iff.2 ⟨filled, named, clean, List.not_mem_nil⟩

theorem raw?_encoded (vars : NameMap Text Text) {name : Text} (nameable : Nameable name) :
    (process vars.encoded).raw? name = (memory vars).raw? name := by
  obtain ⟨_, named, clean, _⟩ := settable_iff.1 nameable
  rw [raw?_eq_stored? _ named clean, raw?_eq_stored? _ named clean, stored?, stored?,
    entries_encoded]

theorem get?_encoded (vars : NameMap Text Text) {name : Text} (nameable : Nameable name) :
    (process vars.encoded).get? name = (memory vars).get? name := by
  rw [get?_eq_raw?, get?_eq_raw?, raw?_encoded vars nameable]

theorem isSet_encoded (vars : NameMap Text Text) {name : Text} (nameable : Nameable name) :
    (process vars.encoded).isSet name = (memory vars).isSet name := by
  rw [isSet_eq_raw?, isSet_eq_raw?, raw?_encoded vars nameable]

end Environment

/-- Two ends of one operation, on a memory and on a process: neither store refused anything, they
came to one result, and they hold the same variables. -/
def Outcome.Alike {α : Type} (inMemory inProcess : Outcome α) : Prop :=
  ∃ (vars : NameMap Text Text) (value : α), vars.Holdable ∧
    inMemory = .done (.memory vars) value ∧ inProcess = .done (.process vars.encoded) value

theorem Outcome.Alike.of_done {α : Type} {vars : NameMap Text Text} (holdable : vars.Holdable)
    (value : α) :
    Alike (.done (.memory vars) value) (.done (.process vars.encoded) value) :=
  ⟨vars, value, holdable, rfl, rfl⟩

theorem Outcome.Alike.andThen {α β : Type} {inMemory inProcess : Outcome α}
    {next : Environment → α → Outcome β} (alike : Alike inMemory inProcess)
    (further : ∀ (vars : NameMap Text Text) value, vars.Holdable →
      Alike (next (.memory vars) value) (next (.process vars.encoded) value)) :
    Alike (inMemory.andThen next) (inProcess.andThen next) := by
  obtain ⟨vars, value, holdable, rfl, rfl⟩ := alike
  exact further vars value holdable

/-- Filling goes alike in both: each entry is set in both or in neither, and is then written to
both or to neither. -/
theorem Environment.fill_alike {vars : NameMap Text Text} (holdable : vars.Holdable)
    {entries : List (Text × Text)} (holds : ∀ e ∈ entries, settable e.1 e.2 = true) :
    Outcome.Alike ((memory vars).fill entries) ((process vars.encoded).fill entries) := by
  induction entries generalizing vars with
  | nil => exact .of_done holdable 0
  | cons e entries ih =>
      obtain ⟨name, value⟩ := e
      obtain ⟨first, rest⟩ := List.forall_mem_cons.1 holds
      rw [fill, fill, isSet_encoded vars (nameable_of_settable first), set?_encoded vars first]
      split
      · exact ih holdable rest
      · apply (ih (holdable_insert holdable first) rest).andThen
        intro after count holdable
        exact .of_done holdable (count + 1)

end EnvBundle
