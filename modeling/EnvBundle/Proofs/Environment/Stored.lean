import EnvBundle.Environment
import EnvBundle.Proofs.NameMap
import EnvBundle.Proofs.Text.Utf8

/-!
What a store holds, byte for byte and for every name, decodable or not. A write changes one
variable. Both kinds of store look a proper name up in the same way.
-/
namespace EnvBundle.Environment

open Utf8 (encode decode?)

/-- The bytes a store has under a name, which is a sequence of bytes too. -/
def stored? (env : Environment) (name : Bytes) : Option Bytes := env.entries.lookup name

def encodeEntry (entry : Text × Text) : Bytes × Bytes := (encode entry.1, encode entry.2)

theorem lookup_map_encodeEntry (entries : List (Text × Text)) (name : Text) :
    (entries.map encodeEntry).lookup (encode name) = (entries.lookup name).map encode := by
  induction entries with
  | nil => rfl
  | cons e entries ih =>
      obtain ⟨k, v⟩ := e
      change ((encode k, encode v) :: entries.map encodeEntry).lookup (encode name) = _
      rw [lookup_cons_eq, lookup_cons_eq, ih]
      simp only [Utf8.encode_inj]
      split <;> rfl

/-- A memory store has no variable whose name is not a text. -/
theorem lookup_map_encodeEntry_of_undecodable (entries : List (Text × Text)) {name : Bytes}
    (undecodable : ∀ k : Text, encode k ≠ name) :
    (entries.map encodeEntry).lookup name = none := by
  rw [List.lookup_eq_none_iff]
  intro e member
  obtain ⟨entry, _, rfl⟩ := List.mem_map.1 member
  exact bne_iff_ne.2 (Ne.symm (undecodable entry.1))

theorem stored?_memory (vars : NameMap Text Text) (name : Text) :
    (memory vars).stored? (encode name) = (vars.get? name).map encode := by
  rw [NameMap.get?, ← lookup_eq_lookup]
  exact lookup_map_encodeEntry vars.entries name

theorem stored?_process (vars : NameMap Bytes Bytes) (name : Bytes) :
    (process vars).stored? name = vars.get? name := lookup_eq_lookup name vars.entries

theorem set?_process_eq_some {vars : NameMap Bytes Bytes} {name value : Text} {next : Environment}
    (h : (process vars).set? name value = some next) :
    settable name value = true ∧ next = process (vars.insert (encode name) (encode value)) := by
  rw [set?] at h
  split at h
  · next holds => exact ⟨holds, (Option.some.inj h).symm⟩
  · cases h

theorem settable_iff {name value : Text} :
    settable name value = true ↔ name ≠ [] ∧ '=' ∉ name ∧ '\x00' ∉ name ∧ '\x00' ∉ value := by
  simp only [settable, Bool.and_eq_true, Bool.not_eq_true', bne_iff_ne, List.contains_eq_mem,
    decide_eq_false_iff_not, and_assoc]

theorem set?_eq_some_of_settable (env : Environment) {name value : Text}
    (holds : settable name value = true) : ∃ next, env.set? name value = some next := by
  cases env with
  | memory vars => exact ⟨_, rfl⟩
  | process vars => exact ⟨_, if_pos holds⟩

theorem set?_process_eq_none_iff {vars : NameMap Bytes Bytes} {name value : Text} :
    (process vars).set? name value = none ↔ ¬settable name value = true := by
  rw [set?]
  split
  · next holds => simp [holds]
  · next refused => simp [refused]

/-- What a store refuses does not depend on what it holds. -/
theorem set?_eq_none_iff_of_set? {env next : Environment} {name value : Text}
    (h : env.set? name value = some next) (other content : Text) :
    next.set? other content = none ↔ env.set? other content = none := by
  cases env with
  | memory vars =>
      cases h
      exact iff_of_false nofun nofun
  | process vars =>
      obtain ⟨_, rfl⟩ := set?_process_eq_some h
      rw [set?_process_eq_none_iff, set?_process_eq_none_iff]

/-- A write gives one variable its value and leaves every other one alone. -/
theorem stored?_of_set? {env next : Environment} {name value : Text}
    (h : env.set? name value = some next) (other : Bytes) :
    next.stored? other = if other = encode name then some (encode value) else env.stored? other := by
  cases env with
  | memory vars =>
      cases h
      by_cases decodable : ∃ k : Text, encode k = other
      · obtain ⟨k, rfl⟩ := decodable
        rw [stored?_memory, stored?_memory, NameMap.get?_insert]
        simp only [Utf8.encode_inj]
        split <;> rfl
      · -- A name that is no text has no variable, neither before the write nor after it.
        have none : ∀ k : Text, encode k ≠ other := fun k same => decodable ⟨k, same⟩
        rw [if_neg (Ne.symm (none name))]
        exact (lookup_map_encodeEntry_of_undecodable _ none).trans
          (lookup_map_encodeEntry_of_undecodable _ none).symm
  | process vars =>
      obtain ⟨_, rfl⟩ := set?_process_eq_some h
      rw [stored?_process, stored?_process, NameMap.get?_insert]

/-- A name without an equals sign is looked up as it is. One with a NUL is never found in a
process. -/
theorem raw?_process (vars : NameMap Bytes Bytes) {name : Text} (named : '=' ∉ name) :
    (process vars).raw? name = if '\x00' ∈ name then none else vars.get? (encode name) := by
  have equalsAscii : '='.toNat < 0x80 := by decide
  have nulAscii : '\x00'.toNat < 0x80 := by decide
  have noSign : Split.first? equalsSign (encode name) = none :=
    Split.first?_eq_none_iff.2 (mt (Utf8.mem_encode equalsAscii name).1 named)
  have nul : (0 : UInt8) ∈ encode name ↔ '\x00' ∈ name := Utf8.mem_encode nulAscii name
  simp only [raw?, lookupBytes, noSign, nul]

theorem raw?_eq_stored? (env : Environment) {name : Text} (named : '=' ∉ name)
    (clean : '\x00' ∉ name) : env.raw? name = env.stored? (encode name) := by
  cases env with
  | memory vars => rw [stored?_memory, raw?]
  | process vars => rw [raw?_process vars named, if_neg clean, stored?_process]

theorem raw?_of_set? {env next : Environment} {name value other : Text}
    (h : env.set? name value = some next) (named : '=' ∉ other) (apart : other ≠ name) :
    next.raw? other = env.raw? other := by
  cases env with
  | memory vars =>
      cases h
      rw [raw?, raw?, NameMap.get?_insert, if_neg apart]
  | process vars =>
      obtain ⟨_, rfl⟩ := set?_process_eq_some h
      have different : encode other ≠ encode name := mt Utf8.encode_inj.1 apart
      rw [raw?_process _ named, raw?_process _ named, NameMap.get?_insert, if_neg different]

theorem isSet_eq_raw? (env : Environment) (name : Text) :
    env.isSet name = (env.raw? name).any (· != []) := by
  cases env with
  | memory vars =>
      rw [isSet, raw?, Option.any_map]
      cases vars.get? name with
      | none => rfl
      | some value =>
          simp only [Option.any_some]
          rw [Bool.eq_iff_iff, bne_iff_ne, bne_iff_ne, ne_eq, ne_eq, Utf8.encode_eq_nil]
  | process vars => rfl

theorem get?_eq_raw? (env : Environment) (name : Text) :
    env.get? name = (env.raw? name).bind decode? := by
  cases env with
  | memory vars =>
      rw [get?, raw?, Option.bind_map]
      simp only [Function.comp_def, Utf8.decode?_encode, Option.bind_fun_some]
  | process vars => rfl

theorem filled?_eq_some_iff {env : Environment} {name : Text} {bytes : Bytes} :
    env.filled? name = some bytes ↔ env.raw? name = some bytes ∧ bytes ≠ [] := by
  rw [filled?, Option.filter_eq_some_iff, bne_iff_ne]

theorem filled?_eq_none_iff {env : Environment} {name : Text} :
    env.filled? name = none ↔ ∀ bytes, env.raw? name = some bytes → bytes = [] := by
  rw [filled?, Option.filter_eq_none_iff]
  simp

theorem isSet_of_set? {env next : Environment} {name value other : Text}
    (h : env.set? name value = some next) (named : '=' ∉ other) (apart : other ≠ name) :
    next.isSet other = env.isSet other := by
  rw [isSet_eq_raw?, isSet_eq_raw?, raw?_of_set? h named apart]

/-- Whatever counts as set is held under its own name and is not empty. -/
theorem stored?_of_isSet {env : Environment} {name : Text} (named : '=' ∉ name)
    (set : env.isSet name = true) : ∃ b rest, env.stored? (encode name) = some (b :: rest) := by
  rw [isSet_eq_raw?] at set
  have found : env.raw? name = env.stored? (encode name) := by
    cases env with
    | memory vars => rw [stored?_memory, raw?]
    | process vars =>
        -- A process finds nothing under a name with a NUL, so what is set has a clean name.
        rw [raw?_process vars named] at set ⊢
        split at set
        · cases set
        · next clean => rw [if_neg clean, stored?_process]
  rw [found] at set
  cases held : env.stored? (encode name) with
  | none => rw [held] at set; cases set
  | some bytes =>
      cases bytes with
      | nil => rw [held] at set; cases set
      | cons b rest => exact ⟨b, rest, rfl⟩

end EnvBundle.Environment
