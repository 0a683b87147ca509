import EnvBundle.Environment
import EnvBundle.Proofs.NameMap

/-!
Filling a memory. It takes every write, so filling it is an operation on maps, in which the first
gives way to the second where it has nothing or an empty value. The operation is associative, and
so one filling does the work of two.
-/
namespace EnvBundle

namespace NameMap

/-- No value, or an empty one. -/
def Lacks (vars : NameMap Text Text) (name : Text) : Prop :=
  vars.get? name = none ∨ vars.get? name = some []

instance (vars : NameMap Text Text) (name : Text) : Decidable (vars.Lacks name) :=
  inferInstanceAs (Decidable (vars.get? name = none ∨ vars.get? name = some []))

/-- What a name has in two maps together. A value of the first that is not empty comes before one
of the second, and that before an empty one of the first. -/
def preferred : Option Text → Option Text → Option Text
  | some (c :: rest), _ => some (c :: rest)
  | _, some value => some value
  | held, none => held

theorem preferred_none (held : Option Text) : preferred held none = held := by
  rcases held with _ | _ | ⟨c, rest⟩ <;> rfl

theorem preferred_assoc (held first second : Option Text) :
    preferred (preferred held first) second = preferred held (preferred first second) := by
  rcases held with _ | _ | ⟨c, rest⟩
  · rcases first with _ | _ | ⟨d, more⟩ <;> cases second <;> rfl
  · rcases first with _ | _ | ⟨d, more⟩ <;> cases second <;> rfl
  · rfl

theorem preferred_self (held : Option Text) : preferred held held = held := by
  rcases held with _ | _ | ⟨c, rest⟩ <;> rfl

theorem preferred_of_lacks {vars : NameMap Text Text} {name : Text} (lacks : vars.Lacks name)
    (value : Text) : preferred (vars.get? name) (some value) = some value := by
  rcases lacks with held | held
  · rw [held]
    rfl
  · rw [held]
    rfl

theorem preferred_of_not_lacks {vars : NameMap Text Text} {name : Text}
    (full : ¬vars.Lacks name) (other : Option Text) :
    preferred (vars.get? name) other = vars.get? name := by
  rw [Lacks, not_or] at full
  rcases held : vars.get? name with _ | _ | ⟨c, rest⟩
  · exact absurd held full.1
  · exact absurd held full.2
  · rfl

/-- Gives a name a value if it lacks one. -/
def offer (vars : NameMap Text Text) (name value : Text) : NameMap Text Text :=
  if vars.Lacks name then vars.insert name value else vars

/-- Gives each name its value, in the order given, if it lacks one. -/
def fill (vars : NameMap Text Text) : List (Text × Text) → NameMap Text Text
  | [] => vars
  | (name, value) :: rest => (vars.offer name value).fill rest

theorem get?_offer (vars : NameMap Text Text) (name value other : Text) :
    (vars.offer name value).get? other =
      if other = name then preferred (vars.get? name) (some value) else vars.get? other := by
  rw [offer]
  split
  · next lacks => rw [get?_insert, preferred_of_lacks lacks]
  · next full =>
    rw [preferred_of_not_lacks full]
    split
    · next same => rw [same]
    · rfl

theorem lacks_offer_iff (vars : NameMap Text Text) {name other : Text} (value : Text)
    (apart : other ≠ name) : (vars.offer name value).Lacks other ↔ vars.Lacks other := by
  rw [Lacks, Lacks, get?_offer, if_neg apart]

theorem get?_fill (vars : NameMap Text Text) {entries : List (Text × Text)}
    (distinct : (entries.map Prod.fst).Nodup) (name : Text) :
    (vars.fill entries).get? name = preferred (vars.get? name) (entries.lookup name) := by
  induction entries generalizing vars with
  | nil => exact (preferred_none _).symm
  | cons e entries ih =>
      obtain ⟨first, value⟩ := e
      obtain ⟨absent, distinct⟩ := List.nodup_cons.1 distinct
      rw [fill, ih _ distinct, get?_offer, lookup_cons_eq]
      by_cases here : name = first
      · rw [if_pos here, if_pos here, here, lookup_eq_none_of_notMem absent, preferred_none]
      · rw [if_neg here, if_neg here]

theorem get?_fill_entries (vars other : NameMap Text Text) (name : Text) :
    (vars.fill other.entries).get? name = preferred (vars.get? name) (other.get? name) := by
  rw [get?_fill vars other.nodup_keys, lookup_eq_lookup]
  rfl

theorem fill_fill (vars first second : NameMap Text Text) :
    (vars.fill first.entries).fill second.entries =
      vars.fill (first.fill second.entries).entries := by
  apply eq_of_get?
  intro name
  simp only [get?_fill_entries, preferred_assoc]

theorem fill_self (vars : NameMap Text Text) : vars.fill vars.entries = vars := by
  apply eq_of_get?
  intro name
  rw [get?_fill_entries, preferred_self]

/-- What still lacks a value after a filling lacked one before, and was given an empty one. -/
theorem lacks_fill_iff (vars : NameMap Text Text) {other : NameMap Text Text} {e : Text × Text}
    (member : e ∈ other.entries) :
    (vars.fill other.entries).Lacks e.1 ↔ e.2 = [] ∧ vars.Lacks e.1 := by
  have given : other.get? e.1 = some e.2 := other.mem_entries_iff.1 member
  rw [Lacks, get?_fill_entries, given]
  by_cases lacks : vars.Lacks e.1
  · simp [preferred_of_lacks lacks, lacks]
  · rw [preferred_of_not_lacks lacks]
    exact iff_of_false lacks fun both => lacks both.2

end NameMap

namespace Environment

theorem isSet_memory_iff (vars : NameMap Text Text) (name : Text) :
    (memory vars).isSet name = true ↔ ¬vars.Lacks name := by
  rw [isSet, NameMap.Lacks]
  rcases vars.get? name with _ | _ | ⟨c, rest⟩ <;> simp

/-- Filling a memory fills its map, and counts the names that lack a value before the first
write. -/
theorem fill_memory (vars : NameMap Text Text) {entries : List (Text × Text)}
    (distinct : (entries.map Prod.fst).Nodup) :
    (memory vars).fill entries =
      .done (memory (vars.fill entries)) (entries.countP fun e => vars.Lacks e.1) := by
  induction entries generalizing vars with
  | nil => rfl
  | cons e entries ih =>
      obtain ⟨name, value⟩ := e
      obtain ⟨absent, distinct⟩ := List.nodup_cons.1 distinct
      have same : (entries.countP fun e => (vars.offer name value).Lacks e.1) =
          entries.countP fun e => vars.Lacks e.1 := by
        refine List.countP_congr fun e member => ?_
        have apart : e.1 ≠ name := fun here => absent (List.mem_map.2 ⟨e, member, here⟩)
        simp only [vars.lacks_offer_iff value apart]
      have rest := ih (vars.offer name value) distinct
      rw [same] at rest
      rw [fill, NameMap.fill]
      by_cases lacks : vars.Lacks name
      · rw [NameMap.offer, if_pos lacks] at rest ⊢
        rw [if_neg (mt (isSet_memory_iff vars name).1 (not_not_intro lacks))]
        rw [List.countP_cons_of_pos (by simp [lacks])]
        simp only [set?, rest, Outcome.andThen]
      · rw [NameMap.offer, if_neg lacks] at rest ⊢
        rw [if_pos ((isSet_memory_iff vars name).2 lacks), rest,
          List.countP_cons_of_neg (by simp [lacks])]

/-- Filling a memory from one map and then from another leaves what filling it once from the two
together leaves. Filling it from the same map again changes nothing, but it counts the names that
lacked a value at first and were given an empty one. -/
theorem fillings_compose (vars first second : NameMap Text Text) :
    ∃ both between after : NameMap Text Text,
      (∀ name, both.get? name = NameMap.preferred (first.get? name) (second.get? name)) ∧
      (memory vars).fill first.entries =
        .done (memory between) (first.entries.countP fun e => vars.Lacks e.1) ∧
      (memory between).fill second.entries =
        .done (memory after) (second.entries.countP fun e => between.Lacks e.1) ∧
      (memory vars).fill both.entries =
        .done (memory after) (both.entries.countP fun e => vars.Lacks e.1) ∧
      (memory between).fill first.entries =
        .done (memory between) (first.entries.countP fun e => e.2 = [] ∧ vars.Lacks e.1) := by
  refine ⟨first.fill second.entries, vars.fill first.entries,
    (vars.fill first.entries).fill second.entries, first.get?_fill_entries second,
    fill_memory vars first.nodup_keys, fill_memory _ second.nodup_keys, ?_, ?_⟩
  · rw [NameMap.fill_fill]
    exact fill_memory vars (first.fill second.entries).nodup_keys
  · rw [fill_memory _ first.nodup_keys, NameMap.fill_fill, NameMap.fill_self]
    refine congrArg _ (List.countP_congr fun e member => ?_)
    simp only [decide_eq_true_eq, vars.lacks_fill_iff member]

end Environment

end EnvBundle
