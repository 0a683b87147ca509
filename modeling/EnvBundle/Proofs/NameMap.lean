import EnvBundle.NameMap
import Mathlib.Data.List.Nodup
import Mathlib.Data.List.Perm.Basic
import Mathlib.Logic.Basic

/-! Looking up a name in a map, after writes and in a map made of a list. The entries of a map
have distinct names, and a map is what it gives under each of them. -/
namespace EnvBundle

section Lists

variable {κ ν : Type} [test : BEq κ] [LawfulBEq κ]

theorem lookup_cons_eq [DecidableEq κ] (name other : κ) (value : ν) (entries : List (κ × ν)) :
    ((other, value) :: entries).lookup name =
      if name = other then some value else entries.lookup name := by
  by_cases same : name = other
  · rw [same, List.lookup_cons_self, if_pos rfl]
  · rw [List.lookup_cons, beq_false_of_ne same, if_neg same]

/-- Which test for equality a search uses makes no difference to it. -/
theorem lookup_eq_lookup [DecidableEq κ] (name : κ) (entries : List (κ × ν)) :
    entries.lookup name = @List.lookup κ ν instBEqOfDecidableEq name entries := by
  rw [lawful_beq_subsingleton test instBEqOfDecidableEq]

theorem lookup_eq_some_of_mem {entries : List (κ × ν)} (distinct : (entries.map Prod.fst).Nodup)
    {name : κ} {value : ν} (member : (name, value) ∈ entries) :
    entries.lookup name = some value := by
  induction entries with
  | nil => cases member
  | cons e entries ih =>
      obtain ⟨first, v⟩ := e
      obtain ⟨absent, rest⟩ := List.nodup_cons.1 distinct
      rcases List.mem_cons.1 member with same | later
      · cases same
        exact List.lookup_cons_self
      · have apart : name ≠ first := by
          intro same
          exact absent (List.mem_map.2 ⟨(name, value), later, same⟩)
        rw [List.lookup_cons, beq_false_of_ne apart]
        exact ih rest later

theorem mem_of_lookup_eq_some {entries : List (κ × ν)} {name : κ} {value : ν}
    (found : entries.lookup name = some value) : (name, value) ∈ entries := by
  obtain ⟨before, behind, whole, _⟩ := List.lookup_eq_some_iff.1 found
  rw [whole]
  exact List.mem_append_right before List.mem_cons_self

theorem lookup_eq_none_of_notMem {entries : List (κ × ν)} {name : κ}
    (absent : name ∉ entries.map Prod.fst) : entries.lookup name = none := by
  rw [List.lookup_eq_none_iff]
  intro e member
  rw [bne_iff_ne]
  intro same
  exact absent (List.mem_map.2 ⟨e, member, same.symm⟩)

end Lists

namespace NameMap

variable {κ ν : Type} [Ord κ] [Std.LawfulEqOrd κ]

theorem nodup_keys (map : NameMap κ ν) : (map.entries.map Prod.fst).Nodup := by
  rw [List.nodup_iff_pairwise_ne, List.pairwise_map]
  refine map.ascending.imp ?_
  intro a b less same
  rw [same] at less
  cases Std.ReflCmp.compare_self.symm.trans less

variable [DecidableEq κ]

theorem lookup_place (name : κ) (value : ν) (entries : List (κ × ν)) (other : κ) :
    (place name value entries).lookup other =
      if other = name then some value else entries.lookup other := by
  induction entries with
  | nil => exact lookup_cons_eq other name value []
  | cons e entries ih =>
      obtain ⟨k, v⟩ := e
      simp only [place]
      split
      · exact lookup_cons_eq other name value _
      · next eq =>
        have same : name = k := Std.LawfulEqCmp.eq_of_compare eq
        subst same
        rw [lookup_cons_eq, lookup_cons_eq]
        split <;> rfl
      · next gt =>
        have apart : k ≠ name := by
          intro same
          rw [same] at gt
          cases Std.ReflCmp.compare_self.symm.trans gt
        rw [lookup_cons_eq, lookup_cons_eq, ih]
        by_cases here : other = k
        · rw [if_pos here, if_pos here, if_neg (here ▸ apart)]
        · rw [if_neg here, if_neg here]

theorem mem_entries_iff (map : NameMap κ ν) {name : κ} {value : ν} :
    (name, value) ∈ map.entries ↔ map.get? name = some value :=
  ⟨lookup_eq_some_of_mem map.nodup_keys, mem_of_lookup_eq_some⟩

variable [Std.TransOrd κ]

theorem eq_of_get? {a b : NameMap κ ν} (same : ∀ name, a.get? name = b.get? name) : a = b := by
  have distinct : ∀ map : NameMap κ ν, map.entries.Nodup := fun map => map.nodup_keys.of_map
  have perm : a.entries.Perm b.entries := by
    rw [List.perm_ext_iff_of_nodup (distinct a) (distinct b)]
    rintro ⟨name, value⟩
    rw [mem_entries_iff, mem_entries_iff, same]
  apply entries_injective
  refine perm.eq_of_pairwise ?_ a.ascending b.ascending
  intro e f _ _ less greater
  cases (Std.OrientedCmp.gt_iff_lt.2 less).symm.trans greater

theorem get?_insert (map : NameMap κ ν) (name : κ) (value : ν) (other : κ) :
    (map.insert name value).get? other = if other = name then some value else map.get? other :=
  lookup_place name value map.entries other

theorem get?_foldl_insert (pairs : List (κ × ν)) (map : NameMap κ ν) (name : κ) :
    (pairs.foldl (fun map (name, value) => map.insert name value) map).get? name =
      (pairs.reverse.lookup name).or (map.get? name) := by
  induction pairs generalizing map with
  | nil => rfl
  | cons e pairs ih =>
      obtain ⟨k, v⟩ := e
      rw [List.foldl_cons, ih, get?_insert, List.reverse_cons, List.lookup_append, lookup_cons_eq,
        Option.or_assoc]
      split <;> rfl

/-- A repeated name has its last value. -/
theorem get?_ofList [BEq κ] [LawfulBEq κ] (pairs : List (κ × ν)) (name : κ) :
    (ofList pairs).get? name = pairs.reverse.lookup name := by
  rw [lookup_eq_lookup]
  exact (get?_foldl_insert pairs empty name).trans Option.or_none

/-- Distinct names are only put in order. -/
theorem perm_entries_ofList {pairs : List (κ × ν)} (distinct : (pairs.map Prod.fst).Nodup) :
    (ofList pairs).entries.Perm pairs := by
  have turned : (pairs.reverse.map Prod.fst).Nodup := by
    rw [List.map_reverse]
    exact List.nodup_reverse.2 distinct
  rw [List.perm_ext_iff_of_nodup (ofList pairs).nodup_keys.of_map distinct.of_map]
  rintro ⟨name, value⟩
  rw [mem_entries_iff, get?_ofList, ← List.mem_reverse]
  exact ⟨mem_of_lookup_eq_some, lookup_eq_some_of_mem turned⟩

end NameMap

end EnvBundle
