/-!
Maps held as lists in ascending order of their names. The order is part of the type, so whatever
walks a map walks it in that order, and two maps with the same entries are equal.
-/
namespace EnvBundle

/-- Strictly ascending names. -/
def Ascending {κ ν : Type} [Ord κ] (entries : List (κ × ν)) : Prop :=
  entries.Pairwise fun a b => compare a.1 b.1 = .lt

structure NameMap (κ ν : Type) [Ord κ] where
  entries : List (κ × ν)
  ascending : Ascending entries

namespace NameMap

variable {κ ν : Type} [Ord κ]

/-- Puts a value in its place, instead of the one of the same name. -/
def place (name : κ) (value : ν) : List (κ × ν) → List (κ × ν)
  | [] => [(name, value)]
  | (k, v) :: rest =>
    match compare name k with
    | .lt => (name, value) :: (k, v) :: rest
    | .eq => (name, value) :: rest
    | .gt => (k, v) :: place name value rest

theorem mem_place {name : κ} {value : ν} {entries : List (κ × ν)} {e : κ × ν}
    (h : e ∈ place name value entries) : e = (name, value) ∨ e ∈ entries := by
  induction entries with
  | nil => simpa [place] using h
  | cons p rest ih =>
    obtain ⟨k, v⟩ := p
    simp only [place] at h
    split at h <;> simp only [List.mem_cons] at h ⊢
    · exact h
    · rcases h with h | h
      · exact .inl h
      · exact .inr (.inr h)
    · rcases h with h | h
      · exact .inr (.inl h)
      · rcases ih h with h | h
        · exact .inl h
        · exact .inr (.inr h)

variable [Std.TransOrd κ]

theorem ascending_place {name : κ} {value : ν} {entries : List (κ × ν)}
    (h : Ascending entries) : Ascending (place name value entries) := by
  induction entries with
  | nil => simp [place, Ascending]
  | cons p rest ih =>
    obtain ⟨k, v⟩ := p
    obtain ⟨above, tail⟩ := List.pairwise_cons.1 h
    simp only [place]
    split
    · next lt =>
      refine List.pairwise_cons.2 ⟨fun e he => ?_, h⟩
      rcases List.mem_cons.1 he with rfl | he
      · exact lt
      · exact Std.TransCmp.lt_trans lt (above e he)
    · next eq =>
      exact List.pairwise_cons.2
        ⟨fun e he => Std.TransCmp.lt_of_eq_of_lt eq (above e he), tail⟩
    · next gt =>
      refine List.pairwise_cons.2 ⟨fun e he => ?_, ih tail⟩
      rcases mem_place he with rfl | he
      · exact Std.OrientedCmp.gt_iff_lt.1 gt
      · exact above e he

def empty : NameMap κ ν := ⟨[], List.Pairwise.nil⟩

def insert (map : NameMap κ ν) (name : κ) (value : ν) : NameMap κ ν :=
  ⟨place name value map.entries, ascending_place map.ascending⟩

/-- A repeated name keeps its last value. -/
def ofList (pairs : List (κ × ν)) : NameMap κ ν :=
  pairs.foldl (fun map (name, value) => map.insert name value) empty

omit [Std.TransOrd κ] in
theorem entries_injective {a b : NameMap κ ν} (h : a.entries = b.entries) : a = b := by
  cases a; cases b; cases h; rfl

def get? [DecidableEq κ] (map : NameMap κ ν) (name : κ) : Option ν := map.entries.lookup name

def size (map : NameMap κ ν) : Nat := map.entries.length

def keys (map : NameMap κ ν) : List κ := map.entries.map Prod.fst

omit [Std.TransOrd κ] in
@[simp] theorem entries_empty : (empty : NameMap κ ν).entries = [] := rfl

@[simp] theorem entries_insert (map : NameMap κ ν) (name : κ) (value : ν) :
    (map.insert name value).entries = place name value map.entries := rfl

end NameMap

end EnvBundle
