import EnvBundle.Proofs.NameMap
import EnvBundle.Settings

/-!
Tables of fields. A table is taken as a whole or not at all: the first entry that does not fit is
the fault, and if every entry fits each field has the last value that the table gives it.
-/
namespace EnvBundle.Settings

/-- A field of a record: what it holds, how that is read from a value, put into a record and found
in it again. -/
structure RecordField (α : Type) where
  name : Text
  Held : Type
  read : Toml.Value → Except Mismatch Held
  put : Held → α → α
  get : α → Option Held
  get_put : ∀ held taken, get (put held taken) = some held

namespace RecordField

variable {α : Type}

def entry (field : RecordField α) : Text × (Toml.Value → α → Except Mismatch α) :=
  (field.name, fun value taken => (field.read value).map fun held => field.put held taken)

def named? (schema : List (RecordField α)) (name : Text) : Option (RecordField α) :=
  schema.find? fun field => name == field.name

/-- What is wrong with an entry, if anything is: its name, or else its value. -/
def misfit? (schema : List (RecordField α)) (e : Text × Toml.Value) : Option Mismatch :=
  match named? schema e.1 with
  | none => some (.unknownField e.1 (schema.map name))
  | some field =>
    match field.read e.2 with
    | .error mismatch => some mismatch
    | .ok _ => none

/-- Puts the value of an entry into a record. An entry that does not fit leaves it as it is. -/
def write (schema : List (RecordField α)) (taken : α) (e : Text × Toml.Value) : α :=
  match named? schema e.1 with
  | none => taken
  | some field =>
    match field.read e.2 with
    | .error _ => taken
    | .ok held => field.put held taken

def Fits (schema : List (RecordField α)) (table : Toml.Entries) : Prop :=
  ∀ e ∈ table, misfit? schema e = none

/-- The value that a table gives to a name. The last one counts. -/
def stated {β : Type} (name : Text) (read : Toml.Value → Option β) (table : Toml.Entries) :
    Option β :=
  table.reverse.findSome? fun e => if e.1 = name then read e.2 else none

theorem stated_eq_map {β γ : Type} {name : Text} {read : Toml.Value → Option β}
    {other : Toml.Value → Option γ} {f : γ → β} {table : Toml.Entries}
    (same : ∀ e ∈ table, e.1 = name → read e.2 = (other e.2).map f) :
    stated name read table = (stated name other table).map f := by
  rw [stated, stated, List.map_findSome?]
  have reversed : ∀ e ∈ table.reverse, e.1 = name → read e.2 = (other e.2).map f :=
    fun e member => same e (List.mem_reverse.1 member)
  generalize table.reverse = entries at reversed
  induction entries with
  | nil => rfl
  | cons e entries ih =>
      obtain ⟨first, rest⟩ := List.forall_mem_cons.1 reversed
      have here : (if e.1 = name then read e.2 else none) =
          (if e.1 = name then other e.2 else none).map f := by
        split
        · next named => exact first named
        · rfl
      rw [List.findSome?_cons, List.findSome?_cons, ih rest, here]
      rfl

theorem lookup_map_entry (schema : List (RecordField α)) (name : Text) :
    (schema.map entry).lookup name = (named? schema name).map fun field => field.entry.2 := by
  unfold named?
  induction schema with
  | nil => rfl
  | cons field schema ih =>
      rw [List.map_cons, entry, List.lookup_cons, List.find?_cons]
      cases name == field.name with
      | true => rfl
      | false => exact ih

theorem names_map_entry (schema : List (RecordField α)) :
    (schema.map entry).map Prod.fst = schema.map name := by
  rw [List.map_map]
  rfl

/-- Taking a table, without the order of events: it fails with the first misfit, or else writes
every entry. -/
theorem takeNamed_eq (schema : List (RecordField α)) (start : α) (table : Toml.Entries) :
    takeNamed (schema.map entry) start table =
      match table.findSome? (misfit? schema) with
      | some mismatch => .error mismatch
      | none => .ok (table.foldl (write schema) start) := by
  induction table generalizing start with
  | nil => rfl
  | cons e table ih =>
      rw [takeNamed, List.foldlM_cons, List.findSome?_cons, List.foldl_cons, lookup_map_entry,
        names_map_entry]
      cases found : named? schema e.1 with
      | none =>
          simp only [misfit?, found, Option.map_none]
          rfl
      | some field =>
          cases read : field.read e.2 with
          | error mismatch =>
              simp only [misfit?, found, read, Option.map_some, entry, Except.map]
              rfl
          | ok held =>
              simp only [misfit?, write, found, read, Option.map_some, entry, Except.map]
              have rest := ih (field.put held start)
              rw [takeNamed, names_map_entry] at rest
              exact rest

theorem fits_iff {schema : List (RecordField α)} {table : Toml.Entries} :
    Fits schema table ↔ table.findSome? (misfit? schema) = none :=
  List.findSome?_eq_none_iff.symm

theorem takeNamed_eq_ok_iff {schema : List (RecordField α)} {start taken : α}
    {table : Toml.Entries} :
    takeNamed (schema.map entry) start table = .ok taken ↔
      Fits schema table ∧ taken = table.foldl (write schema) start := by
  rw [takeNamed_eq, fits_iff]
  cases table.findSome? (misfit? schema) with
  | none => simp [eq_comm]
  | some mismatch => simp

theorem takeNamed_eq_error_iff {schema : List (RecordField α)} {start : α} {table : Toml.Entries}
    {mismatch : Mismatch} :
    takeNamed (schema.map entry) start table = .error mismatch ↔
      table.findSome? (misfit? schema) = some mismatch := by
  rw [takeNamed_eq]
  cases table.findSome? (misfit? schema) <;> simp

/-- Fields that come with their values are found by their names. -/
theorem foldlM_eq_takeNamed {fields : List (Text × (Toml.Value → α → Except Mismatch α))}
    (distinct : (fields.map Prod.fst).Nodup)
    {pairs : List ((Text × (Toml.Value → α → Except Mismatch α)) × Toml.Value)}
    (known : ∀ pair ∈ pairs, pair.1 ∈ fields) (start : α) :
    pairs.foldlM (fun taken pair => pair.1.2 pair.2 taken) start =
      takeNamed fields start (pairs.map fun pair => (pair.1.1, pair.2)) := by
  induction pairs generalizing start with
  | nil => rfl
  | cons pair pairs ih =>
      obtain ⟨member, known⟩ := List.forall_mem_cons.1 known
      have found : fields.lookup pair.1.1 = some pair.1.2 := lookup_eq_some_of_mem distinct member
      rw [takeNamed, List.map_cons, List.foldlM_cons, List.foldlM_cons, found]
      apply congrArg
      funext next
      exact ih known next

/-- Values by position are values by name, the names being those of the fields in their order. -/
theorem takeListed_eq {fields : List (Text × (Toml.Value → α → Except Mismatch α))}
    (distinct : (fields.map Prod.fst).Nodup) (start : α) (values : List Toml.Value) :
    takeListed fields start values =
      takeNamed fields start ((fields.map Prod.fst).zip values) := by
  have zipped : (fields.map Prod.fst).zip values =
      (fields.zip values).map fun pair => (pair.1.1, pair.2) := List.zip_map_left
  rw [zipped]
  apply foldlM_eq_takeNamed distinct
  intro pair member
  exact (List.of_mem_zip member).1

theorem misfit?_of_unknown {schema : List (RecordField α)} {e : Text × Toml.Value}
    (unknown : ∀ field ∈ schema, field.name ≠ e.1) :
    misfit? schema e = some (.unknownField e.1 (schema.map name)) := by
  have none : named? schema e.1 = none := by
    rw [named?, List.find?_eq_none]
    intro field member
    rw [beq_iff_eq]
    exact (unknown field member).symm
  rw [misfit?, none]

/-- No two fields share a name or a place. -/
structure Independent (schema : List (RecordField α)) : Prop where
  distinct : (schema.map name).Nodup
  apart : ∀ field ∈ schema, ∀ other ∈ schema, other.name ≠ field.name →
    ∀ held taken, field.get (other.put held taken) = field.get taken

theorem named?_of_mem {schema : List (RecordField α)} {field : RecordField α}
    (distinct : (schema.map name).Nodup) (member : field ∈ schema) :
    named? schema field.name = some field := by
  unfold named?
  induction schema with
  | nil => cases member
  | cons first schema ih =>
      obtain ⟨absent, distinct⟩ := List.nodup_cons.1 distinct
      rw [List.find?_cons]
      rcases List.mem_cons.1 member with rfl | later
      · rw [beq_self_eq_true]
      · have apart : field.name ≠ first.name := by
          intro same
          exact absent (List.mem_map.2 ⟨field, later, same⟩)
        rw [beq_false_of_ne apart]
        exact ih distinct later

theorem exists_read_of_fits {schema : List (RecordField α)} {field : RecordField α}
    {table : Toml.Entries} {e : Text × Toml.Value} (distinct : (schema.map name).Nodup)
    (member : field ∈ schema) (fits : Fits schema table) (inside : e ∈ table)
    (named : e.1 = field.name) :
    ∃ held, field.read e.2 = .ok held := by
  have fit := fits e inside
  rw [misfit?, named, named?_of_mem distinct member] at fit
  cases read : field.read e.2 with
  | error mismatch =>
      simp only [read] at fit
      cases fit
  | ok held => exact ⟨held, rfl⟩

theorem Independent.get_write {schema : List (RecordField α)} (independent : Independent schema)
    {field : RecordField α} (member : field ∈ schema) (taken : α) (e : Text × Toml.Value) :
    field.get (write schema taken e) =
      (if e.1 = field.name then (field.read e.2).toOption else none).or (field.get taken) := by
  unfold write
  by_cases here : e.1 = field.name
  · rw [here, named?_of_mem independent.distinct member, if_pos rfl]
    dsimp only
    cases field.read e.2 with
    | error mismatch => rfl
    | ok held => exact field.get_put held taken
  · rw [if_neg here, Option.none_or]
    cases found : named? schema e.1 with
    | none => rfl
    | some other =>
        rw [named?] at found
        have same := List.find?_some found
        have apart : other.name ≠ field.name := fun equal => here ((beq_iff_eq.1 same).trans equal)
        dsimp only
        cases other.read e.2 with
        | error mismatch => rfl
        | ok held =>
            exact independent.apart field member other (List.mem_of_find?_eq_some found) apart held
              taken

/-- A field has the last value stated for it, or what it had before. -/
theorem Independent.get_foldl_write {schema : List (RecordField α)}
    (independent : Independent schema) {field : RecordField α} (member : field ∈ schema)
    (start : α) (table : Toml.Entries) :
    field.get (table.foldl (write schema) start) =
      (stated field.name (fun value => (field.read value).toOption) table).or
        (field.get start) := by
  induction table generalizing start with
  | nil => rfl
  | cons e table ih =>
      rw [List.foldl_cons, ih, independent.get_write member, stated, stated, List.reverse_cons,
        List.findSome?_append, Option.or_assoc, List.findSome?_singleton]

end RecordField

end EnvBundle.Settings
