import EnvBundle.Proofs.Environment.Filling

/-!
Filling a store with entries it has been filled with before. It refuses none of them and stays as
it is, whatever it was filled with in between. For this a store is looked at by its kind and by
what it holds under each name, which are all there is to it.
-/
namespace EnvBundle.Environment

open Utf8 (encode)

/-- Two memories, or two processes. -/
inductive Akin : Environment → Environment → Prop
  | memory (vars others : NameMap Text Text) : Akin (.memory vars) (.memory others)
  | process (vars others : NameMap Bytes Bytes) : Akin (.process vars) (.process others)

theorem Akin.refl (env : Environment) : Akin env env := by
  cases env with
  | memory vars => exact .memory vars vars
  | process vars => exact .process vars vars

theorem Akin.symm {env other : Environment} (akin : Akin env other) : Akin other env := by
  cases akin with
  | memory vars others => exact .memory others vars
  | process vars others => exact .process others vars

theorem Akin.trans {env next last : Environment} (first : Akin env next) (second : Akin next last) :
    Akin env last := by
  cases first with
  | memory vars others =>
      cases second
      exact .memory vars _
  | process vars others =>
      cases second
      exact .process vars _

/-- What a store refuses is a matter of its kind. -/
theorem Akin.set?_eq_none_iff {env other : Environment} (akin : Akin env other)
    (name value : Text) : env.set? name value = none ↔ other.set? name value = none := by
  cases akin with
  | memory vars others => exact iff_of_false nofun nofun
  | process vars others => rw [set?_process_eq_none_iff, set?_process_eq_none_iff]

theorem Akin.eq_of_stored? {env other : Environment} (akin : Akin env other)
    (same : ∀ name, env.stored? name = other.stored? name) : env = other := by
  cases akin with
  | memory vars others =>
      refine congrArg Environment.memory (NameMap.eq_of_get? fun name => ?_)
      have held := same (encode name)
      rw [stored?_memory, stored?_memory] at held
      exact Option.map_injective Utf8.encode_injective held
  | process vars others =>
      refine congrArg Environment.process (NameMap.eq_of_get? fun name => ?_)
      have held := same name
      rw [stored?_process, stored?_process] at held
      exact held

theorem akin_of_set? {env next : Environment} {name value : Text}
    (written : env.set? name value = some next) : Akin env next := by
  cases env with
  | memory vars =>
      cases written
      exact .memory vars _
  | process vars =>
      obtain ⟨_, rfl⟩ := set?_process_eq_some written
      exact .process vars _

theorem akin_of_fill {env filled : Environment} {entries : List (Text × Text)} {count : Nat}
    (filling : env.fill entries = .done filled count) : Akin env filled := by
  induction entries generalizing env count with
  | nil =>
      cases filling
      exact .refl filled
  | cons e entries ih =>
      rcases fill_cons_eq_done filling with ⟨_, rest⟩ | ⟨_, next, before, written, rest, _⟩
      · exact ih rest
      · exact (akin_of_set? written).trans (ih rest)

/-- What is set stays set. -/
theorem isSet_of_fill {env filled : Environment} {entries : List (Text × Text)} {count : Nat}
    (filling : env.fill entries = .done filled count) {name : Text} (named : '=' ∉ name)
    (set : env.isSet name = true) : filled.isSet name = true := by
  induction entries generalizing env count with
  | nil =>
      cases filling
      exact set
  | cons e entries ih =>
      obtain ⟨first, value⟩ := e
      rcases fill_cons_eq_done filling with ⟨_, rest⟩ | ⟨unset, next, before, written, rest, _⟩
      · exact ih rest set
      · have apart : name ≠ first := fun same => unset (same ▸ set)
        exact ih rest ((isSet_of_set? written named apart).trans set)

/-- A second offer of the same value makes no difference, whatever was offered in between. -/
theorem offered_again (held : Option Bytes) (first second : Option Text) :
    offered (offered (offered held first) second) first = offered (offered held first) second := by
  cases first with
  | none => rw [offered_none, offered_none]
  | some value =>
      -- Bytes that are not empty are kept by every offer, so only empty ones are looked at.
      have taken : offered (offered (some (encode value)) second) (some value) =
          offered (some (encode value)) second := by
        cases bytes : encode value with
        | cons b rest => rfl
        | nil =>
            cases second with
            | none => exact congrArg some bytes
            | some other =>
                change offered (some (encode other)) (some value) = some (encode other)
                cases more : encode other with
                | nil => exact congrArg some bytes
                | cons b rest => rfl
      rcases held with _ | _ | ⟨b, rest⟩
      · exact taken
      · exact taken
      · rfl

section

variable {env filled : Environment} {entries : List (Text × Text)} {count : Nat}
  (distinct : (entries.map Prod.fst).Nodup) (named : ∀ e ∈ entries, '=' ∉ e.1)
  (filling : env.fill entries = .done filled count)

include distinct named filling

/-- Entries taken once are taken again by a store of the same kind in which no more is unset. -/
theorem exists_fill_again {later : Environment} (akin : Akin env later)
    (kept : ∀ name, '=' ∉ name → env.isSet name = true → later.isSet name = true) :
    ∃ again recount, later.fill entries = .done again recount := by
  rw [Outcome.exists_done_iff, exists_fill_refused_iff later distinct named]
  rintro ⟨e, member, unset, refused⟩
  have earlier : ∃ after, env.fill entries = .refused after := by
    rw [exists_fill_refused_iff env distinct named]
    exact ⟨e, member, mt (kept e.1 (named e member)) unset, (akin.set?_eq_none_iff _ _).2 refused⟩
  obtain ⟨after, refusal⟩ := earlier
  cases filling.symm.trans refusal

/-- A store stays as it is if every name already holds what the filling would leave there. -/
theorem eq_of_fill_of_offered
    (settled : ∀ name : Text, offered (env.stored? (encode name)) (entries.lookup name) =
      env.stored? (encode name)) : filled = env := by
  refine (akin_of_fill filling).symm.eq_of_stored? fun name => ?_
  by_cases decodable : ∃ k : Text, encode k = name
  · obtain ⟨k, rfl⟩ := decodable
    rw [stored?_fill distinct named filling k, settled k]
  · have kept : (env.fill entries).env.stored? name = env.stored? name :=
      env.stored?_fill_of_notMem fun e _ same => decodable ⟨e.1, same⟩
    rw [filling] at kept
    exact kept

/-- What has been filled twice, with the same entries first and last, is as it was before the
last filling. -/
theorem fill_filled_between {others : List (Text × Text)} {after : Environment} {more : Nat}
    (distinct' : (others.map Prod.fst).Nodup) (named' : ∀ e ∈ others, '=' ∉ e.1)
    (between : filled.fill others = .done after more) :
    ∃ recount, after.fill entries = .done after recount := by
  obtain ⟨again, recount, refilled⟩ := exists_fill_again distinct named filling
    ((akin_of_fill filling).trans (akin_of_fill between))
    fun name proper set => isSet_of_fill between proper (isSet_of_fill filling proper set)
  have same : again = after := by
    apply eq_of_fill_of_offered distinct named refilled
    intro name
    rw [stored?_fill distinct' named' between, stored?_fill distinct named filling, offered_again]
  rw [same] at refilled
  exact ⟨recount, refilled⟩

theorem fill_filled : ∃ recount, filled.fill entries = .done filled recount := by
  have none : (([] : List (Text × Text)).map Prod.fst).Nodup := List.nodup_nil
  exact fill_filled_between distinct named filling none (List.forall_mem_nil _) rfl

end

end EnvBundle.Environment
