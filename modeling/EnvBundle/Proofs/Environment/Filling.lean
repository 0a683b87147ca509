import EnvBundle.Proofs.Environment.Stored

/-!
Filling a store. It comes to a list of writes; each variable keeps a value that is not empty and
otherwise takes the one it is offered, and no other variable is touched.
-/
namespace EnvBundle

namespace Outcome

theorem andThen_done_eq_done {α β : Type} {outcome : Outcome α} {f : α → β} {env : Environment}
    {value : β} (h : (outcome.andThen fun env value => .done env (f value)) = .done env value) :
    ∃ first, outcome = .done env first ∧ f first = value := by
  cases outcome with
  | done store first =>
      cases h
      exact ⟨first, rfl, rfl⟩
  | refused store => cases h

theorem andThen_done_eq_refused_iff {α β : Type} {outcome : Outcome α} {f : α → β}
    {env : Environment} :
    (outcome.andThen fun env value => .done env (f value)) = .refused env ↔
      outcome = .refused env := by
  cases outcome with
  | done store first => exact iff_of_false nofun nofun
  | refused store => simp [andThen]

theorem exists_done_iff {α : Type} {outcome : Outcome α} :
    (∃ env value, outcome = .done env value) ↔ ¬∃ env, outcome = .refused env := by
  cases outcome with
  | done store value => exact iff_of_true ⟨store, value, rfl⟩ nofun
  | refused store => exact iff_of_false nofun fun returned => returned ⟨store, rfl⟩

@[simp] theorem env_andThen_done {α β : Type} (outcome : Outcome α) (f : α → β) :
    (outcome.andThen fun env value => .done env (f value)).env = outcome.env := by
  cases outcome <;> rfl

end Outcome

namespace Environment

open Utf8 (encode decode?)

/-- What one entry does in a filling that refuses nothing. -/
theorem fill_cons_eq_done {env filled : Environment} {name value : Text}
    {rest : List (Text × Text)} {count : Nat}
    (h : env.fill ((name, value) :: rest) = .done filled count) :
    env.isSet name = true ∧ env.fill rest = .done filled count ∨
      ¬env.isSet name = true ∧ ∃ next before, env.set? name value = some next ∧
        next.fill rest = .done filled before ∧ count = before + 1 := by
  rw [fill] at h
  split at h
  · next set => exact .inl ⟨set, h⟩
  · next unset =>
    split at h
    · cases h
    · next next written =>
      obtain ⟨before, filledRest, sum⟩ := Outcome.andThen_done_eq_done h
      exact .inr ⟨unset, next, before, written, filledRest, sum.symm⟩

/-- The store after writes in the order given, or none if it refuses one. -/
def assign (env : Environment) : List (Text × Text) → Option Environment
  | [] => some env
  | (name, value) :: rest => (env.set? name value).bind fun next => next.assign rest

/-- The writes that filling a store comes to, in order. -/
def writes (env : Environment) : List (Text × Text) → List (Text × Text)
  | [] => []
  | (name, value) :: rest =>
    if env.isSet name then env.writes rest
    else
      match env.set? name value with
      | none => []
      | some next => (name, value) :: next.writes rest

/-- Filling does these writes and no others, even if the store refuses one on the way. -/
theorem assign_writes (env : Environment) (entries : List (Text × Text)) :
    env.assign (env.writes entries) = some (env.fill entries).env := by
  induction entries generalizing env with
  | nil => rfl
  | cons e entries ih =>
      obtain ⟨name, value⟩ := e
      simp only [writes, fill]
      split
      · exact ih env
      · cases written : env.set? name value with
        | none => rfl
        | some next =>
            simp only [assign, written, Option.bind_some, Outcome.env_andThen_done, ih]

theorem length_writes {env filled : Environment} {entries : List (Text × Text)} {count : Nat}
    (h : env.fill entries = .done filled count) : (env.writes entries).length = count := by
  induction entries generalizing env count with
  | nil => cases h; rfl
  | cons e entries ih =>
      rcases fill_cons_eq_done h with ⟨set, rest⟩ | ⟨unset, next, before, written, rest, rfl⟩
      · rw [writes, if_pos set, ih rest]
      · rw [writes, if_neg unset, written]
        exact congrArg (· + 1) (ih rest)

/-- A variable that is not among the entries is left alone, whatever the outcome. -/
theorem stored?_fill_of_notMem (env : Environment) {entries : List (Text × Text)} {name : Bytes}
    (absent : ∀ e ∈ entries, encode e.1 ≠ name) :
    (env.fill entries).env.stored? name = env.stored? name := by
  induction entries generalizing env with
  | nil => rfl
  | cons e entries ih =>
      obtain ⟨first, value⟩ := e
      obtain ⟨apart, rest⟩ := List.forall_mem_cons.1 absent
      simp only [fill]
      split
      · exact ih env rest
      · cases written : env.set? first value with
        | none => rfl
        | some next =>
            rw [Outcome.env_andThen_done, ih next rest, stored?_of_set? written,
              if_neg (Ne.symm apart)]

/-- What a variable holds once a value has been offered to it. -/
def offered : Option Bytes → Option Text → Option Bytes
  | some (b :: rest), _ => some (b :: rest)
  | held, none => held
  | _, some value => some (encode value)

theorem offered_none (held : Option Bytes) : offered held none = held := by
  cases held with
  | none => rfl
  | some bytes => cases bytes <;> rfl

theorem offered_of_unset {env next : Environment} {name value : Text} (named : '=' ∉ name)
    (unset : ¬env.isSet name = true) (written : env.set? name value = some next) :
    offered (env.stored? (encode name)) (some value) = some (encode value) := by
  cases held : env.stored? (encode name) with
  | none => rfl
  | some bytes =>
      cases bytes with
      | nil => rfl
      | cons b rest =>
          have found : env.raw? name = env.stored? (encode name) := by
            cases env with
            | memory vars => rw [stored?_memory, raw?]
            | process vars =>
                have holds := settable_iff.1 (set?_process_eq_some written).1
                exact raw?_eq_stored? _ named holds.2.2.1
          rw [isSet_eq_raw?, found, held] at unset
          exact absurd rfl unset

/-- Every name takes what it is offered, unless it holds something. -/
theorem stored?_fill {env filled : Environment} {entries : List (Text × Text)} {count : Nat}
    (distinct : (entries.map Prod.fst).Nodup) (named : ∀ e ∈ entries, '=' ∉ e.1)
    (h : env.fill entries = .done filled count) (name : Text) :
    filled.stored? (encode name) = offered (env.stored? (encode name)) (entries.lookup name) := by
  induction entries generalizing env count with
  | nil =>
      cases h
      exact (offered_none _).symm
  | cons e entries ih =>
      obtain ⟨first, value⟩ := e
      obtain ⟨absent, distinct⟩ := List.nodup_cons.1 distinct
      obtain ⟨firstNamed, named⟩ := List.forall_mem_cons.1 named
      have last : entries.lookup first = none := lookup_eq_none_of_notMem absent
      rw [lookup_cons_eq]
      rcases fill_cons_eq_done h with ⟨set, rest⟩ | ⟨unset, next, before, written, rest, _⟩
      · by_cases here : name = first
        · obtain ⟨b, more, held⟩ := stored?_of_isSet firstNamed set
          rw [if_pos here, ih distinct named rest, here, last, held]
          rfl
        · rw [if_neg here, ih distinct named rest]
      · rw [ih distinct named rest, stored?_of_set? written]
        by_cases here : name = first
        · rw [if_pos here, if_pos (congrArg encode here), here, last, offered_none,
            offered_of_unset firstNamed unset written]
        · rw [if_neg here, if_neg (mt Utf8.encode_inj.1 here)]

theorem fill_eq_done_of_settable (env : Environment) {entries : List (Text × Text)}
    (holds : ∀ e ∈ entries, settable e.1 e.2 = true) :
    ∃ filled count, env.fill entries = .done filled count := by
  induction entries generalizing env with
  | nil => exact ⟨env, 0, rfl⟩
  | cons e entries ih =>
      obtain ⟨name, value⟩ := e
      obtain ⟨first, rest⟩ := List.forall_mem_cons.1 holds
      rw [fill]
      split
      · exact ih env rest
      · obtain ⟨next, written⟩ := set?_eq_some_of_settable env first
        obtain ⟨filled, count, filledRest⟩ := ih next rest
        rw [written]
        simp only [filledRest]
        exact ⟨filled, count + 1, rfl⟩

/-- Whether a filling is refused is settled before the first write. -/
theorem exists_fill_refused_iff (env : Environment) {entries : List (Text × Text)}
    (distinct : (entries.map Prod.fst).Nodup) (named : ∀ e ∈ entries, '=' ∉ e.1) :
    (∃ after, env.fill entries = .refused after) ↔
      ∃ e ∈ entries, ¬env.isSet e.1 = true ∧ env.set? e.1 e.2 = none := by
  induction entries generalizing env with
  | nil => simp [fill]
  | cons e entries ih =>
      obtain ⟨name, value⟩ := e
      obtain ⟨absent, distinct⟩ := List.nodup_cons.1 distinct
      obtain ⟨_, named⟩ := List.forall_mem_cons.1 named
      rw [fill]
      simp only [List.mem_cons, exists_eq_or_imp]
      split
      · next set =>
        rw [ih env distinct named]
        simp [set]
      · next unset =>
        cases written : env.set? name value with
        | none => simp [unset]
        | some next =>
            simp only [Outcome.andThen_done_eq_refused_iff, ih next distinct named, reduceCtorEq,
              and_false, false_or]
            refine exists_congr fun e => and_congr_right fun member => ?_
            -- No later entry has the name just written.
            have apart : e.1 ≠ name := fun same => absent (List.mem_map.2 ⟨e, member, same⟩)
            rw [isSet_of_set? written (named e member) apart, set?_eq_none_iff_of_set? written]

/-- Which variables are written is settled before the first write. -/
theorem writes_eq_filter (env : Environment) {entries : List (Text × Text)}
    (distinct : (entries.map Prod.fst).Nodup)
    (holds : ∀ e ∈ entries, settable e.1 e.2 = true) :
    env.writes entries = entries.filter fun e => !env.isSet e.1 := by
  induction entries generalizing env with
  | nil => rfl
  | cons e entries ih =>
      obtain ⟨name, value⟩ := e
      obtain ⟨absent, distinct⟩ := List.nodup_cons.1 distinct
      obtain ⟨first, rest⟩ := List.forall_mem_cons.1 holds
      rw [writes]
      split
      · next set =>
        rw [List.filter_cons_of_neg (by simp [set]), ih env distinct rest]
      · next unset =>
        obtain ⟨next, written⟩ := set?_eq_some_of_settable env first
        rw [List.filter_cons_of_pos (by simp [unset]), written]
        refine congrArg _ ((ih next distinct rest).trans (List.filter_congr ?_))
        intro e member
        -- No later entry has the name just written, so the write changes none of their tests.
        have apart : e.1 ≠ name := fun same => absent (List.mem_map.2 ⟨e, member, same⟩)
        rw [isSet_of_set? written (settable_iff.1 (rest e member)).2.1 apart]

end Environment

end EnvBundle
