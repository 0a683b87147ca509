import EnvBundle.Proofs.Bundle
import EnvBundle.Proofs.Environment.Refilling

/-!
Filling a store with a bundle that was read. Nothing is refused, and what each variable holds
afterwards, decodable or not, and how many are written are matters of the store there was before.
-/
namespace EnvBundle.Environment

open Utf8 (encode)

/-- Whether a variable is unset or empty, looked at by its bytes. -/
def vacant (env : Environment) (name : Bytes) : Bool := (env.stored? name).all (· == [])

theorem vacant_eq_true_iff {env : Environment} {name : Bytes} :
    env.vacant name = true ↔ env.stored? name = none ∨ env.stored? name = some [] := by
  rw [vacant]
  cases env.stored? name <;> simp

theorem vacant_eq_false_iff {env : Environment} {name : Bytes} :
    env.vacant name = false ↔ ∃ b rest, env.stored? name = some (b :: rest) := by
  rw [vacant]
  rcases env.stored? name with _ | _ | ⟨b, rest⟩ <;> simp

/-- A store tells of any proper name whether it is vacant. -/
theorem isSet_eq_not_vacant (env : Environment) {name : Text} (named : '=' ∉ name)
    (clean : '\x00' ∉ name) : env.isSet name = !env.vacant (encode name) := by
  rw [isSet_eq_raw?, raw?_eq_stored? env named clean, vacant]
  cases env.stored? (encode name) with
  | none => rfl
  | some bytes => simp only [Option.any_some, Option.all_some, bne]

theorem get?_of_stored? {env : Environment} {name value : Text} (named : '=' ∉ name)
    (clean : '\x00' ∉ name) (held : env.stored? (encode name) = some (encode value)) :
    env.get? name = some value := by
  rw [get?_eq_raw?, raw?_eq_stored? env named clean, held, Option.bind_some, Utf8.decode?_encode]

section

variable {env filled : Environment} {entries : List (Text × Text)} {count : Nat}

theorem stored?_filled_of_notMem (filling : env.fill entries = .done filled count) {name : Bytes}
    (absent : ∀ e ∈ entries, encode e.1 ≠ name) : filled.stored? name = env.stored? name := by
  have kept := env.stored?_fill_of_notMem absent
  rw [filling] at kept
  exact kept

variable (distinct : (entries.map Prod.fst).Nodup)

include distinct

/-- A variable that is not empty is kept, whether it is among the entries or not. -/
theorem stored?_filled_of_not_vacant (named : ∀ e ∈ entries, '=' ∉ e.1)
    (filling : env.fill entries = .done filled count) {name : Bytes}
    (full : env.vacant name = false) : filled.stored? name = env.stored? name := by
  by_cases decodable : ∃ k : Text, encode k = name
  · obtain ⟨k, rfl⟩ := decodable
    obtain ⟨b, rest, held⟩ := vacant_eq_false_iff.1 full
    rw [stored?_fill distinct named filling, held]
    rfl
  · exact stored?_filled_of_notMem filling fun e _ same => decodable ⟨e.1, same⟩

/-- A vacant variable takes its entry. -/
theorem stored?_filled_of_vacant (named : ∀ e ∈ entries, '=' ∉ e.1)
    (filling : env.fill entries = .done filled count) {name value : Text}
    (member : (name, value) ∈ entries) (vacant : env.vacant (encode name) = true) :
    filled.stored? (encode name) = some (encode value) := by
  rw [stored?_fill distinct named filling, lookup_eq_some_of_mem distinct member]
  rcases vacant_eq_true_iff.1 vacant with held | held
  · rw [held]
    rfl
  · rw [held]
    rfl

/-- As many variables are written as there are entries of vacant ones. -/
theorem count_of_fill (holds : ∀ e ∈ entries, settable e.1 e.2 = true)
    (filling : env.fill entries = .done filled count) :
    count = entries.countP fun e => env.vacant (encode e.1) := by
  rw [← length_writes filling, writes_eq_filter env distinct holds, ← List.countP_eq_length_filter]
  refine List.countP_congr fun e member => ?_
  obtain ⟨_, named, clean, _⟩ := settable_iff.1 (holds e member)
  rw [isSet_eq_not_vacant env named clean, Bool.not_not]

end

/-- A bundle that was read fills any store. Each variable it names that was unset or empty holds
its value, every other variable holds the bytes that it held, and the count is that of the variables
written. -/
theorem fill_bundle_exactly (env : Environment) {t : Text} {bundle : Bundle}
    (parsed : Bundle.parse t = .ok bundle) :
    ∃ after, env.fill bundle.entries =
        .done after (bundle.entries.countP fun e => env.vacant (encode e.1)) ∧
      Akin env after ∧
      (∀ name value, bundle.get? name = some value → env.vacant (encode name) = true →
        after.stored? (encode name) = some (encode value) ∧ after.get? name = some value) ∧
      (∀ name : Bytes, env.vacant name = false → after.stored? name = env.stored? name) ∧
      ∀ name : Bytes, (∀ e ∈ bundle.entries, encode e.1 ≠ name) →
        after.stored? name = env.stored? name := by
  have distinct := bundle.nodup_keys
  have holds := Bundle.settable_of_parse parsed
  have named : ∀ e ∈ bundle.entries, '=' ∉ e.1 :=
    fun e member => (settable_iff.1 (holds e member)).2.1
  obtain ⟨after, count, filling⟩ := fill_eq_done_of_settable env holds
  refine ⟨after, ?_, akin_of_fill filling, ?_, ?_, ?_⟩
  · rw [filling, count_of_fill distinct holds filling]
  · intro name value held vacant
    have member := bundle.mem_entries_iff.2 held
    have stored := stored?_filled_of_vacant distinct named filling member vacant
    obtain ⟨_, proper, clean, _⟩ := settable_iff.1 (holds _ member)
    exact ⟨stored, get?_of_stored? proper clean stored⟩
  · intro name full
    exact stored?_filled_of_not_vacant distinct named filling full
  · intro name absent
    exact stored?_filled_of_notMem filling absent

/-- A process with a variable that is no text, an empty one and a usual one. -/
def partlyVacant : Environment :=
  .process (NameMap.ofList [([65], [255]), ([66], []), ([81], [49])])

/-- Members for the first two of them and for one more. -/
def fillingText : Text := "\x7b\"C\":\"\",\"B\":\"é\",\"A\":\"x\"\x7d".toList

theorem fill_bundle_exactly_partlyVacant :
    ∃ bundle after, Bundle.parse fillingText = .ok bundle ∧
      partlyVacant.fill bundle.entries = .done after 2 ∧
      after.stored? [65] = some [255] ∧ after.stored? [66] = some [195, 169] ∧
      after.stored? [67] = some [] ∧ after.stored? [81] = some [49] := by
  have read : Json.object fillingText =
      .ok [(['C'], []), (['B'], ['é']), (['A'], ['x'])] := by decide +kernel
  have parsed := Bundle.parse_of_object read (by decide)
  obtain ⟨after, filling, _, taken, kept, apart⟩ := fill_bundle_exactly partlyVacant parsed
  refine ⟨_, after, parsed, filling, kept [65] (by decide), ?_, ?_, ?_⟩
  · exact (taken ['B'] ['é'] (by decide) (by decide)).1
  · exact (taken ['C'] [] (by decide) (by decide)).1
  · exact apart [81] (by decide)

end EnvBundle.Environment
