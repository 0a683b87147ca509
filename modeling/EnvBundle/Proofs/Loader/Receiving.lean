import EnvBundle.Loader
import EnvBundle.Proofs.Bundle
import EnvBundle.Proofs.Environment.Filling

/-! What a load does with an answer. It succeeds exactly on a readable bundle, which no store
refuses. -/
namespace EnvBundle.Loader

theorem fill_eq_done_of_parse (env : Environment) {t : Text} {bundle : Bundle}
    (parsed : Bundle.parse t = .ok bundle) :
    ∃ after count, env.fill bundle.entries = .done after count :=
  env.fill_eq_done_of_settable (Bundle.settable_of_parse parsed)

theorem receive_bundle {env after : Environment} {t : Text} {bundle : Bundle} {count : Nat}
    (parsed : Bundle.parse t = .ok bundle) (filled : env.fill bundle.entries = .done after count) :
    receive env (.ok t) = .done after (.ok ()) := by
  simp only [receive, parsed, filled, Outcome.andThen]

theorem receive_eq_done_ok_iff {env after : Environment} {answer : Except Fetch.Fault Text} :
    receive env answer = .done after (.ok ()) ↔
      ∃ t bundle count, answer = .ok t ∧ Bundle.parse t = .ok bundle ∧
        env.fill bundle.entries = .done after count := by
  constructor
  · intro received
    cases answer with
    | error fault => cases received
    | ok t =>
        cases parsed : Bundle.parse t with
        | error fault =>
            rw [receive, parsed] at received
            cases received
        | ok bundle =>
            obtain ⟨last, count, filled⟩ := fill_eq_done_of_parse env parsed
            rw [receive_bundle parsed filled] at received
            cases received
            exact ⟨t, bundle, count, rfl, parsed, filled⟩
  · rintro ⟨t, bundle, count, rfl, parsed, filled⟩
    exact receive_bundle parsed filled

/-- An answer that is no bundle writes nothing, and no store refuses one that is. -/
theorem receive_outcome (env : Environment) (answer : Except Fetch.Fault Text) :
    (∃ fault, receive env answer = .done env (.error fault)) ∨
      ∃ after, receive env answer = .done after (.ok ()) := by
  cases answer with
  | error cause => exact .inl ⟨_, rfl⟩
  | ok t =>
      cases parsed : Bundle.parse t with
      | error cause => exact .inl ⟨.malformedResponse cause, by rw [receive, parsed]⟩
      | ok bundle =>
          obtain ⟨after, count, filled⟩ := fill_eq_done_of_parse env parsed
          exact .inr ⟨after, receive_bundle parsed filled⟩

theorem env_of_receive_eq_done_error {env after : Environment} {fault : Fault}
    {answer : Except Fetch.Fault Text}
    (received : receive env answer = .done after (.error fault)) : after = env := by
  rcases receive_outcome env answer with ⟨cause, failed⟩ | ⟨last, succeeded⟩
  · rw [failed] at received
    cases received
    rfl
  · rw [succeeded] at received
    cases received

theorem exists_receive_eq_done (env : Environment) (answer : Except Fetch.Fault Text) :
    ∃ after result, receive env answer = .done after result := by
  rcases receive_outcome env answer with ⟨cause, failed⟩ | ⟨last, succeeded⟩
  · exact ⟨_, _, failed⟩
  · exact ⟨_, _, succeeded⟩

/-- Only the answer decides whether a load succeeds, not the store. -/
theorem exists_receive_ok_iff (env : Environment) {answer : Except Fetch.Fault Text} :
    (∃ after, receive env answer = .done after (.ok ())) ↔
      ∃ t bundle, answer = .ok t ∧ Bundle.parse t = .ok bundle := by
  constructor
  · rintro ⟨after, received⟩
    obtain ⟨t, bundle, _, answered, parsed, _⟩ := receive_eq_done_ok_iff.1 received
    exact ⟨t, bundle, answered, parsed⟩
  · rintro ⟨t, bundle, rfl, parsed⟩
    obtain ⟨after, count, filled⟩ := fill_eq_done_of_parse env parsed
    exact ⟨after, receive_bundle parsed filled⟩

/-- A load whose environment file could be merged asks for the bundle of the token it then has. -/
theorem load_of_token {loader : Loader} {world : World} {env filled : Environment} {count : Nat}
    {token : Text} (merged : env.fill (loader.layer world).entries = .done filled count)
    (held : filled.token? = some token) :
    loader.load world env =
      loader.fetcher filled token loader.options >>= fun answer => pure (receive filled answer) := by
  simp only [load, merged, fetchInto, held]
  rfl

theorem load_of_no_token {loader : Loader} {world : World} {env filled : Environment} {count : Nat}
    (merged : env.fill (loader.layer world).entries = .done filled count)
    (missing : filled.token? = none) :
    loader.load world env = pure (.done filled (.error .missingToken)) := by
  simp only [load, merged, fetchInto, missing]
  rfl

end EnvBundle.Loader
