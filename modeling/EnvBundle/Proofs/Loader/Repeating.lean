import EnvBundle.Proofs.Environment.Refilling
import EnvBundle.Proofs.Loader.Layering

/-!
A load after a load. The store that the first one leaves holds everything that the second one would
write, so with a fetcher that answers a token always in the same way the second one ends like the
first, in success and in every fault.
-/
namespace EnvBundle

/-- The answer is a function of the token and the options. -/
def Fetcher.Steady (fetcher : Fetcher) : Prop :=
  ∃ answer : Text → Fetch.Options → Except Fetch.Fault Text,
    ∀ env token options, (fetcher env token options).value = answer token options

theorem Fetcher.Steady.value_eq {fetcher : Fetcher} (steady : fetcher.Steady)
    (env other : Environment) (token : Text) (options : Fetch.Options) :
    (fetcher env token options).value = (fetcher other token options).value := by
  obtain ⟨answer, same⟩ := steady
  rw [same env, same other]

namespace Loader

variable {loader : Loader} {world : World} {env filled after : Environment} {count : Nat}

/-- A store with the environment file in it is not changed by merging the file again. -/
theorem merged_again (merged : env.fill (loader.layer world).entries = .done filled count) :
    ∃ recount, filled.fill (loader.layer world).entries = .done filled recount :=
  Environment.fill_filled (loader.layer world).nodup_keys
    (fun _ member => (named_of_mem_layer member).2) merged

section

variable {t : Text} {bundle : Bundle} {received : Nat}
  (parsed : Bundle.parse t = .ok bundle)
  (filling : filled.fill bundle.entries = .done after received)

include parsed filling

theorem merged_again_of_received
    (merged : env.fill (loader.layer world).entries = .done filled count) :
    ∃ recount, after.fill (loader.layer world).entries = .done after recount :=
  Environment.fill_filled_between (loader.layer world).nodup_keys
    (fun _ member => (named_of_mem_layer member).2) merged bundle.nodup_keys
    (fun e member => (Bundle.sound_of_parse parsed e member).ne_equals) filling

theorem received_again : receive after (.ok t) = .done after (.ok ()) := by
  obtain ⟨recount, refilled⟩ := Environment.fill_filled bundle.nodup_keys
    (fun e member => (Bundle.sound_of_parse parsed e member).ne_equals) filling
  exact receive_bundle parsed refilled

/-- The token of the store is the one that was asked with, even if the bundle names another. -/
theorem token?_of_received {token : Text} (held : filled.token? = some token) :
    after.token? = some token := by
  have kept := get?_token_of_filled held (stored?_received parsed filling tokenVariable)
  obtain ⟨_, nonempty⟩ := Option.filter_eq_some_iff.1 held
  rw [Environment.token?, kept, Option.filter_some, if_pos nonempty]

end

theorem load_again_of_no_token
    (merged : env.fill (loader.layer world).entries = .done filled count)
    (missing : filled.token? = none) :
    loader.load world filled = pure (.done filled (.error .missingToken)) := by
  obtain ⟨recount, refilled⟩ := merged_again merged
  exact load_of_no_token refilled missing

/-- A fault of the fetcher or of the bundle comes again, the token being the same. -/
theorem value_load_again_of_fault {token : Text} {fault : Fault}
    (merged : env.fill (loader.layer world).entries = .done filled count)
    (held : filled.token? = some token)
    (failed : receive filled (loader.fetcher filled token loader.options).value =
      .done filled (.error fault)) :
    (loader.load world filled).value = .done filled (.error fault) := by
  obtain ⟨recount, refilled⟩ := merged_again merged
  rw [load_of_token refilled held]
  exact failed

theorem value_load_again_of_success (steady : loader.fetcher.Steady) {token : Text}
    (merged : env.fill (loader.layer world).entries = .done filled count)
    (held : filled.token? = some token)
    (succeeded : receive filled (loader.fetcher filled token loader.options).value =
      .done after (.ok ())) :
    (loader.load world after).value = .done after (.ok ()) := by
  obtain ⟨t, bundle, received, answered, parsed, filling⟩ := receive_eq_done_ok_iff.1 succeeded
  obtain ⟨recount, refilled⟩ := merged_again_of_received parsed filling merged
  rw [load_of_token refilled (token?_of_received parsed filling held)]
  change receive after (loader.fetcher after token loader.options).value = _
  rw [steady.value_eq after filled, answered]
  exact received_again parsed filling

/-- Loading twice is loading once. If a load returns, another one right after it returns too, with
the same result and the same store. -/
theorem load_twice_is_load_once (steady : loader.fetcher.Steady)
    {result : Except Fault Unit} (loaded : (loader.load world env).value = .done after result) :
    (loader.load world after).value = .done after result := by
  cases merged : env.fill (loader.layer world).entries with
  | refused filled =>
      rw [load, merged] at loaded
      cases loaded
  | done filled count =>
      cases held : filled.token? with
      | none =>
          rw [load_of_no_token merged held] at loaded
          cases loaded
          rw [load_again_of_no_token merged held]
          rfl
      | some token =>
          rw [load_of_token merged held] at loaded
          change receive filled (loader.fetcher filled token loader.options).value = _ at loaded
          cases result with
          | error fault =>
              cases env_of_receive_eq_done_error loaded
              exact value_load_again_of_fault merged held loaded
          | ok _ => exact value_load_again_of_success steady merged held loaded

/-- A bundle with an empty value, a variable that the file assigns and a token of its own. -/
def ownTokenText : Text := "\x7b\"A\":\"\",\"B\":\"1\",\"ENVKEY\":\"u\"\x7d".toList

def ownToken : Loader where
  fetcher := Fetcher.fixed fun _ _ => .ok ownTokenText
  dotEnv := some dotEnvPath

/-- Both layers have an empty value for the first variable, and it is empty after either load. The
second one has the value of the bundle, and the token is that of the file. -/
theorem load_twice_is_load_once_ownToken :
    ownToken.fetcher.Steady ∧
      ∃ after, (ownToken.load (World.holding "ENVKEY=t\nA=\nB=\n".toList)
          (.process NameMap.empty)).value = .done after (.ok ()) ∧
        (ownToken.load (World.holding "ENVKEY=t\nA=\nB=\n".toList) after).value =
          .done after (.ok ()) ∧
        after.stored? (Utf8.encode ['A']) = some [] ∧
        after.stored? (Utf8.encode ['B']) = some [49] ∧ after.token? = some ['t'] := by
  have steady : ownToken.fetcher.Steady := ⟨fun _ _ => .ok ownTokenText, fun _ _ _ => rfl⟩
  have assigned : ownToken.assignments (World.holding "ENVKEY=t\nA=\nB=\n".toList) =
      [(tokenVariable, ['t']), (['A'], []), (['B'], [])] := by
    have saved := World.readText_of_encoded
      (World.read_holding "ENVKEY=t\nA=\nB=\n".toList dotEnvPath)
    simp only [assignments, ownToken, saved]
    decide
  obtain ⟨filled, count, merged, held, first, second⟩ : ∃ filled count,
      Environment.fill (.process NameMap.empty)
        (ownToken.layer (World.holding "ENVKEY=t\nA=\nB=\n".toList)).entries =
          .done filled count ∧ filled.token? = some ['t'] ∧
      filled.stored? (Utf8.encode ['A']) = some [] ∧
      filled.stored? (Utf8.encode ['B']) = some [] := by
    rw [layer_eq_ofList, assigned]
    exact ⟨_, _, rfl, by decide, by decide, by decide⟩
  have read : Json.object ownTokenText =
      .ok [(['A'], []), (['B'], ['1']), (tokenVariable, ['u'])] := by decide +kernel
  have parsed := Bundle.parse_of_object read (by decide)
  obtain ⟨after, received, filling⟩ := fill_eq_done_of_parse filled parsed
  have loaded : (ownToken.load (World.holding "ENVKEY=t\nA=\nB=\n".toList)
      (.process NameMap.empty)).value = .done after (.ok ()) := by
    rw [load_of_token merged held]
    exact receive_bundle parsed filling
  refine ⟨steady, after, loaded, load_twice_is_load_once steady loaded, ?_, ?_, ?_⟩
  · rw [stored?_received parsed filling, first]
    decide
  · rw [stored?_received parsed filling, second]
    decide
  · exact token?_of_received parsed filling held

end Loader

end EnvBundle
