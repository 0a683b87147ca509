import EnvBundle.Proofs.Loader.Layering

/-!
Loads that do not succeed. One that ends in a fault leaves the store with the environment file in it
and nothing of the bundle, which is checked as a whole before it is written. One that a process
refuses is ended by the environment file, which is not checked: its names and values may have a NUL.
-/
namespace EnvBundle.Loader

open Environment (offered)
open Utf8 (encode)

/-- The store with the environment file in it and nothing else. Each name the file assigns has its
last value if it was unset or empty. -/
structure OnlyFile (loader : Loader) (world : World) (env after : Environment) : Prop where
  merged : ∃ count, env.fill (loader.layer world).entries = .done after count
  named : ∀ name : Text, after.stored? (encode name) =
    offered (env.stored? (encode name)) (DotEnv.get? (loader.assignments world) name)
  undecodable : ∀ name : Bytes, (∀ k : Text, encode k ≠ name) →
    after.stored? name = env.stored? name
  fileless : loader.assignments world = [] → after = env

theorem onlyFile_of_merged {loader : Loader} {world : World} {env after : Environment} {count : Nat}
    (merged : env.fill (loader.layer world).entries = .done after count) :
    loader.OnlyFile world env after where
  merged := ⟨count, merged⟩
  named := stored?_merged merged
  undecodable name undecodable := by
    have kept : (env.fill (loader.layer world).entries).env.stored? name = env.stored? name :=
      env.stored?_fill_of_notMem fun e _ => undecodable e.1
    rw [merged] at kept
    exact kept
  fileless none := by
    rw [layer_eq_ofList, none] at merged
    cases merged
    rfl

theorem merged_of_load_eq_error {loader : Loader} {world : World} {env after : Environment}
    {fault : Fault} (failed : (loader.load world env).value = .done after (.error fault)) :
    ∃ count, env.fill (loader.layer world).entries = .done after count := by
  cases merged : env.fill (loader.layer world).entries with
  | refused filled =>
      rw [load, merged] at failed
      cases failed
  | done filled count =>
      cases held : filled.token? with
      | none =>
          rw [load_of_no_token merged held] at failed
          cases failed
          exact ⟨count, rfl⟩
      | some token =>
          rw [load_of_token merged held] at failed
          cases env_of_receive_eq_done_error failed
          exact ⟨count, rfl⟩

/-- The loader that looks for its program and its environment file by itself. -/
def automatic (world : World) (program : Path) : Loader where
  fetcher := Fetch.Backend.fetch world program
  options := Fetch.Options.loader (world.exists? dotEnvPath)
  dotEnv := some dotEnvPath

theorem autoload_of_program {world : World} {env : Environment} {program : Path}
    (found : Fetch.Backend.program world env none = .ok program) :
    autoload world env = (automatic world program).load world env := by
  simp only [autoload, found]
  rfl

theorem autoload_of_no_program {world : World} {env : Environment} {fault : Fetch.Fault}
    (missing : Fetch.Backend.program world env none = .error fault) :
    autoload world env = pure (.done env (.error (.fetch fault))) := by
  simp only [autoload, missing]
  rfl

/-- A load that ends in a fault has written the environment file and nothing else. One bad variable
among those of a bundle is such a fault, and without a program to fetch with nothing is written. -/
theorem failed_load_writes_nothing_fetched (loader : Loader) (world : World) (env : Environment) :
    (∀ after fault, (loader.load world env).value = .done after (.error fault) →
      loader.OnlyFile world env after) ∧
    (∀ filled count token t pairs e,
      env.fill (loader.layer world).entries = .done filled count → filled.token? = some token →
      (loader.fetcher filled token loader.options).value = .ok t → Json.object t = .ok pairs →
      e ∈ (NameMap.ofList pairs).entries → ¬Variable.Sound e.1 e.2 →
      ∃ fault, (loader.load world env).value =
        .done filled (.error (.malformedResponse (.badVariable fault)))) ∧
    (∀ fault, Fetch.Backend.program world env none = .error fault →
      autoload world env = pure (.done env (.error (.fetch fault)))) := by
  refine ⟨?_, ?_, ?_⟩
  · intro after fault failed
    obtain ⟨count, merged⟩ := merged_of_load_eq_error failed
    exact onlyFile_of_merged merged
  · intro filled count token t pairs e merged held answered read member bad
    obtain ⟨fault, spoiled⟩ := Bundle.parse_of_unsound read member bad
    refine ⟨fault, ?_⟩
    rw [load_of_token merged held]
    change receive filled (loader.fetcher filled token loader.options).value = _
    rw [answered, receive, spoiled]
  · intro fault missing
    exact autoload_of_no_program missing

/-- A bundle in which the second of three names has a blank. -/
def spoiledText : Text := "\x7b\"A\":\"1\",\"B C\":\"2\",\"D\":\"3\"\x7d".toList

def spoiled : Loader where
  fetcher := Fetcher.fixed fun _ _ => .ok spoiledText
  dotEnv := some dotEnvPath

theorem failed_load_writes_nothing_fetched_spoiled :
    ∃ after fault,
      (spoiled.load (World.holding "ENVKEY=t\nE=5\n".toList)
        (.process (NameMap.ofList [(encode ['A'], [])]))).value = .done after (.error fault) ∧
      after.stored? (encode ['A']) = some [] ∧ after.stored? (encode ['D']) = none ∧
      after.stored? (encode ['E']) = some (encode ['5']) := by
  have assigned : spoiled.assignments (World.holding "ENVKEY=t\nE=5\n".toList) =
      [(tokenVariable, ['t']), (['E'], ['5'])] := by
    have saved := World.readText_of_encoded (World.read_holding "ENVKEY=t\nE=5\n".toList dotEnvPath)
    simp only [assignments, spoiled, saved]
    decide
  have read : Json.object spoiledText =
      .ok [(['A'], ['1']), ("B C".toList, ['2']), (['D'], ['3'])] := by decide +kernel
  obtain ⟨filled, count, merged, held⟩ : ∃ filled count,
      Environment.fill (.process (NameMap.ofList [(encode ['A'], [])]))
        (spoiled.layer (World.holding "ENVKEY=t\nE=5\n".toList)).entries = .done filled count ∧
        filled.token? = some ['t'] := by
    rw [layer_eq_ofList, assigned]
    exact ⟨_, _, rfl, by decide⟩
  have blank : ¬Variable.Sound "B C".toList ['2'] := by
    intro sound
    exact absurd (sound.not_blank (show ' ' ∈ "B C".toList by decide)) (by decide)
  obtain ⟨onlyFile, bad, _⟩ := failed_load_writes_nothing_fetched spoiled
    (World.holding "ENVKEY=t\nE=5\n".toList) (.process (NameMap.ofList [(encode ['A'], [])]))
  obtain ⟨fault, failed⟩ := bad filled count ['t'] spoiledText _ ("B C".toList, ['2']) merged held
    rfl read (by decide) blank
  have every := (onlyFile filled _ failed).named
  rw [assigned] at every
  refine ⟨filled, _, failed, ?_, ?_, ?_⟩
  · exact (every ['A']).trans (by decide)
  · exact (every ['D']).trans (by decide)
  · exact (every ['E']).trans (by decide)

/-- Nothing the environment file would write has a NUL, neither the name nor the value. What it
assigns to a variable that holds something is not written. -/
def Holdable (loader : Loader) (world : World) (env : Environment) : Prop :=
  ∀ name value, DotEnv.get? (loader.assignments world) name = some value →
    env.isSet name = false → '\x00' ∉ name ∧ '\x00' ∉ value

theorem fill_layer_returns_iff (loader : Loader) (world : World) (vars : NameMap Bytes Bytes) :
    (∃ after count, Environment.fill (.process vars) (loader.layer world).entries =
      .done after count) ↔ loader.Holdable world (.process vars) := by
  have named : ∀ e ∈ (loader.layer world).entries, '=' ∉ e.1 := fun _ member =>
    (named_of_mem_layer member).2
  rw [Outcome.exists_done_iff,
    Environment.exists_fill_refused_iff _ (loader.layer world).nodup_keys named]
  constructor
  · intro unrefused name value assigned unset
    by_contra bad
    refine unrefused ⟨(name, value), mem_layer_iff.2 assigned, by simp [unset], ?_⟩
    rw [Environment.set?_process_eq_none_iff, Environment.settable_iff]
    exact fun holds => bad holds.2.2
  · rintro holdable ⟨e, member, unset, refused⟩
    obtain ⟨filled, named⟩ := named_of_mem_layer member
    have clean := holdable e.1 e.2 (mem_layer_iff.1 member) (Bool.eq_false_iff.2 unset)
    rw [Environment.set?_process_eq_none_iff, Environment.settable_iff] at refused
    exact refused ⟨filled, named, clean⟩

/-- Once the environment file is merged, nothing is refused any more. -/
theorem load_returns_iff_fill_returns (loader : Loader) (world : World) (env : Environment) :
    (∃ after result, (loader.load world env).value = .done after result) ↔
      ∃ after count, env.fill (loader.layer world).entries = .done after count := by
  cases merged : env.fill (loader.layer world).entries with
  | refused filled =>
      rw [load, merged]
      constructor
      · rintro ⟨after, result, returned⟩
        cases returned
      · rintro ⟨after, count, returned⟩
        cases returned
  | done filled count =>
      refine iff_of_true ?_ ⟨filled, count, rfl⟩
      cases held : filled.token? with
      | none =>
          rw [load_of_no_token merged held]
          exact ⟨_, _, rfl⟩
      | some token =>
          rw [load_of_token merged held]
          exact exists_receive_eq_done filled _

/-- A load into a process returns, with success or with a fault, exactly if the process can hold
what the environment file would write. What the fetcher answers makes no difference. -/
theorem load_returns_iff (loader : Loader) (world : World) (vars : NameMap Bytes Bytes) :
    ((∃ after result, (loader.load world (.process vars)).value = .done after result) ↔
      loader.Holdable world (.process vars)) ∧
    ((∃ after result, (autoload world (.process vars)).value = .done after result) ↔
      ∀ program, Fetch.Backend.program world (.process vars) none = .ok program →
        (automatic world program).Holdable world (.process vars)) := by
  have returns : ∀ loader : Loader,
      (∃ after result, (loader.load world (.process vars)).value = .done after result) ↔
        loader.Holdable world (.process vars) := fun loader =>
    (load_returns_iff_fill_returns loader world _).trans (fill_layer_returns_iff loader world vars)
  refine ⟨returns loader, ?_⟩
  cases found : Fetch.Backend.program world (.process vars) none with
  | error fault =>
      rw [autoload_of_no_program found]
      exact iff_of_true ⟨_, _, rfl⟩ nofun
  | ok program =>
      rw [autoload_of_program found, returns]
      constructor
      · intro holdable other same
        cases same
        exact holdable
      · intro holdable
        exact holdable program rfl

/-- A value with a NUL ends the process, although the fetcher's answer is good. -/
theorem load_of_nul_is_refused :
    ∃ after, (Loader.load
      { fetcher := Fetcher.fixed fun _ _ => .ok "\x7b\x7d".toList, dotEnv := some dotEnvPath }
      (World.holding "A=\x00\n".toList)
      (.process (NameMap.ofList [(encode tokenVariable, [116])]))).value = .refused after := by
  have assigned : Loader.assignments
      { fetcher := Fetcher.fixed fun _ _ => .ok "\x7b\x7d".toList, dotEnv := some dotEnvPath }
      (World.holding "A=\x00\n".toList) = [(['A'], ['\x00'])] := by
    have saved := World.readText_of_encoded (World.read_holding "A=\x00\n".toList dotEnvPath)
    simp only [assignments, saved]
    decide
  refine ⟨.process (NameMap.ofList [(encode tokenVariable, [116])]), ?_⟩
  rw [load, layer_eq_ofList, assigned]
  rfl

end EnvBundle.Loader
