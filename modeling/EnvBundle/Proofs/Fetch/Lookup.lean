import EnvBundle.Fetch.Backend.Lookup
import EnvBundle.Proofs.Environment.Stored

/-!
Which program fetches. There is a first choice and a second one, and both are taken as they are; in
the directories of the search path only a plain file with the permission to run is found, whatever
would come of starting it.
-/
namespace EnvBundle.Fetch.Backend

open Environment (filled?_eq_none_iff filled?_eq_some_iff)

section

variable (world : World) (env : Environment)

/-- A plain file with the permission to run. -/
def MayRun (path : Path) : Prop :=
  ∃ content start, world.look path = .ok (.plain content (some start))

/-- The program of the usual name in a directory of the search path. -/
def usualIn (directory : Path) : Path :=
  Path.join (expandHome env directory) (Utf8.encode "envkey-fetch".toList)

/-- The first directory that has the program, in a list of them. -/
def FirstIn (directories : List Path) (path : Path) : Prop :=
  ∃ before directory after, directories = before ++ directory :: after ∧
    (∀ other ∈ before, ¬MayRun world (usualIn env other)) ∧
    MayRun world (usualIn env directory) ∧ usualIn env directory = path

/-- The program to run: the one named, else the one that the variable names if that is not empty,
else the first one of the usual name on the search path. -/
inductive Locates : Option Path → Path → Prop
  | named (path : Path) : Locates (some path) path
  | pointed {path : Path} (held : env.raw? "ENVKEY_FETCH_BIN".toList = some path)
      (filled : path ≠ []) : Locates none path
  | searched {list : Bytes} {path : Path}
      (unpointed : ∀ bytes, env.raw? "ENVKEY_FETCH_BIN".toList = some bytes → bytes = [])
      (listed : env.raw? "PATH".toList = some list)
      (first : FirstIn world env (Split.pieces colon list) path) : Locates none path

end

variable {world : World} {env : Environment} {named : Option Path} {path : Path}

theorem runnable_iff : runnable world path = true ↔ MayRun world path := by
  rw [runnable, MayRun]
  cases world.look path with
  | error fault => simp
  | ok node => cases node <;> simp [Node.start?, Option.isSome_iff_exists]

theorem find?_usualIn_eq_some_iff {directories : List Path} :
    (directories.map (usualIn env)).find? (runnable world) = some path ↔
      FirstIn world env directories path := by
  have tried : ∀ directory, runnable world (usualIn env directory) = true ↔
      MayRun world (usualIn env directory) := fun _ => runnable_iff
  rw [List.find?_map, Option.map_eq_some_iff]
  simp only [List.find?_eq_some_iff_append, Function.comp_apply, Bool.not_eq_true',
    ← Bool.not_eq_true, tried]
  constructor
  · rintro ⟨directory, ⟨found, before, after, cut, passed⟩, same⟩
    exact ⟨before, directory, after, cut, passed, found, same⟩
  · rintro ⟨before, directory, after, cut, passed, found, same⟩
    exact ⟨directory, ⟨found, before, after, cut, passed⟩, same⟩

theorem onPath?_eq_some_iff :
    onPath? world env = some path ↔
      ∃ list, env.raw? "PATH".toList = some list ∧
        FirstIn world env (Split.pieces colon list) path := by
  rw [onPath?, directories?, Option.bind_map, Option.bind_eq_some_iff]
  exact exists_congr fun list => and_congr_right fun _ => find?_usualIn_eq_some_iff

theorem program_eq_ok_iff :
    program world env named = .ok path ↔ Locates world env named path := by
  cases named with
  | some given =>
      constructor
      · intro chosen
        cases chosen
        exact .named _
      · intro locates
        cases locates
        rfl
  | none =>
      rw [program]
      cases held : env.filled? programVariable with
      | some given =>
          obtain ⟨pointed, filled⟩ := filled?_eq_some_iff.1 held
          constructor
          · intro chosen
            cases chosen
            exact .pointed pointed filled
          · intro locates
            cases locates with
            | pointed pointed' _ => exact congrArg _ (Option.some.inj (pointed.symm.trans pointed'))
            | searched unpointed => exact absurd (unpointed _ pointed) filled
      | none =>
          have unpointed := filled?_eq_none_iff.1 held
          constructor
          · intro chosen
            cases searched : onPath? world env with
            | none =>
                rw [searched] at chosen
                cases chosen
            | some found =>
                rw [searched] at chosen
                cases chosen
                obtain ⟨list, listed, first⟩ := onPath?_eq_some_iff.1 searched
                exact .searched unpointed listed first
          · intro locates
            cases locates with
            | pointed pointed filled => exact absurd (unpointed _ pointed) filled
            | searched _ listed first =>
                have searched := onPath?_eq_some_iff.2 ⟨_, listed, first⟩
                simp only [searched]

theorem Locates.unique {first second : Path} (left : Locates world env named first)
    (right : Locates world env named second) : first = second :=
  Except.ok.inj ((program_eq_ok_iff.2 left).symm.trans (program_eq_ok_iff.2 right))

/-- There is one fault alone, and it names the program that was looked for. -/
theorem program_eq_error_iff {fault : Fault} :
    program world env named = .error fault ↔
      (∀ path, ¬Locates world env named path) ∧
        fault = .backendNotFound "envkey-fetch".toList := by
  have only : ∀ other, program world env named = .error other →
      other = .backendNotFound "envkey-fetch".toList := by
    intro other missing
    unfold program at missing
    split at missing
    · cases missing
    · split at missing
      · cases missing
      · split at missing
        · cases missing
        · cases missing
          rfl
  constructor
  · intro missing
    refine ⟨?_, only fault missing⟩
    intro path locates
    cases missing.symm.trans (program_eq_ok_iff.2 locates)
  · rintro ⟨missing, rfl⟩
    cases chosen : program world env named with
    | error other => rw [only other chosen]
    | ok path => exact absurd (program_eq_ok_iff.1 chosen) (missing path)

end EnvBundle.Fetch.Backend
