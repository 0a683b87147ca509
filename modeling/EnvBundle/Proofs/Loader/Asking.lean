import EnvBundle.Proofs.Loader.Layering
import EnvBundle.Token

/-!
Which token a load asks with. The command looks for its token without writing anything, a load
writes the environment file first and then looks into the store; both come to the same token unless
the process has one that is no text.
-/
namespace EnvBundle

open Environment (offered)
open Utf8 (encode decode?)

/-- A process whose token variable holds something that is no text. -/
def Environment.Garbled : Environment → Prop
  | .memory _ => False
  | .process vars => ∃ bytes, lookupBytes vars (encode tokenVariable) = some bytes ∧ bytes ≠ [] ∧
      decode? bytes = none

namespace Environment

theorem raw?_token (env : Environment) :
    env.raw? tokenVariable = env.stored? (encode tokenVariable) :=
  env.raw?_eq_stored? (by decide) (by decide)

theorem token?_eq_stored? (env : Environment) :
    env.token? = ((env.stored? (encode tokenVariable)).bind decode?).filter (· != []) := by
  rw [token?, get?_eq_raw?, raw?_token]

theorem garbled_iff_stored? (env : Environment) :
    env.Garbled ↔ ∃ b rest, env.stored? (encode tokenVariable) = some (b :: rest) ∧
      decode? (b :: rest) = none := by
  cases env with
  | memory vars =>
      constructor
      · intro garbled
        exact garbled.elim
      · rintro ⟨b, rest, held, undecodable⟩
        rw [stored?_memory] at held
        obtain ⟨value, _, bytes⟩ := Option.map_eq_some_iff.1 held
        rw [← bytes, Utf8.decode?_encode] at undecodable
        cases undecodable
  | process vars =>
      have found : lookupBytes vars (encode tokenVariable) =
          (process vars).stored? (encode tokenVariable) := raw?_token (process vars)
      rw [Garbled, found]
      constructor
      · rintro ⟨bytes, held, filled, undecodable⟩
        obtain ⟨b, rest, rfl⟩ := List.exists_cons_of_ne_nil filled
        exact ⟨b, rest, held, undecodable⟩
      · rintro ⟨b, rest, held, undecodable⟩
        exact ⟨b :: rest, held, List.cons_ne_nil b rest, undecodable⟩

end Environment

/-- The token of an environment file is the last one it assigns, if that is not empty. -/
theorem Token.value_inFile? {loader : Loader} {path : Path} (named : loader.dotEnv = some path)
    (world : World) :
    (inFile? world path).value =
      (DotEnv.get? (loader.assignments world) tokenVariable).filter (· != []) := by
  unfold inFile? Loader.assignments
  simp only [named, DotEnv.read, World.readOptional]
  cases found : world.exists? path with
  | false =>
      obtain ⟨fault, unread⟩ := World.readText_of_not_exists found
      rw [unread]
      rfl
  | true => cases world.readText path <;> rfl

theorem Token.value_resolve_none (env : Environment) (world : World) (path : Path) :
    (resolve none env world path).value = env.token?.or (inFile? world path).value := by
  rw [resolve]
  cases env.token? <;> rfl

namespace Loader

/-- The token that a store has once the environment file is in it. -/
theorem token?_of_merged {loader : Loader} {world : World} {env filled : Environment} {count : Nat}
    (merged : env.fill (loader.layer world).entries = .done filled count) (clean : ¬env.Garbled) :
    filled.token? = env.token?.or
      ((DotEnv.get? (loader.assignments world) tokenVariable).filter (· != [])) := by
  rw [filled.token?_eq_stored?, env.token?_eq_stored?, stored?_merged merged]
  generalize DotEnv.get? (loader.assignments world) tokenVariable = assigned
  cases held : env.stored? (encode tokenVariable) with
  | none =>
      cases assigned with
      | none => rfl
      | some value =>
          change (decode? (encode value)).filter (· != []) = _
          rw [Utf8.decode?_encode]
          rfl
  | some bytes =>
      cases bytes with
      | nil =>
          cases assigned with
          | none => rfl
          | some value =>
              change (decode? (encode value)).filter (· != []) = _
              rw [Utf8.decode?_encode]
              rfl
      | cons b rest =>
          rw [offered, Option.bind_some]
          cases decoded : decode? (b :: rest) with
          | none => exact absurd (env.garbled_iff_stored?.2 ⟨b, rest, held, decoded⟩) clean
          | some token =>
              have nonempty : token ≠ [] := by
                intro empty
                rw [empty] at decoded
                exact Utf8.decode?_cons_ne_nil b rest decoded
              rw [Option.filter_some, if_pos (bne_iff_ne.2 nonempty)]
              rfl

/-- A token that is no text stays where it is, and is none. -/
theorem token?_of_garbled {loader : Loader} {world : World} {env filled : Environment} {count : Nat}
    (merged : env.fill (loader.layer world).entries = .done filled count) (garbled : env.Garbled) :
    env.token? = none ∧ filled.token? = none := by
  obtain ⟨b, rest, held, undecodable⟩ := env.garbled_iff_stored?.1 garbled
  rw [filled.token?_eq_stored?, env.token?_eq_stored?, stored?_merged merged, held]
  rw [offered, Option.bind_some, undecodable]
  exact ⟨rfl, rfl⟩

/-- Whatever its fetcher is, the loader asks it once, for the bundle of this token, or not at all;
then it reports that there is no token. -/
def AsksFor (loader : Loader) (world : World) (env filled : Environment) : Option Text → Prop
  | some token => loader.Asks world env filled token
  | none => ∀ fetcher : Fetcher, load { loader with fetcher } world env =
      pure (.done filled (.error .missingToken))

theorem asksFor_of_merged {loader : Loader} {world : World} {env filled : Environment} {count : Nat}
    (merged : env.fill (loader.layer world).entries = .done filled count) :
    loader.AsksFor world env filled filled.token? := by
  cases held : filled.token? with
  | none =>
      intro fetcher
      exact load_of_no_token merged held
  | some token =>
      intro fetcher
      exact load_of_token merged held

theorem AsksFor.requests {loader : Loader} {world : World} {env filled : Environment}
    {token : Option Text} (asks : loader.AsksFor world env filled token)
    (answer : Text → Fetch.Options → Except Fetch.Fault Text) :
    (load { loader with fetcher := Fetcher.fixed answer } world env).requests =
      token.toList.map fun token => (token, loader.options) := by
  cases token with
  | none =>
      rw [asks]
      rfl
  | some token =>
      rw [asks]
      rfl

/-- If the environment file can be merged, a load asks with the token that the command would find
in the same store and the same file, once, or not at all if there is none. A process whose token is
no text is the one exception: there a load asks for nothing, and the command goes on to the
file. -/
theorem load_asks_with_resolved_token {loader : Loader} {path : Path}
    (named : loader.dotEnv = some path) {world : World} {env filled : Environment} {count : Nat}
    (merged : env.fill (loader.layer world).entries = .done filled count) :
    let resolved := (Token.resolve none env world path).value
    ∃ asked, loader.AsksFor world env filled asked ∧
      (∀ answer, (load { loader with fetcher := Fetcher.fixed answer } world env).requests =
        asked.toList.map fun token => (token, loader.options)) ∧
      (¬env.Garbled → asked = resolved) ∧
      (env.Garbled → asked = none ∧
        resolved = (DotEnv.get? (loader.assignments world) tokenVariable).filter (· != [])) := by
  intro resolved
  have found : resolved = env.token?.or
      ((DotEnv.get? (loader.assignments world) tokenVariable).filter (· != [])) := by
    rw [← Token.value_inFile? named]
    exact Token.value_resolve_none env world path
  have asks := asksFor_of_merged merged
  refine ⟨filled.token?, asks, asks.requests, ?_, ?_⟩
  · intro clean
    rw [found]
    exact token?_of_merged merged clean
  · intro garbled
    obtain ⟨missing, unasked⟩ := token?_of_garbled merged garbled
    refine ⟨unasked, ?_⟩
    rw [found, missing]
    rfl

def repeatedText : Text := "ENVKEY=a\nENVKEY=b\n".toList

def asking : Loader where
  fetcher := Fetcher.fixed fun _ _ => .error .missingToken
  dotEnv := some dotEnvPath

/-- An empty token gives way to the last one of the file; one that is no text does not, for a
load. -/
theorem load_asks_with_last_assignment :
    let world := World.holding repeatedText
    let empty : Environment := .process (NameMap.ofList [(encode tokenVariable, [])])
    let garbled : Environment := .process (NameMap.ofList [(encode tokenVariable, [255])])
    (Token.resolve none empty world dotEnvPath).value = some ['b'] ∧
      (asking.load world empty).requests = [(['b'], asking.options)] ∧
      (Token.resolve none garbled world dotEnvPath).value = some ['b'] ∧
      (asking.load world garbled).requests = [] := by
  intro world empty garbled
  have assigned : asking.assignments world = [(tokenVariable, ['a']), (tokenVariable, ['b'])] := by
    have saved := World.readText_of_encoded (World.read_holding repeatedText dotEnvPath)
    simp only [assignments, asking, world, saved]
    decide
  have merges : ∀ held, ∃ filled count, Environment.fill
      (.process (NameMap.ofList [(encode tokenVariable, held)])) (asking.layer world).entries =
        .done filled count := by
    intro held
    apply Environment.fill_eq_done_of_settable
    rw [layer_eq_ofList, assigned]
    decide
  have named : asking.dotEnv = some dotEnvPath := rfl
  have file : (Token.inFile? world dotEnvPath).value = some ['b'] := by
    rw [Token.value_inFile? named, assigned]
    decide
  have resolved : (Token.resolve none empty world dotEnvPath).value = some ['b'] := by
    rw [Token.value_resolve_none, file]
    decide
  have clean : ¬empty.Garbled := by
    rintro ⟨bytes, held, filled, _⟩
    cases held
    exact filled rfl
  obtain ⟨_, _, merged⟩ := merges []
  obtain ⟨_, _, requests, same, _⟩ := load_asks_with_resolved_token named merged
  obtain ⟨_, _, merged'⟩ := merges [255]
  obtain ⟨_, _, requests', _, apart⟩ := load_asks_with_resolved_token named merged'
  obtain ⟨unasked, resolved'⟩ := apart ⟨[255], rfl, List.cons_ne_nil _ _, by decide⟩
  refine ⟨resolved, ?_, ?_, ?_⟩
  · rw [same clean, resolved] at requests
    exact requests fun _ _ => .error .missingToken
  · rw [resolved', assigned]
    decide
  · rw [unasked] at requests'
    exact requests' fun _ _ => .error .missingToken

end Loader

end EnvBundle
