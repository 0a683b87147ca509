import EnvBundle.Proofs.Loader.Asking

/-!
Which token a run has. There are three places for it, one after the other, and an empty token is
none.
-/
namespace EnvBundle.Token

/-- What an environment file assigns last to the variable of the token. -/
def assigned? (world : World) (path : Path) : Option Text :=
  match world.readText path with
  | .ok t => DotEnv.get? (DotEnv.entries t) "ENVKEY".toList
  | .error _ => none

/-- What may be the token, in the order in which it is looked for: the argument, the variable of
the process if that is a text, and what the environment file says. -/
def candidates (argument : Option Text) (env : Environment) (world : World) (path : Path) :
    List (Option Text) :=
  [argument, env.get? "ENVKEY".toList, assigned? world path]

/-- The first one that is there and not empty. -/
def first? (candidates : List (Option Text)) : Option Text :=
  candidates.findSome? fun candidate => candidate.filter (· != [])

variable {argument : Option Text} {env : Environment} {world : World} {path : Path}

theorem ne_nil_of_first? {candidates : List (Option Text)} {token : Text}
    (first : first? candidates = some token) : token ≠ [] := by
  obtain ⟨candidate, _, filled⟩ := List.exists_of_findSome?_eq_some first
  exact bne_iff_ne.1 (Option.filter_eq_some_iff.1 filled).2

theorem value_inFile?_eq_filter :
    (inFile? world path).value = (assigned? world path).filter (· != []) := by
  -- Only the file of the loader is looked at, not its fetcher.
  let loader : Loader := { fetcher := Fetcher.fixed fun _ _ => .ok [], dotEnv := some path }
  rw [value_inFile? (show loader.dotEnv = some path from rfl)]
  simp only [Loader.assignments, assigned?, loader]
  cases world.readText path <;> rfl

theorem value_resolve_eq_first? :
    (resolve argument env world path).value =
      first? (candidates argument env world path) := by
  have saved : (assigned? world path).filter (· != []) = (inFile? world path).value :=
    value_inFile?_eq_filter.symm
  simp only [first?, candidates, List.findSome?_cons, List.findSome?_nil, saved]
  unfold resolve Environment.token? tokenVariable
  cases argument.filter (· != []) with
  | some token => rfl
  | none =>
      cases (env.get? "ENVKEY".toList).filter (· != []) with
      | some token => rfl
      | none => cases (inFile? world path).value <;> rfl

theorem starts_resolve : (resolve argument env world path).starts = [] := by
  unfold resolve inFile?
  repeat' split
  all_goals rfl

end EnvBundle.Token
