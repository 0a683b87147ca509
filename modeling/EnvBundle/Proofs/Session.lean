import EnvBundle.Proofs.DotEnv.Counting
import EnvBundle.Proofs.Environment.Mirror
import EnvBundle.Proofs.Loader.Layering
import EnvBundle.Shell.Source
import Mathlib.Data.List.Forall2

/-!
Sessions: operations one after another on one store. A process with proper names and readable
values cannot be told from a memory that holds the same.
-/
namespace EnvBundle

/-- An operation on a store. The fetchers are doubles, each a function of token and options. -/
inductive Step where
  | set (name value : Text)
  | get (name : Text)
  | isSet (name : Text)
  | merge (bundle : Bundle)
  | load (answer : Text → Fetch.Options → Except Fetch.Fault Text) (options : Fetch.Options)
      (dotEnv : Option Path) (world : World)
  | source (answer : Text → Fetch.Options → Except Fetch.Fault Text) (token : Text)
      (overwrite : Bool) (options : Fetch.Options) (format : Shell.Format)

inductive Reply where
  | written
  | value (found : Option Text)
  | flag (set : Bool)
  | count (applied : Nat)
  | loaded (result : Except Loader.Fault Unit)
  | text (t : Text)

namespace Step

def perform (env : Environment) : Step → Traced (Outcome Reply)
  | set name value =>
    match env.set? name value with
    | none => pure (.refused env)
    | some next => pure (.done next .written)
  | get name => pure (.done env (.value (env.get? name)))
  | isSet name => pure (.done env (.flag (env.isSet name)))
  | merge bundle =>
    pure ((env.fill bundle.entries).andThen fun env count => .done env (.count count))
  | load answer options dotEnv world => do
    let outcome ← Loader.load ⟨Fetcher.fixed answer, options, dotEnv⟩ world env
    pure (outcome.andThen fun env result => .done env (.loaded result))
  | source answer token overwrite options format => do
    let t ← Shell.source (Fetcher.fixed answer) env token overwrite options format
    pure (.done env (.text t))

/-- What a step has to keep to: names and values that a process can have, a bundle that was read,
and an environment file without a NUL. -/
def Admissible : Step → Prop
  | set name value => Environment.settable name value = true
  | get name => Environment.Nameable name
  | isSet name => Environment.Nameable name
  | merge bundle => ∃ t, Bundle.parse t = .ok bundle
  | load _ _ dotEnv world =>
    ∀ path t, dotEnv = some path → world.readText path = .ok t → '\x00' ∉ t
  | source .. => True

end Step

/-- The steps in order, each on the store that the one before it left. -/
def session (env : Environment) : List Step → List (Traced (Outcome Reply))
  | [] => []
  | step :: rest =>
    let run := step.perform env
    run :: session run.value.env rest

/-- One operation on a memory and on a process: the same requests on the way, and ends that are
alike. -/
structure Traced.Alike {α : Type} (inMemory inProcess : Traced (Outcome α)) : Prop where
  events : inMemory.events = inProcess.events
  ends : Outcome.Alike inMemory.value inProcess.value

theorem Traced.Alike.pure {α : Type} {inMemory inProcess : Outcome α}
    (alike : Outcome.Alike inMemory inProcess) :
    Traced.Alike (Pure.pure inMemory) (Pure.pure inProcess) := ⟨rfl, alike⟩

namespace Loader

/-- An environment file without a NUL assigns nothing that a process cannot hold. -/
theorem settable_of_mem_layer {loader : Loader} {world : World}
    (clean : ∀ path t, loader.dotEnv = some path → world.readText path = .ok t → '\x00' ∉ t) :
    ∀ e ∈ (loader.layer world).entries, Environment.settable e.1 e.2 = true := by
  intro e member
  obtain ⟨path, t, file, read, assigned⟩ := exists_text_of_mem_layer member
  have named := DotEnv.assignable_of_mem_entries assigned
  -- No escape stands for a NUL, so none comes in by way of the quotes.
  have counted := DotEnv.count_contents_entries_le (c := '\x00') (by decide) (by decide) t
  have free : '\x00' ∉ DotEnv.contents (DotEnv.entries t) := by
    rw [List.count_eq_zero.2 (clean path t file read)] at counted
    exact List.count_eq_zero.1 (Nat.le_zero.1 counted)
  have part : '\x00' ∉ e.1 ++ e.2 := fun nul =>
    free (List.mem_flatMap.2 ⟨e, assigned, nul⟩)
  obtain ⟨name, value⟩ := not_or.1 (mt List.mem_append.2 part)
  exact Environment.settable_iff.2 ⟨named.filled, named.free, name, value⟩

theorem receive_alike {vars : NameMap Text Text} (holdable : vars.Holdable)
    (answer : Except Fetch.Fault Text) :
    Outcome.Alike (receive (.memory vars) answer) (receive (.process vars.encoded) answer) := by
  cases answer with
  | error fault => exact .of_done holdable _
  | ok t =>
      rw [receive, receive]
      cases parsed : Bundle.parse t with
      | error fault => exact .of_done holdable _
      | ok bundle =>
          apply (Environment.fill_alike holdable (Bundle.settable_of_parse parsed)).andThen
          intro after _ holdable
          exact .of_done holdable _

theorem fetchInto_alike (answer : Text → Fetch.Options → Except Fetch.Fault Text)
    (options : Fetch.Options) (dotEnv : Option Path) {vars : NameMap Text Text}
    (holdable : vars.Holdable) :
    Traced.Alike (fetchInto ⟨Fetcher.fixed answer, options, dotEnv⟩ (.memory vars))
      (fetchInto ⟨Fetcher.fixed answer, options, dotEnv⟩ (.process vars.encoded)) := by
  have tokens : Environment.token? (.process vars.encoded) = Environment.token? (.memory vars) := by
    have nameable : Environment.Nameable tokenVariable := by decide
    rw [Environment.token?, Environment.token?, Environment.get?_encoded vars nameable]
  rw [fetchInto, fetchInto, tokens]
  cases Environment.token? (.memory vars) with
  | none => exact .pure (.of_done holdable _)
  | some token => exact ⟨rfl, receive_alike holdable (answer token options)⟩

theorem load_alike (answer : Text → Fetch.Options → Except Fetch.Fault Text)
    (options : Fetch.Options) {dotEnv : Option Path} {world : World}
    (clean : ∀ path t, dotEnv = some path → world.readText path = .ok t → '\x00' ∉ t)
    {vars : NameMap Text Text} (holdable : vars.Holdable) :
    Traced.Alike (load ⟨Fetcher.fixed answer, options, dotEnv⟩ world (.memory vars))
      (load ⟨Fetcher.fixed answer, options, dotEnv⟩ world (.process vars.encoded)) := by
  have holds : ∀ e ∈ (layer ⟨Fetcher.fixed answer, options, dotEnv⟩ world).entries,
      Environment.settable e.1 e.2 = true := settable_of_mem_layer clean
  obtain ⟨merged, count, holdable, inMemory, inProcess⟩ := Environment.fill_alike holdable holds
  rw [load, load, inMemory, inProcess]
  exact fetchInto_alike answer options dotEnv holdable

end Loader

/-- What is selected for a shell, and what is left out, is a matter of which names are set. -/
theorem Shell.source_encoded (answer : Text → Fetch.Options → Except Fetch.Fault Text)
    (vars : NameMap Text Text) (token : Text) (overwrite : Bool) (options : Fetch.Options)
    (format : Format) :
    source (Fetcher.fixed answer) (.process vars.encoded) token overwrite options format =
      source (Fetcher.fixed answer) (.memory vars) token overwrite options format := by
  have presented : ∀ result, present (.process vars.encoded) overwrite options format result =
      present (.memory vars) overwrite options format result := by
    intro result
    cases result with
    | error fault => rfl
    | ok t =>
        rw [present, present]
        cases parsed : Bundle.parse t with
        | error fault => rfl
        | ok bundle =>
            have isSet : ∀ e ∈ bundle.entries, Environment.isSet (.process vars.encoded) e.1 =
                Environment.isSet (.memory vars) e.1 := by
              intro e member
              apply Environment.isSet_encoded
              exact Environment.nameable_of_settable (Bundle.settable_of_parse parsed e member)
            have chosen : selected (.process vars.encoded) overwrite bundle =
                selected (.memory vars) overwrite bundle := by
              apply List.filter_congr
              rintro ⟨name, value⟩ member
              simp only [isSet _ member]
            have skipped : skips (.process vars.encoded) overwrite bundle =
                skips (.memory vars) overwrite bundle := by
              apply congrArg (List.map _)
              apply List.filter_congr
              rintro ⟨name, value⟩ member
              simp only [isSet _ member]
            dsimp only
            rw [chosen, skipped]
  rw [source, source]
  simp only [presented]
  rfl

theorem Step.perform_alike {vars : NameMap Text Text} (holdable : vars.Holdable) {step : Step}
    (admissible : step.Admissible) :
    Traced.Alike (step.perform (.memory vars)) (step.perform (.process vars.encoded)) := by
  cases step with
  | set name value =>
      rw [perform, perform, Environment.set?_encoded vars admissible]
      exact .pure (.of_done (Environment.holdable_insert holdable admissible) _)
  | get name =>
      rw [perform, perform, Environment.get?_encoded vars admissible]
      exact .pure (.of_done holdable _)
  | isSet name =>
      rw [perform, perform, Environment.isSet_encoded vars admissible]
      exact .pure (.of_done holdable _)
  | merge bundle =>
      obtain ⟨t, parsed⟩ := admissible
      apply Traced.Alike.pure
      apply (Environment.fill_alike holdable (Bundle.settable_of_parse parsed)).andThen
      intro after count holdable
      exact .of_done holdable _
  | load answer options dotEnv world =>
      have loaded := Loader.load_alike answer options admissible holdable
      constructor
      · exact congrArg (· ++ []) loaded.events
      · apply loaded.ends.andThen
        intro after result holdable
        exact .of_done holdable _
  | source answer token overwrite options format =>
      rw [perform, perform, Shell.source_encoded]
      exact ⟨rfl, .of_done holdable _⟩

/-- However many steps there are, the process stays the mirror of the memory: every step gives the
same reply after the same requests, none is refused, and both stores have the same variables after
each. -/
theorem sessions_alike {vars : NameMap Text Text} (holdable : vars.Holdable) {steps : List Step}
    (admissible : ∀ step ∈ steps, step.Admissible) :
    List.Forall₂ Traced.Alike (session (.memory vars) steps)
      (session (.process vars.encoded) steps) := by
  induction steps generalizing vars with
  | nil => exact .nil
  | cons step steps ih =>
      obtain ⟨first, rest⟩ := List.forall_mem_cons.1 admissible
      have alike := Step.perform_alike holdable first
      obtain ⟨after, reply, kept, inMemory, inProcess⟩ := alike.ends
      refine .cons alike ?_
      rw [inMemory, inProcess]
      exact ih kept rest

def sampleText : Text := "\x7b\"A\":\"1\",\"B\":\"é\"\x7d".toList

def sampleVars : NameMap Text Text := NameMap.ofList [(['A'], []), (['C'], ['é'])]

def sampleSteps : List Step :=
  [.set ['B'] [],
    .load (fun _ _ => .ok sampleText) (Fetch.Options.loader false) (some dotEnvPath)
      (World.holding "ENVKEY=k\nA=2\n".toList),
    .merge (NameMap.ofList [(['A'], ['1']), (['B'], ['é'])]),
    .get ['B'],
    .source (fun _ _ => .ok sampleText) ['k'] false (Fetch.Options.loader false) .standard,
    .isSet ['C']]

/-- The load takes its token from the environment file, in both stores. -/
theorem sessions_alike_sample :
    sampleVars.Holdable ∧ (∀ step ∈ sampleSteps, step.Admissible) ∧
      List.Forall₂ Traced.Alike (session (.memory sampleVars) sampleSteps)
        (session (.process sampleVars.encoded) sampleSteps) ∧
      (session (.process sampleVars.encoded) sampleSteps).map
        (fun run => run.requests.map Prod.fst) = [[], [['k']], [], [], [['k']], []] := by
  have holdable : sampleVars.Holdable := by
    unfold NameMap.Holdable
    decide
  have admissible : ∀ step ∈ sampleSteps, step.Admissible := by
    have read : Json.object sampleText = .ok [(['A'], ['1']), (['B'], ['é'])] := by
      decide +kernel
    have clean : ∀ path t, some dotEnvPath = some path →
        (World.holding "ENVKEY=k\nA=2\n".toList).readText path = .ok t → '\x00' ∉ t := by
      intro path t _ saved
      rw [World.readText_of_encoded (World.read_holding _ path)] at saved
      cases saved
      decide
    simp only [sampleSteps, List.forall_mem_cons]
    exact ⟨rfl, clean, ⟨sampleText, Bundle.parse_of_object read (by decide)⟩, rfl, trivial, rfl,
      List.forall_mem_nil _⟩
  exact ⟨holdable, admissible, sessions_alike holdable admissible, by decide +kernel⟩

end EnvBundle
