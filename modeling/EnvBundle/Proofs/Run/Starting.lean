import EnvBundle.Program
import EnvBundle.Proofs.Fetch.Options
import EnvBundle.Proofs.Run.Stages
import EnvBundle.Proofs.Token

/-!
Which program a run starts, and with what. A run starts one program at most, and only after its
inputs have been checked; all that it does besides is to write lines to the log.
-/
namespace EnvBundle

namespace Settings

theorem starts_discover {world : World} {env : Environment} {named : Option Path} :
    (discover world env named).starts = [] := by
  unfold discover
  split <;> rfl

end Settings

namespace Shell

/-- The announcement and what is said about the answer are lines of the log. -/
theorem starts_source (fetcher : Fetcher) (env : Environment) (token : Text) (overwrite : Bool)
    (options : Fetch.Options) (format : Format) :
    (source fetcher env token overwrite options format).starts =
      (fetcher env token options).starts := by
  have announced : (⟨(), announce options⟩ : Traced Unit).starts = [] := by
    unfold announce
    split <;> rfl
  have presented : ∀ answer, (present env overwrite options format answer).starts = [] := by
    intro answer
    apply Traced.starts_of_logged
    intro event member
    unfold present at member
    split at member
    · rw [List.mem_singleton.1 member]
      exact ⟨_, rfl⟩
    · split at member
      · rw [List.mem_singleton.1 member]
        exact ⟨_, rfl⟩
      · rcases List.mem_append.1 member with skipped | summed
        · obtain ⟨entry, _, rfl⟩ := List.mem_map.1 skipped
          exact ⟨_, rfl⟩
        · unfold summary at summed
          split at summed
          · rw [List.mem_singleton.1 summed]
            exact ⟨_, rfl⟩
          · cases summed
  rw [source, Traced.starts_bind, announced, Traced.starts_bind, presented, List.append_nil,
    List.nil_append]

end Shell

namespace Run

open Fetch.Backend (Launches)
open Settings (SelectsFile Spoils)

variable {invocation : Invocation} {world : World} {env : Environment}

theorem starts_resolve : (Context.resolve invocation world env).starts = [] := by
  rw [Context.resolve, Traced.starts_bind, Settings.starts_discover, List.nil_append]
  cases (Settings.discover world env invocation.config).value with
  | error fault => rfl
  | ok settings =>
      cases usable : (invocation.fetchOptions settings.fetch).validate with
      | error fault =>
          simp only [usable]
          rfl
      | ok _ =>
          simp only [usable]
          rw [Traced.starts_bind, Token.starts_resolve]
          rfl

theorem starts_execute_of_unresolved {fault : Fault}
    (unresolved : (Context.resolve invocation world env).value = .error fault) :
    (execute invocation world env).starts = [] := by
  rw [execute, Traced.starts_bind, starts_resolve, unresolved]
  cases jsonMode : invocation.has .json <;> rfl

/-- What a run starts once it is resolved, in either mode. -/
def Context.starts (context : Context) (world : World) (env : Environment) :
    List (Path × List Bytes) :=
  match Fetch.Backend.program world env context.fetchBin with
  | .error _ => []
  | .ok program =>
    (Fetch.Backend.fetch world program env (context.token.getD []) context.options).starts

theorem starts_shell (context : Context) (force : Bool) (format : Shell.Format) :
    (shell context force format world env).starts = context.starts world env := by
  rw [shell, Traced.starts_bind, Fetch.Backend.starts_choose, List.nil_append,
    Fetch.Backend.value_choose, Context.starts]
  cases Fetch.Backend.program world env context.fetchBin with
  | error fault => rfl
  | ok program =>
      simp only [Traced.starts_bind, Shell.starts_source]
      exact List.append_nil _

/-- For want of a token a run for JSON stops early; one for a shell asks for the bundle of an empty
token. Neither starts a program. -/
theorem starts_json (context : Context) :
    (json context world env).starts = context.starts world env := by
  rw [Context.starts]
  cases tokened : context.token with
  | none =>
      rw [json, tokened]
      cases Fetch.Backend.program world env context.fetchBin <;> rfl
  | some token =>
      rw [json, tokened]
      simp only [Traced.starts_bind, Fetch.Backend.starts_choose, Fetch.Backend.value_choose]
      cases Fetch.Backend.program world env context.fetchBin with
      | error fault => rfl
      | ok program =>
          simp only [Traced.starts_bind, List.nil_append, Option.getD_some]
          cases (Fetch.Backend.fetch world program env token context.options).value <;>
            exact List.append_nil _

theorem starts_execute_of_resolved {context : Context}
    (resolved : (Context.resolve invocation world env).value = .ok context) :
    (execute invocation world env).starts = context.starts world env := by
  rw [execute, Traced.starts_bind, starts_resolve, resolved, List.nil_append]
  cases jsonMode : invocation.has .json with
  | true => exact starts_json context
  | false =>
      simp only [Bool.false_eq_true, if_false, Traced.starts_bind, starts_shell]
      exact List.append_nil _

variable (invocation world env) in
/-- The program that a run starts once it is prepared, and the arguments that it gets. -/
inductive Starts : Path → List Bytes → Prop
  | prepared {settings : Settings} {token : Text} {program : Path} {run : List Bytes → Report}
      (prepared : Prepared invocation world env settings token program)
      (started : Launches world env program
        (Fetch.arguments token (invocation.fetchOptions settings.fetch)) (.ok run)) :
      Starts program (Fetch.arguments token (invocation.fetchOptions settings.fetch))

theorem starts_of_prepared {program : Path} {args : List Bytes}
    (starts : Starts invocation world env program args) :
    (execute invocation world env).starts = [(program, args)] := by
  cases starts with
  | prepared prepared started =>
      have resolved := value_resolve_eq_ok_iff.2 ⟨_, prepared.settled, prepared.usable, rfl⟩
      have found := Fetch.Backend.program_eq_ok_iff.2 prepared.found
      rw [starts_execute_of_resolved resolved, Context.starts, prepared.tokened, found]
      exact Fetch.Backend.starts_fetch_of_started (Token.ne_nil_of_first? prepared.tokened)
        started.behaviour_eq

theorem starts_or_not (invocation : Invocation) (world : World) (env : Environment) :
    (∃ program args, Starts invocation world env program args) ∨
      (execute invocation world env).starts = [] := by
  cases resolved : (Context.resolve invocation world env).value with
  | error fault => exact .inr (starts_execute_of_unresolved resolved)
  | ok context =>
      obtain ⟨settings, settled, usable, rfl⟩ := value_resolve_eq_ok_iff.1 resolved
      rw [starts_execute_of_resolved resolved, Context.starts]
      cases found : Fetch.Backend.program world env (invocation.fetchBin.or settings.fetchBin) with
      | error fault => exact .inr rfl
      | ok program =>
          cases tokened : token? invocation world env with
          | none => exact .inr rfl
          | some token =>
              cases started : Fetch.Backend.behaviour world env program
                  (Fetch.arguments token (invocation.fetchOptions settings.fetch)) with
              | error cause => exact .inr (Fetch.Backend.starts_fetch_of_refused started)
              | ok run =>
                  have located := Fetch.Backend.program_eq_ok_iff.1 found
                  have prepared := Prepared.mk settled usable tokened located
                  have launched := Fetch.Backend.behaviour_eq_iff.1 started
                  exact .inl ⟨program, _, .prepared prepared launched⟩

theorem length_starts_execute_le_one (invocation : Invocation) (world : World)
    (env : Environment) : (execute invocation world env).starts.length ≤ 1 := by
  rcases starts_or_not invocation world env with ⟨program, args, starts⟩ | nothing
  · rw [starts_of_prepared starts]
    exact Nat.le_refl 1
  · rw [nothing]
    exact Nat.zero_le 1

theorem mem_starts_execute_iff {program : Path} {args : List Bytes} :
    (program, args) ∈ (execute invocation world env).starts ↔
      Starts invocation world env program args := by
  constructor
  · intro member
    rcases starts_or_not invocation world env with ⟨other, others, starts⟩ | nothing
    · rw [starts_of_prepared starts] at member
      cases List.mem_singleton.1 member
      exact starts
    · rw [nothing] at member
      cases member
  · intro starts
    rw [starts_of_prepared starts]
    exact List.mem_singleton_self _

theorem starts_execute_of_no_token (missing : token? invocation world env = none) :
    (execute invocation world env).starts = [] := by
  rcases starts_or_not invocation world env with ⟨program, args, starts⟩ | nothing
  · cases starts with
    | prepared prepared started =>
        cases missing.symm.trans prepared.tokened
  · exact nothing

theorem starts_run_of_parsed {arguments : List Bytes}
    (parsed : CommandLine.parse arguments = .ok invocation) :
    (Program.run arguments world env).starts = (execute invocation world env).starts := by
  rw [Program.run, parsed]
  rfl

theorem starts_run_of_refused {arguments : List Bytes} {fault : CommandLine.Fault}
    (refused : CommandLine.parse arguments = .error fault) :
    (Program.run arguments world env).starts = [] := by
  rw [Program.run, refused]
  rfl

/-- Only checked inputs reach a program. In either mode a run starts one program at most. Its
arguments are those for the options of the resolved run, which can be used, and for the first token
that is not empty, of the argument, the process and the environment file. A command line that
cannot be followed, a fault of the settings or of the options and a missing token start nothing; a
run that is prepared starts its program if that can be started at all. -/
theorem only_checked_inputs_are_started (arguments : List Bytes) (world : World)
    (env : Environment) :
    let starts := (Program.run arguments world env).starts
    starts.length ≤ 1 ∧
      (∀ program args, (program, args) ∈ starts →
        ∃ invocation context token, CommandLine.parse arguments = .ok invocation ∧
          (Context.resolve invocation world env).value = .ok context ∧
          args = Fetch.arguments token context.options ∧ token ≠ [] ∧
          Token.first? (Token.candidates invocation.token env world
            (Utf8.encode ".env".toList)) = some token ∧
          context.options.validate = .ok () ∧ context.options.Usable) ∧
      (∀ fault, CommandLine.parse arguments = .error fault → starts = []) ∧
      ∀ invocation, CommandLine.parse arguments = .ok invocation →
        (∀ fault, (Context.resolve invocation world env).value = .error fault → starts = []) ∧
        (∀ path fault, SelectsFile world env invocation.config path → Spoils world path fault →
          starts = []) ∧
        (∀ settings fault, Settles invocation world env settings →
          (invocation.fetchOptions settings.fetch).validate = .error fault → starts = []) ∧
        (Token.first? (Token.candidates invocation.token env world
          (Utf8.encode ".env".toList)) = none → starts = []) ∧
        ∀ program args, Starts invocation world env program args → starts = [(program, args)] := by
  intro starts
  cases parsed : CommandLine.parse arguments with
  | error fault =>
      have nothing : starts = [] := starts_run_of_refused parsed
      rw [nothing]
      refine ⟨Nat.zero_le 1, ?_, fun _ _ => rfl, ?_⟩
      · intro program args member
        cases member
      · intro invocation also
        cases also
  | ok invocation =>
      have same : starts = (execute invocation world env).starts := starts_run_of_parsed parsed
      rw [same]
      refine ⟨length_starts_execute_le_one invocation world env, ?_, ?_, ?_⟩
      · intro program args member
        cases mem_starts_execute_iff.1 member with
        | @prepared settings token program run prepared started =>
            have resolved := value_resolve_eq_ok_iff.2 ⟨settings, prepared.settled,
              prepared.usable, rfl⟩
            refine ⟨invocation, _, token, rfl, resolved, rfl, ?_, prepared.tokened,
              prepared.usable, ?_⟩
            · exact Token.ne_nil_of_first? prepared.tokened
            · exact Fetch.Options.validate_eq_ok_iff.1 prepared.usable
      · intro fault refused
        cases refused
      · intro other also
        cases also
        refine ⟨fun _ => starts_execute_of_unresolved, ?_, ?_, starts_execute_of_no_token,
          fun _ _ => starts_of_prepared⟩
        · intro path fault chosen spoils
          exact starts_execute_of_unresolved (value_resolve_of_spoils chosen spoils)
        · intro settings fault settled refused
          exact starts_execute_of_unresolved (value_resolve_of_unusable settled refused)

/-- Surroundings with two tokens in the environment file, and a program in every other file. -/
def twoTokens : World where
  look path :=
    if path = dotEnvPath then .ok (.file (Utf8.encode "ENVKEY=a\nENVKEY=b\n".toList) none)
    else .ok (.file [] (some fun _ => ⟨[], [], .killed⟩))
  accountHome := none

/-- A process with an empty token and the path of a program. -/
def emptyToken : Environment :=
  .process (NameMap.ofList [(Utf8.encode tokenVariable, []),
    (Utf8.encode Fetch.Backend.programVariable, [47, 102])])

/-- The argument and the process have empty tokens, so the last one of the file counts. Nothing is
started with it if there are settings that cannot be read. -/
theorem only_checked_inputs_are_started_twoTokens :
    (∃ options, (Program.run [[]] twoTokens emptyToken).starts =
        [([47, 102], Fetch.arguments ['b'] options)] ∧ options.Usable) ∧
      (Program.run [[]] (sealed twoTokens) emptyToken).starts = [] := by
  let invocation : Invocation := { Invocation.empty with token := some [] }
  have parsed : CommandLine.parse [[]] = .ok invocation := by decide
  constructor
  · have unchosen : Settings.file? twoTokens emptyToken invocation.config = none := by decide
    have tokened : token? invocation twoTokens emptyToken = some ['b'] := by decide
    have prepared : Prepared invocation twoTokens emptyToken Settings.standard ['b'] [47, 102] :=
      ⟨.standard (Settings.file?_eq_none_iff.1 unchosen), by decide +kernel, tokened,
        .pointed (by decide) (by decide)⟩
    have started : Launches twoTokens emptyToken [47, 102]
        (Fetch.arguments ['b'] (invocation.fetchOptions Settings.standard.fetch))
        (.ok fun _ => ⟨[], [], .killed⟩) :=
      .of_place (by decide) (by decide +kernel) (by decide) rfl
    obtain ⟨_, checked, _, followed⟩ := only_checked_inputs_are_started [[]] twoTokens emptyToken
    obtain ⟨_, _, _, _, begun⟩ := followed invocation parsed
    have starts := begun _ _ (.prepared prepared started)
    obtain ⟨other, context, token, parsed', _, same, _, first, _, usable⟩ :=
      checked _ _ (starts ▸ List.mem_singleton_self _)
    cases parsed.symm.trans parsed'
    cases first.symm.trans tokened
    exact ⟨context.options, same ▸ starts, usable⟩
  · obtain ⟨_, _, _, followed⟩ :=
      only_checked_inputs_are_started [[]] (sealed twoTokens) emptyToken
    obtain ⟨_, spoilt, _⟩ := followed invocation parsed
    have chosen : SelectsFile (sealed twoTokens) emptyToken invocation.config
        (Utf8.encode "/h/.envkey/config.toml".toList) :=
      ⟨_, selects_sealed twoTokens (by decide) (by decide), rfl⟩
    exact spoilt _ _ chosen spoils_sealed

end Run

end EnvBundle
