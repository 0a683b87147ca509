import EnvBundle.Proofs.Fetch.Answer
import EnvBundle.Proofs.Fetch.Launch
import EnvBundle.Proofs.Settings.Source
import EnvBundle.Proofs.Token
import EnvBundle.Run

/-!
The stages of a run, by what each has to find. A run that passes all of them is supplied with a
bundle; a run that does not is hindered by one of them. Nothing is taken from the run itself here:
settings, token, program and what a start comes to are told by rules of their own.
-/
namespace EnvBundle

namespace Run

open Fetch.Backend (Launches Locates behaviour_eq_iff)
open Settings (Documents Selects SelectsFile Spoils settingsOf)

variable (invocation : Invocation) (world : World) (env : Environment)

/-- The settings of a run are those of the file chosen, or the standard ones for want of a file. -/
inductive Settles : Settings → Prop
  | standard (unchosen : Selects world env invocation.config .builtIn) : Settles Settings.standard
  | file {path : Path} {document : Toml.Entries}
      (chosen : SelectsFile world env invocation.config path)
      (documents : Documents world path document) : Settles (settingsOf document)

/-- The token of a run, if it has one. -/
def token? : Option Text :=
  Token.first? (Token.candidates invocation.token env world (Utf8.encode ".env".toList))

/-- What a run has before it starts a program. -/
structure Prepared (settings : Settings) (token : Text) (program : Path) : Prop where
  settled : Settles invocation world env settings
  usable : (invocation.fetchOptions settings.fetch).validate = .ok ()
  tokened : token? invocation world env = some token
  found : Locates world env (invocation.fetchBin.or settings.fetchBin) program

/-- The program that a run starts ends with a report. -/
inductive Reports : Report → Prop
  | ended {settings : Settings} {token : Text} {program : Path} {run : List Bytes → Report}
      (prepared : Prepared invocation world env settings token program)
      (started : Launches world env program
        (Fetch.arguments token (invocation.fetchOptions settings.fetch)) (.ok run)) :
      Reports (run (Fetch.arguments token (invocation.fetchOptions settings.fetch)))

/-- A program that succeeds leaves the text of a bundle, between blanks. -/
inductive Fetches : Text → Prop
  | printed {report : Report} {raw : Text} (reports : Reports invocation world env report)
      (success : report.ending = .exited 0) (decoded : Utf8.decode? report.stdout = some raw) :
      Fetches (Text.trim raw)

/-- The run has a bundle to show. -/
def Supplies (bundle : Bundle) : Prop :=
  ∃ t, Fetches invocation world env t ∧ Bundle.parse t = .ok bundle

/-- What keeps a run from a bundle. A cause says nothing about the stages that it does not need, so
several may hold at once. -/
inductive Hindered : Prop
  | spoiledSettings {path : Path} {fault : Settings.Fault}
      (chosen : SelectsFile world env invocation.config path) (spoils : Spoils world path fault)
  | unusableOptions {settings : Settings} {fault : Fetch.Options.Fault}
      (settled : Settles invocation world env settings)
      (refused : (invocation.fetchOptions settings.fetch).validate = .error fault)
  | missingToken (missing : token? invocation world env = none)
  | missingProgram {settings : Settings} (settled : Settles invocation world env settings)
      (missing : ∀ program,
        ¬Locates world env (invocation.fetchBin.or settings.fetchBin) program)
  | notStarted {settings : Settings} {token : Text} {program : Path} {fault : SystemFault}
      (settled : Settles invocation world env settings)
      (tokened : token? invocation world env = some token)
      (found : Locates world env (invocation.fetchBin.or settings.fetchBin) program)
      (refused : Launches world env program
        (Fetch.arguments token (invocation.fetchOptions settings.fetch)) (.error fault))
  | failed {report : Report} (reports : Reports invocation world env report)
      (failure : report.ending ≠ .exited 0)
  | undecodableOutput {report : Report} (reports : Reports invocation world env report)
      (undecodable : Utf8.decode? report.stdout = none)
  | malformedBundle {t : Text} {fault : Bundle.Fault} (fetches : Fetches invocation world env t)
      (refused : Bundle.parse t = .error fault)

/-- The first stage that a run does not pass on its way to a text. The cases are in the order of the
stages, and each asks that the stages before it are passed. There is one case a stage, but a start
may also come to nothing because the program, or what the system needs to run it, is not there. -/
inductive Stops : Fault → Prop
  | settings {path : Path} {fault : Settings.Fault}
      (chosen : SelectsFile world env invocation.config path) (spoils : Spoils world path fault) :
      Stops (.settings fault)
  | options {settings : Settings} {fault : Fetch.Options.Fault}
      (settled : Settles invocation world env settings)
      (refused : (invocation.fetchOptions settings.fetch).validate = .error fault) :
      Stops (.options fault)
  | token {settings : Settings} (settled : Settles invocation world env settings)
      (usable : (invocation.fetchOptions settings.fetch).validate = .ok ())
      (missing : token? invocation world env = none) : Stops (.fetch .missingToken)
  | lookup {settings : Settings} {token : Text} (settled : Settles invocation world env settings)
      (usable : (invocation.fetchOptions settings.fetch).validate = .ok ())
      (tokened : token? invocation world env = some token)
      (missing : ∀ program,
        ¬Locates world env (invocation.fetchBin.or settings.fetchBin) program) :
      Stops (.fetch (.backendNotFound "envkey-fetch".toList))
  | vanished {settings : Settings} {token : Text} {program : Path}
      (prepared : Prepared invocation world env settings token program)
      (refused : Launches world env program
        (Fetch.arguments token (invocation.fetchOptions settings.fetch)) (.error .absent)) :
      Stops (.fetch (.backendNotFound (Path.display program)))
  | start {settings : Settings} {token : Text} {program : Path} {cause : SystemFault}
      (prepared : Prepared invocation world env settings token program)
      (refused : Launches world env program
        (Fetch.arguments token (invocation.fetchOptions settings.fetch)) (.error cause))
      (present : cause ≠ .absent) : Stops (.fetch (.notStarted cause))
  | ending {report : Report} (reports : Reports invocation world env report)
      (failure : report.ending ≠ .exited 0) :
      Stops (.fetch (.rejected
        (Fetch.failureReason (Utf8.decodeLossy report.stderr) report.ending)))
  | decoding {report : Report} (reports : Reports invocation world env report)
      (success : report.ending = .exited 0) (undecodable : Utf8.decode? report.stdout = none) :
      Stops (.fetch .undecodableOutput)

variable {invocation world env}

theorem value_discover_eq_ok_iff {settings : Settings} :
    (Settings.discover world env invocation.config).value = .ok settings ↔
      Settles invocation world env settings := by
  unfold Settings.discover
  constructor
  · intro discovered
    split at discovered
    · rename_i unchosen
      cases discovered
      exact .standard (Settings.file?_eq_none_iff.1 unchosen)
    · rename_i path chosen
      obtain ⟨document, documents, rfl⟩ := Settings.load_eq_ok_iff_documents.1 discovered
      exact .file (Settings.file?_eq_some_iff.1 chosen) documents
  · intro settled
    cases settled with
    | standard unchosen =>
        rw [Settings.file?_eq_none_iff.2 unchosen]
        rfl
    | file chosen documents =>
        rw [Settings.file?_eq_some_iff.2 chosen]
        exact Settings.load_of_documents documents

theorem value_discover_eq_error_iff {fault : Settings.Fault} :
    (Settings.discover world env invocation.config).value = .error fault ↔
      ∃ path, SelectsFile world env invocation.config path ∧ Spoils world path fault := by
  unfold Settings.discover
  constructor
  · intro refused
    split at refused
    · cases refused
    · rename_i path chosen
      exact ⟨path, Settings.file?_eq_some_iff.1 chosen, Settings.load_eq_error_iff.1 refused⟩
  · rintro ⟨path, chosen, spoils⟩
    rw [Settings.file?_eq_some_iff.2 chosen]
    exact Settings.load_of_spoils spoils

theorem value_resolve_token :
    (Token.resolve invocation.token env world dotEnvPath).value = token? invocation world env :=
  Token.value_resolve_eq_first?

theorem value_resolve_eq_ok_iff {context : Context} :
    (Context.resolve invocation world env).value = .ok context ↔
      ∃ settings, Settles invocation world env settings ∧
        (invocation.fetchOptions settings.fetch).validate = .ok () ∧
        context = ⟨token? invocation world env, invocation.fetchOptions settings.fetch,
          invocation.fetchBin.or settings.fetchBin⟩ := by
  rw [← value_resolve_token]
  unfold Context.resolve
  rw [Traced.value_bind]
  constructor
  · intro resolved
    cases discovered : (Settings.discover world env invocation.config).value with
    | error fault =>
        rw [discovered] at resolved
        cases resolved
    | ok settings =>
        rw [discovered] at resolved
        cases usable : (invocation.fetchOptions settings.fetch).validate with
        | error fault =>
            simp only [usable] at resolved
            cases resolved
        | ok _ =>
            simp only [usable] at resolved
            cases resolved
            exact ⟨settings, value_discover_eq_ok_iff.1 discovered, usable, rfl⟩
  · rintro ⟨settings, settled, usable, rfl⟩
    rw [value_discover_eq_ok_iff.2 settled]
    simp only [usable]
    rfl

theorem value_resolve_of_spoils {path : Path} {fault : Settings.Fault}
    (chosen : SelectsFile world env invocation.config path) (spoils : Spoils world path fault) :
    (Context.resolve invocation world env).value = .error (.settings fault) := by
  rw [Context.resolve, Traced.value_bind, value_discover_eq_error_iff.2 ⟨path, chosen, spoils⟩]
  rfl

theorem value_resolve_of_unusable {settings : Settings} {fault : Fetch.Options.Fault}
    (settled : Settles invocation world env settings)
    (refused : (invocation.fetchOptions settings.fetch).validate = .error fault) :
    (Context.resolve invocation world env).value = .error (.options fault) := by
  rw [Context.resolve, Traced.value_bind, value_discover_eq_ok_iff.2 settled]
  simp only [refused]
  rfl

/-- A run has a text exactly if the program it chooses answers with that text. -/
theorem fetches_iff {t : Text} :
    Fetches invocation world env t ↔
      ∃ context program, (Context.resolve invocation world env).value = .ok context ∧
        Fetch.Backend.program world env context.fetchBin = .ok program ∧
        (Fetch.Backend.fetch world program env (context.token.getD []) context.options).value =
          .ok t := by
  constructor
  · rintro ⟨⟨prepared, started⟩, success, decoded⟩
    refine ⟨_, _, value_resolve_eq_ok_iff.2 ⟨_, prepared.settled, prepared.usable, rfl⟩,
      Fetch.Backend.program_eq_ok_iff.2 prepared.found, ?_⟩
    rw [prepared.tokened, Option.getD_some, Fetch.Backend.value_fetch_eq_ok_iff]
    exact ⟨Token.ne_nil_of_first? prepared.tokened, _, behaviour_eq_iff.2 started,
      Fetch.Backend.result_eq_ok_iff.2 ⟨success, _, decoded, rfl⟩⟩
  · rintro ⟨context, program, resolved, found, answered⟩
    obtain ⟨settings, settled, usable, rfl⟩ := value_resolve_eq_ok_iff.1 resolved
    obtain ⟨given, run, started, accepted⟩ := Fetch.Backend.value_fetch_eq_ok_iff.1 answered
    obtain ⟨success, raw, decoded, rfl⟩ := Fetch.Backend.result_eq_ok_iff.1 accepted
    cases tokened : token? invocation world env with
    | none =>
        simp only [tokened] at given
        exact absurd rfl given
    | some token =>
        simp only [tokened, Option.getD_some] at started success decoded
        have located := Fetch.Backend.program_eq_ok_iff.1 found
        have launched := behaviour_eq_iff.1 started
        exact .printed (.ended ⟨settled, usable, tokened, located⟩ launched) success decoded

theorem Settles.unique {first second : Settings} (left : Settles invocation world env first)
    (right : Settles invocation world env second) : first = second := by
  have both := (value_discover_eq_ok_iff.2 left).symm.trans (value_discover_eq_ok_iff.2 right)
  exact Except.ok.inj both

/-- A file that is chosen and spoils the settings leaves none. -/
theorem Settles.not_spoils {settings : Settings} {path : Path} {fault : Settings.Fault}
    (settled : Settles invocation world env settings)
    (chosen : SelectsFile world env invocation.config path) : ¬Spoils world path fault := by
  intro spoils
  cases (value_discover_eq_ok_iff.2 settled).symm.trans
    (value_discover_eq_error_iff.2 ⟨path, chosen, spoils⟩)

theorem Prepared.unique {first second : Settings} {token secret : Text} {program other : Path}
    (left : Prepared invocation world env first token program)
    (right : Prepared invocation world env second secret other) :
    first = second ∧ token = secret ∧ program = other := by
  cases left.settled.unique right.settled
  exact ⟨rfl, Option.some.inj (left.tokened.symm.trans right.tokened),
    left.found.unique right.found⟩

theorem Reports.unique {first second : Report} (left : Reports invocation world env first)
    (right : Reports invocation world env second) : first = second := by
  cases left with
  | ended prepared started =>
      cases right with
      | ended prepared' started' =>
          obtain ⟨rfl, rfl, rfl⟩ := prepared.unique prepared'
          cases started.unique started'
          rfl

theorem Fetches.unique {first second : Text} (left : Fetches invocation world env first)
    (right : Fetches invocation world env second) : first = second := by
  cases left with
  | printed reports success decoded =>
      cases right with
      | printed reports' success' decoded' =>
          cases reports.unique reports'
          cases decoded.symm.trans decoded'
          rfl

theorem Supplies.unique {first second : Bundle} (left : Supplies invocation world env first)
    (right : Supplies invocation world env second) : first = second := by
  obtain ⟨t, fetches, parsed⟩ := left
  obtain ⟨t', fetches', parsed'⟩ := right
  cases fetches.unique fetches'
  exact Except.ok.inj (parsed.symm.trans parsed')

/-- Whatever stops a run keeps it from a bundle. -/
theorem Stops.hindered {fault : Fault} (stops : Stops invocation world env fault) :
    Hindered invocation world env := by
  cases stops with
  | settings chosen spoils => exact .spoiledSettings chosen spoils
  | options settled refused => exact .unusableOptions settled refused
  | token _ _ missing => exact .missingToken missing
  | lookup settled _ _ missing => exact .missingProgram settled missing
  | vanished prepared refused =>
      exact .notStarted prepared.settled prepared.tokened prepared.found refused
  | start prepared refused _ =>
      exact .notStarted prepared.settled prepared.tokened prepared.found refused
  | ending reports failure => exact .failed reports failure
  | decoding reports _ undecodable => exact .undecodableOutput reports undecodable

section

variable (invocation world env)

theorem settles_or_stops :
    (∃ settings, Settles invocation world env settings) ∨
      ∃ fault, Stops invocation world env fault := by
  cases discovered : (Settings.discover world env invocation.config).value with
  | ok settings => exact .inl ⟨settings, value_discover_eq_ok_iff.1 discovered⟩
  | error fault =>
      obtain ⟨path, chosen, spoils⟩ := value_discover_eq_error_iff.1 discovered
      exact .inr ⟨_, .settings chosen spoils⟩

theorem prepared_or_stops :
    (∃ settings token program, Prepared invocation world env settings token program) ∨
      ∃ fault, Stops invocation world env fault := by
  rcases settles_or_stops invocation world env with ⟨settings, settled⟩ | stops
  · cases usable : (invocation.fetchOptions settings.fetch).validate with
    | error fault => exact .inr ⟨_, .options settled usable⟩
    | ok _ =>
        cases tokened : token? invocation world env with
        | none => exact .inr ⟨_, .token settled usable tokened⟩
        | some token =>
            by_cases found : ∃ program,
                Locates world env (invocation.fetchBin.or settings.fetchBin) program
            · obtain ⟨program, found⟩ := found
              exact .inl ⟨settings, token, program, settled, usable, tokened, found⟩
            · exact .inr ⟨_, .lookup settled usable tokened (not_exists.1 found)⟩
  · exact .inr stops

theorem reports_or_stops :
    (∃ report, Reports invocation world env report) ∨
      ∃ fault, Stops invocation world env fault := by
  rcases prepared_or_stops invocation world env with ⟨settings, token, program, prepared⟩ | stops
  · cases started : Fetch.Backend.behaviour world env program
        (Fetch.arguments token (invocation.fetchOptions settings.fetch)) with
    | error cause =>
        have refused := behaviour_eq_iff.1 started
        by_cases absent : cause = .absent
        · exact .inr ⟨_, .vanished prepared (absent ▸ refused)⟩
        · exact .inr ⟨_, .start prepared refused absent⟩
    | ok run => exact .inl ⟨_, .ended prepared (behaviour_eq_iff.1 started)⟩
  · exact .inr stops

theorem fetches_or_stops :
    (∃ t, Fetches invocation world env t) ∨ ∃ fault, Stops invocation world env fault := by
  rcases reports_or_stops invocation world env with ⟨report, reports⟩ | stops
  · by_cases success : report.ending = .exited 0
    · cases decoded : Utf8.decode? report.stdout with
      | none => exact .inr ⟨_, .decoding reports success decoded⟩
      | some raw => exact .inl ⟨_, .printed reports success decoded⟩
    · exact .inr ⟨_, .ending reports success⟩
  · exact .inr stops

theorem supplies_or_hindered :
    (∃ bundle, Supplies invocation world env bundle) ∨ Hindered invocation world env := by
  rcases fetches_or_stops invocation world env with ⟨t, fetches⟩ | ⟨fault, stops⟩
  · cases parsed : Bundle.parse t with
    | error fault => exact .inr (.malformedBundle fetches parsed)
    | ok bundle => exact .inl ⟨bundle, t, fetches, parsed⟩
  · exact .inr stops.hindered

end

theorem Hindered.not_supplies (hindered : Hindered invocation world env) (bundle : Bundle) :
    ¬Supplies invocation world env bundle := by
  rintro ⟨t, fetches, accepted⟩
  -- What the run came to is both kept and taken apart: a cause may blame it as a whole or a part.
  obtain ⟨reports, success, decoded⟩ := id fetches
  obtain ⟨prepared, started⟩ := id reports
  cases hindered with
  | spoiledSettings chosen spoils => exact prepared.settled.not_spoils chosen spoils
  | unusableOptions settled refused =>
      cases settled.unique prepared.settled
      cases refused.symm.trans prepared.usable
  | missingToken missing => cases missing.symm.trans prepared.tokened
  | missingProgram settled missing =>
      cases settled.unique prepared.settled
      exact missing _ prepared.found
  | notStarted settled tokened found refused =>
      cases settled.unique prepared.settled
      cases tokened.symm.trans prepared.tokened
      cases found.unique prepared.found
      cases refused.unique started
  | failed reports' failure =>
      cases reports.unique reports'
      exact failure success
  | undecodableOutput reports' undecodable =>
      cases reports.unique reports'
      cases undecodable.symm.trans decoded
  | malformedBundle fetches' refused =>
      cases fetches.unique fetches'
      cases refused.symm.trans accepted

theorem not_hindered_iff :
    ¬Hindered invocation world env ↔ ∃ bundle, Supplies invocation world env bundle := by
  constructor
  · intro free
    exact (supplies_or_hindered invocation world env).resolve_right free
  · rintro ⟨bundle, supplies⟩ hindered
    exact hindered.not_supplies bundle supplies

/-- The same surroundings, but the user has a home directory with a settings file that only others
can read. -/
def sealed (world : World) : World where
  look path :=
    if path = Utf8.encode "/h/.envkey/config.toml".toList then .ok (.plain (.error .denied) none)
    else world.look path
  accountHome := some (Utf8.encode "/h".toList)

theorem look_sealed : (sealed world).look (Utf8.encode "/h/.envkey/config.toml".toList) =
    .ok (.plain (.error .denied) none) := by
  simp only [sealed, if_true]

theorem read_sealed : (sealed world).read (Utf8.encode "/h/.envkey/config.toml".toList) =
    .error .denied := by
  rw [World.read, look_sealed]
  rfl

/-- The file is the one that counts, for it is there. -/
theorem selects_sealed (world : World) (unset : env.filled? Settings.fileVariable = none)
    (homeless : env.filled? "HOME".toList = none) :
    Selects (sealed world) env none (.home (Utf8.encode "/h/.envkey/config.toml".toList)) := by
  have lives : Settings.Lives (sealed world) env (Utf8.encode "/h".toList) :=
    .recorded (Environment.filled?_eq_none_iff.1 homeless) rfl (by decide)
  exact .home rfl (Environment.filled?_eq_none_iff.1 unset) (.below lives (by decide)) look_sealed

theorem spoils_sealed : Spoils (sealed world) (Utf8.encode "/h/.envkey/config.toml".toList)
    (.unreadable .denied) :=
  .unreadable (World.readText_of_refused read_sealed)

theorem stops_sealed (world : World) (unnamed : invocation.config = none)
    (unset : env.filled? Settings.fileVariable = none)
    (homeless : env.filled? "HOME".toList = none) :
    Stops invocation (sealed world) env (.settings (.unreadable .denied)) := by
  have chosen := selects_sealed world unset homeless
  rw [← unnamed] at chosen
  exact .settings ⟨_, chosen, rfl⟩ spoils_sealed

/-- Surroundings in which there is nothing but a program that may be run, in no form that the system
can start. -/
def unstartable : World where
  look path :=
    if path = Utf8.encode "/b/envkey-fetch".toList then
      .ok (.plain (.ok []) (some (.error .unknownFormat)))
    else .error .absent
  accountHome := none

/-- A process with a token and the directory of that program on its search path. -/
def searching : Environment :=
  .process (NameMap.ofList [(Utf8.encode tokenVariable, [116]),
    (Utf8.encode "PATH".toList, Utf8.encode "/b".toList)])

/-- The program is found, and the run stops at its start. -/
theorem stops_unstartable (unnamed : invocation.config = none) (tokenless : invocation.token = none)
    (unplaced : invocation.fetchBin = none)
    (usable : (invocation.fetchOptions Settings.standard.fetch).validate = .ok ())
    (clean : (Fetch.arguments ['t'] (invocation.fetchOptions Settings.standard.fetch)).any
      (·.contains 0) = false) :
    Stops invocation unstartable searching (.fetch (.notStarted .unknownFormat)) := by
  have unchosen : Selects unstartable searching invocation.config .builtIn := by
    rw [unnamed]
    exact Settings.file?_eq_none_iff.1 (by decide)
  have tokened : token? invocation unstartable searching = some ['t'] := by
    rw [token?, tokenless]
    decide
  have found : Locates unstartable searching
      (invocation.fetchBin.or Settings.standard.fetchBin)
      (Utf8.encode "/b/envkey-fetch".toList) := by
    rw [unplaced]
    exact Fetch.Backend.program_eq_ok_iff.1 (by decide)
  have refused : Launches unstartable searching (Utf8.encode "/b/envkey-fetch".toList)
      (Fetch.arguments ['t'] (invocation.fetchOptions Settings.standard.fetch))
      (.error .unknownFormat) :=
    .of_place (by decide) clean (by decide) rfl
  exact .start ⟨.standard unchosen, usable, tokened, found⟩ refused (by decide)

end Run

end EnvBundle
