import EnvBundle.Proofs.Run.Printing
import EnvBundle.Proofs.Run.Stages
import EnvBundle.Proofs.Text.Utf8
import Mathlib.Control.Monad.Basic
import Mathlib.Logic.ExistsUnique

/-!
What a run prints for JSON: the text that it fetched, in one block, or nothing at all and the fault
of the first stage that it does not pass.
-/
namespace EnvBundle.Run

open Fetch.Backend (Launches Locates)

variable {invocation : Invocation} {world : World} {env : Environment}

theorem value_execute_of_unresolved (jsonMode : invocation.has .json = true) {fault : Fault}
    (unresolved : (Context.resolve invocation world env).value = .error fault) :
    (execute invocation world env).value = .error fault := by
  rw [execute, Traced.value_bind, unresolved]
  simp only [jsonMode, if_true]
  rfl

theorem value_execute_of_resolved (jsonMode : invocation.has .json = true) {context : Context}
    (resolved : (Context.resolve invocation world env).value = .ok context) :
    (execute invocation world env).value = (json context world env).value := by
  rw [execute, Traced.value_bind, resolved]
  simp only [jsonMode, if_true]

theorem value_json_of_no_program {context : Context} {token : Text}
    (tokened : context.token = some token)
    (missing : ∀ program, ¬Locates world env context.fetchBin program) :
    (json context world env).value =
      .error (.fetch (.backendNotFound "envkey-fetch".toList)) := by
  have refused := Fetch.Backend.program_eq_error_iff.2 ⟨missing, rfl⟩
  rw [json, tokened]
  simp only [Traced.value_bind, Fetch.Backend.value_choose, refused]
  rfl

/-- With a token and a program the answer decides: it is printed, or its fault is the run's. -/
theorem value_json_of_answer {context : Context} {token : Text} {program : Path}
    (tokened : context.token = some token)
    (found : Locates world env context.fetchBin program) {answer : Except Fetch.Fault Text}
    (answered : (Fetch.Backend.fetch world program env token context.options).value = answer) :
    (json context world env).value = (answer.mapError Fault.fetch).map block := by
  have chosen := Fetch.Backend.program_eq_ok_iff.2 found
  rw [json, tokened]
  simp only [Traced.value_bind, Fetch.Backend.value_choose, chosen, answered]
  cases answer <;> rfl

section

variable {settings : Settings} {token : Text} {program : Path}

/-- A run that has come to starting its program ends as the program does. -/
theorem value_execute_of_prepared (jsonMode : invocation.has .json = true)
    (prepared : Prepared invocation world env settings token program)
    {answer : Except Fetch.Fault Text}
    (answered : (Fetch.Backend.fetch world program env token
      (invocation.fetchOptions settings.fetch)).value = answer) :
    (execute invocation world env).value = (answer.mapError Fault.fetch).map block := by
  have resolved := value_resolve_eq_ok_iff.2 ⟨settings, prepared.settled, prepared.usable, rfl⟩
  rw [value_execute_of_resolved jsonMode resolved]
  exact value_json_of_answer prepared.tokened prepared.found answered

theorem value_execute_of_refused (jsonMode : invocation.has .json = true)
    (prepared : Prepared invocation world env settings token program) {cause : SystemFault}
    (refused : Launches world env program
      (Fetch.arguments token (invocation.fetchOptions settings.fetch)) (.error cause)) :
    (execute invocation world env).value =
      .error (.fetch (Fetch.Backend.notStarted program cause)) := by
  have given := Token.ne_nil_of_first? prepared.tokened
  exact value_execute_of_prepared jsonMode prepared
    (Fetch.Backend.value_fetch_of_refused given refused.behaviour_eq)

theorem value_execute_of_reports (jsonMode : invocation.has .json = true) {report : Report}
    (reports : Reports invocation world env report) :
    (execute invocation world env).value =
      ((Fetch.Backend.result report).mapError Fault.fetch).map block := by
  cases reports with
  | ended prepared started =>
      have given := Token.ne_nil_of_first? prepared.tokened
      exact value_execute_of_prepared jsonMode prepared
        (Fetch.Backend.value_fetch_of_started given started.behaviour_eq)

end

theorem value_execute_of_fetches (jsonMode : invocation.has .json = true) {t : Text}
    (fetches : Fetches invocation world env t) :
    (execute invocation world env).value = .ok (if t = [] then [] else t ++ ['\n']) := by
  cases fetches with
  | @printed report raw reports success decoded =>
      have answered : Fetch.Backend.result report = .ok (Text.trim raw) :=
        Fetch.Backend.result_eq_ok_iff.2 ⟨success, raw, decoded, rfl⟩
      rw [value_execute_of_reports jsonMode reports, answered, ← block_trim]
      rfl

theorem value_execute_of_stops (jsonMode : invocation.has .json = true) {fault : Fault}
    (stops : Stops invocation world env fault) :
    (execute invocation world env).value = .error fault := by
  cases stops with
  | settings chosen spoils =>
      exact value_execute_of_unresolved jsonMode (value_resolve_of_spoils chosen spoils)
  | options settled refused =>
      exact value_execute_of_unresolved jsonMode (value_resolve_of_unusable settled refused)
  | token settled usable missing =>
      have resolved := value_resolve_eq_ok_iff.2 ⟨_, settled, usable, rfl⟩
      rw [value_execute_of_resolved jsonMode resolved, json, missing]
      rfl
  | lookup settled usable tokened missing =>
      have resolved := value_resolve_eq_ok_iff.2 ⟨_, settled, usable, rfl⟩
      rw [value_execute_of_resolved jsonMode resolved]
      exact value_json_of_no_program tokened missing
  | vanished prepared refused => exact value_execute_of_refused jsonMode prepared refused
  | start prepared refused present =>
      rw [← Fetch.Backend.notStarted_of_present present]
      exact value_execute_of_refused jsonMode prepared refused
  | ending reports failure =>
      rw [value_execute_of_reports jsonMode reports, Fetch.Backend.result_of_failure failure]
      rfl
  | decoding reports success undecodable =>
      rw [value_execute_of_reports jsonMode reports,
        Fetch.Backend.result_of_undecodable success undecodable]
      rfl

/-- With the switch for JSON a run prints the text it fetched and succeeds, or it prints nothing
and fails with the fault of the first stage that it does not pass. One of the two holds of every
run. -/
theorem json_mode_prints_answer_or_stops {arguments : List Bytes} {invocation : Invocation}
    (parsed : CommandLine.parse arguments = .ok invocation)
    (jsonMode : invocation.has .json = true) (world : World) (env : Environment) :
    let printed := (Program.run arguments world env).value
    (∀ t, Fetches invocation world env t →
      (execute invocation world env).value = .ok printed.stdout ∧ printed.status = 0 ∧
        printed.stdout = (if t = [] then [] else t ++ ['\n']) ∧ t.getLast? ≠ some '\n') ∧
      ((¬∃ t, Fetches invocation world env t) → ∃! fault, Stops invocation world env fault) ∧
      ∀ fault, Stops invocation world env fault →
        (execute invocation world env).value = .error fault ∧ printed.status = 1 ∧
          printed.stdout = [] := by
  intro printed
  refine ⟨?_, ?_, ?_⟩
  · intro t fetches
    have executed := value_execute_of_fetches jsonMode fetches
    obtain ⟨stdout, status⟩ := value_run_of_ok parsed executed
    refine ⟨executed.trans (congrArg Except.ok stdout.symm), status, stdout, ?_⟩
    intro last
    cases fetches with
    | printed => cases Text.solid_of_getLast?_trim last
  · intro unfetched
    obtain ⟨fault, stops⟩ := (fetches_or_stops invocation world env).resolve_left unfetched
    refine ⟨fault, stops, ?_⟩
    intro other stops'
    have same := (value_execute_of_stops jsonMode stops').symm.trans
      (value_execute_of_stops jsonMode stops)
    exact Except.error.inj same
  · intro fault stops
    have failed := value_execute_of_stops jsonMode stops
    obtain ⟨stdout, status⟩ := value_run_of_error parsed failed
    exact ⟨failed, status, stdout⟩

def jsonOnly : Invocation := { Invocation.empty with switches := [.json] }

/-- Surroundings in which every file is a program that ends with this report. -/
def reporting (report : Report) : World where
  look _ := .ok (.file [] (some fun _ => report))
  accountHome := none

/-- A process with a token and the path of a program. -/
def askingWith : Environment :=
  .process (NameMap.ofList [(Utf8.encode tokenVariable, [116]),
    (Utf8.encode Fetch.Backend.programVariable, [47, 102])])

theorem reports_reporting (report : Report) :
    Reports jsonOnly (reporting report) askingWith report := by
  have unchosen : Settings.file? (reporting report) askingWith jsonOnly.config = none := by
    have unnamed : askingWith.filled? Settings.fileVariable = none := by decide
    have homeless : Settings.home? (reporting report) askingWith = none := by
      rw [Settings.home?, show askingWith.filled? "HOME".toList = none by decide]
      rfl
    simp only [Settings.file?, jsonOnly, Invocation.empty, unnamed, Settings.defaultPath?, homeless]
    rfl
  have prepared : Prepared jsonOnly (reporting report) askingWith Settings.standard ['t']
      [47, 102] :=
    ⟨.standard (Settings.file?_eq_none_iff.1 unchosen), by decide +kernel, by rfl,
      .pointed (by decide) (by decide)⟩
  have started : Launches (reporting report) askingWith [47, 102]
      (Fetch.arguments ['t'] (jsonOnly.fetchOptions Settings.standard.fetch))
      (.ok fun _ => report) :=
    .of_place (by decide) (by decide +kernel) (by decide) rfl
  exact .ended prepared started

/-- The same output is printed or not, as the program succeeds or fails. Neither a settings file
that cannot be read nor a program that cannot be started is passed over. -/
theorem json_mode_prints_reporting :
    let arguments := [Utf8.encode "--json".toList]
    let output := Utf8.encode " \x7b\x7d\n\n".toList
    CommandLine.parse arguments = .ok jsonOnly ∧ jsonOnly.has .json = true ∧
      (Program.run arguments (reporting ⟨output, [], .exited 0⟩) askingWith).value.stdout =
        "\x7b\x7d\n".toList ∧
      (Program.run arguments (reporting ⟨output, [], .exited 3⟩) askingWith).value.stdout = [] ∧
      (execute jsonOnly (sealed (reporting ⟨output, [], .exited 0⟩)) askingWith).value =
        .error (.settings (.unreadable .denied)) ∧
      (execute jsonOnly unstartable searching).value =
        .error (.fetch (.notStarted .unknownFormat)) := by
  intro arguments output
  have parsed : CommandLine.parse arguments = .ok jsonOnly := by decide +kernel
  refine ⟨parsed, rfl, ?_, ?_, ?_, ?_⟩
  · obtain ⟨shown, _, _⟩ := json_mode_prints_answer_or_stops parsed rfl
      (reporting ⟨output, [], .exited 0⟩) askingWith
    obtain ⟨_, _, stdout, _⟩ := shown _ (.printed (reports_reporting _) rfl
      (Utf8.decode?_encode " \x7b\x7d\n\n".toList))
    rw [stdout]
    decide
  · obtain ⟨_, _, silent⟩ := json_mode_prints_answer_or_stops parsed rfl
      (reporting ⟨output, [], .exited 3⟩) askingWith
    exact (silent _ (.ending (reports_reporting _) (by decide))).2.2
  · obtain ⟨_, _, failing⟩ := json_mode_prints_answer_or_stops parsed rfl
      (sealed (reporting ⟨output, [], .exited 0⟩)) askingWith
    exact (failing _ (stops_sealed _ rfl (by decide) (by decide))).1
  · obtain ⟨_, _, failing⟩ := json_mode_prints_answer_or_stops parsed rfl unstartable searching
    have stops := stops_unstartable (show jsonOnly.config = none from rfl) rfl rfl
      (by decide +kernel) (by decide +kernel)
    exact (failing _ stops).1

end EnvBundle.Run
