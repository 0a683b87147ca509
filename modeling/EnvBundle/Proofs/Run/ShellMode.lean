import EnvBundle.Proofs.CommandLine.Format
import EnvBundle.Proofs.Delivery
import EnvBundle.Proofs.DotEnv.Written
import EnvBundle.Proofs.Run.Printing
import EnvBundle.Proofs.Run.Stages

/-!
What a run prints for a shell. A shell gets the bundle of a run that is supplied with one and the
text that fails from a run that is hindered; either is whole and ends its last line.
-/
namespace EnvBundle

theorem Text.getLast?_joinWith_map {α : Type} {mark last : Char} {write : α → Text}
    (ends : ∀ a, (write a).getLast? = some last) {items : List α} (nonempty : items ≠ []) :
    (joinWith mark (items.map write)).getLast? = some last := by
  induction items with
  | nil => exact absurd rfl nonempty
  | cons first more ih =>
      cases more with
      | nil => exact ends first
      | cons next more =>
          have rest := ih (List.cons_ne_nil next more)
          rw [List.map_cons, List.map_cons, joinWith, List.getLast?_append, List.getLast?_cons]
          · rw [← List.map_cons, rest]
            rfl
          · exact List.cons_ne_nil _ _

namespace Shell

open DotEnv (written render_dotEnv)

theorem getLast?_escape (value : Text) : (escape value).getLast? = some '\'' :=
  List.getLast?_concat

theorem getLast?_rawQuote (value : Text) : (rawQuote value).getLast? = some '\'' :=
  List.getLast?_concat

theorem getLast?_behind_equals {t rest : Text} {last : Char} (ends : rest.getLast? = some last) :
    (t ++ '=' :: rest).getLast? = some last := by
  rw [List.getLast?_append, List.getLast?_cons, ends]
  rfl

/-- Written entries end in a quote or, if every line is ended, in a quote and a line feed. -/
theorem render_ends {entries : List (Text × Text)} (nonempty : entries ≠ []) (format : Format) :
    (render entries format).getLast? = some '\'' ∨
      ∃ body, render entries format = body ++ ['\n'] ∧ body.getLast? = some '\'' := by
  have word_ends : ∀ e : Text × Text, (word e.1 e.2).getLast? = some '\'' :=
    fun e => getLast?_behind_equals (getLast?_escape e.2)
  have export_ends : ∀ e : Text × Text, (exportLine e.1 e.2).getLast? = some '\'' :=
    fun e => getLast?_behind_equals (getLast?_rawQuote e.2)
  cases format with
  | standard =>
      left
      obtain ⟨first, more, rfl⟩ := List.exists_cons_of_ne_nil nonempty
      have joined : (Text.joinWith ' ' ((first :: more).map fun e => word e.1 e.2)).getLast? =
          some '\'' := Text.getLast?_joinWith_map word_ends nonempty
      change ("export ".toList ++ Text.joinWith ' ' _).getLast? = _
      rw [List.getLast?_append, joined]
      rfl
  | pamCompatible =>
      left
      obtain ⟨first, more, rfl⟩ := List.exists_cons_of_ne_nil nonempty
      exact Text.getLast?_joinWith_map export_ends nonempty
  | dotEnv =>
      right
      obtain ⟨init, last, rfl⟩ := (List.eq_nil_or_concat entries).resolve_left nonempty
      refine ⟨init.flatMap (fun e => written e.1 e.2 ++ ['\n']) ++ written last.1 last.2, ?_, ?_⟩
      · rw [render_dotEnv, List.concat_eq_append, List.flatMap_append, List.flatMap_singleton,
          List.append_assoc]
      · rw [List.getLast?_append, written, getLast?_behind_equals (getLast?_escape last.2)]
        rfl

end Shell

namespace Run

theorem block_failureText : block Shell.failureText = Shell.failureText ++ ['\n'] := by decide

theorem block_render_nil (format : Shell.Format) : block (Shell.render [] format) = [] := by
  cases format <;> rfl

/-- A block of entries ends in one line feed, whether the text before it had one or not. -/
theorem block_render_ends {entries : List (Text × Text)} (nonempty : entries ≠ [])
    (format : Shell.Format) :
    ∃ body, block (Shell.render entries format) = body ++ ['\n'] ∧
      body.getLast? ≠ some '\n' := by
  rcases Shell.render_ends nonempty format with closed | ⟨body, lines, closed⟩
  · refine ⟨Shell.render entries format, ?_, by simp [closed]⟩
    rw [block_eq, if_neg]
    rintro (empty | ended)
    · rw [empty] at closed
      cases closed
    · cases closed.symm.trans ended
  · refine ⟨body, ?_, by simp [closed]⟩
    rw [block_eq, if_pos, lines]
    right
    rw [lines, List.getLast?_concat]

variable {invocation : Invocation} {world : World} {env : Environment}

theorem value_shell {context : Context} {program : Path}
    (found : Fetch.Backend.program world env context.fetchBin = .ok program) (force : Bool)
    (format : Shell.Format) :
    (shell context force format world env).value =
      block (Shell.present env force context.options format
        (Fetch.Backend.fetch world program env (context.token.getD [])
          context.options).value).value := by
  rw [shell, Traced.value_bind, Fetch.Backend.value_choose, found]
  rfl

theorem value_execute_of_supplies (shellMode : invocation.has .json = false) {bundle : Bundle}
    (supplies : Supplies invocation world env bundle) :
    (execute invocation world env).value =
      .ok (block (Shell.render (Shell.selected env (invocation.has .force) bundle)
        invocation.format)) := by
  obtain ⟨t, fetches, parsed⟩ := supplies
  obtain ⟨context, program, resolved, found, answered⟩ := fetches_iff.1 fetches
  rw [execute, Traced.value_bind, resolved]
  simp only [shellMode, Bool.false_eq_true, if_false, Traced.value_bind]
  rw [value_shell found, answered, Shell.value_present_of_parse _ _ _ _ parsed]
  rfl

theorem value_execute_of_hindered (shellMode : invocation.has .json = false)
    (hindered : Hindered invocation world env) :
    (execute invocation world env).value = .ok (block Shell.failureText) := by
  rw [execute, Traced.value_bind]
  cases resolved : (Context.resolve invocation world env).value with
  | error fault =>
      simp only [shellMode]
      rfl
  | ok context =>
      simp only [shellMode, Bool.false_eq_true, if_false, Traced.value_bind]
      cases found : Fetch.Backend.program world env context.fetchBin with
      | error fault =>
          rw [shell, Traced.value_bind, Fetch.Backend.value_choose, found]
          rfl
      | ok program =>
          rw [value_shell found, Shell.value_present_of_unreadable]
          · rfl
          · rintro ⟨t, bundle, answered, parsed⟩
            have fetches := fetches_iff.2 ⟨context, program, resolved, found, answered⟩
            exact hindered.not_supplies bundle ⟨t, fetches, parsed⟩

/-- Left out are the entries whose variables hold something, unless they are to be overwritten. -/
theorem selected_eq_filter (invocation : Invocation) (env : Environment) (bundle : Bundle) :
    Shell.selected env (invocation.has .force) bundle =
      bundle.entries.filter fun e =>
        decide (.force ∈ invocation.switches) || (env.raw? e.1).all (· == []) := by
  have vacant : ∀ name, (!env.isSet name) = (env.raw? name).all (· == []) := by
    intro name
    rw [Environment.isSet_eq_raw?]
    cases env.raw? name with
    | none => rfl
    | some bytes => simp only [Option.any_some, Option.all_some, bne, Bool.not_not]
  simp only [Shell.selected, Invocation.has, List.contains_eq_mem, vacant]

theorem exists_value_execute (shellMode : invocation.has .json = false) :
    ∃ out, (execute invocation world env).value = .ok out := by
  rcases supplies_or_hindered invocation world env with ⟨bundle, supplies⟩ | hindered
  · exact ⟨_, value_execute_of_supplies shellMode supplies⟩
  · exact ⟨_, value_execute_of_hindered shellMode hindered⟩

/-- Without the switch for JSON a run never fails. A hindered run prints the text that fails, and
every other run the entries of its bundle, in one block and in the form that the switches ask
for. -/
theorem shell_mode_prints_bundle_or_failure {arguments : List Bytes} {invocation : Invocation}
    (parsed : CommandLine.parse arguments = .ok invocation)
    (shellMode : invocation.has .json = false) (world : World) (env : Environment) :
    let printed := (Program.run arguments world env).value
    ((execute invocation world env).value = .ok printed.stdout ∧ printed.status = 0) ∧
      (Hindered invocation world env → printed.stdout = Shell.failureText ++ ['\n']) ∧
      (¬Hindered invocation world env → ∃! bundle, Supplies invocation world env bundle) ∧
      (∃! format, invocation.Chooses format) ∧
      ∀ bundle format, Supplies invocation world env bundle → invocation.Chooses format →
        let entries := bundle.entries.filter fun e =>
          decide (.force ∈ invocation.switches) || (env.raw? e.1).all (· == [])
        let text := Shell.render entries format
        printed.stdout =
            (if text = [] ∨ text.getLast? = some '\n' then text else text ++ ['\n']) ∧
          (entries = [] → printed.stdout = []) ∧
          (entries ≠ [] →
            ∃ body, printed.stdout = body ++ ['\n'] ∧ body.getLast? ≠ some '\n') := by
  intro printed
  have shown : ∀ {out}, (execute invocation world env).value = .ok out →
      printed.stdout = out ∧ printed.status = 0 := value_run_of_ok parsed
  refine ⟨?_, ?_, ?_, ?_, ?_⟩
  · obtain ⟨out, executed⟩ := exists_value_execute shellMode
    obtain ⟨stdout, status⟩ := shown executed
    exact ⟨executed.trans (congrArg Except.ok stdout.symm), status⟩
  · intro hindered
    rw [(shown (value_execute_of_hindered shellMode hindered)).1, block_failureText]
  · intro free
    obtain ⟨bundle, supplies⟩ := not_hindered_iff.1 free
    exact ⟨bundle, supplies, fun _ other => other.unique supplies⟩
  · exact ⟨_, invocation.chooses_format, fun _ other => other.eq_format parsed⟩
  · intro bundle format supplies chooses entries text
    cases chooses.eq_format parsed
    have stdout : printed.stdout = block text := by
      have executed := value_execute_of_supplies shellMode supplies
      rw [selected_eq_filter] at executed
      exact (shown executed).1
    refine ⟨stdout.trans (block_eq text), ?_, ?_⟩
    · intro empty
      rw [stdout, show text = Shell.render [] invocation.format by rw [← empty],
        block_render_nil]
    · intro nonempty
      rw [stdout]
      exact block_render_ends nonempty invocation.format

def answerText : Text := "\x7b\"A\":\"it's\",\"B\":\"2\"\x7d".toList

/-- Surroundings in which every file is a program that prints the same bundle. -/
def answering : World where
  look _ := .ok (.file [] (some fun _ => ⟨Utf8.encode (' ' :: answerText), [], .exited 0⟩))
  accountHome := none

/-- A process with a token, the path of a program and one of the bundle's variables. -/
def askingFor : Environment :=
  .process (NameMap.ofList [(Utf8.encode tokenVariable, [116]), (Utf8.encode ['B'], [50]),
    (Utf8.encode Fetch.Backend.programVariable, [47, 102])])

theorem supplies_of_prepared_answering {invocation : Invocation}
    (prepared : Prepared invocation answering askingFor Settings.standard ['t'] [47, 102])
    (clean : (Fetch.arguments ['t'] (invocation.fetchOptions Settings.standard.fetch)).any
      (·.contains 0) = false) :
    Supplies invocation answering askingFor
      (NameMap.ofList [(['A'], "it's".toList), (['B'], ['2'])]) := by
  have started : Fetch.Backend.Launches answering askingFor [47, 102]
      (Fetch.arguments ['t'] (invocation.fetchOptions Settings.standard.fetch))
      (.ok fun _ => ⟨Utf8.encode (' ' :: answerText), [], .exited 0⟩) :=
    .of_place (by decide) clean (by decide) rfl
  have fetches :=
    Fetches.printed (.ended prepared started) rfl (Utf8.decode?_encode (' ' :: answerText))
  have trimmed : Text.trim (' ' :: answerText) = answerText := by decide +kernel
  rw [trimmed] at fetches
  have read : Json.object answerText = .ok [(['A'], "it's".toList), (['B'], ['2'])] := by
    decide +kernel
  exact ⟨answerText, fetches, Bundle.parse_of_object read (by decide)⟩

/-- A line that only turns switches on, none of which is seen in the options, is supplied. -/
theorem supplies_answering (switches : List CommandLine.Switch)
    (uncached : .cache ∉ switches) (silent : .verbose ∉ switches) :
    Supplies { Invocation.empty with switches } answering askingFor
      (NameMap.ofList [(['A'], "it's".toList), (['B'], ['2'])]) := by
  let invocation : Invocation := { Invocation.empty with switches }
  have options : invocation.fetchOptions Settings.standard.fetch =
      Invocation.empty.fetchOptions Settings.standard.fetch := by
    simp [invocation, Invocation.fetchOptions, Invocation.has, uncached, silent, Invocation.empty]
  have unchosen : Settings.file? answering askingFor none = none := by decide
  have tokened : token? Invocation.empty answering askingFor = some ['t'] := by decide
  have prepared : Prepared invocation answering askingFor Settings.standard ['t'] [47, 102] := by
    refine ⟨.standard (Settings.file?_eq_none_iff.1 unchosen), ?_, tokened,
      .pointed (by decide) (by decide)⟩
    rw [options]
    decide +kernel
  refine supplies_of_prepared_answering prepared ?_
  rw [options]
  decide +kernel

/-- The same bundle in each form, and the failures of a run that has no token, whose settings cannot
be read or whose program cannot be started. -/
theorem shell_mode_prints_answering :
    let printed := fun arguments world env => (Program.run arguments world env).value.stdout
    let failing := "echo 'error: ENVKEY invalid'; false\n".toList
    CommandLine.parse [] = .ok Invocation.empty ∧ Invocation.empty.has .json = false ∧
      printed [] answering askingFor = "export 'A'='it'\"'\"'s'\n".toList ∧
      printed [Utf8.encode "--dot-env-compatible".toList] answering askingFor =
        "A='it'\"'\"'s'\n".toList ∧
      printed [Utf8.encode "--pam-compatible".toList, Utf8.encode "--force".toList] answering
        askingFor = "export A='it's'\nexport B='2'\n".toList ∧
      printed [] answering (.process NameMap.empty) = failing ∧
      printed [] (sealed answering) askingFor = failing ∧
      printed [] unstartable searching = failing := by
  intro printed failing
  have parsed : CommandLine.parse [] = .ok Invocation.empty := by decide
  refine ⟨parsed, rfl, ?_, ?_, ?_, ?_, ?_, ?_⟩
  · obtain ⟨_, _, _, _, shown⟩ :=
      shell_mode_prints_bundle_or_failure parsed rfl answering askingFor
    have supplies := supplies_answering [] (by decide) (by decide)
    refine (shown _ _ supplies (.standard (by decide) (by decide))).1.trans ?_
    decide +kernel
  · have chosen : CommandLine.parse [Utf8.encode "--dot-env-compatible".toList] =
        .ok { Invocation.empty with switches := [.dotEnvCompatible] } := by decide +kernel
    obtain ⟨_, _, _, _, shown⟩ :=
      shell_mode_prints_bundle_or_failure chosen rfl answering askingFor
    have supplies := supplies_answering [.dotEnvCompatible] (by decide) (by decide)
    refine (shown _ _ supplies (.dotEnv (by decide))).1.trans ?_
    decide +kernel
  · have chosen : CommandLine.parse
          [Utf8.encode "--pam-compatible".toList, Utf8.encode "--force".toList] =
        .ok { Invocation.empty with switches := [.pamCompatible, .force] } := by decide +kernel
    obtain ⟨_, _, _, _, shown⟩ :=
      shell_mode_prints_bundle_or_failure chosen rfl answering askingFor
    have supplies := supplies_answering [.pamCompatible, .force] (by decide) (by decide)
    refine (shown _ _ supplies (.pamCompatible (by decide))).1.trans ?_
    decide +kernel
  · obtain ⟨_, hindered, _⟩ :=
      shell_mode_prints_bundle_or_failure parsed rfl answering (.process NameMap.empty)
    exact hindered (.missingToken (by decide))
  · obtain ⟨_, hindered, _⟩ :=
      shell_mode_prints_bundle_or_failure parsed rfl (sealed answering) askingFor
    exact hindered (stops_sealed _ rfl (by decide) (by decide)).hindered
  · obtain ⟨_, hindered, _⟩ :=
      shell_mode_prints_bundle_or_failure parsed rfl unstartable searching
    have stops := stops_unstartable (show Invocation.empty.config = none from rfl) rfl rfl
      (by decide +kernel) (by decide +kernel)
    exact hindered stops.hindered

end Run

end EnvBundle
