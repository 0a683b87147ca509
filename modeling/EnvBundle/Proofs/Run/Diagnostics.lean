import EnvBundle.Proofs.Run.Alike
import EnvBundle.Proofs.Run.JsonMode
import EnvBundle.Proofs.Run.ShellMode

/-!
Diagnostics never reach the output. Whatever is asked to be said about a run, and whatever the
program says about itself, the output and the status are the same.
-/
namespace EnvBundle

namespace CommandLine

/-- Two command lines that differ in the switch for verbose output at most. It is added where a flag
may stand, or the two lines ask for the same in another order. -/
inductive Alike : List Bytes → List Bytes → Prop
  | same (arguments : List Bytes) : Alike arguments arguments
  | added {front back : List Bytes} (once : verboseFlag ∉ front ++ back)
      (place : ∀ state, front.foldlM takeArgument State.start = .ok state →
        state.onlyFree = false ∧ state.Closed) :
      Alike (front ++ back) (front ++ verboseFlag :: back)
  | dropped {front back : List Bytes} (once : verboseFlag ∉ front ++ back)
      (place : ∀ state, front.foldlM takeArgument State.start = .ok state →
        state.onlyFree = false ∧ state.Closed) :
      Alike (front ++ verboseFlag :: back) (front ++ back)
  | followed {arguments arguments' : List Bytes} {first second : Invocation}
      (parsed : parse arguments = .ok first) (parsed' : parse arguments' = .ok second)
      (quiet : first.quiet = second.quiet) : Alike arguments arguments'

theorem ReadsAlike.symm {first second : Except Fault Invocation} (alike : ReadsAlike first second) :
    ReadsAlike second first := by
  cases alike with
  | same fault => exact .same fault
  | refused refuses refuses' => exact .refused refuses' refuses
  | followed quiet => exact .followed quiet.symm

theorem Alike.reads {arguments arguments' : List Bytes} (alike : Alike arguments arguments') :
    ReadsAlike (parse arguments) (parse arguments') := by
  cases alike with
  | same =>
      cases parse arguments with
      | error fault => exact .same fault
      | ok invocation => exact .followed rfl
  | added once place => exact parse_insert_verbose once place
  | dropped once place => exact (parse_insert_verbose once place).symm
  | followed parsed parsed' quiet =>
      rw [parsed, parsed']
      exact .followed quiet

end CommandLine

theorem Program.usage_of_refuses {fault : CommandLine.Fault} (refuses : fault.Refuses) :
    (usage fault).stdout = [] ∧ (usage fault).status = 2 := by
  cases fault with
  | version => cases refuses
  | help => cases refuses
  | _ => exact ⟨rfl, rfl⟩

namespace Run

variable {invocation invocation' : Invocation} {world world' : World} {env env' : Environment}

namespace Alike

variable (alike : Alike invocation world env invocation' world' env')
include alike

theorem has_eq {switch : CommandLine.Switch} (other : switch ≠ .verbose) :
    invocation.has switch = invocation'.has switch := by
  rw [← invocation.has_quiet other, alike.invocation, invocation'.has_quiet other]

theorem format_eq : invocation.format = invocation'.format := by
  rw [← invocation.format_quiet, alike.invocation, invocation'.format_quiet]

/-- The same entries of a bundle are printed, if none of them is the variable for the log. -/
theorem selected_eq {t : Text} {bundle : Bundle} (parsed : Bundle.parse t = .ok bundle)
    (unlogged : bundle.get? Program.logVariable = none) (force : Bool) :
    Shell.selected env force bundle = Shell.selected env' force bundle := by
  apply List.filter_congr
  intro e member
  have sound := Bundle.sound_of_parse parsed e member
  have apart : e.1 ≠ Program.logVariable := by
    intro same
    have held := (bundle.mem_entries_iff).1 member
    rw [same, unlogged] at held
    cases held
  change (force || !env.isSet e.1) = (force || !env'.isSet e.1)
  rw [alike.env.isSet_eq sound.ne_equals sound.ne_nul apart]

theorem value_execute_shell (shellMode : invocation.has .json = false)
    (unlogged : ∀ bundle, Supplies invocation world env bundle →
      bundle.get? Program.logVariable = none) :
    ∃ out, (execute invocation world env).value = .ok out ∧
      (execute invocation' world' env').value = .ok out := by
  have shellMode' : invocation'.has .json = false := by
    rw [← alike.has_eq (by decide)]
    exact shellMode
  rcases supplies_or_hindered invocation world env with ⟨bundle, supplies⟩ | hindered
  · refine ⟨_, value_execute_of_supplies shellMode supplies, ?_⟩
    obtain ⟨t, _, parsed⟩ := id supplies
    rw [value_execute_of_supplies shellMode' (alike.supplies supplies), alike.format_eq,
      alike.has_eq (by decide), alike.selected_eq parsed (unlogged bundle supplies)]
  · refine ⟨_, value_execute_of_hindered shellMode hindered, ?_⟩
    rcases supplies_or_hindered invocation' world' env' with ⟨bundle, supplies⟩ | hindered'
    · exact absurd (alike.symm.supplies supplies) (hindered.not_supplies bundle)
    · exact value_execute_of_hindered shellMode' hindered'

/-- The faults of two runs that fail for JSON need not be the same: the one that the program is
blamed for repeats what it says. -/
theorem value_execute_json (jsonMode : invocation.has .json = true) :
    (∃ out, (execute invocation world env).value = .ok out ∧
      (execute invocation' world' env').value = .ok out) ∨
    ∃ fault fault', (execute invocation world env).value = .error fault ∧
      (execute invocation' world' env').value = .error fault' := by
  have jsonMode' : invocation'.has .json = true := by
    rw [← alike.has_eq (by decide)]
    exact jsonMode
  rcases fetches_or_stops invocation world env with ⟨t, fetches⟩ | ⟨fault, stops⟩
  · left
    exact ⟨_, value_execute_of_fetches jsonMode fetches,
      value_execute_of_fetches jsonMode' (alike.fetches fetches)⟩
  · rcases fetches_or_stops invocation' world' env' with ⟨t, fetches⟩ | ⟨fault', stops'⟩
    · have executed := value_execute_of_fetches jsonMode (alike.symm.fetches fetches)
      rw [value_execute_of_stops jsonMode stops] at executed
      cases executed
    · right
      exact ⟨fault, fault', value_execute_of_stops jsonMode stops,
        value_execute_of_stops jsonMode' stops'⟩

end Alike

section

variable {arguments arguments' : List Bytes}
  (parsed : CommandLine.parse arguments = .ok invocation)
  (parsed' : CommandLine.parse arguments' = .ok invocation')
include parsed parsed'

theorem printed_eq_of_ok {out : Text} (executed : (execute invocation world env).value = .ok out)
    (executed' : (execute invocation' world' env').value = .ok out) :
    (Program.run arguments world env).value.stdout =
        (Program.run arguments' world' env').value.stdout ∧
      (Program.run arguments world env).value.status =
        (Program.run arguments' world' env').value.status := by
  obtain ⟨stdout, status⟩ := value_run_of_ok parsed executed
  obtain ⟨stdout', status'⟩ := value_run_of_ok parsed' executed'
  exact ⟨stdout.trans stdout'.symm, status.trans status'.symm⟩

theorem printed_eq_of_error {fault fault' : Fault}
    (failed : (execute invocation world env).value = .error fault)
    (failed' : (execute invocation' world' env').value = .error fault') :
    (Program.run arguments world env).value.stdout =
        (Program.run arguments' world' env').value.stdout ∧
      (Program.run arguments world env).value.status =
        (Program.run arguments' world' env').value.status := by
  obtain ⟨stdout, status⟩ := value_run_of_error parsed failed
  obtain ⟨stdout', status'⟩ := value_run_of_error parsed' failed'
  exact ⟨stdout.trans stdout'.symm, status.trans status'.symm⟩

end

/-- Two runs with the same files, token and variables print the same and end with the same status,
in either mode and every format. They may differ in the switch or the field for verbose output, in
the variable for the log, and in what the program says besides its output; the program's output and
end must not depend on the switch, and no bundle may set the variable for the log. -/
theorem diagnostics_stay_off_output {arguments arguments' : List Bytes} {world world' : World}
    {env env' : Environment} (lines : CommandLine.Alike arguments arguments')
    (worlds : world.Alike world') (envs : env.AlikeBut Program.logVariable env')
    (unlogged : ∀ invocation bundle, CommandLine.parse arguments = .ok invocation →
      Supplies invocation world env bundle → bundle.get? Program.logVariable = none) :
    (Program.run arguments world env).value.stdout =
        (Program.run arguments' world' env').value.stdout ∧
      (Program.run arguments world env).value.status =
        (Program.run arguments' world' env').value.status := by
  have reads := lines.reads
  generalize parsed : CommandLine.parse arguments = outcome,
    parsed' : CommandLine.parse arguments' = outcome' at reads
  cases reads with
  | same fault =>
      simp only [Program.run, parsed, parsed', Traced.pure, and_self]
  | refused refuses refuses' =>
      obtain ⟨silent, status⟩ := Program.usage_of_refuses refuses
      obtain ⟨silent', status'⟩ := Program.usage_of_refuses refuses'
      simp only [Program.run, parsed, parsed', Traced.pure]
      exact ⟨silent.trans silent'.symm, status.trans status'.symm⟩
  | @followed invocation invocation' quiet =>
      have alike : Alike invocation world env invocation' world' env' := ⟨quiet, worlds, envs⟩
      cases mode : invocation.has .json with
      | false =>
          obtain ⟨out, executed, executed'⟩ :=
            alike.value_execute_shell mode fun bundle => unlogged invocation bundle parsed
          exact printed_eq_of_ok parsed parsed' executed executed'
      | true =>
          rcases alike.value_execute_json mode with
            ⟨out, executed, executed'⟩ | ⟨fault, fault', failed, failed'⟩
          · exact printed_eq_of_ok parsed parsed' executed executed'
          · exact printed_eq_of_error parsed parsed' failed failed'

def loudText : Text := "[fetch]\nverbose = true\n".toList

/-- Surroundings like the answering ones, but every file asks for verbose output, and every program
says what it was told. -/
def loud : World where
  look _ := .ok (.file (Utf8.encode loudText)
    (some fun args => ⟨Utf8.encode (' ' :: answerText), args.flatten, .exited 0⟩))
  accountHome := none

def loudSettings : Settings :=
  { Settings.standard with fetch := { Settings.standard.fetch with verbose := true } }

theorem load_answering (path : Path) : Settings.load answering path = .ok Settings.standard := by
  rw [Settings.load, show answering.readText path = .ok [] from rfl]
  decide +kernel

theorem alike_answering_loud : answering.Alike loud where
  look _ := .program _ _ (.started fun _ _ _ _ => ⟨rfl, rfl⟩)
  settings path := by
    have asking : Settings.load loud path = .ok loudSettings := by
      rw [Settings.load, World.readText_of_encoded (show loud.read path = _ from rfl)]
      decide +kernel
    have quiet : Settings.standard.quiet = loudSettings.quiet := by
      simp only [loudSettings, Settings.quiet, Fetch.Options.quiet]
    rw [load_answering, asking]
    exact .good quiet
  token := by decide +kernel
  accountHome := rfl

def configured : Invocation := { Invocation.empty with config := some [99] }

/-- The process of `askingFor`, and everything is to be logged. -/
def askingLoudly : Environment :=
  (askingFor.set? Program.logVariable "trace".toList).getD askingFor

theorem alikeBut_askingLoudly : askingFor.AlikeBut Program.logVariable askingLoudly := by
  intro name apart
  have settable : Environment.settable Program.logVariable "trace".toList = true := by decide
  obtain ⟨next, logged⟩ := Environment.set?_eq_some_of_settable askingFor settable
  have same : askingLoudly = next := by rw [askingLoudly, logged, Option.getD_some]
  rw [same, Environment.stored?_of_set? logged, if_neg apart]

theorem supplies_configured :
    Supplies configured answering askingFor
      (NameMap.ofList [(['A'], "it's".toList), (['B'], ['2'])]) := by
  obtain ⟨document, documents, standard⟩ :=
    Settings.load_eq_ok_iff_documents.1 (load_answering [99])
  have settled : Settles configured answering askingFor (Settings.settingsOf document) :=
    .file ⟨.flag [99], .flag rfl, rfl⟩ documents
  rw [← standard] at settled
  have prepared : Prepared configured answering askingFor Settings.standard ['t'] [47, 102] :=
    ⟨settled, by decide +kernel, by decide, .pointed (by decide) (by decide)⟩
  exact supplies_of_prepared_answering prepared (by decide +kernel)

/-- The second run is told to be verbose on the command line and in the settings, logs everything
and has a program that repeats its arguments. Only the other stream shows that. -/
theorem diagnostics_stay_off_output_loud :
    let flag := Utf8.encode "--config".toList
    let silent := (Program.run [flag, [99]] answering askingFor).value
    let spoken := (Program.run [flag, [99], CommandLine.verboseFlag] loud askingLoudly).value
    silent.stdout = spoken.stdout ∧ silent.status = spoken.status ∧ silent.stderr = [] ∧
      spoken.stderr ≠ [] := by
  intro flag silent spoken
  have parsed : CommandLine.parse [flag, [99]] = .ok configured := by decide +kernel
  have read : [flag, [99]].foldlM CommandLine.takeArgument CommandLine.State.start =
      .ok ⟨Invocation.empty, some (.held .config [99]), false, false⟩ := by rfl
  have lines : CommandLine.Alike [flag, [99]] [flag, [99], CommandLine.verboseFlag] := by
    refine @CommandLine.Alike.added [flag, [99]] [] (by decide) ?_
    intro state reached
    cases read.symm.trans reached
    exact ⟨rfl, nofun⟩
  have unlogged : ∀ invocation bundle, CommandLine.parse [flag, [99]] = .ok invocation →
      Supplies invocation answering askingFor bundle →
        bundle.get? Program.logVariable = none := by
    intro invocation bundle parsed' supplies
    cases parsed.symm.trans parsed'
    rw [supplies.unique supplies_configured]
    decide
  obtain ⟨stdout, status⟩ := diagnostics_stay_off_output lines alike_answering_loud
    alikeBut_askingLoudly unlogged
  refine ⟨stdout, status, ?_, ?_⟩
  · decide +kernel
  · decide +kernel

end Run

end EnvBundle
