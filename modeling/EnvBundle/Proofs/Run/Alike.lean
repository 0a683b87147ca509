import EnvBundle.Proofs.CommandLine.Verbose
import EnvBundle.Proofs.Environment.Stored
import EnvBundle.Proofs.Run.Starting

/-!
Two runs that differ in their diagnostics alone: in the switch or the field for verbose output, in
the variable for the log, and in what the program says besides its output. Each stage that the one
passes the other passes too, with the same result but for the wish for verbose output.
-/
namespace EnvBundle

/-- The options without the wish for verbose output. -/
def Fetch.Options.quiet (options : Options) : Options := { options with verbose := false }

theorem Fetch.Options.validate_quiet (options : Options) :
    options.quiet.validate = options.validate := rfl

def Settings.quiet (settings : Settings) : Settings :=
  { settings with fetch := settings.fetch.quiet }

theorem Invocation.quiet_fetchOptions (invocation : Invocation) (base : Fetch.Options) :
    (invocation.fetchOptions base).quiet = invocation.quiet.fetchOptions base.quiet := by
  have cached : invocation.quiet.has .cache = invocation.has .cache :=
    has_quiet invocation (by decide)
  simp only [fetchOptions, Fetch.Options.quiet, cached, has_verbose_quiet, Bool.or_self]
  rfl

namespace Environment

open Utf8 (encode)

/-- Two stores that hold the same under every name but one. -/
def AlikeBut (hidden : Text) (env other : Environment) : Prop :=
  ∀ name : Bytes, name ≠ encode hidden → env.stored? name = other.stored? name

variable {hidden name : Text} {env other : Environment}

theorem AlikeBut.symm (alike : env.AlikeBut hidden other) : other.AlikeBut hidden env :=
  fun name apart => (alike name apart).symm

theorem AlikeBut.raw?_eq (alike : env.AlikeBut hidden other) (named : '=' ∉ name)
    (clean : '\x00' ∉ name) (apart : name ≠ hidden) : env.raw? name = other.raw? name := by
  rw [raw?_eq_stored? env named clean, raw?_eq_stored? other named clean]
  exact alike (encode name) (mt Utf8.encode_inj.1 apart)

theorem AlikeBut.get?_eq (alike : env.AlikeBut hidden other) (named : '=' ∉ name)
    (clean : '\x00' ∉ name) (apart : name ≠ hidden) : env.get? name = other.get? name := by
  rw [get?_eq_raw?, get?_eq_raw?, alike.raw?_eq named clean apart]

theorem AlikeBut.filled?_eq (alike : env.AlikeBut hidden other) (named : '=' ∉ name)
    (clean : '\x00' ∉ name) (apart : name ≠ hidden) : env.filled? name = other.filled? name := by
  rw [filled?, filled?, alike.raw?_eq named clean apart]

theorem AlikeBut.isSet_eq (alike : env.AlikeBut hidden other) (named : '=' ∉ name)
    (clean : '\x00' ∉ name) (apart : name ≠ hidden) : env.isSet name = other.isSet name := by
  rw [isSet_eq_raw?, isSet_eq_raw?, alike.raw?_eq named clean apart]

end Environment

namespace Fetch

/-- Two programs whose output and end are the same for every token and all options, whichever of
the two is asked to be verbose. What they say besides may be anything. -/
def AnswerAlike (run other : List Bytes → Report) : Prop :=
  ∀ token first second, Options.quiet first = Options.quiet second →
    (run (arguments token first)).stdout = (other (arguments token second)).stdout ∧
      (run (arguments token first)).ending = (other (arguments token second)).ending

theorem AnswerAlike.symm {run other : List Bytes → Report} (alike : AnswerAlike run other) :
    AnswerAlike other run := by
  intro token first second quiet
  obtain ⟨stdout, ending⟩ := alike token second first quiet.symm
  exact ⟨stdout.symm, ending.symm⟩

/-- The switch for verbose output is the last of the arguments. -/
theorem arguments_eq_quiet (token : Text) (options : Options) :
    arguments token options =
      arguments token options.quiet ++ switch "--verbose".toList options.verbose := by
  simp only [arguments, Options.quiet, switch, List.append_nil]

theorem any_contains_arguments {first second : Options} (quiet : first.quiet = second.quiet)
    (token : Text) :
    (arguments token first).any (·.contains 0) = (arguments token second).any (·.contains 0) := by
  have kept : ∀ options : Options, (arguments token options).any (·.contains 0) =
      (arguments token options.quiet).any (·.contains 0) := by
    intro options
    have clean : (switch "--verbose".toList options.verbose).any (·.contains 0) = false := by
      cases options.verbose <;> decide
    rw [arguments_eq_quiet, List.any_append, clean, Bool.or_false]
  rw [kept first, kept second, quiet]

end Fetch

/-- What two starts come to. -/
inductive StartAlike : Except SystemFault (List Bytes → Report) →
    Except SystemFault (List Bytes → Report) → Prop
  | refused (fault : SystemFault) : StartAlike (.error fault) (.error fault)
  | started {run other : List Bytes → Report} (answers : Fetch.AnswerAlike run other) :
      StartAlike (.ok run) (.ok other)

theorem StartAlike.symm {start other : Except SystemFault (List Bytes → Report)}
    (alike : StartAlike start other) : StartAlike other start := by
  cases alike with
  | refused fault => exact .refused fault
  | started answers => exact .started answers.symm

/-- What two worlds have at one path: the same refusal, or the same kind of node. Both files may be
run, and come to the same start, or neither may. -/
inductive LookAlike : Except SystemFault Node → Except SystemFault Node → Prop
  | fault (fault : SystemFault) : LookAlike (.error fault) (.error fault)
  | folder (refusal refusal' : SystemFault) :
      LookAlike (.ok (.folder refusal)) (.ok (.folder refusal'))
  | special (content content' : Except SystemFault Bytes) :
      LookAlike (.ok (.special content)) (.ok (.special content'))
  | file (content content' : Except SystemFault Bytes) :
      LookAlike (.ok (.plain content none)) (.ok (.plain content' none))
  | program (content content' : Except SystemFault Bytes)
      {start start' : Except SystemFault (List Bytes → Report)} (starts : StartAlike start start') :
      LookAlike (.ok (.plain content (some start))) (.ok (.plain content' (some start')))

theorem LookAlike.symm {seen other : Except SystemFault Node} (alike : LookAlike seen other) :
    LookAlike other seen := by
  cases alike with
  | fault fault => exact .fault fault
  | folder refusal refusal' => exact .folder refusal' refusal
  | special content content' => exact .special content' content
  | file content content' => exact .file content' content
  | program content content' starts => exact .program content' content starts.symm

/-- What two files come to as settings: settings that differ in the field for verbose output at
most, or no settings that can be used. -/
inductive SettingsAlike : Except Settings.Fault Settings → Except Settings.Fault Settings → Prop
  | good {settings other : Settings} (quiet : settings.quiet = other.quiet) :
      SettingsAlike (.ok settings) (.ok other)
  | bad (fault fault' : Settings.Fault) : SettingsAlike (.error fault) (.error fault')

theorem SettingsAlike.refl (loaded : Except Settings.Fault Settings) :
    SettingsAlike loaded loaded := by
  cases loaded with
  | error fault => exact .bad fault fault
  | ok settings => exact .good rfl

theorem SettingsAlike.symm {loaded other : Except Settings.Fault Settings}
    (alike : SettingsAlike loaded other) : SettingsAlike other loaded := by
  cases alike with
  | good quiet => exact .good quiet.symm
  | bad fault fault' => exact .bad fault' fault

/-- Two worlds with the same files and programs. As settings, a file may differ in the field for
verbose output; a program may differ in what it says besides its output. -/
structure World.Alike (world other : World) : Prop where
  look : ∀ path, LookAlike (world.look path) (other.look path)
  settings : ∀ path, SettingsAlike (Settings.load world path) (Settings.load other path)
  token : Token.assigned? world dotEnvPath = Token.assigned? other dotEnvPath
  accountHome : world.accountHome = other.accountHome

namespace World.Alike

variable {world other : World}

theorem symm (alike : world.Alike other) : other.Alike world where
  look path := (alike.look path).symm
  settings path := (alike.settings path).symm
  token := alike.token.symm
  accountHome := alike.accountHome.symm

theorem isFile_eq (alike : world.Alike other) : world.isFile = other.isFile := by
  funext path
  have seen := alike.look path
  unfold isFile
  generalize world.look path = node, other.look path = node' at seen
  cases seen <;> rfl

theorem runnable_eq (alike : world.Alike other) :
    Fetch.Backend.runnable world = Fetch.Backend.runnable other := by
  funext path
  have seen := alike.look path
  unfold Fetch.Backend.runnable
  generalize world.look path = node, other.look path = node' at seen
  cases seen <;> rfl

/-- Settings that are good in one world are good in the other. -/
theorem load_eq_ok (alike : world.Alike other) {path : Path} {settings : Settings}
    (loaded : Settings.load world path = .ok settings) :
    ∃ settings', Settings.load other path = .ok settings' ∧ settings'.quiet = settings.quiet := by
  have both := alike.settings path
  rw [loaded] at both
  generalize again : Settings.load other path = loaded' at both
  cases both with
  | good quiet => exact ⟨_, rfl, quiet.symm⟩

theorem runAt (alike : world.Alike other) (path : Path) :
    StartAlike (Fetch.Backend.runAt world path) (Fetch.Backend.runAt other path) := by
  have seen := alike.look path
  unfold Fetch.Backend.runAt
  generalize world.look path = node, other.look path = node' at seen
  cases seen with
  | fault fault => exact .refused fault
  | folder => exact .refused .denied
  | special => exact .refused .denied
  | file => exact .refused .denied
  | program content content' starts => exact starts

/-- The search is the same from one directory to the next. -/
theorem runIn (alike : world.Alike other) (name : Path) (last : SystemFault)
    (directories : List Path) :
    StartAlike (Fetch.Backend.runIn world name last directories)
      (Fetch.Backend.runIn other name last directories) := by
  induction directories generalizing last with
  | nil => exact .refused _
  | cons directory rest ih =>
      have tried := alike.runAt (Path.join directory name)
      unfold Fetch.Backend.runIn
      generalize Fetch.Backend.runAt world (Path.join directory name) = start,
        Fetch.Backend.runAt other (Path.join directory name) = start' at tried
      cases tried with
      | started answers => exact .started answers
      | refused fault =>
          dsimp only
          split
          · exact ih _
          · exact .refused fault

end World.Alike

namespace Run

/-- What two runs have in common. -/
structure Alike (invocation : Invocation) (world : World) (env : Environment)
    (invocation' : Invocation) (world' : World) (env' : Environment) : Prop where
  invocation : invocation.quiet = invocation'.quiet
  world : world.Alike world'
  env : env.AlikeBut Program.logVariable env'

variable {invocation invocation' : Invocation} {world world' : World} {env env' : Environment}

namespace Alike

variable (alike : Alike invocation world env invocation' world' env')
include alike

theorem symm : Alike invocation' world' env' invocation world env :=
  ⟨alike.invocation.symm, alike.world.symm, alike.env.symm⟩

theorem file?_eq : Settings.file? world env invocation.config =
    Settings.file? world' env' invocation'.config := by
  have config : invocation.config = invocation'.config := by
    change invocation.quiet.config = invocation'.quiet.config
    rw [alike.invocation]
  have named : env.filled? Settings.fileVariable = env'.filled? Settings.fileVariable :=
    alike.env.filled?_eq (by decide) (by decide) (by decide)
  have home : env.filled? "HOME".toList = env'.filled? "HOME".toList :=
    alike.env.filled?_eq (by decide) (by decide) (by decide)
  unfold Settings.file? Settings.defaultPath? Settings.home?
  rw [config, named, home, alike.world.accountHome, alike.world.isFile_eq]

theorem settles {settings : Settings} (settled : Settles invocation world env settings) :
    ∃ settings', Settles invocation' world' env' settings' ∧
      settings'.quiet = settings.quiet := by
  cases settled with
  | standard unchosen =>
      rw [← Settings.file?_eq_none_iff, alike.file?_eq] at unchosen
      exact ⟨_, .standard (Settings.file?_eq_none_iff.1 unchosen), rfl⟩
  | file chosen documents =>
      rw [← Settings.file?_eq_some_iff, alike.file?_eq] at chosen
      obtain ⟨settings', loaded, quiet⟩ :=
        alike.world.load_eq_ok (Settings.load_of_documents documents)
      obtain ⟨document', documents', rfl⟩ := Settings.load_eq_ok_iff_documents.1 loaded
      exact ⟨_, .file (Settings.file?_eq_some_iff.1 chosen) documents', quiet⟩

theorem token?_eq : token? invocation world env = token? invocation' world' env' := by
  have given : invocation.token = invocation'.token := by
    change invocation.quiet.token = invocation'.quiet.token
    rw [alike.invocation]
  have held : env.get? "ENVKEY".toList = env'.get? "ENVKEY".toList :=
    alike.env.get?_eq (by decide) (by decide) (by decide)
  have saved : Token.assigned? world (Utf8.encode ".env".toList) =
      Token.assigned? world' (Utf8.encode ".env".toList) := alike.world.token
  rw [token?, token?, Token.candidates, Token.candidates, given, held, saved]

theorem directories?_eq : Fetch.Backend.directories? env = Fetch.Backend.directories? env' := by
  rw [Fetch.Backend.directories?, Fetch.Backend.directories?,
    alike.env.raw?_eq (by decide) (by decide) (by decide)]

theorem program_eq (named : Option Path) :
    Fetch.Backend.program world env named = Fetch.Backend.program world' env' named := by
  have pointed : env.filled? Fetch.Backend.programVariable =
      env'.filled? Fetch.Backend.programVariable :=
    alike.env.filled?_eq (by decide) (by decide) (by decide)
  have home : env.get? "HOME".toList = env'.get? "HOME".toList :=
    alike.env.get?_eq (by decide) (by decide) (by decide)
  have expanded : Fetch.Backend.expandHome env = Fetch.Backend.expandHome env' := by
    funext directory
    rw [Fetch.Backend.expandHome, Fetch.Backend.expandHome, Fetch.Backend.home?,
      Fetch.Backend.home?, home]
  unfold Fetch.Backend.program Fetch.Backend.onPath?
  rw [pointed, alike.directories?_eq, expanded, alike.world.runnable_eq]

theorem behaviour (program : Path) (token : Text) {first second : Fetch.Options}
    (quiet : first.quiet = second.quiet) :
    StartAlike
      (Fetch.Backend.behaviour world env program (Fetch.arguments token first))
      (Fetch.Backend.behaviour world' env' program (Fetch.arguments token second)) := by
  unfold Fetch.Backend.behaviour
  rw [Fetch.any_contains_arguments quiet, alike.directories?_eq]
  split_ifs
  · exact .refused _
  · exact alike.world.runAt program
  · exact .refused _
  · exact .refused _
  · exact alike.world.runIn program _ _

/-- The options of the two runs are the same but for the wish for verbose output. -/
theorem fetchOptions_quiet {settings settings' : Settings}
    (quiet : settings'.quiet = settings.quiet) :
    (invocation.fetchOptions settings.fetch).quiet =
      (invocation'.fetchOptions settings'.fetch).quiet := by
  have fetched : settings'.fetch.quiet = settings.fetch.quiet := congrArg Settings.fetch quiet
  rw [Invocation.quiet_fetchOptions, Invocation.quiet_fetchOptions, alike.invocation, fetched]

theorem prepared {settings : Settings} {token : Text} {program : Path}
    (prepared : Prepared invocation world env settings token program) :
    ∃ settings', Prepared invocation' world' env' settings' token program ∧
      settings'.quiet = settings.quiet := by
  obtain ⟨settings', settled', quiet⟩ := alike.settles prepared.settled
  have fetchBin : invocation.fetchBin.or settings.fetchBin =
      invocation'.fetchBin.or settings'.fetchBin := by
    change invocation.quiet.fetchBin.or settings.quiet.fetchBin =
      invocation'.quiet.fetchBin.or settings'.quiet.fetchBin
    rw [alike.invocation, quiet]
  refine ⟨settings', ⟨settled', ?_, ?_, ?_⟩, quiet⟩
  · rw [← Fetch.Options.validate_quiet, ← alike.fetchOptions_quiet quiet,
      Fetch.Options.validate_quiet]
    exact prepared.usable
  · rw [← alike.token?_eq]
    exact prepared.tokened
  · rw [← Fetch.Backend.program_eq_ok_iff, ← fetchBin, ← alike.program_eq]
    exact Fetch.Backend.program_eq_ok_iff.2 prepared.found

theorem reports {report : Report} (reports : Reports invocation world env report) :
    ∃ report', Reports invocation' world' env' report' ∧ report'.stdout = report.stdout ∧
      report'.ending = report.ending := by
  cases reports with
  | @ended settings token program run prepared started =>
      obtain ⟨settings', prepared', quiet⟩ := alike.prepared prepared
      have options := alike.fetchOptions_quiet quiet
      have starts := alike.behaviour program token options
      rw [started.behaviour_eq] at starts
      generalize again : Fetch.Backend.behaviour world' env' program _ = start at starts
      cases starts with
      | started answers =>
          obtain ⟨stdout, ending⟩ := answers token _ _ options
          have launched := Fetch.Backend.behaviour_eq_iff.1 again
          exact ⟨_, .ended prepared' launched, stdout.symm, ending.symm⟩

theorem fetches {t : Text} (fetches : Fetches invocation world env t) :
    Fetches invocation' world' env' t := by
  cases fetches with
  | printed reports success decoded =>
      obtain ⟨report', reports', stdout, ending⟩ := alike.reports reports
      exact .printed reports' (ending.trans success) (stdout ▸ decoded)

theorem supplies {bundle : Bundle} (supplies : Supplies invocation world env bundle) :
    Supplies invocation' world' env' bundle := by
  obtain ⟨t, fetches, parsed⟩ := supplies
  exact ⟨t, alike.fetches fetches, parsed⟩

end Alike

end Run

end EnvBundle
