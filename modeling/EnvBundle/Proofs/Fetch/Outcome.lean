import EnvBundle.Proofs.Fetch.Answer
import EnvBundle.Proofs.Text.Decoding

/-!
What a fetch comes to. Several things can be wrong with it at once, and the first of them in the
order of the fetch decides: the token, the start of the program, how it ends, what it prints.
-/
namespace EnvBundle.Fetch.Backend

section

variable (world : World) (env : Environment) (program : Path) (token : Text) (options : Options)

/-- There is a token, the program is started for it and ends with this report. -/
structure Leaves (report : Report) : Prop where
  given : token ≠ []
  started : ∃ run, behaviour world env program (arguments token options) = .ok run ∧
    run (arguments token options) = report

/-- The faults in their order, each behind what the earlier ones need, and the text that is left
when there is none. What a program prints is looked at only if it succeeds. -/
inductive Comes : Except Fault Text → Prop
  | missingToken (missing : token = []) : Comes (.error .missingToken)
  | absent (given : token ≠ [])
      (refused : behaviour world env program (arguments token options) = .error .absent) :
      Comes (.error (.backendNotFound (Path.display program)))
  | notStarted {cause : SystemFault} (given : token ≠ [])
      (refused : behaviour world env program (arguments token options) = .error cause)
      (present : cause ≠ .absent) : Comes (.error (.notStarted cause))
  | rejected {report : Report} (leaves : Leaves world env program token options report)
      (failure : report.ending ≠ .exited 0) :
      Comes (.error (.rejected
        (failureReason (Utf8.decodeLossy report.stderr) report.ending)))
  | undecodable {report : Report} (leaves : Leaves world env program token options report)
      (success : report.ending = .exited 0) (garbled : ∀ raw, report.stdout ≠ Utf8.encode raw) :
      Comes (.error .undecodableOutput)
  | printed {report : Report} {raw : Text} (leaves : Leaves world env program token options report)
      (success : report.ending = .exited 0) (decoded : report.stdout = Utf8.encode raw) :
      Comes (.ok (Text.trim raw))

end

section

variable {world : World} {env : Environment} {program : Path} {token : Text} {options : Options}

theorem value_fetch_of_no_token (missing : token = []) :
    (fetch world program env token options).value = .error .missingToken := by
  rw [fetch, if_pos missing]
  rfl

theorem Leaves.value_fetch {report : Report}
    (leaves : Leaves world env program token options report) :
    (fetch world program env token options).value = result report := by
  obtain ⟨run, started, rfl⟩ := leaves.started
  exact value_fetch_of_started leaves.given started

theorem result_of_garbled {report : Report} (success : report.ending = .exited 0)
    (garbled : ∀ raw, report.stdout ≠ Utf8.encode raw) :
    result report = .error .undecodableOutput := by
  apply result_of_undecodable success
  rw [Option.eq_none_iff_forall_ne_some]
  intro raw decoded
  exact garbled raw (Utf8.decode?_eq_some_iff.1 decoded)

theorem result_of_encoded {report : Report} {raw : Text} (success : report.ending = .exited 0)
    (decoded : report.stdout = Utf8.encode raw) : result report = .ok (Text.trim raw) :=
  result_eq_ok_iff.2 ⟨success, raw, Utf8.decode?_eq_some_iff.2 decoded, rfl⟩

theorem Comes.value_eq {outcome : Except Fault Text}
    (comes : Comes world env program token options outcome) :
    (fetch world program env token options).value = outcome := by
  cases comes with
  | missingToken missing => exact value_fetch_of_no_token missing
  | absent given refused => exact value_fetch_of_refused given refused
  | notStarted given refused present =>
      rw [value_fetch_of_refused given refused, notStarted_of_present present]
  | rejected leaves failure => rw [leaves.value_fetch, result_of_failure failure]
  | undecodable leaves success garbled => rw [leaves.value_fetch, result_of_garbled success garbled]
  | printed leaves success decoded => rw [leaves.value_fetch, result_of_encoded success decoded]

theorem exists_comes (world : World) (env : Environment) (program : Path) (token : Text)
    (options : Options) : ∃ outcome, Comes world env program token options outcome := by
  by_cases missing : token = []
  · exact ⟨_, .missingToken missing⟩
  · cases started : behaviour world env program (arguments token options) with
    | error cause =>
        by_cases absent : cause = .absent
        · exact ⟨_, .absent missing (absent ▸ started)⟩
        · exact ⟨_, .notStarted missing started absent⟩
    | ok run =>
        have leaves : Leaves world env program token options (run (arguments token options)) :=
          ⟨missing, run, started, rfl⟩
        by_cases success : (run (arguments token options)).ending = .exited 0
        · by_cases decoded : ∃ raw, (run (arguments token options)).stdout = Utf8.encode raw
          · obtain ⟨raw, decoded⟩ := decoded
            exact ⟨_, .printed leaves success decoded⟩
          · exact ⟨_, .undecodable leaves success (not_exists.1 decoded)⟩
        · exact ⟨_, .rejected leaves success⟩

theorem value_fetch_eq_iff {outcome : Except Fault Text} :
    (fetch world program env token options).value = outcome ↔
      Comes world env program token options outcome := by
  constructor
  · rintro rfl
    obtain ⟨outcome, comes⟩ := exists_comes world env program token options
    rw [comes.value_eq]
    exact comes
  · exact Comes.value_eq

/-- The program is started once, or not at all if there is no token or the start is refused. -/
theorem starts_fetch_cases (world : World) (env : Environment) (program : Path) (token : Text)
    (options : Options) :
    ((fetch world program env token options).starts = [(program, arguments token options)] ∧
        ∃ report, Leaves world env program token options report) ∨
      ((fetch world program env token options).starts = [] ∧
        ¬∃ report, Leaves world env program token options report) := by
  by_cases missing : token = []
  · have silent : (fetch world program env token options).starts = [] := by
      rw [fetch, if_pos missing]
      rfl
    refine .inr ⟨silent, ?_⟩
    rintro ⟨_, leaves⟩
    exact leaves.given missing
  · cases started : behaviour world env program (arguments token options) with
    | error cause =>
        refine .inr ⟨starts_fetch_of_refused started, ?_⟩
        rintro ⟨_, leaves⟩
        obtain ⟨run, started', _⟩ := leaves.started
        rw [started] at started'
        cases started'
    | ok run => exact .inl ⟨starts_fetch_of_started missing started, _, missing, run, started, rfl⟩

end

/-- Every fetch comes to exactly one end, that of the first thing that is wrong with it: no text is
returned unless there is a token, the program is started for it, succeeds and prints nothing but
text, and then the text returned is what was printed without the blanks around it. For want of a
token nothing is started. -/
theorem fetch_comes_to_first_fault (world : World) (env : Environment) (program : Path)
    (token : Text) (options : Options) :
    let run := fetch world program env token options
    (∀ outcome, run.value = outcome ↔ Comes world env program token options outcome) ∧
      (∀ t, run.value = .ok t ↔
        ∃ report raw, Leaves world env program token options report ∧
          report.ending = .exited 0 ∧ report.stdout = Utf8.encode raw ∧ t = Text.trim raw) ∧
      (run.starts = [(program, arguments token options)] ∧
          (∃ report, Leaves world env program token options report) ∨
        run.starts = [] ∧ ¬∃ report, Leaves world env program token options report) := by
  intro run
  refine ⟨fun _ => value_fetch_eq_iff, ?_, starts_fetch_cases world env program token options⟩
  intro t
  rw [value_fetch_eq_iff]
  constructor
  · intro comes
    cases comes with
    | printed leaves success decoded => exact ⟨_, _, leaves, success, decoded, rfl⟩
  · rintro ⟨report, raw, leaves, success, decoded, rfl⟩
    exact .printed leaves success decoded

end EnvBundle.Fetch.Backend
