import EnvBundle.Fetch.Backend

/-!
When a program answers with a text: it can be started, it succeeds and it prints text. And what is
started for an answer, at most that one program.
-/
namespace EnvBundle

/-- An operation that logs and does nothing else starts nothing. -/
theorem Traced.starts_of_logged {α : Type} {run : Traced α}
    (logged : ∀ event ∈ run.events, ∃ line, event = .logged line) : run.starts = [] := by
  apply List.filterMap_eq_nil_iff.2
  intro event member
  obtain ⟨line, rfl⟩ := logged event member
  rfl

namespace Fetch.Backend

theorem result_eq_ok_iff {report : Report} {t : Text} :
    result report = .ok t ↔
      report.ending = .exited 0 ∧ ∃ raw, Utf8.decode? report.stdout = some raw ∧
        Text.trim raw = t := by
  unfold result Ending.succeeded
  by_cases success : report.ending = .exited 0
  · cases decoded : Utf8.decode? report.stdout with
    | none => simp [success]
    | some raw => simp [success]
  · simp [success]

theorem result_of_failure {report : Report} (failure : report.ending ≠ .exited 0) :
    result report =
      .error (.rejected (failureReason (Utf8.decodeLossy report.stderr) report.ending)) := by
  simp [result, Ending.succeeded, failure]

theorem result_of_undecodable {report : Report} (success : report.ending = .exited 0)
    (undecodable : Utf8.decode? report.stdout = none) :
    result report = .error .undecodableOutput := by
  simp [result, Ending.succeeded, success, undecodable]

theorem value_choose {world : World} {env : Environment} {named : Option Path} :
    (choose world env named).value = program world env named := by
  unfold choose
  split
  · next missing => exact missing.symm
  · next found => exact found.symm

theorem starts_choose {world : World} {env : Environment} {named : Option Path} :
    (choose world env named).starts = [] := by
  unfold choose
  split <;> rfl

theorem starts_remarks {α : Type} (value : α) (options : Options) (report : Report) :
    (⟨value, remarks options report⟩ : Traced α).starts = [] := by
  apply Traced.starts_of_logged
  intro event member
  simp only [remarks, List.mem_append] at member
  rcases member with said | failed
  · obtain ⟨line, _, rfl⟩ := List.mem_map.1 said
    exact ⟨_, rfl⟩
  · split at failed
    · cases failed
    · rw [List.mem_singleton.1 failed]
      exact ⟨_, rfl⟩

section

variable {world : World} {program : Path} {env : Environment} {token : Text} {options : Options}

theorem notStarted_of_present {cause : SystemFault} (present : cause ≠ .absent) :
    notStarted program cause = .notStarted cause := by
  cases cause with
  | absent => exact absurd rfl present
  | _ => rfl

theorem value_fetch_of_refused {cause : SystemFault} (given : token ≠ [])
    (refused : behaviour world env program (arguments token options) = .error cause) :
    (fetch world program env token options).value = .error (notStarted program cause) := by
  simp [fetch, given, refused, Traced.pure]

theorem value_fetch_of_started {run : List Bytes → Report} (given : token ≠ [])
    (started : behaviour world env program (arguments token options) = .ok run) :
    (fetch world program env token options).value = result (run (arguments token options)) := by
  simp [fetch, given, started]

theorem value_fetch_eq_ok_iff {t : Text} :
    (fetch world program env token options).value = .ok t ↔
      token ≠ [] ∧ ∃ run, behaviour world env program (arguments token options) = .ok run ∧
        result (run (arguments token options)) = .ok t := by
  by_cases empty : token = []
  · simp [fetch, empty, Traced.pure]
  · cases started : behaviour world env program (arguments token options) with
    | error cause =>
        rw [value_fetch_of_refused empty started]
        simp
    | ok run =>
        rw [value_fetch_of_started empty started]
        simp [empty]

theorem starts_fetch_of_refused {cause : SystemFault}
    (refused : behaviour world env program (arguments token options) = .error cause) :
    (fetch world program env token options).starts = [] := by
  unfold fetch
  split
  · rfl
  · simp only [refused]
    rfl

theorem starts_fetch_of_started {run : List Bytes → Report} (given : token ≠ [])
    (started : behaviour world env program (arguments token options) = .ok run) :
    (fetch world program env token options).starts = [(program, arguments token options)] := by
  have quiet := starts_remarks (result (run (arguments token options))) options
    (run (arguments token options))
  rw [fetch, if_neg given, Traced.starts_bind]
  simp only [started]
  exact congrArg ((program, arguments token options) :: ·) quiet

end

end Fetch.Backend

end EnvBundle
