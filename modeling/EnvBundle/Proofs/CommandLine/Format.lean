import EnvBundle.Proofs.CommandLine.Settling

/-!
Which form of output a command line chooses. A line that is followed has no two switches that
contradict each other, so it asks for one form at most; what it asks for in the end does not depend
on which switch is looked at first.
-/
namespace EnvBundle

namespace CommandLine

variable {arguments : List Bytes} {invocation : Invocation}

theorem checkConflicts_eq_ok_iff {switches : List Switch} :
    checkConflicts switches = .ok () ↔
      ∀ first ∈ switches, ∀ second ∈ switches, first.excludes second = false := by
  rw [checkConflicts]
  split
  · next none =>
    simp only [List.find?_eq_none, List.any_eq_true, not_exists, not_and, Bool.not_eq_true] at none
    exact iff_of_true rfl none
  · next switch found =>
    refine iff_of_false nofun fun agree => ?_
    have conflict : switches.any switch.excludes = true :=
      List.find?_some (p := fun switch : Switch => switches.any switch.excludes) found
    obtain ⟨other, given, excluded⟩ := List.any_eq_true.1 conflict
    cases (agree switch (List.mem_of_find?_eq_some found) other given).symm.trans excluded

theorem checkConflicts_of_parse (parsed : parse arguments = .ok invocation) :
    checkConflicts invocation.switches = .ok () := by
  rw [parse_eq] at parsed
  cases read : arguments.foldlM takeArgument State.start with
  | error fault =>
      rw [read] at parsed
      cases parsed
  | ok state =>
      rw [read] at parsed
      change conclude state = _ at parsed
      rw [conclude] at parsed
      cases settled : settle state with
      | error fault =>
          rw [settled] at parsed
          cases parsed
      | ok next =>
          rw [settled] at parsed
          dsimp only at parsed
          cases agree : checkConflicts next.taken.switches with
          | error fault =>
              rw [agree] at parsed
              cases parsed
          | ok _ =>
              rw [agree] at parsed
              cases parsed
              exact agree

end CommandLine

namespace Invocation

open CommandLine (parse)

/-- The form of the output that the switches ask for, and the standard form for want of a wish. -/
inductive Chooses (invocation : Invocation) : Shell.Format → Prop
  | dotEnv (asked : .dotEnvCompatible ∈ invocation.switches) : Chooses invocation .dotEnv
  | pamCompatible (asked : .pamCompatible ∈ invocation.switches) :
      Chooses invocation .pamCompatible
  | standard (noDotEnv : .dotEnvCompatible ∉ invocation.switches)
      (noPam : .pamCompatible ∉ invocation.switches) : Chooses invocation .standard

variable {arguments : List Bytes} {invocation : Invocation}

theorem has_iff {switch : CommandLine.Switch} :
    invocation.has switch = true ↔ switch ∈ invocation.switches :=
  List.contains_iff_mem

theorem chooses_format (invocation : Invocation) : invocation.Chooses invocation.format := by
  rw [format]
  split
  · next asked => exact .dotEnv (has_iff.1 asked)
  · next noDotEnv =>
    split
    · next asked => exact .pamCompatible (has_iff.1 asked)
    · next noPam => exact .standard (mt has_iff.2 noDotEnv) (mt has_iff.2 noPam)

/-- The order in which the switches are looked at makes no difference on a line that is followed. -/
theorem Chooses.eq_format (parsed : parse arguments = .ok invocation) {format : Shell.Format}
    (chooses : invocation.Chooses format) : format = invocation.format := by
  have agree := CommandLine.checkConflicts_eq_ok_iff.1 (CommandLine.checkConflicts_of_parse parsed)
  have chosen := invocation.chooses_format
  generalize invocation.format = kept at chosen
  cases chooses with
  | dotEnv asked =>
      cases chosen with
      | dotEnv => rfl
      | pamCompatible asked' => cases agree _ asked _ asked'
      | standard noDotEnv => exact absurd asked noDotEnv
  | pamCompatible asked =>
      cases chosen with
      | dotEnv asked' => cases agree _ asked _ asked'
      | pamCompatible => rfl
      | standard _ noPam => exact absurd asked noPam
  | standard noDotEnv noPam =>
      cases chosen with
      | dotEnv asked => exact absurd asked noDotEnv
      | pamCompatible asked => exact absurd asked noPam
      | standard => rfl

end Invocation

end EnvBundle
