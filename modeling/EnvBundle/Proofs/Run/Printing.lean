import EnvBundle.Program
import EnvBundle.Proofs.Text.Trim

/-! What the user of the command sees of a run: a block of output or an error, never both. -/
namespace EnvBundle.Run

theorem block_eq (t : Text) :
    block t = if t = [] ∨ t.getLast? = some '\n' then t else t ++ ['\n'] := by
  unfold block
  by_cases empty : t = []
  · simp [empty]
  · simp [empty]

/-- A trimmed text never ends its last line by itself. -/
theorem block_trim (raw : Text) :
    block (Text.trim raw) = if Text.trim raw = [] then [] else Text.trim raw ++ ['\n'] := by
  have open_end : (Text.trim raw).getLast? ≠ some '\n' := by
    intro last
    cases Text.solid_of_getLast?_trim last
  unfold block
  rw [if_neg open_end]

variable {invocation : Invocation} {world : World} {env : Environment} {arguments : List Bytes}

theorem value_run_of_ok (parsed : CommandLine.parse arguments = .ok invocation) {out : Text}
    (executed : (execute invocation world env).value = .ok out) :
    (Program.run arguments world env).value.stdout = out ∧
      (Program.run arguments world env).value.status = 0 := by
  simp only [Program.run, parsed, Program.printed, executed, and_self]

theorem value_run_of_error (parsed : CommandLine.parse arguments = .ok invocation) {fault : Fault}
    (failed : (execute invocation world env).value = .error fault) :
    (Program.run arguments world env).value.stdout = [] ∧
      (Program.run arguments world env).value.status = 1 := by
  simp only [Program.run, parsed, Program.printed, failed, and_self]

end EnvBundle.Run
