import EnvBundle.Proofs.Text.Utf8
import EnvBundle.World.Files

/-! Files that hold text, and files that are there but hold nothing for their reader. -/
namespace EnvBundle.World

theorem isFile_iff {world : World} {path : Path} :
    world.isFile path = true ↔ ∃ content start, world.look path = .ok (.plain content start) := by
  rw [isFile]
  cases world.look path with
  | error fault => simp
  | ok node => cases node <;> simp [Node.isPlain]

theorem readText_of_not_exists {world : World} {path : Path} (absent : world.exists? path = false) :
    ∃ fault, world.readText path = .error fault := by
  cases seen : world.look path with
  | error fault => exact ⟨fault, by rw [readText, read, seen]⟩
  | ok node =>
      rw [exists?, seen] at absent
      cases absent

theorem readText_of_encoded {world : World} {path : Path} {t : Text}
    (saved : world.read path = .ok (Utf8.encode t)) : world.readText path = .ok t := by
  rw [readText, saved]
  simp only [Utf8.decode?_encode]

theorem readText_of_refused {world : World} {path : Path} {fault : SystemFault}
    (refused : world.read path = .error fault) : world.readText path = .error fault := by
  rw [readText, refused]

/-- Surroundings that have this text in every file. -/
def holding (t : Text) : World where
  look _ := .ok (.file (Utf8.encode t) none)
  accountHome := none

theorem read_holding (t : Text) (path : Path) :
    (holding t).read path = .ok (Utf8.encode t) := rfl

end EnvBundle.World
