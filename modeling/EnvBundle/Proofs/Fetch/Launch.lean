import EnvBundle.Fetch.Backend.Launch
import EnvBundle.Proofs.Fetch.Lookup

/-!
What starting a program comes to. A program that is given by its place is started there. A name is
searched for in one directory after the other, and the search is over at the first one where the
name comes to a start or to a refusal that is not passed over.
-/
namespace EnvBundle.Fetch.Backend

/-- What a start comes to: a program that runs, or the reason why there is none. -/
abbrev Start := Except SystemFault (List Bytes → Report)

/-- The refusals after which a search goes on. -/
def passable : List SystemFault :=
  [.absent, .belowFile, .denied, .staleHandle, .missingDevice, .timedOut]

section

variable (world : World) (env : Environment)

/-- What starting what is at a path comes to. -/
inductive Tries (path : Path) : Start → Prop
  | unseen {fault : SystemFault} (unseen : world.look path = .error fault) :
      Tries path (.error fault)
  | forbidden {node : Node} (there : world.look path = .ok node) (barred : ¬MayRun world path) :
      Tries path (.error .denied)
  | permitted {content : Except SystemFault Bytes} {start : Start}
      (there : world.look path = .ok (.plain content (some start))) : Tries path start

/-- The name is refused in a directory, and the refusal is passed over. -/
def Passes (name directory : Path) (fault : SystemFault) : Prop :=
  fault ∈ passable ∧ Tries world (Path.join directory name) (.error fault)

/-- What a search comes to. If every directory is passed, the last refusal counts, or a permission
that was denied in any of them. -/
inductive Searches (name : Path) (directories : List Path) : Start → Prop
  | ended {before after : List Path} {directory : Path} {start : Start}
      (cut : directories = before ++ directory :: after)
      (passed : ∀ other ∈ before, ∃ fault, Passes world name other fault)
      (tried : Tries world (Path.join directory name) start)
      (final : ∀ fault ∈ passable, start ≠ .error fault) : Searches name directories start
  | exhausted {faults : List SystemFault}
      (passed : List.Forall₂ (Passes world name) directories faults) :
      Searches name directories
        (.error (if .denied ∈ faults then .denied else faults.getLastD .absent))

/-- Where a name is searched for: where the variable says, or in the usual directories. -/
inductive SearchPath : List Path → Prop
  | listed {list : Bytes} (listed : env.raw? "PATH".toList = some list) :
      SearchPath (Split.pieces colon list)
  | usual (unlisted : env.raw? "PATH".toList = none) :
      SearchPath [Utf8.encode "/bin".toList, Utf8.encode "/usr/bin".toList]

/-- A program or an argument that no system can be given. -/
def Garbled (program : Path) (args : List Bytes) : Prop :=
  0 ∈ program ∨ ∃ arg ∈ args, 0 ∈ arg

/-- What starting a program with its arguments comes to. -/
inductive Launches (program : Path) (args : List Bytes) : Start → Prop
  | garbled (garbled : Garbled program args) : Launches program args (.error .nulInArgument)
  | placed {start : Start} (clean : ¬Garbled program args) (placed : Path.separator ∈ program)
      (tried : Tries world program start) : Launches program args start
  | nameless (clean : ¬Garbled program args) (nameless : program = []) :
      Launches program args (.error .absent)
  | overlong (clean : ¬Garbled program args) (unplaced : Path.separator ∉ program)
      (overlong : 255 < program.length) : Launches program args (.error .nameTooLong)
  | searched {directories : List Path} {start : Start} (clean : ¬Garbled program args)
      (unplaced : Path.separator ∉ program) (named : program ≠ [])
      (fits : program.length ≤ 255) (looked : SearchPath env directories)
      (searches : Searches world program directories start) : Launches program args start

end

variable {world : World} {env : Environment} {path name : Path} {start : Start}

theorem passedOver_iff {fault : SystemFault} : passedOver fault = true ↔ fault ∈ passable := by
  cases fault <;> simp [passedOver, passable]

theorem tries_runAt (world : World) (path : Path) : Tries world path (runAt world path) := by
  rw [runAt]
  cases there : world.look path with
  | error fault => exact .unseen there
  | ok node =>
      dsimp only
      cases startable : node.start? with
      | none =>
          refine .forbidden there ?_
          rintro ⟨content, start, plain⟩
          cases there.symm.trans plain
          cases startable
      | some start =>
          cases node with
          | folder refusal => cases startable
          | special content => cases startable
          | plain content start? =>
              cases startable
              exact .permitted there

theorem Tries.runAt_eq (tries : Tries world path start) : runAt world path = start := by
  rw [runAt]
  cases tries with
  | unseen unseen => rw [unseen]
  | permitted there => rw [there]; rfl
  | @forbidden node there barred =>
      rw [there]
      cases node with
      | folder refusal => rfl
      | special content => rfl
      | plain content start? =>
          cases start? with
          | none => rfl
          | some start => exact absurd ⟨content, start, there⟩ barred

/-- Directories that are passed only change the refusal that counts in the end. -/
theorem runIn_of_passed {before : List Path}
    (passed : ∀ other ∈ before, ∃ fault, Passes world name other fault) (last : SystemFault)
    (directories : List Path) :
    ∃ later, runIn world name last (before ++ directories) =
      runIn world name later directories := by
  induction before generalizing last with
  | nil => exact ⟨last, rfl⟩
  | cons directory before ih =>
      obtain ⟨first, passed⟩ := List.forall_mem_cons.1 passed
      obtain ⟨fault, passable, tried⟩ := first
      rw [List.cons_append, runIn, tried.runAt_eq]
      simp only [passedOver_iff.2 passable, if_true]
      exact ih passed _

theorem runIn_of_final {directory : Path} (tried : Tries world (Path.join directory name) start)
    (final : ∀ fault ∈ passable, start ≠ .error fault) (last : SystemFault) (after : List Path) :
    runIn world name last (directory :: after) = start := by
  rw [runIn, tried.runAt_eq]
  cases start with
  | ok run => rfl
  | error fault =>
      have kept : ¬passedOver fault = true := fun passes =>
        final fault (passedOver_iff.1 passes) rfl
      exact if_neg kept

/-- A search that goes through all directories remembers the last refusal, and above all a denied
permission. -/
theorem runIn_of_exhausted {directories : List Path} {faults : List SystemFault}
    (passed : List.Forall₂ (Passes world name) directories faults) (last : SystemFault) :
    runIn world name last directories =
      .error (if .denied ∈ last :: faults then .denied else faults.getLastD last) := by
  induction passed generalizing last with
  | nil =>
      rw [runIn]
      by_cases denied : last = .denied
      · rw [denied, if_pos List.mem_cons_self]
      · rw [if_neg (by simpa using Ne.symm denied)]
        rfl
  | @cons directory fault directories faults first rest ih =>
      obtain ⟨passable, tried⟩ := first
      rw [runIn, tried.runAt_eq]
      simp only [passedOver_iff.2 passable, if_true, List.getLastD_cons]
      by_cases denied : last = .denied
      · rw [if_pos denied, ih, denied, if_pos List.mem_cons_self, if_pos List.mem_cons_self]
      · rw [if_neg denied, ih]
        simp only [List.mem_cons, Ne.symm denied, false_or]

theorem exists_searches (world : World) (name : Path) (directories : List Path) :
    ∃ start, Searches world name directories start := by
  induction directories with
  | nil => exact ⟨_, .exhausted .nil⟩
  | cons directory rest ih =>
      have tried := tries_runAt world (Path.join directory name)
      by_cases passes : ∃ fault ∈ passable, runAt world (Path.join directory name) = .error fault
      · obtain ⟨fault, passable, refused⟩ := passes
        rw [refused] at tried
        obtain ⟨start, searches⟩ := ih
        cases searches with
        | @ended before after other _ cut passed tried' final =>
            have further : ∀ other ∈ directory :: before, ∃ fault, Passes world name other fault :=
              List.forall_mem_cons.2 ⟨⟨fault, passable, tried⟩, passed⟩
            exact ⟨start, .ended (congrArg (directory :: ·) cut) further tried' final⟩
        | exhausted passed => exact ⟨_, .exhausted (.cons ⟨passable, tried⟩ passed)⟩
      · refine ⟨_, .ended (List.nil_append _).symm (fun _ inside => nomatch inside) tried ?_⟩
        intro fault passable refused
        exact passes ⟨fault, passable, refused⟩

theorem Searches.runIn_eq {directories : List Path}
    (searches : Searches world name directories start) :
    runIn world name .absent directories = start := by
  cases searches with
  | ended cut passed tried final =>
      subst cut
      obtain ⟨later, skipped⟩ := runIn_of_passed passed .absent _
      rw [skipped]
      exact runIn_of_final tried final later _
  | exhausted passed =>
      rw [runIn_of_exhausted passed]
      simp only [List.mem_cons, reduceCtorEq, false_or]

theorem searches_runIn (world : World) (name : Path) (directories : List Path) :
    Searches world name directories (runIn world name .absent directories) := by
  obtain ⟨start, searches⟩ := exists_searches world name directories
  rw [searches.runIn_eq]
  exact searches

theorem searchPath_directories (env : Environment) :
    SearchPath env ((directories? env).getD usualDirectories) := by
  rw [directories?]
  cases listed : env.raw? "PATH".toList with
  | none => exact .usual listed
  | some list => exact .listed listed

theorem SearchPath.directories_eq {directories : List Path} (looked : SearchPath env directories) :
    (directories? env).getD usualDirectories = directories := by
  rw [directories?]
  cases looked with
  | listed listed => rw [listed]; rfl
  | usual unlisted => rw [unlisted]; rfl

theorem garbled_iff {program : Path} {args : List Bytes} :
    0 ∈ program ∨ args.any (·.contains 0) = true ↔ Garbled program args := by
  simp only [Garbled, List.any_eq_true, List.contains_iff_mem]

theorem launches_behaviour (world : World) (env : Environment) (program : Path)
    (args : List Bytes) : Launches world env program args (behaviour world env program args) := by
  rw [behaviour]
  split_ifs with garbled placed nameless overlong
  · exact .garbled (garbled_iff.1 garbled)
  · exact .placed (mt garbled_iff.2 garbled) placed (tries_runAt world program)
  · exact .nameless (mt garbled_iff.2 garbled) nameless
  · exact .overlong (mt garbled_iff.2 garbled) placed overlong
  · exact .searched (mt garbled_iff.2 garbled) placed nameless (Nat.le_of_not_lt overlong)
      (searchPath_directories env) (searches_runIn world program _)

theorem Launches.behaviour_eq {program : Path} {args : List Bytes}
    (launches : Launches world env program args start) :
    behaviour world env program args = start := by
  rw [behaviour]
  cases launches with
  | garbled garbled => rw [if_pos (garbled_iff.2 garbled)]
  | placed clean placed tried =>
      rw [if_neg (mt garbled_iff.1 clean), if_pos placed, tried.runAt_eq]
  | nameless clean nameless =>
      subst nameless
      rw [if_neg (mt garbled_iff.1 clean), if_neg List.not_mem_nil, if_pos rfl]
  | overlong clean unplaced overlong =>
      have named : program ≠ [] := by
        rintro rfl
        exact Nat.not_lt_zero _ overlong
      rw [if_neg (mt garbled_iff.1 clean), if_neg unplaced, if_neg named, Path.nameLimit,
        if_pos overlong]
  | searched clean unplaced named fits looked searches =>
      rw [if_neg (mt garbled_iff.1 clean), if_neg unplaced, if_neg named, Path.nameLimit,
        if_neg (Nat.not_lt.2 fits), looked.directories_eq]
      exact searches.runIn_eq

theorem behaviour_eq_iff {program : Path} {args : List Bytes} :
    behaviour world env program args = start ↔ Launches world env program args start := by
  constructor
  · rintro rfl
    exact launches_behaviour world env program args
  · exact Launches.behaviour_eq

theorem Launches.unique {program : Path} {args : List Bytes} {other : Start}
    (left : Launches world env program args start)
    (right : Launches world env program args other) : start = other :=
  left.behaviour_eq.symm.trans right.behaviour_eq

/-- A program that is given by its place is not searched for: what is there is started. -/
theorem Launches.of_place {program : Path} {args : List Bytes} {content : Except SystemFault Bytes}
    (clean : 0 ∉ program) (given : args.any (·.contains 0) = false)
    (placed : Path.separator ∈ program)
    (there : world.look program = .ok (.plain content (some start))) :
    Launches world env program args start := by
  refine .placed ?_ placed (.permitted there)
  rw [← garbled_iff, given]
  exact not_or.2 ⟨clean, Bool.false_ne_true⟩

end EnvBundle.Fetch.Backend
