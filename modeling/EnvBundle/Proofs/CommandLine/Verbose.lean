import EnvBundle.Proofs.CommandLine.Leading
import EnvBundle.Proofs.Text.Decoding

/-!
What the switch for verbose output changes on a command line. Put where a flag may stand, it becomes
part of the invocation and changes nothing else of it; a line that cannot be followed without it
cannot be followed with it.
-/
namespace EnvBundle

namespace Invocation

/-- The invocation without its switch for verbose output. -/
def quiet (invocation : Invocation) : Invocation :=
  { invocation with switches := invocation.switches.filter (· != .verbose) }

theorem has_quiet (invocation : Invocation) {switch : CommandLine.Switch}
    (other : switch ≠ .verbose) : invocation.quiet.has switch = invocation.has switch := by
  rw [Bool.eq_iff_iff]
  simp only [has, quiet, List.contains_eq_mem, decide_eq_true_iff, List.mem_filter, bne_iff_ne]
  exact and_iff_left other

theorem quiet_quiet (invocation : Invocation) : invocation.quiet.quiet = invocation.quiet := by
  simp only [quiet, List.filter_filter, Bool.and_self]

theorem has_verbose_quiet (invocation : Invocation) : invocation.quiet.has .verbose = false := by
  simp [has, quiet]

theorem format_quiet (invocation : Invocation) : invocation.quiet.format = invocation.format := by
  rw [format, format, has_quiet _ (by decide), has_quiet _ (by decide)]

end Invocation

namespace CommandLine

open Utf8 (encode)

def verboseFlag : Bytes := encode "--verbose".toList

def State.quiet (state : State) : State := { state with taken := state.taken.quiet }

/-! An argument other than the switch is taken in the same way whether the switch has been given or
not. -/

theorem give_quiet (taken : Invocation) (flag : ValueFlag) (value : Bytes) :
    give taken.quiet flag value = (give taken flag value).map Invocation.quiet := by
  have given : isGiven taken.quiet flag = isGiven taken flag := by cases flag <;> rfl
  unfold give
  rw [given]
  cases isGiven taken flag with
  | true => rfl
  | false =>
      simp only [Bool.false_eq_true, if_false]
      cases flag with
      | cacheDir => cases pathValue .cacheDir value <;> rfl
      | clientName => cases decode value <;> rfl
      | clientVersion => cases decode value <;> rfl
      | timeout => cases floatValue .timeout value <;> rfl
      | retries => cases byteValue .retries value <;> rfl
      | retryBackoff => cases floatValue .retryBackoff value <;> rfl
      | fetchBin => cases pathValue .fetchBin value <;> rfl
      | config => cases pathValue .config value <;> rfl

theorem settle_quiet (state : State) : settle state.quiet = (settle state).map State.quiet := by
  obtain ⟨taken, pending, tokenRead, onlyFree⟩ := state
  cases pending with
  | none => rfl
  | some pending =>
      cases pending with
      | awaiting flag => rfl
      | held flag value =>
          simp only [settle, State.quiet, give_quiet]
          cases give taken flag value <;> rfl
      | token value =>
          simp only [settle, State.quiet]
          cases decode value <;> rfl

theorem addSwitch_quiet {switch : Switch} (other : switch ≠ .verbose) (state : State) :
    addSwitch switch state.quiet = (addSwitch switch state).map State.quiet := by
  have kept : state.quiet.taken.has switch = state.taken.has switch :=
    Invocation.has_quiet state.taken other
  have only : [switch].filter (· != .verbose) = [switch] :=
    List.filter_eq_self.2 fun _ member => bne_iff_ne.2 (List.mem_singleton.1 member ▸ other)
  rw [addSwitch, addSwitch, kept]
  split
  · rfl
  · simp only [State.quiet, Invocation.quiet, Except.map, List.filter_append, only]

theorem takeFlag_quiet (long : Bool) {flag : Flag} (other : flag ≠ .switch .verbose)
    (state : State) :
    takeFlag long flag state.quiet = (takeFlag long flag state).map State.quiet := by
  rw [takeFlag, takeFlag, settle_quiet]
  cases settle state with
  | error fault => rfl
  | ok state =>
      cases flag with
      | switch switch => exact addSwitch_quiet (fun same => other (same ▸ rfl)) state
      | valued flag => rfl
      | version => rfl
      | help => rfl

theorem takeAttached_quiet (flag : Flag) (value : Bytes) (state : State) :
    takeAttached flag value state.quiet = (takeAttached flag value state).map State.quiet := by
  cases flag with
  | valued flag =>
      simp only [takeAttached, settle_quiet]
      cases settle state with
      | error fault => rfl
      | ok state =>
          simp only [Except.map, State.quiet, give_quiet]
          cases give state.taken flag value <;> rfl
  | switch switch => rfl
  | version => rfl
  | help => rfl

/-- Only the switch's own bytes have its name. -/
theorem named?_ne_verbose {body : Bytes} (other : dash :: dash :: body ≠ verboseFlag) :
    (Utf8.decode? body).bind Flag.named? ≠ some (.switch .verbose) := by
  intro named
  obtain ⟨name, decoded, found⟩ := Option.bind_eq_some_iff.1 named
  have same : (Flag.switch .verbose).name == name := by
    have := List.find?_some found
    exact this
  have bytes := Utf8.decode?_eq_some_iff.1 decoded
  rw [← eq_of_beq same] at bytes
  exact other (bytes ▸ rfl)

theorem takeLong_quiet {body : Bytes} (other : dash :: dash :: body ≠ verboseFlag) (state : State) :
    takeLong body state.quiet = (takeLong body state).map State.quiet := by
  unfold takeLong cutValue
  cases cut : Split.first? equalsSign body with
  | none =>
      dsimp only
      cases named : (Utf8.decode? body).bind Flag.named? with
      | none => rfl
      | some flag =>
          have apart := named?_ne_verbose other
          rw [named] at apart
          exact takeFlag_quiet true (fun same => apart (congrArg some same)) state
  | some parts =>
      dsimp only
      cases (Utf8.decode? parts.1).bind Flag.named? with
      | none => rfl
      | some flag => exact takeAttached_quiet flag parts.2 state

theorem short?_ne_verbose (c : Char) : Flag.short? c ≠ some (.switch .verbose) := by
  unfold Flag.short?
  split_ifs <;> decide

theorem takeShort_quiet (letters : List Utf8.Piece) (state : State) :
    takeShort state.quiet letters = (takeShort state letters).map State.quiet := by
  induction letters generalizing state with
  | nil => rfl
  | cons piece rest ih =>
      cases piece with
      | broken => rfl
      | char c =>
          rw [takeShort, takeShort]
          cases short : Flag.short? c with
          | none => rfl
          | some flag =>
              have apart := short?_ne_verbose c
              rw [short] at apart
              simp only
              rw [takeFlag_quiet false (fun same => apart (congrArg some same)) state]
              cases takeFlag false flag state with
              | error fault => rfl
              | ok state => exact ih state

theorem takeFree_quiet (argument : Bytes) (state : State) :
    takeFree argument state.quiet = (takeFree argument state).map State.quiet := by
  rw [takeFree, takeFree, settle_quiet]
  change (if state.tokenRead then _ else _) = _
  split
  · rfl
  · cases settle state <;> rfl

theorem takeBare_quiet (argument : Bytes) (state : State) :
    takeBare argument state.quiet = (takeBare argument state).map State.quiet := by
  obtain ⟨taken, pending, tokenRead, onlyFree⟩ := state
  cases pending with
  | none => exact takeFree_quiet argument _
  | some pending =>
      cases pending with
      | awaiting flag => rfl
      | held flag value => exact takeFree_quiet argument _
      | token value => exact takeFree_quiet argument _

theorem eq_of_shape_long {argument body : Bytes} (shape : Shape.of argument = .long body) :
    argument = dash :: dash :: body := by
  unfold Shape.of at shape
  split at shape
  · cases shape
  · cases shape
  · next first =>
    split at shape
    · cases shape
    · cases shape
    · next second =>
      cases shape
      rw [Split.after?_eq_some first, Split.after?_eq_some second]
      rfl

theorem takeArgument_quiet {argument : Bytes} (other : argument ≠ verboseFlag) (state : State) :
    takeArgument state.quiet argument = (takeArgument state argument).map State.quiet := by
  unfold takeArgument
  change (if state.onlyFree then _ else _) = _
  split
  · exact takeFree_quiet argument state
  · cases shape : Shape.of argument with
    | bare => exact takeBare_quiet argument state
    | divider => rfl
    | long body => exact takeLong_quiet (eq_of_shape_long shape ▸ other) state
    | short body => exact takeShort_quiet _ state

/-- The same holds of a run of arguments. -/
theorem foldlM_takeArgument_quiet {arguments : List Bytes} (other : verboseFlag ∉ arguments)
    (state : State) :
    arguments.foldlM takeArgument state.quiet =
      (arguments.foldlM takeArgument state).map State.quiet := by
  induction arguments generalizing state with
  | nil => rfl
  | cons argument arguments ih =>
      have apart : argument ≠ verboseFlag := Ne.symm (List.ne_of_not_mem_cons other)
      rw [List.foldlM_cons, List.foldlM_cons, takeArgument_quiet apart]
      cases takeArgument state argument with
      | error fault => rfl
      | ok state => exact ih (List.not_mem_of_not_mem_cons other) state

/-! The switch excludes no other and is excluded by none. -/

theorem excludes_and (first second : Switch) :
    (first.excludes second && second != .verbose) = first.excludes second := by
  cases first <;> cases second <;> rfl

theorem ne_verbose_of_any_excludes {switch : Switch} {switches : List Switch}
    (excludes : switches.any switch.excludes = true) : (switch != .verbose) = true := by
  rw [bne_iff_ne]
  rintro rfl
  obtain ⟨other, _, excluded⟩ := List.any_eq_true.1 excludes
  cases excluded

theorem checkConflicts_quiet (switches : List Switch) :
    checkConflicts (switches.filter (· != .verbose)) = checkConflicts switches := by
  have excluded : ∀ switch : Switch,
      (switches.filter (· != .verbose)).filter switch.excludes =
        switches.filter switch.excludes := by
    intro switch
    simp only [List.filter_filter, excludes_and]
  have any_excluded : ∀ switch : Switch,
      (switches.filter (· != .verbose)).any switch.excludes = switches.any switch.excludes := by
    intro switch
    simp only [List.any_filter, Bool.and_comm (bne _ _), excludes_and]
  have found : ((switches.filter (· != .verbose)).find? fun switch =>
      switches.any switch.excludes) =
        switches.find? fun switch => switches.any switch.excludes := by
    rw [List.find?_filter]
    congr 1
    funext switch
    rw [Bool.eq_iff_iff, decide_eq_true_iff]
    exact and_iff_right_of_imp ne_verbose_of_any_excludes
  simp only [checkConflicts, any_excluded, excluded, found]

theorem conclude_quiet (state : State) :
    conclude state.quiet = (conclude state).map Invocation.quiet := by
  rw [conclude, conclude, settle_quiet]
  cases settle state with
  | error fault => rfl
  | ok state =>
      simp only [Except.map, State.quiet, Invocation.quiet, checkConflicts_quiet]
      cases checkConflicts state.taken.switches <;> rfl

theorem bind_conclude_quiet (outcome : Except Fault State) :
    (outcome.map State.quiet).bind conclude = (outcome.bind conclude).map Invocation.quiet := by
  cases outcome with
  | error fault => rfl
  | ok state => exact conclude_quiet state

/-- The end of two readings that differ in the switch for verbose output at most. Two faults need
not be the same one, as the switch makes a value be looked at early. -/
inductive ReadsAlike : Except Fault Invocation → Except Fault Invocation → Prop
  | same (fault : Fault) : ReadsAlike (.error fault) (.error fault)
  | refused {fault other : Fault} (refuses : fault.Refuses) (refuses' : other.Refuses) :
      ReadsAlike (.error fault) (.error other)
  | followed {first second : Invocation} (quiet : first.quiet = second.quiet) :
      ReadsAlike (.ok first) (.ok second)

theorem readsAlike_map_quiet (outcome : Except Fault Invocation) :
    ReadsAlike (outcome.map Invocation.quiet) outcome := by
  cases outcome with
  | error fault => exact .same fault
  | ok invocation => exact .followed (Invocation.quiet_quiet invocation)

theorem addSwitch_verbose {state : State} (quiet : state.quiet = state) :
    (addSwitch .verbose state).map State.quiet = .ok state := by
  have fresh : state.taken.has .verbose = false := by
    rw [← quiet]
    exact Invocation.has_verbose_quiet state.taken
  rw [addSwitch, fresh, if_neg Bool.false_ne_true]
  refine congrArg Except.ok (Eq.trans ?_ quiet)
  simp only [State.quiet, Invocation.quiet, List.filter_append]
  rw [List.filter_cons_of_neg (by decide), List.filter_nil, List.append_nil]

/-- Where a flag may stand, the switch is added to what is pending, once that is taken. -/
theorem takeArgument_verboseFlag {state : State} (flags : state.onlyFree = false)
    (quiet : state.quiet = state) :
    (takeArgument state verboseFlag).map State.quiet = settle state := by
  have same : verboseFlag = (Flag.switch .verbose).argument := by decide
  rw [same, takeArgument_flag flags, takeFlag]
  have kept := settle_quiet state
  rw [quiet] at kept
  cases settled : settle state with
  | error fault => rfl
  | ok next =>
      rw [settled] at kept
      exact addSwitch_verbose (Except.ok.inj kept).symm

/-- The switch may be put wherever a flag may stand, if it is nowhere else on the line. -/
theorem parse_insert_verbose {front back : List Bytes} (once : verboseFlag ∉ front ++ back)
    (place : ∀ state, front.foldlM takeArgument State.start = .ok state →
      state.onlyFree = false ∧ state.Closed) :
    ReadsAlike (parse (front ++ back)) (parse (front ++ verboseFlag :: back)) := by
  obtain ⟨before, behind⟩ := not_or.1 (mt List.mem_append.2 once)
  rw [parse_eq, parse_eq, List.foldlM_append, List.foldlM_append]
  have front_quiet := foldlM_takeArgument_quiet before State.start
  cases read : front.foldlM takeArgument State.start with
  | error fault => exact .same fault
  | ok state =>
      obtain ⟨flags, closed⟩ := place state read
      have quiet : state.quiet = state := by
        change front.foldlM takeArgument State.start = _ at front_quiet
        rw [read] at front_quiet
        exact (Except.ok.inj front_quiet).symm
      change ReadsAlike ((back.foldlM takeArgument state).bind conclude)
        (((takeArgument state verboseFlag).bind fun next => back.foldlM takeArgument next).bind
          conclude)
      -- With the switch, what is pending is taken early; but for that the two readings are alike.
      have overtaken := (Overtaken.settled closed).foldlM back
      have told : ((settle state).bind fun next => back.foldlM takeArgument next) =
          ((takeArgument state verboseFlag).bind fun next =>
            back.foldlM takeArgument next).map State.quiet := by
        rw [← takeArgument_verboseFlag flags quiet]
        cases takeArgument state verboseFlag with
        | error fault => rfl
        | ok next => exact foldlM_takeArgument_quiet behind next
      rw [told] at overtaken
      rcases overtaken.conclude with same | ⟨fault, other, failed, failed', refuses, refuses'⟩
      · rw [bind_conclude_quiet] at same
        exact same ▸ readsAlike_map_quiet _
      · rw [show back.foldlM takeArgument state = .error fault from failed,
          eq_error_of_map failed']
        exact .refused refuses refuses'

end CommandLine

end EnvBundle
