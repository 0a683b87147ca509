import EnvBundle.CommandLine.Parse

/-!
When a value is looked at. What is pending is taken by the next flag, by the next free argument or
at the end of the line; it may be taken before, and then at most the first fault is another one.
-/
namespace EnvBundle.CommandLine

/-- The end of a reading: what is pending is taken, and the switches are compared. -/
def conclude (state : State) : Except Fault Invocation :=
  match settle state with
  | .error fault => .error fault
  | .ok state => (checkConflicts state.taken.switches).map fun _ => state.taken

theorem parse_eq (arguments : List Bytes) :
    parse arguments = (arguments.foldlM takeArgument State.start).bind conclude := by
  rw [parse]
  cases arguments.foldlM takeArgument State.start <;> rfl

/-- A fault, and not a wish for a text about the program. -/
def Fault.Refuses : Fault → Prop
  | .version => False
  | .help _ => False
  | _ => True

/-- Whatever goes wrong is a fault. -/
def Refusing {α : Type} (outcome : Except Fault α) : Prop :=
  ∀ fault, outcome = .error fault → fault.Refuses

theorem eq_error_of_map {α β : Type} {outcome : Except Fault α} {next : α → β} {fault : Fault}
    (failed : outcome.map next = .error fault) : outcome = .error fault := by
  cases outcome with
  | error other =>
      cases failed
      rfl
  | ok a => cases failed

theorem Refusing.map {α β : Type} {outcome : Except Fault α} (refusing : Refusing outcome)
    (next : α → β) : Refusing (outcome.map next) := by
  intro fault failed
  exact refusing fault (eq_error_of_map failed)

theorem refusing_decode (value : Bytes) : Refusing (decode value) := by
  intro fault undecodable
  unfold decode at undecodable
  split at undecodable <;> cases undecodable
  trivial

theorem refusing_pathValue (flag : ValueFlag) (value : Bytes) :
    Refusing (pathValue flag value) := by
  intro fault empty
  unfold pathValue at empty
  split at empty <;> cases empty
  trivial

theorem refusing_formed {α : Type} (flag : ValueFlag) (read : Text → Except ValueFault α)
    (value : Bytes) : Refusing (formed flag read value) := by
  intro fault misfit
  unfold formed at misfit
  split at misfit
  · next undecodable =>
    cases misfit
    exact refusing_decode value fault undecodable
  · split at misfit <;> cases misfit
    trivial

theorem refusing_give (taken : Invocation) (flag : ValueFlag) (value : Bytes) :
    Refusing (give taken flag value) := by
  unfold give
  split
  · intro fault again
    cases again
    trivial
  · cases flag with
    | cacheDir => exact (refusing_pathValue _ value).map _
    | clientName => exact (refusing_decode value).map _
    | clientVersion => exact (refusing_decode value).map _
    | timeout => exact (refusing_formed _ _ value).map _
    | retries => exact (refusing_formed _ _ value).map _
    | retryBackoff => exact (refusing_formed _ _ value).map _
    | fetchBin => exact (refusing_pathValue _ value).map _
    | config => exact (refusing_pathValue _ value).map _

theorem refusing_settle (state : State) : Refusing (settle state) := by
  unfold settle
  split
  · exact nofun
  · intro fault missing
    cases missing
    trivial
  · exact (refusing_give _ _ _).map _
  · exact (refusing_decode _).map _

theorem settle_eq_ok {state next : State} (settled : settle state = .ok next) :
    next.pending = none ∧ next.tokenRead = state.tokenRead ∧ next.onlyFree = state.onlyFree := by
  have kept : ∀ {α : Type} {outcome : Except Fault α} {give : α → State},
      outcome.map give = .ok next → ∃ a, next = give a := by
    intro α outcome give mapped
    cases outcome with
    | error fault => cases mapped
    | ok a =>
        cases mapped
        exact ⟨a, rfl⟩
  unfold settle at settled
  split at settled
  · next nothing =>
    cases settled
    exact ⟨nothing, rfl, rfl⟩
  · cases settled
  · obtain ⟨taken, rfl⟩ := kept settled
    exact ⟨rfl, rfl, rfl⟩
  · obtain ⟨t, rfl⟩ := kept settled
    exact ⟨rfl, rfl, rfl⟩

theorem settle_of_none {state : State} (nothing : state.pending = none) :
    settle state = .ok state := by
  rw [settle, nothing]

theorem settle_of_settled {state next : State} (settled : settle state = .ok next) :
    settle next = .ok next :=
  settle_of_none (settle_eq_ok settled).1

/-- No flag waits for its value. -/
def State.Closed (state : State) : Prop := ∀ flag, state.pending ≠ some (.awaiting flag)

/-- What two readings have come to, if the second took early what the first has pending. -/
inductive Overtaken : Except Fault State → Except Fault State → Prop
  | same (outcome : Except Fault State) : Overtaken outcome outcome
  | refused {fault other : Fault} (refuses : fault.Refuses) (refuses' : other.Refuses) :
      Overtaken (.error fault) (.error other)
  | settled {state : State} (closed : state.Closed) : Overtaken (.ok state) (settle state)

theorem overtaken_of_eq {first second : Except Fault State} (same : second = first) :
    Overtaken first second := same ▸ .same first

/-- A refusal whatever is pending. -/
theorem overtaken_of_refuses {fault : Fault} (refuses : fault.Refuses) (state : State) :
    Overtaken (.error fault) ((settle state).bind fun _ => .error fault) := by
  cases settled : settle state with
  | error other => exact .refused refuses (refusing_settle state other settled)
  | ok next => exact .same _

/-- Where all that counts is what is pending once it is taken, it may be taken before. -/
theorem bind_settle {α : Type} {take : State → Except Fault α}
    (counts : ∀ first second, settle first = settle second → take first = take second)
    (fails : ∀ state fault, settle state = .error fault → take state = .error fault)
    (state : State) : (settle state).bind take = take state := by
  cases settled : settle state with
  | error fault => exact (fails state fault settled).symm
  | ok next => exact counts next state ((settle_of_settled settled).trans settled.symm)

theorem overtaken_takeFree (argument : Bytes) (state : State) :
    Overtaken (takeFree argument state) ((settle state).bind (takeFree argument)) := by
  cases settled : settle state with
  | error fault =>
      rw [takeFree, settled]
      split
      · exact .refused trivial (refusing_settle state fault settled)
      · exact .same _
  | ok next =>
      have room : next.tokenRead = state.tokenRead := (settle_eq_ok settled).2.1
      rw [takeFree, settled, Except.bind, takeFree, room, settle_of_settled settled]
      exact .same _

theorem bind_settle_takeFlag (long : Bool) (flag : Flag) (state : State) :
    (settle state).bind (takeFlag long flag) = takeFlag long flag state := by
  apply bind_settle
  · intro first second same
    rw [takeFlag, takeFlag, same]
  · intro state fault failed
    rw [takeFlag, failed]

theorem overtaken_takeAttached (flag : Flag) (value : Bytes) (state : State) :
    Overtaken (takeAttached flag value state) ((settle state).bind (takeAttached flag value)) := by
  cases flag with
  | valued flag =>
      apply overtaken_of_eq
      apply bind_settle
      · intro first second same
        simp only [takeAttached, same]
      · intro state fault failed
        simp only [takeAttached, failed]
  | switch switch => exact overtaken_of_refuses (by trivial) state
  | version => exact overtaken_of_refuses (by trivial) state
  | help => exact overtaken_of_refuses (by trivial) state

theorem overtaken_takeLong (body : Bytes) (state : State) :
    Overtaken (takeLong body state) ((settle state).bind (takeLong body)) := by
  unfold takeLong
  obtain ⟨name, value⟩ := cutValue body
  dsimp only
  cases (Utf8.decode? name).bind Flag.named? with
  | none => exact overtaken_of_refuses (by trivial) state
  | some flag =>
      cases value with
      | none => exact overtaken_of_eq (bind_settle_takeFlag true flag state)
      | some value => exact overtaken_takeAttached flag value state

theorem overtaken_takeShort {state : State} (closed : state.Closed) (letters : List Utf8.Piece) :
    Overtaken (takeShort state letters)
      ((settle state).bind fun next => takeShort next letters) := by
  cases letters with
  | nil =>
      have kept : ((settle state).bind fun next => takeShort next []) = settle state := by
        cases settle state <;> rfl
      rw [kept]
      exact .settled closed
  | cons piece rest =>
      cases piece with
      | broken => exact overtaken_of_refuses (by trivial) state
      | char c =>
          simp only [takeShort]
          cases Flag.short? c with
          | none => exact overtaken_of_refuses (by trivial) state
          | some flag =>
              -- The first letter takes what is pending, so the letters after it see no difference.
              apply overtaken_of_eq
              refine @bind_settle _ (fun next => match takeFlag false flag next with
                | .error fault => .error fault
                | .ok next => takeShort next rest) ?_ ?_ state
              · intro first second same
                simp only [takeFlag, same]
              · intro state fault failed
                simp only [takeFlag, failed]

theorem closed_of_settled {state next : State} (settled : settle state = .ok next) :
    next.Closed := by
  intro flag
  rw [(settle_eq_ok settled).1]
  exact nofun

theorem takeBare_of_closed {state : State} (closed : state.Closed) (argument : Bytes) :
    takeBare argument state = takeFree argument state := by
  unfold takeBare
  split
  · next flag waits => exact absurd waits (closed flag)
  · rfl

theorem bind_settle_congr {state : State} {first second : State → Except Fault State}
    (same : ∀ next, settle state = .ok next → first next = second next) :
    (settle state).bind first = (settle state).bind second := by
  cases settled : settle state with
  | error fault => rfl
  | ok next => exact same next settled

theorem settle_onlyFree (state : State) :
    settle { state with onlyFree := true } =
      (settle state).bind fun next => .ok { next with onlyFree := true } := by
  obtain ⟨taken, pending, tokenRead, onlyFree⟩ := state
  cases pending with
  | none => rfl
  | some pending =>
      cases pending with
      | awaiting flag => rfl
      | held flag value =>
          simp only [settle]
          cases give taken flag value <;> rfl
      | token value =>
          simp only [settle]
          cases decode value <;> rfl

/-- An argument where flags may stand and none waits for its value, by what it looks like. -/
def takeShaped (argument : Bytes) (state : State) : Shape → Except Fault State
  | .bare => takeFree argument state
  | .divider => .ok { state with onlyFree := true }
  | .long body => takeLong body state
  | .short body => takeShort state (Utf8.pieces none body)

theorem takeArgument_of_closed {state : State} (closed : state.Closed)
    (flags : state.onlyFree ≠ true) (argument : Bytes) :
    takeArgument state argument = takeShaped argument state (Shape.of argument) := by
  rw [takeArgument, if_neg flags]
  cases Shape.of argument with
  | bare => exact takeBare_of_closed closed argument
  | divider => rfl
  | long body => rfl
  | short body => rfl

theorem overtaken_takeShaped {state : State} (closed : state.Closed) (argument : Bytes)
    (shape : Shape) :
    Overtaken (takeShaped argument state shape)
      ((settle state).bind fun next => takeShaped argument next shape) := by
  cases shape with
  | bare => exact overtaken_takeFree argument state
  | divider =>
      have kept : ((settle state).bind fun next => takeShaped argument next .divider) =
          settle { state with onlyFree := true } := (settle_onlyFree state).symm
      rw [kept]
      exact .settled closed
  | long body => exact overtaken_takeLong body state
  | short body => exact overtaken_takeShort closed _

theorem overtaken_takeArgument {state : State} (closed : state.Closed) (argument : Bytes) :
    Overtaken (takeArgument state argument)
      ((settle state).bind fun next => takeArgument next argument) := by
  have flags : ∀ {next}, settle state = .ok next → next.onlyFree = state.onlyFree :=
    fun settled => (settle_eq_ok settled).2.2
  by_cases ended : state.onlyFree = true
  · have free : ((settle state).bind fun next => takeArgument next argument) =
        (settle state).bind (takeFree argument) := by
      apply bind_settle_congr
      intro next settled
      rw [takeArgument, flags settled, if_pos ended]
    rw [free, takeArgument, if_pos ended]
    exact overtaken_takeFree argument state
  · have shaped : ((settle state).bind fun next => takeArgument next argument) =
        (settle state).bind fun next => takeShaped argument next (Shape.of argument) := by
      apply bind_settle_congr
      intro next settled
      exact takeArgument_of_closed (closed_of_settled settled) (flags settled ▸ ended) argument
    rw [shaped, takeArgument_of_closed closed ended]
    exact overtaken_takeShaped closed argument (Shape.of argument)

theorem Overtaken.takeArgument {first second : Except Fault State}
    (overtaken : Overtaken first second) (argument : Bytes) :
    Overtaken (first.bind fun state => CommandLine.takeArgument state argument)
      (second.bind fun state => CommandLine.takeArgument state argument) := by
  cases overtaken with
  | same => exact .same _
  | refused refuses refuses' => exact .refused refuses refuses'
  | settled closed => exact overtaken_takeArgument closed argument

theorem Overtaken.foldlM {first second : Except Fault State} (overtaken : Overtaken first second)
    (arguments : List Bytes) :
    Overtaken (first.bind fun state => arguments.foldlM CommandLine.takeArgument state)
      (second.bind fun state => arguments.foldlM CommandLine.takeArgument state) := by
  induction arguments generalizing first second with
  | nil =>
      have kept : ∀ outcome : Except Fault State,
          (outcome.bind fun state => .ok state) = outcome := by
        intro outcome
        cases outcome <;> rfl
      have same := overtaken
      rw [← kept first, ← kept second] at same
      exact same
  | cons argument arguments ih =>
      have unfolded : ∀ outcome : Except Fault State,
          (outcome.bind fun state =>
            (argument :: arguments).foldlM CommandLine.takeArgument state) =
          (outcome.bind fun state => CommandLine.takeArgument state argument).bind fun state =>
            arguments.foldlM CommandLine.takeArgument state := by
        intro outcome
        cases outcome <;> rfl
      rw [unfolded first, unfolded second]
      exact ih (overtaken.takeArgument argument)

/-- At the end everything is taken, so the two readings agree unless both have failed. -/
theorem Overtaken.conclude {first second : Except Fault State}
    (overtaken : Overtaken first second) :
    first.bind CommandLine.conclude = second.bind CommandLine.conclude ∨
      ∃ fault other, first = .error fault ∧ second = .error other ∧ fault.Refuses ∧
        other.Refuses := by
  cases overtaken with
  | same => exact .inl rfl
  | refused refuses refuses' => exact .inr ⟨_, _, rfl, rfl, refuses, refuses'⟩
  | @settled state closed =>
      have kept : (settle state).bind CommandLine.conclude = CommandLine.conclude state := by
        apply bind_settle
        · intro first second same
          rw [CommandLine.conclude, CommandLine.conclude, same]
        · intro state fault failed
          rw [CommandLine.conclude, failed]
      exact .inl kept.symm

end EnvBundle.CommandLine
