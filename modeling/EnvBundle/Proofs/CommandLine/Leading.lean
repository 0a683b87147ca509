import EnvBundle.Proofs.CommandLine.Settling
import EnvBundle.Proofs.CommandLine.Value

/-!
What a line of flags makes of an invocation. Each flag, with its value if it has one, leads from one
invocation to the next; the last value may still be pending, so an invocation stands for a state
once that is taken.
-/
namespace EnvBundle.CommandLine

/-- The flag as an argument of its own. -/
def Flag.argument (flag : Flag) : Bytes := Utf8.encode ("--".toList ++ flag.name)

theorem Flag.mem_all (flag : Flag) : flag ∈ Flag.all := by
  cases flag with
  | switch flag => cases flag <;> decide
  | valued flag => cases flag <;> decide
  | version => decide
  | help => decide

theorem shape_argument (flag : Flag) : Shape.of flag.argument = .long (Utf8.encode flag.name) := by
  have each : ∀ flag ∈ Flag.all, Shape.of flag.argument = .long (Utf8.encode flag.name) := by decide
  exact each flag flag.mem_all

theorem cutValue_name (flag : Flag) :
    cutValue (Utf8.encode flag.name) = (Utf8.encode flag.name, none) := by
  have each : ∀ flag ∈ Flag.all,
      cutValue (Utf8.encode flag.name) = (Utf8.encode flag.name, none) := by decide
  exact each flag flag.mem_all

theorem named?_name (flag : Flag) : Flag.named? flag.name = some flag := by
  have each : ∀ flag ∈ Flag.all, Flag.named? flag.name = some flag := by decide
  exact each flag flag.mem_all

theorem takeArgument_flag {state : State} (flags : state.onlyFree = false) (flag : Flag) :
    takeArgument state flag.argument = takeFlag true flag state := by
  rw [takeArgument, flags, if_neg Bool.false_ne_true, shape_argument]
  dsimp only
  rw [takeLong, cutValue_name]
  dsimp only
  rw [Utf8.decode?_encode, Option.bind_some, named?_name]

/-- What does not begin with a dash is no flag. -/
theorem shape_eq_bare {argument : Bytes} (plain : argument.head? ≠ some dash) :
    Shape.of argument = .bare := by
  have none : Split.after? [dash] argument = none := by
    cases after : Split.after? [dash] argument with
    | none => rfl
    | some body =>
        rw [Split.after?_eq_some after] at plain
        exact absurd rfl plain
  rw [Shape.of, none]

theorem head?_encode_ne {t : Text} (plain : t.head? ≠ some '-') :
    (Utf8.encode t).head? ≠ some dash := by
  intro dashed
  obtain ⟨rest, whole⟩ := List.head?_eq_some_iff.1 dashed
  have first : Utf8.pieces none (dash :: rest) = .char '-' :: Utf8.pieces none rest := rfl
  have read := Utf8.pieces_encode t
  rw [whole, first] at read
  obtain ⟨c, more, rfl, same, _⟩ := List.map_eq_cons_iff.1 read.symm
  exact plain (congrArg some (Utf8.Piece.char.inj same))

theorem shape_encode {t : Text} (plain : t.head? ≠ some '-') : Shape.of (Utf8.encode t) = .bare :=
  shape_eq_bare (head?_encode_ne plain)

theorem settle_of_held {state : State} {flag : ValueFlag} {value : Bytes} {taken : Invocation}
    (held : state.pending = some (.held flag value))
    (given : give state.taken flag value = .ok taken) :
    settle state = .ok { state with taken := taken, pending := none } := by
  rw [settle, held]
  dsimp only
  rw [given]
  rfl

theorem settle_of_token {state : State} {t : Text}
    (read : state.pending = some (.token (Utf8.encode t))) :
    settle state =
      .ok { state with taken := { state.taken with token := some t }, pending := none } := by
  rw [settle, read]
  dsimp only
  rw [decode_encode]
  rfl

/-- With what is pending the state is this invocation, and flags may follow. -/
structure State.Stands (state : State) (taken : Invocation) : Prop where
  flags : state.onlyFree = false
  settles : ∃ next, settle state = .ok next ∧ next.taken = taken

/-- Wherever these arguments are read, they make the one invocation into the other. -/
def Leads (arguments : List Bytes) (before after : Invocation) : Prop :=
  ∀ state : State, state.Stands before →
    ∃ next, arguments.foldlM takeArgument state = .ok next ∧ next.Stands after

variable {before after last : Invocation}

theorem leads_nil (taken : Invocation) : Leads [] taken taken :=
  fun state stands => ⟨state, rfl, stands⟩

theorem Leads.append {first second : List Bytes} (leads : Leads first before after)
    (leads' : Leads second after last) : Leads (first ++ second) before last := by
  intro state stands
  obtain ⟨middle, read, stands⟩ := leads state stands
  obtain ⟨next, read', stands⟩ := leads' middle stands
  refine ⟨next, ?_, stands⟩
  rw [List.foldlM_append, read]
  exact read'

theorem leads_switch {switch : Switch} (fresh : before.has switch = false) :
    Leads [(Flag.switch switch).argument] before
      { before with switches := before.switches ++ [switch] } := by
  rintro state ⟨flags, next, settled, rfl⟩
  obtain ⟨nothing, _, same⟩ := settle_eq_ok settled
  have added : takeArgument state (Flag.switch switch).argument =
      .ok { next with
        taken := { next.taken with switches := next.taken.switches ++ [switch] } } := by
    rw [takeArgument_flag flags, takeFlag, settled]
    dsimp only
    rw [addSwitch, fresh, if_neg Bool.false_ne_true]
  rw [List.foldlM_cons, added]
  exact ⟨_, rfl, same.trans flags, _, settle_of_none nothing, rfl⟩

/-- A flag takes the argument after it as its value if that does not look like a flag. -/
theorem leads_value {flag : ValueFlag} {value : Bytes} (plain : Shape.of value = .bare)
    (given : give before flag value = .ok after) :
    Leads [(Flag.valued flag).argument, value] before after := by
  rintro state ⟨flags, next, settled, rfl⟩
  obtain ⟨_, _, same⟩ := settle_eq_ok settled
  have awaiting : takeArgument state (Flag.valued flag).argument =
      .ok { next with pending := some (.awaiting flag) } := by
    rw [takeArgument_flag flags, takeFlag, settled]
  have held : takeArgument { next with pending := some (.awaiting flag) } value =
      .ok { next with pending := some (.held flag value) } := by
    rw [takeArgument, same, flags, if_neg Bool.false_ne_true, plain]
    rfl
  rw [List.foldlM_cons, awaiting]
  refine ⟨{ next with pending := some (.held flag value) },
    congrArg (· >>= fun state => pure state) held, same.trans flags, _,
    settle_of_held rfl given, rfl⟩

/-- A line that begins with a free argument is read as the invocation that its flags lead to. -/
theorem parse_eq_ok {token : Text} {arguments : List Bytes} (plain : token.head? ≠ some '-')
    (leads : Leads arguments { Invocation.empty with token := some token } after)
    (agree : checkConflicts after.switches = .ok ()) :
    parse (Utf8.encode token :: arguments) = .ok after := by
  have free : takeArgument State.start (Utf8.encode token) =
      .ok ⟨Invocation.empty, some (.token (Utf8.encode token)), true, false⟩ := by
    rw [takeArgument, State.start, if_neg Bool.false_ne_true, shape_encode plain]
    rfl
  have stands : State.Stands ⟨Invocation.empty, some (.token (Utf8.encode token)), true, false⟩
      { Invocation.empty with token := some token } :=
    ⟨rfl, _, settle_of_token rfl, rfl⟩
  obtain ⟨state, read, _, next, settled, taken⟩ := leads _ stands
  rw [parse_eq, List.foldlM_cons, free]
  change (arguments.foldlM takeArgument _).bind conclude = _
  rw [read]
  change conclude state = _
  rw [conclude, settled]
  dsimp only
  rw [taken, agree]
  rfl

end EnvBundle.CommandLine
