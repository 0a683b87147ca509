import EnvBundle.Fetch.Arguments
import EnvBundle.Proofs.CommandLine.Leading
import EnvBundle.Proofs.Fetch.Options

/-!
The command line of a fetch backend is one that the program itself follows, and it is followed back
to the token and the options that it was made of.
-/
namespace EnvBundle.Fetch

open CommandLine

variable {token : Text} {options : Options} {before after : Invocation}

theorem leads_switch_of (switch : Switch) {flag : Text} (named : flag = "--".toList ++ switch.name)
    (given : Bool) (fresh : before.has switch = false) :
    Leads (Fetch.switch flag given) before
      { before with switches := before.switches ++ if given then [switch] else [] } := by
  subst named
  cases given with
  | true => exact leads_switch fresh
  | false =>
      rw [if_neg Bool.false_ne_true, List.append_nil]
      exact leads_nil before

theorem leads_flagged (flag : ValueFlag) {value : Option Bytes}
    (plain : ∀ bytes ∈ value, Shape.of bytes = .bare)
    (given : ∀ bytes ∈ value, give before flag bytes = .ok after)
    (kept : value = none → before = after) :
    Leads (flagged ("--".toList ++ flag.name) value) before after := by
  cases value with
  | none => exact kept rfl ▸ leads_nil before
  | some bytes => exact leads_value (plain bytes rfl) (given bytes rfl)

/-- A positive number is written without a sign. -/
theorem shape_timeout (usable : options.Usable) :
    Shape.of (Utf8.encode (options.timeoutSecs.toText .plain)) = .bare := by
  obtain ⟨m, same, _⟩ := usable.timeout
  obtain ⟨c, body, written, digit⟩ := Binary64.exists_digit_toText m
  apply shape_encode
  rw [same, written, List.head?_cons]
  rintro ⟨⟩
  cases digit

theorem shape_retries (n : UInt8) : Shape.of (Utf8.encode (Text.ofNat n.toNat)) = .bare := by
  apply shape_encode
  intro dashed
  have digit := Text.isDigit_of_mem_ofNat (List.mem_of_mem_head? dashed)
  cases digit

theorem leads_timeout (usable : options.Usable) (fresh : before.timeout = none) :
    Leads [Utf8.encode "--timeout".toList, Utf8.encode (options.timeoutSecs.toText .plain)] before
      { before with timeout := some options.timeoutSecs } := by
  refine @leads_value _ _ .timeout _ (shape_timeout usable) ?_
  rw [give, isGiven, fresh, Option.isSome_none, if_neg Bool.false_ne_true, floatValue_toText]
  rfl

theorem leads_retries (n : UInt8) (fresh : before.retries = none) :
    Leads [Utf8.encode "--retries".toList, Utf8.encode (Text.ofNat n.toNat)] before
      { before with retries := some n } := by
  refine @leads_value _ _ .retries _ (shape_retries n) ?_
  rw [give, isGiven, fresh, Option.isSome_none, if_neg Bool.false_ne_true, byteValue_ofNat]
  rfl

theorem leads_retryBackoff {x : Binary64} (plain : (x.toText .plain).head? ≠ some '-')
    (fresh : before.retryBackoff = none) :
    Leads [Utf8.encode "--retryBackoff".toList, Utf8.encode (x.toText .plain)] before
      { before with retryBackoff := some x } := by
  refine @leads_value _ _ .retryBackoff _ (shape_encode plain) ?_
  rw [give, isGiven, fresh, Option.isSome_none, if_neg Bool.false_ne_true, floatValue_toText]
  rfl

theorem leads_cacheDir {dir : Option Path} (some_bytes : dir ≠ some [])
    (plain : ∀ path ∈ dir, path.head? ≠ some dash) (fresh : before.cacheDir = none) :
    Leads (flagged "--cache-dir".toList dir) before { before with cacheDir := dir } := by
  apply leads_flagged .cacheDir
  · exact fun path member => shape_eq_bare (plain path member)
  · rintro path rfl
    rw [give, isGiven, fresh, Option.isSome_none, if_neg Bool.false_ne_true, pathValue,
      if_neg fun empty => some_bytes (congrArg some empty)]
    rfl
  · rintro rfl
    rw [← fresh]

theorem leads_text (flag : ValueFlag) {value : Option Text}
    (plain : ∀ t ∈ value, t.head? ≠ some '-')
    (given : ∀ t ∈ value, give before flag (Utf8.encode t) = .ok after)
    (kept : value = none → before = after) :
    Leads (flagged ("--".toList ++ flag.name) (value.map Utf8.encode)) before after := by
  apply leads_flagged flag
  · intro bytes member
    obtain ⟨t, present, rfl⟩ := Option.map_eq_some_iff.1 member
    exact shape_encode (plain t present)
  · intro bytes member
    obtain ⟨t, present, rfl⟩ := Option.map_eq_some_iff.1 member
    exact given t present
  · exact fun nothing => kept (Option.map_eq_none_iff.1 nothing)

theorem leads_clientName {name : Option Text} (plain : ∀ t ∈ name, t.head? ≠ some '-')
    (fresh : before.clientName = none) :
    Leads (flagged "--client-name".toList (name.map Utf8.encode)) before
      { before with clientName := name } := by
  apply leads_text .clientName plain
  · rintro t rfl
    rw [give, isGiven, fresh, Option.isSome_none, if_neg Bool.false_ne_true, decode_encode]
    rfl
  · rintro rfl
    rw [← fresh]

theorem leads_clientVersion {version : Option Text} (plain : ∀ t ∈ version, t.head? ≠ some '-')
    (fresh : before.clientVersion = none) :
    Leads (flagged "--client-version".toList (version.map Utf8.encode)) before
      { before with clientVersion := version } := by
  apply leads_text .clientVersion plain
  · rintro t rfl
    rw [give, isGiven, fresh, Option.isSome_none, if_neg Bool.false_ne_true, decode_encode]
    rfl
  · rintro rfl
    rw [← fresh]

/-- The invocation that the command line of a fetch stands for. -/
def asked (token : Text) (options : Options) : Invocation where
  token := some token
  switches := (if options.shouldCache then [.cache] else []) ++
    if options.verbose then [.verbose] else []
  cacheDir := options.cacheDir
  clientName := options.clientName
  clientVersion := options.clientVersion
  timeout := some options.timeoutSecs
  retries := some options.retries
  retryBackoff := some options.retryBackoff
  fetchBin := none
  config := none

theorem cache_text : "--cache".toList = "--".toList ++ Switch.cache.name := by decide

theorem verbose_text : "--verbose".toList = "--".toList ++ Switch.verbose.name := by decide

/-- What a line of arguments can carry: no value looks like a flag, and the directory has a name. -/
structure Options.Tellable (options : Options) : Prop where
  directory : options.cacheDir ≠ some []
  cacheDir : ∀ dir ∈ options.cacheDir, dir.head? ≠ some dash
  clientName : ∀ name ∈ options.clientName, name.head? ≠ some '-'
  clientVersion : ∀ version ∈ options.clientVersion, version.head? ≠ some '-'
  retryBackoff : (options.retryBackoff.toText .plain).head? ≠ some '-'

/-- The flags after the token, read one group after the other. -/
theorem leads_asked (usable : options.Usable) (tellable : options.Tellable) :
    Leads (arguments token options).tail { Invocation.empty with token := some token }
      (asked token options) := by
  have numbers : Leads _ { Invocation.empty with token := some token } _ :=
    ((leads_timeout usable rfl).append (leads_retries options.retries rfl)).append
      (leads_retryBackoff tellable.retryBackoff rfl)
  have cached := numbers.append (leads_switch_of .cache cache_text options.shouldCache rfl)
  have stored := cached.append (leads_cacheDir tellable.directory tellable.cacheDir rfl)
  have named := (stored.append (leads_clientName tellable.clientName rfl)).append
    (leads_clientVersion tellable.clientVersion rfl)
  have fresh : ∀ given : Bool,
      ([] ++ if given then [Switch.cache] else []).contains Switch.verbose = false := by
    intro given
    cases given <;> rfl
  exact named.append
    (leads_switch_of .verbose verbose_text options.verbose (fresh options.shouldCache))

theorem checkConflicts_asked : checkConflicts (asked token options).switches = .ok () := by
  unfold asked
  cases options.shouldCache <;> cases options.verbose <;> rfl

theorem parse_arguments (plain : token.head? ≠ some '-') (usable : options.Usable)
    (tellable : options.Tellable) : parse (arguments token options) = .ok (asked token options) :=
  parse_eq_ok plain (leads_asked usable tellable) checkConflicts_asked

theorem has_asked (switch : Switch) :
    (asked token options).has switch =
      (options.shouldCache && switch == .cache || options.verbose && switch == .verbose) := by
  unfold asked
  cases options.shouldCache <;> cases options.verbose <;> cases switch <;> rfl

/-- Over the standard options, an invocation with all that a line can say has just those options. -/
theorem fetchOptions_asked (name : options.clientName.isSome = true)
    (version : options.clientVersion.isSome = true) :
    (asked token options).fetchOptions Options.standard = options := by
  have named : ∀ {α : Type} {x : Option α} (y z : Option α), x.isSome = true →
      (x.or y).or z = x := by
    intro α x y z given
    obtain ⟨a, rfl⟩ := Option.isSome_iff_exists.1 given
    rfl
  have cached : (asked token options).has .cache = options.shouldCache := by
    rw [has_asked]
    simp
  have verbose : (asked token options).has .verbose = options.verbose := by
    rw [has_asked]
    simp
  rw [Invocation.fetchOptions, cached, verbose, asked, named _ _ name, named _ _ version,
    Option.getD_some, Option.getD_some, Option.getD_some]
  dsimp only [Options.standard]
  rw [Option.or_none, Bool.false_or, Bool.false_or]

/-- The program follows the command line of its own backend. It finds the token, no mode of its own,
and the very options. Left out are a token and values that look like flags, an empty directory, and
a client without a name or a version. -/
theorem arguments_are_followed_back (plain : token.head? ≠ some '-')
    (valid : options.validate = .ok ()) (name : options.clientName.isSome = true)
    (version : options.clientVersion.isSome = true) (tellable : options.Tellable) :
    ∃ invocation, parse (arguments token options) = .ok invocation ∧
      invocation.token = some token ∧
      (∀ switch, invocation.has switch = true → switch = .cache ∨ switch = .verbose) ∧
      invocation.fetchBin = none ∧ invocation.config = none ∧
      invocation.fetchOptions Options.standard = options := by
  have usable := Options.validate_eq_ok_iff.1 valid
  refine ⟨asked token options, parse_arguments plain usable tellable, rfl, ?_, rfl, rfl,
    fetchOptions_asked name version⟩
  intro switch given
  rw [has_asked, Bool.or_eq_true, Bool.and_eq_true, Bool.and_eq_true, beq_iff_eq,
    beq_iff_eq] at given
  exact given.imp And.right And.right

theorem arguments_are_followed_back_deploy :
    let options : Options :=
      { Options.standard with
        shouldCache := true
        cacheDir := some (Utf8.encode "/tmp/cache".toList)
        clientName := some "deploy".toList
        clientVersion := some []
        verbose := true
        timeoutSecs := Binary64.ofDecimal false 25 (-1)
        retryBackoff := Binary64.ofDecimal false 1 (-1) }
    options.validate = .ok () ∧ options.Tellable ∧
      ∃ invocation, parse (arguments "token".toList options) = .ok invocation ∧
        invocation.token = some "token".toList ∧
        (∀ switch, invocation.has switch = true → switch = .cache ∨ switch = .verbose) ∧
        invocation.fetchBin = none ∧ invocation.config = none ∧
        invocation.fetchOptions Options.standard = options := by
  intro options
  have valid : options.validate = .ok () := by decide +kernel
  have tellable : options.Tellable := by
    constructor
    · decide
    · decide
    · decide
    · decide
    · decide +kernel
  exact ⟨valid, tellable, arguments_are_followed_back (by decide) valid rfl rfl tellable⟩

end EnvBundle.Fetch
