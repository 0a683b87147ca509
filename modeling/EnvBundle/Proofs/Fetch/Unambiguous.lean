import EnvBundle.Fetch.Arguments
import EnvBundle.Proofs.Binary64.RoundTrip
import EnvBundle.Proofs.Text.Utf8

/-!
The command line of a fetch can be told from that of any other. Values may be empty and may look
like flags; but whoever reads from left to right knows at each place whether a flag or a value has
to stand there, and which flags are still to come.
-/
namespace EnvBundle.Fetch

/-- Arguments that are at an end or go on with one of these flags. -/
def Begins (flags : List Text) (args : List Bytes) : Prop :=
  ∀ arg ∈ args.head?, ∃ flag ∈ flags, arg = Utf8.encode flag

section

variable {flag : Text} {flags : List Text} {rest tail part part' : List Bytes} {count : Nat}

theorem begins_nil : Begins flags [] := nofun

/-- What stands for an option that need not be given: nothing, or a flag and so many values. -/
def Stands (flag : Text) (count : Nat) (part : List Bytes) : Prop :=
  part = [] ∨ ∃ values, values.length = count ∧ part = Utf8.encode flag :: values

theorem stands_switch (flag : Text) (given : Bool) : Stands flag 0 (switch flag given) := by
  cases given with
  | false => exact .inl rfl
  | true => exact .inr ⟨[], rfl, rfl⟩

theorem stands_flagged (flag : Text) (value : Option Bytes) :
    Stands flag 1 (flagged flag value) := by
  cases value with
  | none => exact .inl rfl
  | some bytes => exact .inr ⟨[bytes], rfl, rfl⟩

theorem switch_inj {given given' : Bool} (same : switch flag given = switch flag given') :
    given = given' := by
  cases given with
  | false =>
      cases given' with
      | false => rfl
      | true => cases same
  | true =>
      cases given' with
      | false => cases same
      | true => rfl

theorem flagged_inj {value value' : Option Bytes}
    (same : flagged flag value = flagged flag value') : value = value' := by
  cases value with
  | none =>
      cases value' with
      | none => rfl
      | some bytes => cases same
  | some bytes =>
      cases value' with
      | none => cases same
      | some bytes' => exact congrArg some (List.cons.inj (List.cons.inj same).2).1

theorem Begins.append (begins : Begins flags rest) (stands : Stands flag count part) :
    Begins (flag :: flags) (part ++ rest) := by
  intro arg first
  rcases stands with rfl | ⟨values, _, rfl⟩
  · obtain ⟨next, member, same⟩ := begins arg first
    exact ⟨next, List.mem_cons_of_mem flag member, same⟩
  · exact ⟨flag, List.mem_cons_self, (Option.some.inj first).symm⟩

/-- A flag that is not among those to come does not come. -/
theorem Begins.ne_cons (begins : Begins flags rest) (fresh : flag ∉ flags) (args : List Bytes) :
    rest ≠ Utf8.encode flag :: args := by
  rintro rfl
  obtain ⟨next, member, same⟩ := begins _ rfl
  exact fresh (Utf8.encode_injective same ▸ member)

/-- Where the flag can come only here, what follows shows whether it is there, and the count of its
values where they end. -/
theorem Stands.append_inj (stands : Stands flag count part) (stands' : Stands flag count part')
    (begins : Begins flags rest) (begins' : Begins flags tail) (fresh : flag ∉ flags)
    (same : part ++ rest = part' ++ tail) : part = part' ∧ rest = tail := by
  rcases stands with rfl | ⟨values, counted, rfl⟩
  · rcases stands' with rfl | ⟨values', _, rfl⟩
    · exact ⟨rfl, same⟩
    · exact absurd same (begins.ne_cons fresh (values' ++ tail))
  · rcases stands' with rfl | ⟨values', counted', rfl⟩
    · exact absurd same.symm (begins'.ne_cons fresh (values ++ rest))
    · apply List.append_inj same
      rw [List.length_cons, List.length_cons, counted, counted']

end

/-- The arguments that are not always there. -/
def furtherArguments (options : Options) : List Bytes :=
  switch "--cache".toList options.shouldCache ++
    (flagged "--cache-dir".toList options.cacheDir ++
      (flagged "--client-name".toList (options.clientName.map Utf8.encode) ++
        (flagged "--client-version".toList (options.clientVersion.map Utf8.encode) ++
          (switch "--verbose".toList options.verbose ++ []))))

theorem arguments_eq (token : Text) (options : Options) :
    arguments token options =
      Utf8.encode token ::
        Utf8.encode "--timeout".toList :: Utf8.encode (options.timeoutSecs.toText .plain) ::
        Utf8.encode "--retries".toList :: Utf8.encode (Text.ofNat options.retries.toNat) ::
        Utf8.encode "--retryBackoff".toList :: Utf8.encode (options.retryBackoff.toText .plain) ::
        furtherArguments options := by
  simp only [arguments, furtherArguments, List.append_assoc, List.cons_append, List.nil_append,
    List.append_nil]

theorem furtherArguments_inj {options options' : Options}
    (same : furtherArguments options = furtherArguments options') :
    options.shouldCache = options'.shouldCache ∧ options.cacheDir = options'.cacheDir ∧
      options.clientName = options'.clientName ∧ options.clientVersion = options'.clientVersion ∧
      options.verbose = options'.verbose := by
  -- Which flags can follow each of the first four parts, whatever the options are.
  have verbose := fun o : Options =>
    (@begins_nil []).append (stands_switch "--verbose".toList o.verbose)
  have version := fun o : Options =>
    (verbose o).append (stands_flagged "--client-version".toList (o.clientVersion.map Utf8.encode))
  have name := fun o : Options =>
    (version o).append (stands_flagged "--client-name".toList (o.clientName.map Utf8.encode))
  have dir := fun o : Options => (name o).append (stands_flagged "--cache-dir".toList o.cacheDir)
  obtain ⟨caches, same⟩ := (stands_switch _ _).append_inj (stands_switch _ _) (dir options)
    (dir options') (by decide) same
  obtain ⟨dirs, same⟩ := (stands_flagged _ _).append_inj (stands_flagged _ _) (name options)
    (name options') (by decide) same
  obtain ⟨names, same⟩ := (stands_flagged _ _).append_inj (stands_flagged _ _) (version options)
    (version options') (by decide) same
  obtain ⟨versions, same⟩ := (stands_flagged _ _).append_inj (stands_flagged _ _) (verbose options)
    (verbose options') (by decide) same
  rw [List.append_nil, List.append_nil] at same
  exact ⟨switch_inj caches, flagged_inj dirs,
    Option.map_injective Utf8.encode_injective (flagged_inj names),
    Option.map_injective Utf8.encode_injective (flagged_inj versions), switch_inj same⟩

/-- No two tokens, and no two sets of options, have the same command line: what a program is told
can always be traced to the token and to each of the options, however they are spelled. -/
theorem arguments_eq_iff {token token' : Text} {options options' : Options} :
    arguments token options = arguments token' options' ↔ token = token' ∧ options = options' := by
  constructor
  · intro same
    rw [arguments_eq, arguments_eq] at same
    obtain ⟨tokens, same⟩ := List.cons.inj same
    obtain ⟨timeouts, same⟩ := List.cons.inj (List.cons.inj same).2
    obtain ⟨retries, same⟩ := List.cons.inj (List.cons.inj same).2
    obtain ⟨backoffs, same⟩ := List.cons.inj (List.cons.inj same).2
    obtain ⟨caches, dirs, names, versions, verboses⟩ := furtherArguments_inj same
    have timeouts' := Binary64.toText_injective (Utf8.encode_injective timeouts)
    have retries' := UInt8.toNat.inj (Text.ofNat_injective (Utf8.encode_injective retries))
    have backoffs' := Binary64.toText_injective (Utf8.encode_injective backoffs)
    refine ⟨Utf8.encode_injective tokens, ?_⟩
    cases options
    cases options'
    congr
  · rintro ⟨rfl, rfl⟩
    rfl

end EnvBundle.Fetch
