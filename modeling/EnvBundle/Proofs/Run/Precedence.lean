import EnvBundle.Proofs.Run.Stages

/-!
What a run is resolved to. The command line comes before the settings file, and the file before the
defaults.
-/
namespace EnvBundle.Run

open Settings (NamesUnknown Provides Said Selects SelectsFile Source Spoils fetchBinOf fetchOf said
  settingsOf)

variable {invocation : Invocation} {world : World} {env : Environment}

theorem settles_iff_provides {source : Source}
    (selects : Selects world env invocation.config source) {settings : Settings} :
    Settles invocation world env settings ↔
      ∃ document, Provides world source document ∧ settings = settingsOf document := by
  constructor
  · intro settled
    cases settled with
    | standard unchosen =>
        cases selects.unique unchosen
        exact ⟨[], .builtIn, Settings.settingsOf_nil.symm⟩
    | @file path document chosen documents =>
        obtain ⟨other, selects', kept⟩ := chosen
        cases selects.unique selects'
        exact ⟨document, .file kept documents, rfl⟩
  · rintro ⟨document, provides, rfl⟩
    cases provides with
    | builtIn =>
        rw [Settings.settingsOf_nil]
        exact .standard selects
    | file kept documents => exact .file ⟨source, selects, kept⟩ documents

theorem value_resolve_eq_settings_iff {fault : Settings.Fault} :
    (Context.resolve invocation world env).value = .error (.settings fault) ↔
      ∃ path, SelectsFile world env invocation.config path ∧ Spoils world path fault := by
  constructor
  · intro refused
    cases discovered : (Settings.discover world env invocation.config).value with
    | error other =>
        rw [Context.resolve, Traced.value_bind, discovered] at refused
        cases refused
        exact value_discover_eq_error_iff.1 discovered
    | ok settings =>
        have settled := value_discover_eq_ok_iff.1 discovered
        cases usable : (invocation.fetchOptions settings.fetch).validate with
        | error other =>
            rw [value_resolve_of_unusable settled usable] at refused
            cases refused
        | ok _ =>
            have resolved := value_resolve_eq_ok_iff.2 ⟨settings, settled, usable, rfl⟩
            cases resolved.symm.trans refused
  · rintro ⟨path, chosen, spoils⟩
    exact value_resolve_of_spoils chosen spoils

/-- A resolved run, field by field: what the command line gives comes before what the file says, and
that comes before the default. -/
structure Layered (invocation : Invocation) (world : World) (env : Environment)
    (program : Option Path) (file : Said) (context : Context) : Prop where
  timeoutSecs : context.options.timeoutSecs =
    invocation.timeout.getD (file.timeoutSecs.getD (Binary64.ofNat 20))
  retries : context.options.retries = invocation.retries.getD (file.retries.getD 3)
  retryBackoff : context.options.retryBackoff =
    invocation.retryBackoff.getD (file.retryBackoff.getD (Binary64.ofNat 1))
  cacheDir : context.options.cacheDir = invocation.cacheDir.or file.cacheDir
  clientName : context.options.clientName =
    some (invocation.clientName.getD (file.clientName.getD "envkey-source".toList))
  clientVersion : context.options.clientVersion =
    some (invocation.clientVersion.getD (file.clientVersion.getD "0.1.0".toList))
  shouldCache : context.options.shouldCache =
    (file.shouldCache.getD false || invocation.has .cache)
  verbose : context.options.verbose = (file.verbose.getD false || invocation.has .verbose)
  fetchBin : context.fetchBin = invocation.fetchBin.or program
  token : context.token = token? invocation world env

theorem Layered.unique {program : Option Path} {file : Said} {first second : Context}
    (left : Layered invocation world env program file first)
    (right : Layered invocation world env program file second) : first = second := by
  obtain ⟨token, ⟨⟩, fetchBin⟩ := first
  obtain ⟨token', ⟨⟩, fetchBin'⟩ := second
  rw [Context.mk.injEq, Fetch.Options.mk.injEq]
  exact ⟨left.token.trans right.token.symm,
    ⟨left.shouldCache.trans right.shouldCache.symm, left.cacheDir.trans right.cacheDir.symm,
      left.clientName.trans right.clientName.symm,
      left.clientVersion.trans right.clientVersion.symm, left.verbose.trans right.verbose.symm,
      left.timeoutSecs.trans right.timeoutSecs.symm, left.retries.trans right.retries.symm,
      left.retryBackoff.trans right.retryBackoff.symm⟩,
    left.fetchBin.trans right.fetchBin.symm⟩

theorem or_or_some {α : Type} (first second : Option α) (last : α) :
    (first.or second).or (some last) = some (first.getD (second.getD last)) := by
  cases first with
  | some a => rfl
  | none => cases second <;> rfl

/-- What the command line does to the settings of a document. -/
theorem layered_fetchOptions (invocation : Invocation) (world : World) (env : Environment)
    (document : Toml.Entries) :
    Layered invocation world env (fetchBinOf document) (said (fetchOf document))
      ⟨token? invocation world env, invocation.fetchOptions (settingsOf document).fetch,
        invocation.fetchBin.or (settingsOf document).fetchBin⟩ where
  timeoutSecs := rfl
  retries := rfl
  retryBackoff := rfl
  cacheDir := rfl
  clientName := or_or_some _ _ _
  clientVersion := or_or_some _ _ _
  shouldCache := rfl
  verbose := rfl
  fetchBin := rfl
  token := rfl

/-- Exactly one source of settings counts. If its file cannot be read, is malformed, names an
unknown field or has options that cannot be used, the run is not resolved, whatever other files
there are. A run that is resolved has from the command line, the file and the defaults what
`Layered` says, and its options can be used. -/
theorem settings_follow_precedence (invocation : Invocation) (world : World) (env : Environment) :
    let resolved := (Context.resolve invocation world env).value
    ∃ source, Selects world env invocation.config source ∧
      (∀ other, Selects world env invocation.config other → other = source) ∧
      (∀ fault, resolved = .error (.settings fault) ↔
        ∃ path, source.path? = some path ∧ Spoils world path fault) ∧
      (∀ path cause, source.path? = some path → world.read path = .error cause →
        resolved = .error (.settings (.unreadable cause))) ∧
      (∀ path t document, source.path? = some path → world.readText path = .ok t →
        Toml.parse? t = some document → NamesUnknown document →
          ∃ mismatch, resolved = .error (.settings (.mismatch mismatch))) ∧
      ∀ context, resolved = .ok context ↔
        ∃ document, Provides world source document ∧
          Layered invocation world env (fetchBinOf document) (said (fetchOf document)) context ∧
          context.options.validate = .ok () := by
  intro resolved
  obtain ⟨source, selects⟩ := Settings.exists_selects invocation.config world env
  have refused : ∀ fault, resolved = .error (.settings fault) ↔
      ∃ path, source.path? = some path ∧ Spoils world path fault := by
    intro fault
    rw [← selects.file?_eq]
    simp only [Settings.file?_eq_some_iff]
    exact value_resolve_eq_settings_iff
  refine ⟨source, selects, fun other also => also.unique selects, refused, ?_, ?_, ?_⟩
  · intro path cause kept unread
    exact (refused _).2 ⟨path, kept, .unreadable (World.readText_of_refused unread)⟩
  · intro path t document kept readable decoded names
    have misfits := Settings.not_fits_of_namesUnknown names
    rw [Settings.RecordField.fits_iff] at misfits
    obtain ⟨mismatch, misfit⟩ := Option.ne_none_iff_exists'.1 misfits
    exact ⟨mismatch, (refused _).2 ⟨path, kept, .misfit readable decoded misfit⟩⟩
  · intro context
    rw [value_resolve_eq_ok_iff]
    constructor
    · rintro ⟨settings, settled, usable, rfl⟩
      obtain ⟨document, provides, rfl⟩ := (settles_iff_provides selects).1 settled
      exact ⟨document, provides, layered_fetchOptions invocation world env document, usable⟩
    · rintro ⟨document, provides, layered, usable⟩
      have same := layered.unique (layered_fetchOptions invocation world env document)
      subst same
      exact ⟨settingsOf document, (settles_iff_provides selects).2 ⟨document, provides, rfl⟩,
        usable, rfl⟩

def mixedText : Text := "[fetch]\nretries = 2\nclient_name = \"deploy\"\n".toList

def mixed : Invocation := { Invocation.empty with config := some [99], retries := some 7 }

/-- One field from each layer. With the same files and no flag the one in the home directory is
chosen, and as it cannot be read, there are no settings at all. -/
theorem settings_follow_precedence_mixed :
    (∃ document context, Provides (World.holding mixedText) (.flag [99]) document ∧
      (Context.resolve mixed (World.holding mixedText) (.memory NameMap.empty)).value =
        .ok context ∧
      context.options.retries = 7 ∧ context.options.clientName = some "deploy".toList ∧
      context.options.timeoutSecs = Binary64.ofNat 20) ∧
    (Context.resolve Invocation.empty (sealed (World.holding mixedText))
      (.memory NameMap.empty)).value = .error (.settings (.unreadable .denied)) := by
  constructor
  · have shown : ((Context.resolve mixed (World.holding mixedText)
        (.memory NameMap.empty)).value.toOption.map fun context =>
          (context.options.clientName, context.options.timeoutSecs)) =
        some (some "deploy".toList, Binary64.ofNat 20) := by decide +kernel
    obtain ⟨source, _, only, _, _, _, resolves⟩ :=
      settings_follow_precedence mixed (World.holding mixedText) (.memory NameMap.empty)
    have flagged : Source.flag [99] = source := only _ (.flag rfl)
    subst flagged
    cases resolved : (Context.resolve mixed (World.holding mixedText)
        (.memory NameMap.empty)).value with
    | error fault =>
        rw [resolved] at shown
        cases shown
    | ok context =>
        rw [resolved] at shown
        obtain ⟨document, provides, layered, _⟩ := (resolves context).1 resolved
        obtain ⟨clientName, timeoutSecs⟩ := Prod.mk.inj (Option.some.inj shown)
        exact ⟨document, context, provides, rfl, layered.retries, clientName, timeoutSecs⟩
  · obtain ⟨source, _, only, _, unread, _⟩ := settings_follow_precedence Invocation.empty
      (sealed (World.holding mixedText)) (.memory NameMap.empty)
    have chosen : Source.home (Utf8.encode "/h/.envkey/config.toml".toList) = source :=
      only _ (selects_sealed _ rfl rfl)
    subst chosen
    exact unread _ _ rfl read_sealed

end EnvBundle.Run
