import EnvBundle.Proofs.Settings.Schema

/-!
What a settings document says, field by field, and what becomes of it. A field that the document
does not name has its default.
-/
namespace EnvBundle.Settings

open RecordField (Fits Independent misfit? stated takeNamed_eq_ok_iff
  takeNamed_eq_error_iff takeListed_eq write)

/-- The fields of a fetch table. -/
def fetchSchema : List (RecordField Fetch.Options) :=
  [ ⟨"should_cache".toList, Bool, readBool, fun b options => { options with shouldCache := b },
      fun options => some options.shouldCache, fun _ _ => rfl⟩,
    ⟨"cache_dir".toList, Path, readPath, fun path options => { options with cacheDir := some path },
      Fetch.Options.cacheDir, fun _ _ => rfl⟩,
    ⟨"client_name".toList, Text, readText, fun t options => { options with clientName := some t },
      Fetch.Options.clientName, fun _ _ => rfl⟩,
    ⟨"client_version".toList, Text, readText,
      fun t options => { options with clientVersion := some t },
      Fetch.Options.clientVersion, fun _ _ => rfl⟩,
    ⟨"verbose".toList, Bool, readBool, fun b options => { options with verbose := b },
      fun options => some options.verbose, fun _ _ => rfl⟩,
    ⟨"timeout_secs".toList, Binary64, readNumber,
      fun x options => { options with timeoutSecs := x },
      fun options => some options.timeoutSecs, fun _ _ => rfl⟩,
    ⟨"retries".toList, UInt8, readByte, fun n options => { options with retries := n },
      fun options => some options.retries, fun _ _ => rfl⟩,
    ⟨"retry_backoff".toList, Binary64, readNumber,
      fun x options => { options with retryBackoff := x },
      fun options => some options.retryBackoff, fun _ _ => rfl⟩ ]

/-- The fields of a document. -/
def schema : List (RecordField Settings) :=
  [ ⟨"fetch_bin".toList, Path, readPath,
      fun path settings => { settings with fetchBin := some path },
      Settings.fetchBin, fun _ _ => rfl⟩,
    ⟨"fetch".toList, Fetch.Options, readOptions,
      fun options settings => { settings with fetch := options },
      fun settings => some settings.fetch, fun _ _ => rfl⟩ ]

theorem fetchFields_eq : fetchFields = fetchSchema.map RecordField.entry := rfl

theorem fields_eq : fields = schema.map RecordField.entry := rfl

theorem independent_fetchSchema : Independent fetchSchema := by
  constructor
  · decide
  · simp [fetchSchema]

theorem independent_schema : Independent schema := by
  constructor
  · decide
  · simp [schema]

/-- The fields that a value holds where a fetch table is wanted. -/
def fetchTable? : Toml.Value → Option Toml.Entries
  | .table _ entries => some entries
  | .array values => some ((fetchSchema.map RecordField.name).zip values)
  | .tables all =>
    some ((fetchSchema.map RecordField.name).zip (all.map fun entries => .table .header entries))
  | _ => none

/-- What a fetch table says, a missing field being absent. -/
structure Said where
  shouldCache : Option Bool
  cacheDir : Option Path
  clientName : Option Text
  clientVersion : Option Text
  verbose : Option Bool
  timeoutSecs : Option Binary64
  retries : Option UInt8
  retryBackoff : Option Binary64

def said (table : Toml.Entries) : Said where
  shouldCache := stated "should_cache".toList (fun value => (readBool value).toOption) table
  cacheDir := stated "cache_dir".toList (fun value => (readPath value).toOption) table
  clientName := stated "client_name".toList (fun value => (readText value).toOption) table
  clientVersion := stated "client_version".toList (fun value => (readText value).toOption) table
  verbose := stated "verbose".toList (fun value => (readBool value).toOption) table
  timeoutSecs := stated "timeout_secs".toList (fun value => (readNumber value).toOption) table
  retries := stated "retries".toList (fun value => (readByte value).toOption) table
  retryBackoff := stated "retry_backoff".toList (fun value => (readNumber value).toOption) table

def Said.options (said : Said) : Fetch.Options where
  shouldCache := said.shouldCache.getD false
  cacheDir := said.cacheDir
  clientName := said.clientName
  clientVersion := said.clientVersion
  verbose := said.verbose.getD false
  timeoutSecs := said.timeoutSecs.getD (Binary64.ofNat 20)
  retries := said.retries.getD 3
  retryBackoff := said.retryBackoff.getD (Binary64.ofNat 1)

theorem eq_getD_of_some_eq_or {β : Type} {value before : β} {given : Option β}
    (same : some value = given.or (some before)) : value = given.getD before := by
  rw [Option.or_some] at same
  exact Option.some.inj same

/-- A table makes the options it says. -/
theorem foldl_write_fetchSchema (table : Toml.Entries) :
    table.foldl (write fetchSchema) Fetch.Options.standard = (said table).options := by
  -- One projection for each field, in the order of the schema.
  have part : ∀ i (bound : i < fetchSchema.length), _ := fun i bound =>
    independent_fetchSchema.get_foldl_write (List.getElem_mem bound) Fetch.Options.standard table
  generalize table.foldl (write fetchSchema) Fetch.Options.standard = written at part
  have shouldCache : written.shouldCache = (said table).shouldCache.getD false :=
    eq_getD_of_some_eq_or (part 0 (by decide))
  have cacheDir : written.cacheDir = (said table).cacheDir :=
    (part 1 (by decide)).trans Option.or_none
  have clientName : written.clientName = (said table).clientName :=
    (part 2 (by decide)).trans Option.or_none
  have clientVersion : written.clientVersion = (said table).clientVersion :=
    (part 3 (by decide)).trans Option.or_none
  have verbose : written.verbose = (said table).verbose.getD false :=
    eq_getD_of_some_eq_or (part 4 (by decide))
  have timeoutSecs : written.timeoutSecs =
      (said table).timeoutSecs.getD Fetch.Options.standard.timeoutSecs :=
    eq_getD_of_some_eq_or (part 5 (by decide))
  have retries : written.retries = (said table).retries.getD 3 :=
    eq_getD_of_some_eq_or (part 6 (by decide))
  have retryBackoff : written.retryBackoff =
      (said table).retryBackoff.getD Fetch.Options.standard.retryBackoff :=
    eq_getD_of_some_eq_or (part 7 (by decide))
  -- The two numbers are uncovered by rewriting, for unification would go on and compute them.
  rw [Fetch.Options.standard] at timeoutSecs retryBackoff
  rw [Said.options, ← shouldCache, ← cacheDir, ← clientName, ← clientVersion, ← verbose,
    ← timeoutSecs, ← retries, ← retryBackoff]

theorem readOptions_of_table {value : Toml.Value} {table : Toml.Entries}
    (tabled : fetchTable? value = some table) :
    readOptions value =
      takeNamed (fetchSchema.map RecordField.entry) Fetch.Options.standard table := by
  have distinct : (fetchFields.map Prod.fst).Nodup := by
    rw [fetchFields_eq, RecordField.names_map_entry]
    exact independent_fetchSchema.distinct
  cases value with
  | table origin entries =>
      cases tabled
      rfl
  | array values =>
      cases tabled
      exact takeListed_eq distinct _ values
  | tables all =>
      cases tabled
      exact takeListed_eq distinct _ _
  | text t => cases tabled
  | integer n => cases tabled
  | real x => cases tabled
  | boolean b => cases tabled
  | datetime => cases tabled

theorem readOptions_of_no_table {value : Toml.Value} (untabled : fetchTable? value = none) :
    ∃ mismatch, readOptions value = .error mismatch := by
  cases value with
  | table origin entries => cases untabled
  | array values => cases untabled
  | tables all => cases untabled
  | text t => exact ⟨_, rfl⟩
  | integer n => exact ⟨_, rfl⟩
  | real x => exact ⟨_, rfl⟩
  | boolean b => exact ⟨_, rfl⟩
  | datetime => exact ⟨_, rfl⟩

theorem readOptions_eq_ok_iff {value : Toml.Value} {options : Fetch.Options} :
    readOptions value = .ok options ↔
      ∃ table, fetchTable? value = some table ∧ Fits fetchSchema table ∧
        options = (said table).options := by
  cases tabled : fetchTable? value with
  | none =>
      obtain ⟨mismatch, refused⟩ := readOptions_of_no_table tabled
      simp [refused]
  | some table =>
      rw [readOptions_of_table tabled, takeNamed_eq_ok_iff, foldl_write_fetchSchema]
      simp

def fetchBinOf (document : Toml.Entries) : Option Path :=
  stated "fetch_bin".toList (fun value => (readPath value).toOption) document

def fetchOf (document : Toml.Entries) : Toml.Entries :=
  (stated "fetch".toList fetchTable? document).getD []

/-- The settings that a document says. -/
def settingsOf (document : Toml.Entries) : Settings :=
  ⟨fetchBinOf document, (said (fetchOf document)).options⟩

theorem exists_table_of_fits {document : Toml.Entries} {e : Text × Toml.Value}
    (fits : Fits schema document) (inside : e ∈ document) (named : e.1 = "fetch".toList) :
    ∃ table, fetchTable? e.2 = some table ∧ Fits fetchSchema table ∧
      readOptions e.2 = .ok (said table).options := by
  have member : schema[1] ∈ schema := List.getElem_mem _
  obtain ⟨options, read⟩ :=
    RecordField.exists_read_of_fits independent_schema.distinct member fits inside named
  obtain ⟨table, tabled, fits, rfl⟩ := readOptions_eq_ok_iff.1 read
  exact ⟨table, tabled, fits, read⟩

theorem foldl_write_schema {document : Toml.Entries} (fits : Fits schema document) :
    document.foldl (write schema) standard = settingsOf document := by
  have part : ∀ i (bound : i < schema.length), _ := fun i bound =>
    independent_schema.get_foldl_write (List.getElem_mem bound) standard document
  generalize document.foldl (write schema) standard = written at part
  have fetchBin : written.fetchBin = fetchBinOf document :=
    (part 0 (by decide)).trans Option.or_none
  have given : stated "fetch".toList (fun value => (readOptions value).toOption) document =
      (stated "fetch".toList fetchTable? document).map fun table => (said table).options := by
    apply RecordField.stated_eq_map
    intro e inside named
    obtain ⟨table, tabled, _, read⟩ := exists_table_of_fits fits inside named
    rw [tabled, read]
    rfl
  have fetch : written.fetch = (said (fetchOf document)).options := by
    have last : written.fetch =
        (stated "fetch".toList (fun value => (readOptions value).toOption) document).getD
          standard.fetch := eq_getD_of_some_eq_or (part 1 (by decide))
    have defaults : standard.fetch = (said []).options := foldl_write_fetchSchema []
    rw [last, given, defaults, Option.getD_map, fetchOf]
  rw [settingsOf, ← fetchBin, ← fetch]

theorem settingsOf_nil : settingsOf [] = standard := by
  have fits : Fits schema [] := List.forall_mem_nil _
  exact (foldl_write_schema fits).symm

theorem parse_of_misfit {t : Text} {document : Toml.Entries} {mismatch : Mismatch}
    (decoded : Toml.parse? t = some document)
    (misfit : document.findSome? (misfit? schema) = some mismatch) :
    parse t = .error (.mismatch mismatch) := by
  have taken : takeNamed fields standard document = .error mismatch := by
    rw [fields_eq]
    exact takeNamed_eq_error_iff.2 misfit
  simp only [parse, decoded, taken]

theorem takeNamed_of_fits {document : Toml.Entries} (fits : Fits schema document) :
    takeNamed fields standard document = .ok (settingsOf document) := by
  rw [fields_eq, ← foldl_write_schema fits]
  exact takeNamed_eq_ok_iff.2 ⟨fits, rfl⟩

theorem parse_of_unusable {t : Text} {document : Toml.Entries} {fault : Fetch.Options.Fault}
    (decoded : Toml.parse? t = some document) (fits : Fits schema document)
    (refused : (settingsOf document).fetch.validate = .error fault) :
    parse t = .error (.unusable fault) := by
  simp only [parse, decoded, takeNamed_of_fits fits, refused]

theorem parse_of_usable {t : Text} {document : Toml.Entries}
    (decoded : Toml.parse? t = some document) (fits : Fits schema document)
    (usable : (settingsOf document).fetch.validate = .ok ()) :
    parse t = .ok (settingsOf document) := by
  simp only [parse, decoded, takeNamed_of_fits fits, usable]

/-- A document that names a field which is not there, itself or in its fetch table. -/
def NamesUnknown (document : Toml.Entries) : Prop :=
  ∃ e ∈ document, (∀ field ∈ schema, field.name ≠ e.1) ∨
    e.1 = "fetch".toList ∧ ∃ table, fetchTable? e.2 = some table ∧
      ∃ inner ∈ table, ∀ field ∈ fetchSchema, field.name ≠ inner.1

theorem not_fits_of_namesUnknown {document : Toml.Entries} (names : NamesUnknown document) :
    ¬Fits schema document := by
  intro fits
  obtain ⟨e, inside, unknown | ⟨named, table, tabled, inner, member, unknown⟩⟩ := names
  · have fit := fits e inside
    rw [RecordField.misfit?_of_unknown unknown] at fit
    cases fit
  · obtain ⟨other, tabled', fits, _⟩ := exists_table_of_fits fits inside named
    rw [tabled] at tabled'
    cases tabled'
    have fit := fits inner member
    rw [RecordField.misfit?_of_unknown unknown] at fit
    cases fit

end EnvBundle.Settings
