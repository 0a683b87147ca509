import EnvBundle.Proofs.DotEnv.Assignment
import EnvBundle.Proofs.Loader.Receiving
import EnvBundle.Proofs.World

/-!
Three layers meet in a load: what the store holds, what the environment file assigns and what is
fetched. An empty value in one layer gives way to the next one.
-/
namespace EnvBundle.Loader

open Environment (offered)
open Utf8 (encode)

/-- The assignments of the environment file, in its order. A file that is absent, unreadable or no
text has none. -/
def assignments (loader : Loader) (world : World) : List (Text × Text) :=
  match loader.dotEnv with
  | none => []
  | some path =>
    match world.readText path with
    | .ok t => DotEnv.entries t
    | .error _ => []

theorem layer_eq_ofList (loader : Loader) (world : World) :
    loader.layer world = NameMap.ofList (loader.assignments world) := by
  unfold layer assignments
  cases loader.dotEnv with
  | none => rfl
  | some path =>
      simp only [DotEnv.read, World.readOptional]
      cases found : world.exists? path with
      | false =>
          obtain ⟨fault, unread⟩ := World.readText_of_not_exists found
          rw [unread]
          rfl
      | true => cases world.readText path <;> rfl

theorem mem_layer_iff {loader : Loader} {world : World} {name value : Text} :
    (name, value) ∈ (loader.layer world).entries ↔
      DotEnv.get? (loader.assignments world) name = some value := by
  rw [NameMap.mem_entries_iff, layer_eq_ofList, NameMap.get?_ofList, DotEnv.get?]

/-- What is merged stands in the text of the environment file. -/
theorem exists_text_of_mem_layer {loader : Loader} {world : World} {e : Text × Text}
    (member : e ∈ (loader.layer world).entries) :
    ∃ path t, loader.dotEnv = some path ∧ world.readText path = .ok t ∧ e ∈ DotEnv.entries t := by
  have found : DotEnv.get? (loader.assignments world) e.1 = some e.2 := mem_layer_iff.1 member
  have assigned : e ∈ loader.assignments world := List.mem_reverse.1 (mem_of_lookup_eq_some found)
  unfold assignments at assigned
  split at assigned
  · cases assigned
  · next path file =>
    split at assigned
    · next t read => exact ⟨path, t, file, read, assigned⟩
    · cases assigned

theorem named_of_mem_layer {loader : Loader} {world : World} {e : Text × Text}
    (member : e ∈ (loader.layer world).entries) : e.1 ≠ [] ∧ '=' ∉ e.1 := by
  obtain ⟨_, _, _, _, assigned⟩ := exists_text_of_mem_layer member
  have named := DotEnv.assignable_of_mem_entries assigned
  exact ⟨named.filled, named.free⟩

/-- After the environment file has been merged each name holds what it held, unless that was
empty; then it has the last value assigned to it. -/
theorem stored?_merged {loader : Loader} {world : World} {env filled : Environment} {count : Nat}
    (merged : env.fill (loader.layer world).entries = .done filled count) (name : Text) :
    filled.stored? (encode name) =
      offered (env.stored? (encode name)) (DotEnv.get? (loader.assignments world) name) := by
  have named : ∀ e ∈ (loader.layer world).entries, '=' ∉ e.1 := fun _ member =>
    (named_of_mem_layer member).2
  rw [Environment.stored?_fill (loader.layer world).nodup_keys named merged name, lookup_eq_lookup]
  change offered _ ((loader.layer world).get? name) = _
  rw [layer_eq_ofList, NameMap.get?_ofList, DotEnv.get?]

theorem stored?_received {env after : Environment} {count : Nat} {t : Text} {bundle : Bundle}
    (parsed : Bundle.parse t = .ok bundle) (filled : env.fill bundle.entries = .done after count)
    (name : Text) :
    after.stored? (encode name) = offered (env.stored? (encode name)) (bundle.get? name) := by
  have named : ∀ e ∈ bundle.entries, '=' ∉ e.1 := fun e member =>
    (Bundle.sound_of_parse parsed e member).ne_equals
  rw [Environment.stored?_fill bundle.nodup_keys named filled name, lookup_eq_lookup]
  rfl

/-- A store keeps the token it has while it is filled. -/
theorem get?_token_of_filled {env after : Environment} {token : Text} {value : Option Text}
    (held : env.token? = some token)
    (kept : after.stored? (encode tokenVariable) =
      offered (env.stored? (encode tokenVariable)) value) :
    after.get? tokenVariable = some token := by
  obtain ⟨found, nonempty⟩ := Option.filter_eq_some_iff.1 held
  have stored : ∀ store : Environment, store.raw? tokenVariable =
      store.stored? (encode tokenVariable) :=
    fun store => store.raw?_eq_stored? (by decide) (by decide)
  rw [Environment.get?_eq_raw?, stored] at found ⊢
  obtain ⟨bytes, same, decoded⟩ := Option.bind_eq_some_iff.1 found
  cases bytes with
  | nil =>
      cases decoded
      cases nonempty
  | cons b rest =>
      rw [kept, same]
      exact decoded

/-- What a load leaves under a name that held some bytes, was assigned some value in the
environment file and has some value in the bundle. -/
def settled : Option Bytes → Option Text → Option Text → Option Bytes
  | some (b :: rest), _, _ => some (b :: rest)
  | _, some (c :: rest), _ => some (encode (c :: rest))
  | _, _, some fetched => some (encode fetched)
  | _, some [], none => some []
  | held, none, none => held

theorem offered_offered (held : Option Bytes) (assigned fetched : Option Text) :
    offered (offered held assigned) fetched = settled held assigned fetched := by
  have kept : ∀ (c : Char) (rest : Text),
      offered (some (encode (c :: rest))) fetched = some (encode (c :: rest)) := by
    intro c rest
    cases bytes : encode (c :: rest) with
    | nil => cases Utf8.encode_eq_nil.1 bytes
    | cons b more => rfl
  rcases held with _ | _ | ⟨b, rest⟩
  · rcases assigned with _ | _ | ⟨c, rest⟩
    · cases fetched <;> rfl
    · cases fetched <;> rfl
    · exact kept c rest
  · rcases assigned with _ | _ | ⟨c, rest⟩
    · cases fetched <;> rfl
    · cases fetched <;> rfl
    · exact kept c rest
  · rfl

/-- Whatever its fetcher is, the loader asks it once, for the bundle of this token and with its
own options, and fills this store from the answer. -/
def Asks (loader : Loader) (world : World) (env filled : Environment) (token : Text) : Prop :=
  ∀ fetcher : Fetcher, load { loader with fetcher } world env =
    fetcher filled token loader.options >>= fun answer => pure (receive filled answer)

theorem asks_of_load {loader : Loader} {world : World} {env after : Environment}
    (loaded : (loader.load world env).value = .done after (.ok ())) :
    ∃ filled count token, env.fill (loader.layer world).entries = .done filled count ∧
      filled.token? = some token ∧ loader.Asks world env filled token := by
  cases merged : env.fill (loader.layer world).entries with
  | refused filled =>
      rw [load, merged] at loaded
      cases loaded
  | done filled count =>
      cases held : filled.token? with
      | none =>
          rw [load_of_no_token merged held] at loaded
          cases loaded
      | some token => exact ⟨filled, count, token, rfl, held, fun _ => load_of_token merged held⟩

/-- A load that succeeds settles every variable by its three layers, the empty ones giving way. A
name that is no text keeps what it has, and the token stays the one that was asked with. -/
theorem load_settles {loader : Loader} {world : World} {env after : Environment}
    (loaded : (loader.load world env).value = .done after (.ok ())) :
    ∃ filled token t bundle, loader.Asks world env filled token ∧
      (loader.fetcher filled token loader.options).value = .ok t ∧
      Bundle.parse t = .ok bundle ∧
      (∀ name : Text, after.stored? (encode name) =
        settled (env.stored? (encode name)) (DotEnv.get? (loader.assignments world) name)
          (bundle.get? name)) ∧
      (∀ name : Bytes, (∀ k : Text, encode k ≠ name) → after.stored? name = env.stored? name) ∧
      after.get? tokenVariable = some token := by
  obtain ⟨filled, count, token, merged, held, asks⟩ := asks_of_load loaded
  rw [load_of_token merged held] at loaded
  obtain ⟨t, bundle, written, answered, parsed, received⟩ := receive_eq_done_ok_iff.1 loaded
  refine ⟨filled, token, t, bundle, asks, answered, parsed, ?_, ?_, ?_⟩
  · intro name
    rw [stored?_received parsed received name, stored?_merged merged name, offered_offered]
  · intro name undecodable
    -- The names that are written are texts, in either filling.
    have first : (env.fill (loader.layer world).entries).env.stored? name = env.stored? name :=
      env.stored?_fill_of_notMem fun e _ => undecodable e.1
    have last : (filled.fill bundle.entries).env.stored? name = filled.stored? name :=
      filled.stored?_fill_of_notMem fun e _ => undecodable e.1
    rw [merged] at first
    rw [received] at last
    exact last.trans first
  · exact get?_token_of_filled held (stored?_received parsed received tokenVariable)

/-- A process without a token, with a variable that is no text and one that is empty. -/
def untokened : Environment :=
  .process (NameMap.ofList [(encode ['A'], [255]), (encode ['B'], [])])

def fileText : Text := "ENVKEY=t\nA=file\nB=\nC=file\nD=file\nD=\n".toList

def answerText : Text :=
  "\x7b\"A\":\"fetched\",\"B\":\"fetched\",\"C\":\"fetched\",\"ENVKEY\":\"u\"\x7d".toList

def layered : Loader where
  fetcher := Fetcher.fixed fun _ _ => .ok answerText
  dotEnv := some dotEnvPath

theorem load_settles_layered :
    ∃ after, (layered.load (World.holding fileText) untokened).value = .done after (.ok ()) ∧
      after.stored? (encode ['A']) = some [255] ∧
      after.stored? (encode ['B']) = some (encode "fetched".toList) ∧
      after.stored? (encode ['C']) = some (encode "file".toList) ∧
      after.stored? (encode ['D']) = some [] ∧
      after.stored? (encode ['E']) = none ∧
      after.stored? (encode tokenVariable) = some (encode ['t']) := by
  have assigned : layered.assignments (World.holding fileText) =
      [(tokenVariable, ['t']), (['A'], "file".toList), (['B'], []), (['C'], "file".toList),
        (['D'], "file".toList), (['D'], [])] := by
    have saved := World.readText_of_encoded (World.read_holding fileText dotEnvPath)
    simp only [assignments, layered, saved]
    decide
  have read : Json.object answerText =
      .ok [(['A'], "fetched".toList), (['B'], "fetched".toList), (['C'], "fetched".toList),
        (tokenVariable, ['u'])] := by decide +kernel
  have parsed := Bundle.parse_of_object read (by decide)
  obtain ⟨filled, count, merged, held⟩ : ∃ filled count,
      untokened.fill (layered.layer (World.holding fileText)).entries = .done filled count ∧
        filled.token? = some ['t'] := by
    rw [layer_eq_ofList, assigned]
    exact ⟨_, _, rfl, by decide⟩
  obtain ⟨after, received⟩ := (exists_receive_ok_iff filled).2 ⟨answerText, _, rfl, parsed⟩
  have loaded : (layered.load (World.holding fileText) untokened).value = .done after (.ok ()) := by
    rw [load_of_token merged held]
    exact received
  obtain ⟨_, _, t, bundle, _, answered, parsed', every, _, _⟩ := load_settles loaded
  cases answered
  rw [parsed] at parsed'
  cases parsed'
  rw [assigned] at every
  refine ⟨after, loaded, ?_, ?_, ?_, ?_, ?_, ?_⟩
  · exact (every ['A']).trans (by decide)
  · exact (every ['B']).trans (by decide)
  · exact (every ['C']).trans (by decide)
  · exact (every ['D']).trans (by decide)
  · exact (every ['E']).trans (by decide)
  · exact (every tokenVariable).trans (by decide)

end EnvBundle.Loader
