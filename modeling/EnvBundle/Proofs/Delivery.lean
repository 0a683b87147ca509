import EnvBundle.Fetcher
import EnvBundle.Proofs.Loader.Receiving
import EnvBundle.Proofs.Shell.Standard
import EnvBundle.Shell.Source

/-!
A bundle reaches a program in two ways: a load fills the program's own store, or a shell evaluates
the text written for it. Both succeed on the same answers and make the same writes.
-/
namespace EnvBundle

namespace Shell

theorem value_source (fetcher : Fetcher) (env : Environment) (token : Text) (overwrite : Bool)
    (options : Fetch.Options) (format : Format) :
    (source fetcher env token overwrite options format).value =
      (present env overwrite options format (fetcher env token options).value).value := rfl

theorem value_present_of_parse (env : Environment) (overwrite : Bool) (options : Fetch.Options)
    (format : Format) {t : Text} {bundle : Bundle} (parsed : Bundle.parse t = .ok bundle) :
    (present env overwrite options format (.ok t)).value =
      render (selected env overwrite bundle) format := by
  simp only [present, parsed]

theorem value_present_of_unreadable (env : Environment) (overwrite : Bool)
    (options : Fetch.Options) (format : Format) {answer : Except Fetch.Fault Text}
    (unreadable : ¬∃ t bundle, answer = .ok t ∧ Bundle.parse t = .ok bundle) :
    (present env overwrite options format answer).value = failureText := by
  cases answer with
  | error fault => rfl
  | ok t =>
      cases parsed : Bundle.parse t with
      | error fault => simp only [present, parsed]
      | ok bundle => exact absurd ⟨t, bundle, rfl, parsed⟩ unreadable

/-- The variables that a text leaves to be written are those that a load writes. -/
theorem selected_eq_writes (env : Environment) {t : Text} {bundle : Bundle}
    (parsed : Bundle.parse t = .ok bundle) :
    selected env false bundle = env.writes bundle.entries :=
  (env.writes_eq_filter bundle.nodup_keys (Bundle.settable_of_parse parsed)).symm

theorem assignments?_render_selected (env : Environment) (overwrite : Bool) {t : Text}
    {bundle : Bundle} (parsed : Bundle.parse t = .ok bundle) :
    assignments? (render (selected env overwrite bundle) .standard) =
      some (selected env overwrite bundle) := by
  have sound : ∀ e ∈ selected env overwrite bundle, Variable.Sound e.1 e.2 := by
    intro e member
    exact Bundle.sound_of_parse parsed e (List.mem_of_mem_filter member)
  apply assignments?_render_standard
  · intro e member
    exact (sound e member).ne_equals
  · intro e member
    exact (sound e member).ne_quote

end Shell

open Shell (source assignments? failureText)

theorem value_load_without_file (fetcher : Fetcher) (options : Fetch.Options) (world : World)
    {env : Environment} {token : Text} (held : env.token? = some token) :
    (Loader.load { fetcher, options } world env).value =
      Loader.receive env (fetcher env token options).value := by
  have merged : env.fill (Loader.layer { fetcher, options } world).entries = .done env 0 := rfl
  rw [Loader.load_of_token merged held]
  rfl

/-- A load without an environment file succeeds exactly if the text for the shell is not the one
that fails. Then the words of the text assign what the load writes, no more and no less, and
assigning them leaves the store that the load leaves. -/
theorem loading_agrees_with_evaluating (fetcher : Fetcher) (options : Fetch.Options)
    (world : World) {env : Environment} {token : Text}
    (held : env.get? tokenVariable = some token) (nonempty : token ≠ []) :
    let loaded := (Loader.load { fetcher, options } world env).value
    let text := (source fetcher env token false options .standard).value
    ((∃ after, loaded = .done after (.ok ())) ↔ text ≠ failureText) ∧
      ∀ after, loaded = .done after (.ok ()) →
        ∃ t bundle, (fetcher env token options).value = .ok t ∧ Bundle.parse t = .ok bundle ∧
          env.fill bundle.entries = .done after (env.writes bundle.entries).length ∧
          assignments? text = some (env.writes bundle.entries) ∧
          env.assign (env.writes bundle.entries) = some after := by
  have tokened : env.token? = some token := by
    rw [Environment.token?, held, Option.filter_some, if_pos (bne_iff_ne.2 nonempty)]
  intro loaded text
  have hloaded : loaded = Loader.receive env (fetcher env token options).value :=
    value_load_without_file fetcher options world tokened
  have htext : text =
      (Shell.present env false options .standard (fetcher env token options).value).value :=
    Shell.value_source fetcher env token false options .standard
  constructor
  · rw [hloaded, Loader.exists_receive_ok_iff, htext]
    constructor
    · rintro ⟨t, bundle, answered, parsed⟩
      rw [answered, Shell.value_present_of_parse env false options .standard parsed]
      exact Shell.render_standard_ne_failureText _
    · intro differs
      by_contra unreadable
      exact differs (Shell.value_present_of_unreadable env false options .standard unreadable)
  · intro after success
    obtain ⟨t, bundle, count, answered, parsed, filled⟩ :=
      Loader.receive_eq_done_ok_iff.1 (hloaded.symm.trans success)
    refine ⟨t, bundle, answered, parsed, ?_, ?_, ?_⟩
    · rw [Environment.length_writes filled]
      exact filled
    · rw [htext, answered, Shell.value_present_of_parse env false options .standard parsed,
        Shell.assignments?_render_selected env false parsed, Shell.selected_eq_writes env parsed]
    · rw [Environment.assign_writes, filled]
      rfl

/-- A process with a token, an empty variable and one that is no text. -/
def partlySet : Environment :=
  .process (NameMap.ofList [(Utf8.encode tokenVariable, [116]), (Utf8.encode ['A'], []),
    (Utf8.encode ['B'], [255])])

def mixedText : Text := "\x7b\"A\":\"it's\",\"B\":\"\",\"C\":\"=\"\x7d".toList

theorem loading_agrees_with_evaluating_partlySet :
    partlySet.get? tokenVariable = some ['t'] ∧
      ∃ after,
        (Loader.load { fetcher := Fetcher.fixed fun _ _ => .ok mixedText }
          ⟨fun _ => .error .absent, none⟩ partlySet).value = .done after (.ok ()) ∧
        assignments? (source (Fetcher.fixed fun _ _ => .ok mixedText) partlySet ['t'] false
          (Fetch.Options.loader false) .standard).value =
            some [(['A'], "it's".toList), (['C'], ['='])] ∧
        partlySet.assign [(['A'], "it's".toList), (['C'], ['='])] = some after := by
  have read : Json.object mixedText =
      .ok [(['A'], "it's".toList), (['B'], []), (['C'], ['='])] := by decide +kernel
  have parsed := Bundle.parse_of_object read (by decide)
  have held : partlySet.get? tokenVariable = some ['t'] := by decide
  have tokened : partlySet.token? = some ['t'] := by decide
  obtain ⟨after, received⟩ :=
    (Loader.exists_receive_ok_iff partlySet).2 ⟨mixedText, _, rfl, parsed⟩
  have loaded := (value_load_without_file (Fetcher.fixed fun _ _ => .ok mixedText)
    (Fetch.Options.loader false) ⟨fun _ => .error .absent, none⟩ tokened).trans received
  obtain ⟨t, bundle, answered, parsed', _, words, assigned⟩ :=
    (loading_agrees_with_evaluating (Fetcher.fixed fun _ _ => .ok mixedText)
      (Fetch.Options.loader false) ⟨fun _ => .error .absent, none⟩ held (by decide)).2 after loaded
  cases answered
  rw [parsed] at parsed'
  cases parsed'
  exact ⟨held, after, loaded, words, assigned⟩

end EnvBundle
