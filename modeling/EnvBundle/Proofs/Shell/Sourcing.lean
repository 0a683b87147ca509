import EnvBundle.Proofs.Bundle.Judging
import EnvBundle.Proofs.Run.ShellMode

/-!
What the text written for a shell goes by. It is the text that fails exactly if there is no bundle.
Otherwise it goes by the last value that the answer has for each name, wherever the members stand.
-/
namespace EnvBundle

namespace Shell

/-- Written entries end in a quote or a line feed, and the text that fails in neither. -/
theorem render_ne_failureText (entries : List (Text × Text)) (format : Format) :
    render entries format ≠ failureText := by
  intro same
  have last : (render entries format).getLast? = some 'e' := by
    rw [same]
    decide
  by_cases empty : entries = []
  · rw [empty] at last
    cases last
  · rcases render_ends empty format with closed | ⟨body, ended, _⟩
    · rw [closed] at last
      exact absurd last (by decide)
    · rw [ended, List.getLast?_concat] at last
      exact absurd last (by decide)

/-- The text is the one that fails exactly if the fetcher gives nothing or what it gives is no
bundle. No variables, all those of a bundle or any of them, are written as that text, so the text
alone tells whether there was a bundle. -/
theorem failureText_iff_no_bundle (fetcher : Fetcher) (env : Environment) (token : Text)
    (overwrite : Bool) (options : Fetch.Options) (format : Format) :
    ((source fetcher env token overwrite options format).value = failureText ↔
      (∃ fault, (fetcher env token options).value = .error fault) ∨
        ∃ t fault, (fetcher env token options).value = .ok t ∧
          Bundle.parse t = .error fault) ∧
      ∀ (entries : List (Text × Text)) (layout : Format), render entries layout ≠ failureText := by
  refine ⟨?_, render_ne_failureText⟩
  rw [value_source]
  cases (fetcher env token options).value with
  | error fault => simp [present]
  | ok t =>
      cases parsed : Bundle.parse t with
      | error fault => simp [present, parsed]
      | ok bundle =>
          rw [value_present_of_parse env overwrite options format parsed]
          simp [render_ne_failureText, parsed]

end Shell

namespace Bundle

open Shell (source)

/-- A text that is read as an object goes by the last values of the names. It is a bundle exactly
if these can all stand in one, and then has them in the order of the bytes of the names; if not, it
is refused with the complaint about the first bad one in that order. So texts with the same last
values are the same bundle or refused alike, and a shell is given the same text for them. -/
theorem last_values_decide {t : Text} {pairs : List (Text × Text)}
    (read : Json.object t = .ok pairs) :
    ((∃ bundle, parse t = .ok bundle) ↔ ∀ name value, last? pairs name = some value →
      name ≠ [] ∧ (∀ c ∈ name, Variable.Allowed c) ∧ '\x00' ∉ value) ∧
    (∀ bundle, parse t = .ok bundle →
      (bundle.entries.Pairwise fun a b => compare (Utf8.encode a.1) (Utf8.encode b.1) = .lt) ∧
        ∀ name, bundle.get? name = last? pairs name) ∧
    (∀ message, (∃ fault, parse t = .error fault ∧ fault.message = message) ↔
      ∃ name value, last? pairs name = some value ∧ Variable.Complaint name value message ∧
        ∀ other content, last? pairs other = some content →
          compare (Utf8.encode other) (Utf8.encode name) = .lt →
            Variable.check other content = .ok ()) ∧
    ∀ t' pairs', Json.object t' = .ok pairs' →
      (∀ name, last? pairs' name = last? pairs name) →
        parse t' = parse t ∧
          ∀ (fetcher fetcher' : Fetcher) (env : Environment) (token : Text)
            (options : Fetch.Options), (fetcher env token options).value = .ok t →
              (fetcher' env token options).value = .ok t' →
                ∀ overwrite format, (source fetcher' env token overwrite options format).value =
                  (source fetcher env token overwrite options format).value := by
  refine ⟨?_, fun bundle parsed => ⟨Utf8.pairwise_encode bundle, ?_⟩, fun message => ?_,
    fun t' pairs' read' same => ?_⟩
  · simp only [exists_parse_ok_iff_last read, Variable.sound_iff]
  · exact get?_of_parse_of_object read parsed
  · simp only [exists_parse_error_iff_last read, Variable.check_eq_ok_iff]
  · have alike : parse t' = parse t := parse_eq_of_last read read' same
    refine ⟨alike, fun fetcher fetcher' env token options answered answered' overwrite format => ?_⟩
    rw [Shell.value_source, Shell.value_source, answered, answered']
    simp only [Shell.present, alike]

def settledText : Text := "\x7b\"A\":\"x\",\"B\":\"y\"\x7d".toList

/-- The same last values, one of them after one that no variable can have. -/
def overwrittenText : Text := "\x7b\"B\":\"\\u0000\",\"A\":\"x\",\"B\":\"y\"\x7d".toList

/-- Two members that are bad, in falling order. -/
def twiceBadText : Text := "\x7b\"b c\":\"\",\"A\":\"\\u0000\"\x7d".toList

theorem last_values_decide_overwritten :
    parse overwrittenText = parse settledText ∧
      (∃ bundle, parse settledText = .ok bundle ∧ bundle.get? ['B'] = some ['y']) ∧
        ∃ fault, parse twiceBadText = .error fault ∧
          fault.message = "invalid value for A: contains NUL".toList := by
  have read : Json.object settledText = .ok [(['A'], ['x']), (['B'], ['y'])] := by decide +kernel
  have read' : Json.object overwrittenText =
      .ok [(['B'], ['\x00']), (['A'], ['x']), (['B'], ['y'])] := by decide +kernel
  have readBad : Json.object twiceBadText = .ok [("b c".toList, []), (['A'], ['\x00'])] := by
    decide +kernel
  have same : ∀ name, last? [(['B'], ['\x00']), (['A'], ['x']), (['B'], ['y'])] name =
      last? [(['A'], ['x']), (['B'], ['y'])] name := by
    intro name
    have maps : NameMap.ofList [(['B'], ['\x00']), (['A'], ['x']), (['B'], ['y'])] =
        NameMap.ofList [(['A'], ['x']), (['B'], ['y'])] := NameMap.entries_injective (by decide)
    rw [last?, last?, ← NameMap.get?_ofList, ← NameMap.get?_ofList, maps]
  have first : ∀ e ∈ (NameMap.ofList [("b c".toList, []), (['A'], ['\x00'])]).entries,
      compare (Utf8.encode e.1) (Utf8.encode ['A']) = .lt →
        Variable.check e.1 e.2 = .ok () := by decide
  have parsed := parse_of_object read (by decide)
  refine ⟨((last_values_decide read).2.2.2 _ _ read' same).1, ⟨_, parsed, ?_⟩, ?_⟩
  · rw [((last_values_decide read).2.1 _ parsed).2]
    decide
  · refine ((last_values_decide readBad).2.2.1 _).2 ⟨['A'], ['\x00'], by decide, ?_, ?_⟩
    · exact .badValue (by decide) (List.forall_mem_singleton.2 (by decide)) (by decide)
    · intro other content held smaller
      exact first (other, content) (mem_entries_ofList_iff.2 held) smaller

end Bundle

end EnvBundle
