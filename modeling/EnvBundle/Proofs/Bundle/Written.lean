import EnvBundle.Proofs.Bundle
import EnvBundle.Proofs.Json.Objects
import EnvBundle.Proofs.Text.Order

/-!
A bundle that was written as an object is read back. No character is lost, however it was escaped,
and the order of the members and the blanks around them make no difference.
-/
namespace EnvBundle.Bundle

/-- Members with distinct names that pass the checks are the entries of the bundle. -/
theorem exists_parse_perm {order : List (Text × Text)} {t : Text}
    (distinct : (order.map Prod.fst).Nodup)
    (sound : ∀ e ∈ order, Variable.Sound e.1 e.2) (written : Json.WritesObject order t) :
    ∃ bundle, parse t = .ok bundle ∧ bundle.entries.Perm order := by
  have perm : (NameMap.ofList order).entries.Perm order := NameMap.perm_entries_ofList distinct
  refine ⟨NameMap.ofList order, parse_eq_ok_iff.2 ⟨order, ?_, rfl, ?_⟩, perm⟩
  · exact Json.object_eq_ok_iff.2 written
  · intro e member
    exact sound e (perm.mem_iff.1 member)

/-- Variables with distinct names that pass the checks can be written as an object with its members
in any order, and whatever text is written for them, the bundle read from it has them and no others,
in the order of the bytes of their names. -/
theorem written_variables_are_read_back {pairs : List (Text × Text)}
    (distinct : (pairs.map Prod.fst).Nodup)
    (passed : ∀ e ∈ pairs, Variable.check e.1 e.2 = .ok ()) :
    ∀ order : List (Text × Text), order.Perm pairs →
      (∃ t, Json.WritesObject order t) ∧
        ∀ t, Json.WritesObject order t →
          ∃ bundle, parse t = .ok bundle ∧ bundle.entries.Perm pairs ∧
            bundle.entries.Pairwise fun a b =>
              compare (Utf8.encode a.1) (Utf8.encode b.1) = .lt := by
  intro order perm
  refine ⟨Json.exists_writesObject order, fun t written => ?_⟩
  have distinct' : (order.map Prod.fst).Nodup := (perm.map Prod.fst).nodup_iff.2 distinct
  have sound : ∀ e ∈ order, Variable.Sound e.1 e.2 := by
    intro e member
    exact Variable.check_eq_ok_iff.1 (passed e (perm.mem_iff.1 member))
  obtain ⟨bundle, parsed, read⟩ := exists_parse_perm distinct' sound written
  exact ⟨bundle, parsed, read.trans perm, Utf8.pairwise_encode bundle⟩

/-- Two members in falling order with blanks everywhere. The first has a name in one escape, and in
its value two escapes for one character, a quote, a control character and a backslash. -/
def escapedText : Text :=
  " \x7b\n\"\\u00e9\" : \"\\ud83D\\uDe00\\\"\\u0001\\\\\" ,\t\"A\":\"=' /\"\r\x7d ".toList

theorem written_variables_are_read_back_escaped :
    ∃ bundle, parse escapedText = .ok bundle ∧
      bundle.entries.Perm [(['A'], "=' /".toList), (['é'], ['😀', '"', '\x01', '\\'])] := by
  have distinct : ([(['A'], "=' /".toList), (['é'], ['😀', '"', '\x01', '\\'])].map
      Prod.fst).Nodup := by decide
  have passed : ∀ e ∈ [(['A'], "=' /".toList), (['é'], ['😀', '"', '\x01', '\\'])],
      Variable.check e.1 e.2 = .ok () := by decide
  have read : Json.object escapedText =
      .ok [(['é'], ['😀', '"', '\x01', '\\']), (['A'], "=' /".toList)] := by decide +kernel
  obtain ⟨bundle, parsed, perm, _⟩ := (written_variables_are_read_back distinct passed _
    (List.Perm.swap _ _ [])).2 escapedText (Json.object_eq_ok_iff.1 read)
  exact ⟨bundle, parsed, perm⟩

end EnvBundle.Bundle
