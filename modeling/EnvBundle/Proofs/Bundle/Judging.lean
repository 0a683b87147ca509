import EnvBundle.Proofs.Bundle
import EnvBundle.Proofs.Text.Order

/-!
How a bundle is judged. Only the last value of each name counts, and a bundle that is refused is
refused for the first bad entry in the order of the bytes of the names.
-/
namespace EnvBundle

namespace NameMap

variable {κ ν : Type} [Ord κ] [Std.LawfulEqOrd κ] [Std.OrientedOrd κ]

/-- The entries before one are those with a smaller name. -/
theorem mem_before_iff {map : NameMap κ ν} {before behind : List (κ × ν)} {e other : κ × ν}
    (whole : map.entries = before ++ e :: behind) :
    other ∈ before ↔ other ∈ map.entries ∧ compare other.1 e.1 = .lt := by
  have ascending := map.ascending
  rw [whole] at ascending ⊢
  obtain ⟨_, tail, across⟩ := List.pairwise_append.1 ascending
  constructor
  · intro early
    exact ⟨List.mem_append_left _ early, across other early e List.mem_cons_self⟩
  · rintro ⟨member, smaller⟩
    rcases List.mem_append.1 member with early | here
    · exact early
    · rcases List.mem_cons.1 here with rfl | late
      · cases Std.ReflCmp.compare_self.symm.trans smaller
      · have larger := (List.pairwise_cons.1 tail).1 other late
        cases (Std.OrientedCmp.gt_iff_lt.2 larger).symm.trans smaller

end NameMap

namespace Variable

/-- A character that a name can have. -/
def Allowed (c : Char) : Prop :=
  c ≠ '=' ∧ c ≠ '\x00' ∧ c ≠ '\'' ∧ Text.isBlank c = false

instance : DecidablePred Allowed := fun _ => instDecidableAnd

theorem allowed_iff {c : Char} : Allowed c ↔ Mark.ofChar? c = none := ofChar?_eq_none_iff.symm

theorem sound_iff {name value : Text} :
    Sound name value ↔ name ≠ [] ∧ (∀ c ∈ name, Allowed c) ∧ '\x00' ∉ value := by
  simp only [allowed_iff]
  exact ⟨fun ⟨filled, free, whole⟩ => ⟨filled, free, whole⟩,
    fun ⟨filled, free, whole⟩ => ⟨filled, free, whole⟩⟩

/-- A character that no name can have, and the word for it. -/
inductive Offends : Char → Text → Prop
  | equals : Offends '=' "'='".toList
  | nul : Offends '\x00' "NUL".toList
  | quote : Offends '\'' "single quote".toList
  | blank {c : Char} (blank : Text.isBlank c = true) : Offends c "whitespace".toList

theorem offends_iff {c : Char} {word : Text} :
    Offends c word ↔ ∃ mark, Mark.ofChar? c = some mark ∧ mark.word = word := by
  constructor
  · intro offends
    cases offends with
    | equals => exact ⟨.equals, rfl, rfl⟩
    | nul => exact ⟨.nul, rfl, rfl⟩
    | quote => exact ⟨.quote, rfl, rfl⟩
    | blank blank =>
        -- The other characters that offend are no blanks.
        have equals : c ≠ '=' := fun same => absurd (same ▸ blank) (by decide)
        have nul : c ≠ '\x00' := fun same => absurd (same ▸ blank) (by decide)
        have quote : c ≠ '\'' := fun same => absurd (same ▸ blank) (by decide)
        refine ⟨.blank, ?_, rfl⟩
        rw [Mark.ofChar?, if_neg equals, if_neg nul, if_neg quote, if_pos blank]
  · rintro ⟨mark, found, rfl⟩
    unfold Mark.ofChar? at found
    split at found
    · next same => cases found; exact same ▸ .equals
    · split at found
      · next same => cases found; exact same ▸ .nul
      · split at found
        · next same => cases found; exact same ▸ .quote
        · split at found
          · next blank => cases found; exact .blank blank
          · cases found

/-- What is wrong with a variable, in words: first of all with its name, and there with the first
character that no name can have. -/
inductive Complaint (name value : Text) : Text → Prop
  | emptyName (empty : name = []) : Complaint name value "empty variable name".toList
  | badName {clean rest : Text} {c : Char} {word : Text} (cut : name = clean ++ c :: rest)
      (allowed : ∀ d ∈ clean, Allowed d) (offends : Offends c word) :
      Complaint name value ("invalid variable name ".toList ++ Text.quoted name ++ ": ".toList ++
        word ++ " at position ".toList ++ Text.ofNat (clean.length + 1))
  | badValue (filled : name ≠ []) (allowed : ∀ c ∈ name, Allowed c) (nul : '\x00' ∈ value) :
      Complaint name value ("invalid value for ".toList ++ name ++ ": contains NUL".toList)

theorem firstMark?_eq_some_iff {name : Text} {mark : Mark} {before : Nat} :
    firstMark? name = some (mark, before) ↔
      ∃ clean c rest, name = clean ++ c :: rest ∧ (∀ d ∈ clean, Allowed d) ∧
        Mark.ofChar? c = some mark ∧ clean.length = before := by
  constructor
  · intro found
    induction name generalizing before with
    | nil => cases found
    | cons c name ih =>
        rw [firstMark?] at found
        split at found
        · next here =>
          cases found
          exact ⟨[], c, name, rfl, List.forall_mem_nil _, here, rfl⟩
        · next free =>
          obtain ⟨⟨_, earlier⟩, later, same⟩ := Option.map_eq_some_iff.1 found
          cases same
          obtain ⟨clean, d, rest, rfl, allowed, here, rfl⟩ := ih later
          refine ⟨c :: clean, d, rest, rfl, ?_, here, rfl⟩
          exact List.forall_mem_cons.2 ⟨allowed_iff.2 free, allowed⟩
  · rintro ⟨clean, c, rest, rfl, allowed, here, rfl⟩
    induction clean with
    | nil => simp only [List.nil_append, firstMark?, here, List.length_nil]
    | cons d clean ih =>
        obtain ⟨free, allowed⟩ := List.forall_mem_cons.1 allowed
        simp only [List.cons_append, firstMark?, allowed_iff.1 free, ih allowed, Option.map_some,
          List.length_cons]

/-- A check that fails says what is wrong. -/
theorem complaint_of_check_eq_error {name value : Text} {fault : Fault}
    (failed : check name value = .error fault) : Complaint name value fault.message := by
  rw [check, checkName] at failed
  split at failed
  · next badName =>
    cases failed
    split at badName
    · next empty =>
      cases badName
      exact .emptyName empty
    · split at badName
      · next mark before found =>
        cases badName
        obtain ⟨clean, c, rest, cut, allowed, here, rfl⟩ := firstMark?_eq_some_iff.1 found
        exact .badName cut allowed (offends_iff.2 ⟨mark, here, rfl⟩)
      · cases badName
  · next named =>
    obtain ⟨filled, free⟩ := checkName_eq_ok_iff.1 named
    rw [checkValue] at failed
    split at failed
    · next nul =>
      cases failed
      exact .badValue filled (fun c member => allowed_iff.2 (free c member)) nul
    · cases failed

/-- Whatever there is to say about a variable, its check fails and says it. -/
theorem Complaint.exists_check_eq_error {name value message : Text}
    (complaint : Complaint name value message) :
    ∃ fault, check name value = .error fault ∧ fault.message = message := by
  cases complaint with
  | emptyName empty => exact ⟨.emptyName, by rw [check, checkName, if_pos empty], rfl⟩
  | @badName clean rest c word cut allowed offends =>
      obtain ⟨mark, here, rfl⟩ := offends_iff.1 offends
      have filled : name ≠ [] := by simp [cut]
      have found : firstMark? name = some (mark, clean.length) :=
        firstMark?_eq_some_iff.2 ⟨clean, c, rest, cut, allowed, here, rfl⟩
      have failed : checkName name = .error (.badName name mark clean.length) := by
        simp only [checkName, if_neg filled, found]
      exact ⟨.badName name mark clean.length, by rw [check, failed], rfl⟩
  | badValue filled allowed nul =>
      have named : checkName name = .ok () :=
        checkName_eq_ok_iff.2 ⟨filled, fun c member => allowed_iff.1 (allowed c member)⟩
      refine ⟨.badValue name, ?_, rfl⟩
      rw [check, named]
      exact if_pos nul

theorem exists_check_error_iff {name value message : Text} :
    (∃ fault, check name value = .error fault ∧ fault.message = message) ↔
      Complaint name value message := by
  constructor
  · rintro ⟨fault, failed, rfl⟩
    exact complaint_of_check_eq_error failed
  · exact Complaint.exists_check_eq_error

/-- There is no more than one thing to say about a variable. -/
theorem Complaint.unique {name value message other : Text}
    (complaint : Complaint name value message) (another : Complaint name value other) :
    message = other := by
  obtain ⟨fault, failed, rfl⟩ := complaint.exists_check_eq_error
  obtain ⟨again, failed', rfl⟩ := another.exists_check_eq_error
  cases failed.symm.trans failed'
  rfl

end Variable

namespace Bundle

theorem checkAll_eq_error_iff {entries : List (Text × Text)} {fault : Variable.Fault} :
    checkAll entries = .error fault ↔
      ∃ before e behind, entries = before ++ e :: behind ∧
        (∀ b ∈ before, Variable.Sound b.1 b.2) ∧ Variable.check e.1 e.2 = .error fault := by
  constructor
  · intro failed
    induction entries with
    | nil => cases failed
    | cons e entries ih =>
        rw [checkAll] at failed
        split at failed
        · next here =>
          cases failed
          exact ⟨[], e, entries, rfl, List.forall_mem_nil _, here⟩
        · next passed =>
          obtain ⟨before, bad, behind, rfl, sound, here⟩ := ih failed
          refine ⟨e :: before, bad, behind, rfl, ?_, here⟩
          exact List.forall_mem_cons.2 ⟨Variable.check_eq_ok_iff.1 passed, sound⟩
  · rintro ⟨before, e, behind, rfl, sound, here⟩
    induction before with
    | nil => simp only [List.nil_append, checkAll, here]
    | cons b before ih =>
        obtain ⟨first, sound⟩ := List.forall_mem_cons.1 sound
        simp only [List.cons_append, checkAll, Variable.check_eq_ok_iff.2 first, ih sound]

/-- The value that members have for a name, which is the last one. -/
def last? (pairs : List (Text × Text)) (name : Text) : Option Text := pairs.reverse.lookup name

theorem mem_entries_ofList_iff {pairs : List (Text × Text)} {name value : Text} :
    (name, value) ∈ (NameMap.ofList pairs).entries ↔ last? pairs name = some value := by
  rw [NameMap.mem_entries_iff, NameMap.get?_ofList, last?]

section

variable {t : Text} {pairs : List (Text × Text)} (read : Json.object t = .ok pairs)

include read

theorem parse_of_object_eq_error_iff {fault : Fault} :
    parse t = .error fault ↔
      ∃ bad, checkAll (NameMap.ofList pairs).entries = .error bad ∧ fault = .badVariable bad := by
  simp only [parse, read]
  cases checkAll (NameMap.ofList pairs).entries with
  | error bad => simp [eq_comm]
  | ok passed => simp

theorem get?_of_parse_of_object {bundle : Bundle} (parsed : parse t = .ok bundle) (name : Text) :
    bundle.get? name = last? pairs name := by
  obtain ⟨_, read', rfl, _⟩ := parse_eq_ok_iff.1 parsed
  cases read.symm.trans read'
  exact NameMap.get?_ofList pairs name

theorem exists_parse_ok_iff_last : (∃ bundle, parse t = .ok bundle) ↔
    ∀ name value, last? pairs name = some value → Variable.Sound name value := by
  constructor
  · rintro ⟨bundle, parsed⟩ name value held
    rw [← get?_of_parse_of_object read parsed, ← NameMap.mem_entries_iff] at held
    exact sound_of_parse parsed (name, value) held
  · intro sound
    refine ⟨_, parse_eq_ok_iff.2 ⟨pairs, read, rfl, ?_⟩⟩
    rintro ⟨name, value⟩ member
    exact sound name value (mem_entries_ofList_iff.1 member)

/-- What is said of a bundle that is refused is said of its first bad entry. -/
theorem exists_parse_error_iff_last {message : Text} :
    (∃ fault, parse t = .error fault ∧ fault.message = message) ↔
      ∃ name value, last? pairs name = some value ∧ Variable.Complaint name value message ∧
        ∀ other content, last? pairs other = some content →
          compare (Utf8.encode other) (Utf8.encode name) = .lt → Variable.Sound other content := by
  have failing : (∃ fault, parse t = .error fault ∧ fault.message = message) ↔
      ∃ bad, checkAll (NameMap.ofList pairs).entries = .error bad ∧ bad.message = message := by
    simp only [parse_of_object_eq_error_iff read]
    constructor
    · rintro ⟨_, ⟨bad, failed, rfl⟩, said⟩
      exact ⟨bad, failed, said⟩
    · rintro ⟨bad, failed, said⟩
      exact ⟨.badVariable bad, ⟨bad, failed, rfl⟩, said⟩
  simp only [failing, checkAll_eq_error_iff, ← Variable.exists_check_error_iff,
    ← mem_entries_ofList_iff, Utf8.compare_encode]
  constructor
  · rintro ⟨fault, ⟨before, e, behind, whole, sound, here⟩, said⟩
    refine ⟨e.1, e.2, ?_, ⟨fault, here, said⟩, fun other content member smaller => ?_⟩
    · rw [whole]
      exact List.mem_append_right _ List.mem_cons_self
    · exact sound _ ((NameMap.mem_before_iff whole).2 ⟨member, smaller⟩)
  · rintro ⟨name, value, member, ⟨fault, here, said⟩, sound⟩
    obtain ⟨before, behind, whole⟩ := List.append_of_mem member
    refine ⟨fault, ⟨before, (name, value), behind, whole, ?_, here⟩, said⟩
    intro b early
    obtain ⟨member, smaller⟩ := (NameMap.mem_before_iff whole).1 early
    exact sound b.1 b.2 member smaller

/-- Texts whose members have the same last values are the same bundle or the same fault. -/
theorem parse_eq_of_last {t' : Text} {pairs' : List (Text × Text)}
    (read' : Json.object t' = .ok pairs') (same : ∀ name, last? pairs' name = last? pairs name) :
    parse t' = parse t := by
  have entries : NameMap.ofList pairs' = NameMap.ofList pairs := by
    apply NameMap.eq_of_get?
    intro name
    rw [NameMap.get?_ofList, NameMap.get?_ofList]
    exact same name
  simp only [parse, read, read', entries]

end

end Bundle

end EnvBundle
