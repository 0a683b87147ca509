import EnvBundle.Json.Object
import EnvBundle.Proofs.Json.Strings
import Mathlib.Data.List.TakeWhile

/-!
An object of strings is read as the members it was written for, in the order of the text, and what
is read as such an object was written so.
-/
namespace EnvBundle.Json

theorem isSpace_iff {c : Char} :
    isSpace c = true ↔ c = ' ' ∨ c = '\n' ∨ c = '\t' ∨ c = '\r' := by
  simp only [isSpace, Bool.or_eq_true, decide_eq_true_eq, or_assoc]

theorem skipSpace_eq_nil_iff {t : Text} : skipSpace t = [] ↔ Blank t := by
  simp only [skipSpace, List.dropWhile_eq_nil_iff, isSpace_iff, Blank]

theorem Blank.append {s t : Text} (first : Blank s) (second : Blank t) : Blank (s ++ t) :=
  List.forall_mem_append.2 ⟨first, second⟩

/-- The first character that is no blank, wherever it stands. -/
theorem skipSpace_eq_cons_iff {t rest : Text} {mark : Char} (solid : isSpace mark = false) :
    skipSpace t = mark :: rest ↔ ∃ before, Blank before ∧ t = before ++ mark :: rest := by
  constructor
  · intro found
    refine ⟨t.takeWhile isSpace, ?_, ?_⟩
    · intro c member
      exact isSpace_iff.1 (List.mem_takeWhile_imp member)
    · rw [← found]
      exact List.takeWhile_append_dropWhile.symm
  · rintro ⟨before, blank, rfl⟩
    have spaces : ∀ c ∈ before, isSpace c = true := fun c member => isSpace_iff.2 (blank c member)
    rw [skipSpace, List.dropWhile_append_of_pos spaces, List.dropWhile_cons, solid,
      if_neg Bool.false_ne_true]

theorem colon_eq_ok_iff {t rest : Text} :
    colon t = .ok rest ↔ ∃ before, Blank before ∧ t = before ++ ':' :: rest := by
  rw [← skipSpace_eq_cons_iff (by decide), colon]
  split
  · next none => simp [none]
  · next c u found =>
    rw [found]
    split
    · next same => simp [same]
    · next apart => simp [apart]

theorem stringValue_eq_ok_iff {t value rest : Text} :
    stringValue t = .ok (value, rest) ↔
      ∃ before s, Blank before ∧ WritesString value s ∧ t = before ++ (s ++ rest) := by
  constructor
  · intro read
    unfold stringValue at read
    split at read
    · cases read
    · next c u found =>
      split at read
      · next quote =>
        rw [quote, skipSpace_eq_cons_iff (by decide)] at found
        obtain ⟨before, blank, rfl⟩ := found
        obtain ⟨body, written, rfl⟩ := stringBody_eq_ok_iff.1 read
        exact ⟨before, _, blank, .quoted written, by simp⟩
      · cases read
  · rintro ⟨before, s, blank, written, rfl⟩
    cases written with
    | @quoted body written =>
        have found : skipSpace (before ++ ('"' :: body ++ ['"'] ++ rest)) =
            '"' :: (body ++ '"' :: rest) :=
          (skipSpace_eq_cons_iff (by decide)).2 ⟨before, blank, by simp⟩
        simp only [stringValue, found, if_pos]
        exact stringBody_eq_ok_iff.2 ⟨body, written, rfl⟩

/-- A member begins with a quote and is read from there on. -/
theorem member_eq_ok_iff {t rest : Text} {e : Text × Text} :
    member t = .ok (e, rest) ↔ ∃ s, WritesMember e ('"' :: s) ∧ t = s ++ rest := by
  constructor
  · intro read
    unfold member at read
    split at read
    · cases read
    · next name u named =>
      split at read
      · cases read
      · next v separated =>
        split at read
        · cases read
        · next value w valued =>
          cases read
          obtain ⟨body, written, rfl⟩ := stringBody_eq_ok_iff.1 named
          obtain ⟨before, front, rfl⟩ := colon_eq_ok_iff.1 separated
          obtain ⟨after, s, back, last, rfl⟩ := stringValue_eq_ok_iff.1 valued
          exact ⟨_, .colon (.quoted written) (.spaced front back) last, by simp⟩
  · rintro ⟨s, written, rfl⟩
    generalize text : '"' :: s = t at written
    cases written with
    | @colon name value r u v first mark last =>
        cases first with
        | @quoted body first =>
            cases mark with
            | @spaced before after front back =>
                have inside : s ++ rest =
                    body ++ '"' :: (before ++ ':' :: (after ++ (v ++ rest))) := by
                  simp [(List.cons.inj text).2]
                have named := stringBody_eq_ok_iff.2 ⟨body, first, inside⟩
                have separated : colon (before ++ ':' :: (after ++ (v ++ rest))) =
                    .ok (after ++ (v ++ rest)) := colon_eq_ok_iff.2 ⟨before, front, rfl⟩
                have valued : stringValue (after ++ (v ++ rest)) = .ok (value, rest) :=
                  stringValue_eq_ok_iff.2 ⟨after, v, back, last, rfl⟩
                simp only [member, named, separated, valued]

theorem exists_quote_of_writesMember {e : Text × Text} {t : Text} (written : WritesMember e t) :
    ∃ s, t = '"' :: s := by
  cases written with
  | colon first mark last =>
      cases first with
      | quoted written => exact ⟨_, rfl⟩

theorem moreMembers_of_close {t rest : Text} (found : skipSpace t = '\x7d' :: rest) :
    moreMembers t = .ok ([], rest) := by
  rw [moreMembers]
  split
  · next none => cases found.symm.trans none
  · next same =>
    cases found.symm.trans same
    rfl
  · next comma => cases found.symm.trans comma
  · next noClose _ same =>
    cases found.symm.trans same
    exact absurd rfl noClose

theorem moreMembers_of_comma {t u v rest : Text} {e : Text × Text}
    (found : skipSpace t = ',' :: u) (next : skipSpace u = '"' :: v)
    (read : member v = .ok (e, rest)) :
    moreMembers t = (moreMembers rest).map (memberFirst e) := by
  rw [moreMembers]
  split
  · next none => cases found.symm.trans none
  · next close => cases found.symm.trans close
  · next same =>
    cases found.symm.trans same
    split
    · next none => cases next.symm.trans none
    · next quote =>
      cases next.symm.trans quote
      split
      · next failed => cases read.symm.trans failed
      · next taken =>
        cases read.symm.trans taken
        rfl
    · next close => cases next.symm.trans close
    · next noQuote _ same =>
      cases next.symm.trans same
      exact absurd rfl noQuote
  · next _ noComma same =>
    cases found.symm.trans same
    exact absurd rfl noComma

/-- However a comma and the member behind it are written, the member comes first. -/
theorem moreMembers_comma {e : Text × Text} {s t : Text} (mark : WritesMark ',' s)
    (written : WritesMember e t) (rest : Text) :
    moreMembers (s ++ t ++ rest) = (moreMembers rest).map (memberFirst e) := by
  obtain ⟨inside, rfl⟩ := exists_quote_of_writesMember written
  cases mark with
  | @spaced before after front back =>
      have found : skipSpace (before ++ ',' :: after ++ '"' :: inside ++ rest) =
          ',' :: (after ++ '"' :: (inside ++ rest)) :=
        (skipSpace_eq_cons_iff (by decide)).2 ⟨before, front, by simp⟩
      have next : skipSpace (after ++ '"' :: (inside ++ rest)) = '"' :: (inside ++ rest) :=
        (skipSpace_eq_cons_iff (by decide)).2 ⟨after, back, rfl⟩
      have read : member (inside ++ rest) = .ok (e, rest) :=
        member_eq_ok_iff.2 ⟨inside, written, rfl⟩
      exact moreMembers_of_comma found next read

theorem moreMembers_eq_ok_iff {t rest : Text} {pairs : List (Text × Text)} :
    moreMembers t = .ok (pairs, rest) ↔
      ∃ s before, WritesMore pairs s ∧ Blank before ∧ t = s ++ (before ++ '\x7d' :: rest) := by
  constructor
  · intro read
    fun_induction moreMembers t generalizing pairs with
    | case1 => cases read
    | case2 t rest' found =>
        cases read
        obtain ⟨before, blank, rfl⟩ := (skipSpace_eq_cons_iff (by decide)).1 found
        exact ⟨[], before, .nil, blank, rfl⟩
    | case3 => cases read
    | case4 => cases read
    | case5 t u found v next e w read' _ ih =>
        obtain ⟨others, readOthers, rfl⟩ := (map_first_eq_ok_iff (e :: ·)).1 read
        obtain ⟨before, front, rfl⟩ := (skipSpace_eq_cons_iff (by decide)).1 found
        obtain ⟨after, back, rfl⟩ := (skipSpace_eq_cons_iff (by decide)).1 next
        obtain ⟨inside, first, rfl⟩ := member_eq_ok_iff.1 read'
        obtain ⟨s, last, written, blank, rfl⟩ := ih readOthers
        exact ⟨_, last, .comma (.spaced front back) first written, blank, by simp⟩
    | case6 => cases read
    | case7 => cases read
    | case8 => cases read
  · rintro ⟨s, before, written, blank, rfl⟩
    induction written with
    | nil =>
        apply moreMembers_of_close
        exact (skipSpace_eq_cons_iff (by decide)).2 ⟨before, blank, rfl⟩
    | comma mark first others ih =>
        rw [List.append_assoc, moreMembers_comma mark first, ih]
        rfl

theorem members_eq_ok_iff {t rest : Text} {pairs : List (Text × Text)} :
    members t = .ok (pairs, rest) ↔
      ∃ before s after, Blank before ∧ WritesMembers pairs s ∧ Blank after ∧
        t = before ++ (s ++ (after ++ '\x7d' :: rest)) := by
  constructor
  · intro read
    unfold members at read
    split at read
    · cases read
    · next found =>
      cases read
      obtain ⟨before, blank, rfl⟩ := (skipSpace_eq_cons_iff (by decide)).1 found
      exact ⟨before, [], [], blank, .none, blank_nil, rfl⟩
    · next u found =>
      split at read
      · cases read
      · next e v first =>
        obtain ⟨others, readOthers, rfl⟩ := (map_first_eq_ok_iff (e :: ·)).1 read
        obtain ⟨before, front, rfl⟩ := (skipSpace_eq_cons_iff (by decide)).1 found
        obtain ⟨inside, written, rfl⟩ := member_eq_ok_iff.1 first
        obtain ⟨s, after, more, back, rfl⟩ := moreMembers_eq_ok_iff.1 readOthers
        exact ⟨before, _, after, front, .some written more, back, by simp⟩
    · cases read
  · rintro ⟨before, s, after, front, written, back, rfl⟩
    cases written with
    | none =>
        have found : skipSpace (before ++ ([] ++ (after ++ '\x7d' :: rest))) = '\x7d' :: rest :=
          (skipSpace_eq_cons_iff (by decide)).2 ⟨before ++ after, front.append back, by simp⟩
        simp only [members, found]
    | @some e others r s first more =>
        obtain ⟨inside, rfl⟩ := exists_quote_of_writesMember first
        have found : skipSpace (before ++ ('"' :: inside ++ s ++ (after ++ '\x7d' :: rest))) =
            '"' :: (inside ++ (s ++ (after ++ '\x7d' :: rest))) :=
          (skipSpace_eq_cons_iff (by decide)).2 ⟨before, front, by simp⟩
        have read : member (inside ++ (s ++ (after ++ '\x7d' :: rest))) =
            .ok (e, s ++ (after ++ '\x7d' :: rest)) := member_eq_ok_iff.2 ⟨inside, first, rfl⟩
        have readMore : moreMembers (s ++ (after ++ '\x7d' :: rest)) = .ok (others, rest) :=
          moreMembers_eq_ok_iff.2 ⟨s, after, more, back, rfl⟩
        simp only [members, found, read, readMore]
        rfl

/-- Texts of objects, and no others, are read, and each as its own members in their order. -/
theorem object_eq_ok_iff {t : Text} {pairs : List (Text × Text)} :
    object t = .ok pairs ↔ WritesObject pairs t := by
  constructor
  · intro read
    unfold object at read
    split at read
    · cases read
    · next c u found =>
      split at read
      · next brace =>
        rw [brace, skipSpace_eq_cons_iff (by decide)] at found
        obtain ⟨before, front, rfl⟩ := found
        split at read
        · cases read
        · next inside =>
          obtain ⟨behind, s, ahead, start, written, stop, rfl⟩ := members_eq_ok_iff.1 inside
          split at read
          · next after ended =>
            cases read
            have back := skipSpace_eq_nil_iff.1 ended
            have object := WritesObject.braces (.spaced front start) written (.spaced stop back)
            simpa using object
          · cases read
      · cases read
  · intro written
    cases written with
    | @braces r s t front inside back =>
        cases front with
        | @spaced before behind front start =>
            cases back with
            | @spaced ahead after stop back =>
                have found : skipSpace (before ++ '\x7b' :: behind ++ s ++
                    (ahead ++ '\x7d' :: after)) =
                      '\x7b' :: (behind ++ (s ++ (ahead ++ '\x7d' :: after))) :=
                  (skipSpace_eq_cons_iff (by decide)).2 ⟨before, front, by simp⟩
                have read : members (behind ++ (s ++ (ahead ++ '\x7d' :: after))) =
                    .ok (pairs, after) :=
                  members_eq_ok_iff.2 ⟨behind, s, ahead, start, inside, stop, rfl⟩
                have ended := skipSpace_eq_nil_iff.2 back
                simp only [object, found, if_pos, read, ended]

end EnvBundle.Json
