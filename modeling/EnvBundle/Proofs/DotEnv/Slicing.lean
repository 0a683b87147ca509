import EnvBundle.Proofs.DotEnv.Assignment
import EnvBundle.Proofs.Text.Slices
import Mathlib.Data.List.ReduceOption

/-!
Environment files whose quotes are cut off by the positions of bytes. Such a cut goes wrong out of
range and inside a character, and then there is no result; but the quotes are of one byte each and
are not looked for in a text that is too short for two, so no cut goes wrong in any file.
-/
namespace EnvBundle.DotEnv

/-- Whether a text has two bytes or more and a mark at either end. -/
def isMarked (mark : Char) (raw : Text) : Bool :=
  2 ≤ (Utf8.encode raw).length && raw.head? = some mark && raw.getLast? = some mark

/-- The text without its first byte and its last. -/
def inside? (raw : Text) : Option Text := Text.slice? raw 1 ((Utf8.encode raw).length - 1)

/-- A value whose quotes are cut off by the positions of bytes. There is none if a cut goes wrong. -/
def sliceValue? (raw : Text) : Option Text :=
  if isMarked '"' raw then (inside? raw).map unescape
  else if isMarked '\'' raw then inside? raw
  else some raw

/-- What a line without blanks at its ends assigns, with cuts that can go wrong. -/
def sliceAssignment? (line : Text) : Option (Option (Text × Text)) :=
  if line = [] ∨ line.head? = some '#' then some none
  else
    match Split.first? '=' (unexported line) with
    | none => some none
    | some (name, raw) =>
      if Text.trim name = [] then some none
      else (sliceValue? (Text.trim raw)).map fun result => some (Text.trim name, result)

/-- The assignments of a file, if no cut goes wrong in any of its lines. -/
def sliceEntries? (t : Text) : Option (List (Text × Text)) :=
  (t.lines.mapM fun line => sliceAssignment? (Text.trim line)).map List.reduceOption

section Marks

variable {mark : Char} (one : (Utf8.encodeChar mark).length = 1)
include one

theorem isMarked_iff {raw : Text} :
    isMarked mark raw = true ↔ ∃ inner, raw = mark :: (inner ++ [mark]) := by
  simp only [isMarked, Bool.and_eq_true, decide_eq_true_eq, and_assoc]
  constructor
  · rintro ⟨long, first, last⟩
    obtain ⟨rest, rfl⟩ := List.head?_eq_some_iff.1 first
    rcases List.eq_nil_or_concat rest with rfl | ⟨inner, d, rfl⟩
    · -- The one mark would be both ends, and is too short for that.
      simp [one] at long
    · refine ⟨inner, ?_⟩
      rw [List.concat_eq_append, ← List.cons_append, List.getLast?_concat] at last
      rw [Option.some.inj last, List.concat_eq_append]
  · rintro ⟨inner, rfl⟩
    refine ⟨?_, rfl, ?_⟩
    · simp [Utf8.encode_append, one]
      omega
    · rw [← List.cons_append, List.getLast?_concat]

/-- A mark of one byte ends where the text behind it begins. -/
theorem inside?_of_marks (inner : Text) : inside? (mark :: (inner ++ [mark])) = some inner := by
  have cut := Text.slice?_append [mark] inner [mark]
  have start : (Utf8.encode [mark]).length = 1 := by simp [one]
  have stop : (Utf8.encode ([mark] ++ inner)).length =
      (Utf8.encode (mark :: (inner ++ [mark]))).length - 1 := by
    simp [Utf8.encode_append, one, Nat.add_comm]
  rw [start, stop] at cut
  exact cut

theorem between?_of_not_marked {raw : Text} (bare : ¬isMarked mark raw = true) :
    Text.between? mark raw = none := by
  rw [Option.eq_none_iff_forall_ne_some]
  intro inner found
  exact bare ((isMarked_iff one).2 ⟨inner, between?_eq_some_iff.1 found⟩)

end Marks

theorem sliceValue?_eq (raw : Text) : sliceValue? raw = some (value raw) := by
  rw [sliceValue?, value]
  split
  · next double =>
    obtain ⟨inner, rfl⟩ := (isMarked_iff rfl).1 double
    rw [inside?_of_marks rfl, between?_eq_some_iff.2 rfl]
    rfl
  · next bare =>
    rw [between?_of_not_marked rfl bare]
    split
    · next single =>
      obtain ⟨inner, rfl⟩ := (isMarked_iff rfl).1 single
      rw [inside?_of_marks rfl, between?_eq_some_iff.2 rfl]
      rfl
    · next bare =>
      rw [between?_of_not_marked rfl bare]
      rfl

theorem sliceAssignment?_eq (line : Text) : sliceAssignment? line = some (assignment? line) := by
  rw [sliceAssignment?, assignment?, ← unexported]
  split
  · rfl
  · cases Split.first? '=' (unexported line) with
    | none => rfl
    | some parts =>
        dsimp only
        split
        · rfl
        · rw [sliceValue?_eq]
          rfl

theorem sliceEntries?_eq (t : Text) : sliceEntries? t = some (entries t) := by
  have each : (fun line => sliceAssignment? (Text.trim line)) =
      fun line => pure (assignment? (Text.trim line)) := by
    funext line
    exact sliceAssignment?_eq (Text.trim line)
  rw [sliceEntries?, each, List.mapM_pure]
  change some (List.filterMap id _) = some _
  rw [List.filterMap_map]
  rfl

/-- Quotes that are alone or do not match, and characters of several bytes beside quotes. -/
example : sliceEntries? "A=\"\nB='\"\nexport =1\nC=\"é\\n\\t\"\nD='é'\nE=\"\\\"".toList =
    some [(['A'], ['"']), (['B'], "'\"".toList), (['C'], "é\n\\t".toList), (['D'], ['é']),
      (['E'], ['\\'])] := by decide

end EnvBundle.DotEnv
