import EnvBundle.Proofs.Bundle
import EnvBundle.Proofs.Shell.Reading
import EnvBundle.Split
import Mathlib.Data.List.Forall2

/-!
Variables as one `export` command. A shell reads exactly one command in it, and nothing of a name
or a value stands outside quotes, so nothing in them is ever more than text.
-/
namespace EnvBundle.Shell

def bareWord (t : Text) : Word := t.map fun c => (c, .bare)

/-- The word of a variable, its name between single quotes and its value escaped. -/
def assignmentWord (name value : Text) : Word :=
  name.map (fun c => (c, .single)) ++ ('=', .bare) :: escapedWord value

/-- The word `name=value`, in which only the equals sign stands outside quotes. -/
def Word.Assigns (word : Word) (name value : Text) : Prop :=
  ∃ left right : Word, word = left ++ ('=', .bare) :: right ∧
    left.value = name ∧ right.value = value ∧ ∀ c ∈ left ++ right, c.2 = .single ∨ c.2 = .double

theorem value_map_quoting (t : Text) (quoting : Char → Quoting) :
    Word.value (t.map fun c => (c, quoting c)) = t := by
  rw [Word.value, List.map_map]
  exact List.map_id t

theorem value_append (left right : Word) :
    (left ++ right : Word).value = left.value ++ right.value := List.map_append

@[simp] theorem value_bareWord (t : Text) : (bareWord t).value = t :=
  value_map_quoting t fun _ => .bare

@[simp] theorem value_escapedWord (value : Text) : (escapedWord value).value = value :=
  value_map_quoting value _

@[simp] theorem value_assignmentWord (name value : Text) :
    (assignmentWord name value).value = name ++ '=' :: value := by
  rw [assignmentWord, value_append, value_map_quoting name fun _ => .single]
  change name ++ '=' :: (escapedWord value).value = _
  rw [value_escapedWord]

theorem assigns_assignmentWord (name value : Text) :
    (assignmentWord name value).Assigns name value := by
  refine ⟨_, _, rfl, value_map_quoting name fun _ => .single, value_map_quoting value _, ?_⟩
  intro c member
  rcases List.mem_append.1 member with inName | inValue
  · obtain ⟨d, _, rfl⟩ := List.mem_map.1 inName
    exact .inl rfl
  · obtain ⟨d, _, rfl⟩ := List.mem_map.1 inValue
    by_cases quote : d = '\''
    · exact .inr (if_pos quote)
    · exact .inl (if_neg quote)

theorem spells_word {name : Text} (unquoted : '\'' ∉ name) (value : Text) :
    Spells (word name value) (assignmentWord name value) := by
  refine ⟨⟨'\'', _, rfl, rfl, by decide⟩, ?_⟩
  have equals : step .bare '=' = .go [('=', .bare)] .bare := rfl
  exact (Reads.rawQuote unquoted).append (Reads.cons equals (Reads.escape value))

theorem spells_export : Spells "export".toList (bareWord "export".toList) := by
  refine ⟨⟨'e', "xport".toList, rfl, rfl, by decide⟩, Reads.bare ?_⟩
  have all : "export".toList.all (fun c => step .bare c = .go [(c, .bare)] .bare) = true := by
    decide
  intro c member
  exact of_decide_eq_true (List.all_eq_true.1 all c member)

theorem render_standard_eq_joinWith {entries : List (Text × Text)} (nonempty : entries ≠ []) :
    render entries .standard =
      Text.joinWith ' ' ("export".toList :: entries.map fun e => word e.1 e.2) := by
  cases entries with
  | nil => exact absurd rfl nonempty
  | cons e entries => rfl

theorem commands?_render_standard {entries : List (Text × Text)} (nonempty : entries ≠ [])
    (unquoted : ∀ e ∈ entries, '\'' ∉ e.1) :
    commands? (render entries .standard) =
      some [bareWord "export".toList :: entries.map fun e => assignmentWord e.1 e.2] := by
  have spelled : ∀ w ∈ ("export".toList, bareWord "export".toList) ::
      entries.map (fun e => (word e.1 e.2, assignmentWord e.1 e.2)), Spells w.1 w.2 := by
    refine List.forall_mem_cons.2 ⟨spells_export, ?_⟩
    intro w member
    obtain ⟨e, inside, rfl⟩ := List.mem_map.1 member
    exact spells_word (unquoted e inside) e.2
  have line := wordLines_joinWith (List.cons_ne_nil _ _) spelled
  simp only [List.map_cons, List.map_map, Function.comp_def] at line
  rw [commands?, render_standard_eq_joinWith nonempty, line]
  rfl

/-- What the words after `export` assign, each cut at its first equals sign. A text without
commands assigns nothing. -/
def assignments? (t : Text) : Option (List (Text × Text)) :=
  match commands? t with
  | some [] => some []
  | some [first :: words] =>
    if first.value = "export".toList then words.mapM fun word => Split.first? '=' word.value
    else none
  | _ => none

theorem mapM_first?_assignmentWord {entries : List (Text × Text)}
    (named : ∀ e ∈ entries, '=' ∉ e.1) :
    (entries.map fun e => assignmentWord e.1 e.2).mapM (fun word => Split.first? '=' word.value) =
      some entries := by
  induction entries with
  | nil => rfl
  | cons e entries ih =>
      obtain ⟨first, rest⟩ := List.forall_mem_cons.1 named
      rw [List.map_cons, List.mapM_cons, value_assignmentWord, Split.first?_append e.2 first,
        ih rest]
      rfl

theorem assignments?_render_standard {entries : List (Text × Text)}
    (named : ∀ e ∈ entries, '=' ∉ e.1) (unquoted : ∀ e ∈ entries, '\'' ∉ e.1) :
    assignments? (render entries .standard) = some entries := by
  cases entries with
  | nil =>
      have none : commands? [] = some [] := by rw [commands?, wordLines_nil]; rfl
      simp only [assignments?, render, none]
  | cons e entries =>
      have read := commands?_render_standard (List.cons_ne_nil e entries) unquoted
      simp only [assignments?, read, value_bareWord, if_pos]
      exact mapM_first?_assignmentWord named

theorem render_standard_ne_failureText (entries : List (Text × Text)) :
    render entries .standard ≠ failureText := by
  cases entries with
  | nil => decide
  | cons e entries =>
      intro same
      have second : some 'x' = failureText[1]? := congrArg (fun t : Text => t[1]?) same
      exact absurd second (by decide)

/-- Any part of a bundle that was read is one `export` command with a word for every variable, in
the order of the names. Every character of a name or a value stands between quotes. -/
theorem render_standard_is_one_command {t : Text} {bundle : Bundle}
    (parsed : Bundle.parse t = .ok bundle) {entries : List (Text × Text)}
    (part : entries.Sublist bundle.entries) (nonempty : entries ≠ []) :
    Ascending entries ∧ ∃ words : List Word,
      commands? (render entries .standard) = some [bareWord "export".toList :: words] ∧
      words.map Word.value = entries.map (fun e => e.1 ++ '=' :: e.2) ∧
      List.Forall₂ (fun word e => word.Assigns e.1 e.2) words entries := by
  have unquoted : ∀ e ∈ entries, '\'' ∉ e.1 := by
    intro e member
    exact (Bundle.sound_of_parse parsed e (part.subset member)).ne_quote
  refine ⟨bundle.ascending.sublist part, _, commands?_render_standard nonempty unquoted, ?_, ?_⟩
  · simp only [List.map_map, Function.comp_def, value_assignmentWord]
  · rw [List.forall₂_map_left_iff, List.forall₂_same]
    intro e _
    exact assigns_assignmentWord e.1 e.2

theorem render_standard_is_one_command_hostile :
    ∃ bundle, Bundle.parse "\x7b\"it\":\"it's\",\"$(x)\":\"`;\\n#\"\x7d".toList = .ok bundle ∧
      ∃ words, commands? (render bundle.entries .standard) =
          some [bareWord "export".toList :: words] ∧
        words.map Word.value = ["$(x)=`;\n#".toList, "it=it's".toList] := by
  have read : Json.object "\x7b\"it\":\"it's\",\"$(x)\":\"`;\\n#\"\x7d".toList =
      .ok [("it".toList, "it's".toList), ("$(x)".toList, "`;\n#".toList)] := by decide +kernel
  have parsed := Bundle.parse_of_object read (by decide)
  obtain ⟨_, words, command, values, _⟩ :=
    render_standard_is_one_command parsed (List.Sublist.refl _) (by decide)
  exact ⟨_, parsed, words, command, values⟩

end EnvBundle.Shell
