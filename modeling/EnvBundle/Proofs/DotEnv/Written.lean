import EnvBundle.Loader
import EnvBundle.Proofs.Bundle
import EnvBundle.Proofs.DotEnv.Lines
import EnvBundle.Proofs.DotEnv.Weight
import EnvBundle.Proofs.World

/-!
What becomes of a bundle that is written to an environment file and read again. The writer puts
quotes inside a value as a shell wants them and lets a value have several lines; the reader knows
neither, and takes a name with a number sign for a comment. Nothing else is lost.
-/
namespace EnvBundle.DotEnv

/-- A line of a written file, without its line feed. -/
def written (name value : Text) : Text := name ++ '=' :: Shell.escape value

/-- A value with its quotes as they are written. -/
def requoted (value : Text) : Text := value.flatMap Shell.escapeChar

theorem render_dotEnv (entries : List (Text × Text)) :
    Shell.render entries .dotEnv = entries.flatMap fun e => written e.1 e.2 ++ ['\n'] := by
  cases entries <;> rfl

theorem render_cons (e : Text × Text) (entries : List (Text × Text)) :
    Shell.render (e :: entries) .dotEnv =
      written e.1 e.2 ++ '\n' :: Shell.render entries .dotEnv := by
  rw [render_dotEnv, render_dotEnv, List.flatMap_cons, List.append_assoc]
  rfl

theorem weight_render (entries : List (Text × Text)) :
    weight (Shell.render entries .dotEnv) = weight (contents entries) + 2 * entries.length := by
  induction entries with
  | nil => rfl
  | cons e entries ih =>
      have equals : isSolid '=' = true := rfl
      have feed : isSolid '\n' = true := rfl
      rw [render_cons, weight_append, weight_cons, if_pos feed, written, weight_append, weight_cons,
        if_pos equals, weight_escape, ih, contents_cons, weight_append, weight_append,
        List.length_cons]
      omega

theorem count_escape (value : Text) : (Shell.escape value).count '\n' = value.count '\n' :=
  countP_escape rfl rfl value

theorem count_render (entries : List (Text × Text)) :
    (Shell.render entries .dotEnv).count '\n' =
      (contents entries).count '\n' + entries.length := by
  induction entries with
  | nil => rfl
  | cons e entries ih =>
      rw [render_cons, List.count_append, List.count_cons_self, written, List.count_append,
        List.count_cons_of_ne (by decide), count_escape, ih, contents_cons, List.count_append,
        List.count_append, List.length_cons]
      omega

/-- A file that is read back has no value of several lines: its weight leaves room for as many line
feeds as there are variables. -/
theorem oneLine_of_entries_render {entries : List (Text × Text)}
    (same : DotEnv.entries (Shell.render entries .dotEnv) = entries) :
    ∀ e ∈ entries, '\n' ∉ e.2 := by
  have bound := weight_contents_entries_le (Shell.render entries .dotEnv)
  rw [same, weight_render, count_render] at bound
  have free : '\n' ∉ contents entries := List.count_eq_zero.1 (by omega)
  intro e member newline
  exact free (List.mem_flatMap.2 ⟨e, member, List.mem_append_right e.1 newline⟩)

theorem newline_notMem_written {name value : Text} (sound : Variable.Sound name value)
    (oneLine : '\n' ∉ value) : '\n' ∉ written name value := by
  have escaped : '\n' ∉ Shell.escape value := by
    rw [← List.count_eq_zero, count_escape, List.count_eq_zero]
    exact oneLine
  have named : '\n' ∉ name := sound.ne_blank rfl
  exact List.not_mem_append named (List.not_mem_cons_of_ne_of_not_mem (by decide) escaped)

theorem unexported_written {name value : Text} (sound : Variable.Sound name value) :
    unexported (written name value) = written name value := by
  apply unexported_of_bare
  intro lead
  have blank : ' ' ∉ name := sound.ne_blank rfl
  exact blank (lead.subset (by decide))

/-- There are no escapes behind a single quote. -/
theorem value_quote (rest : Text) :
    value ('\'' :: rest) = (Text.between? '\'' ('\'' :: rest)).getD ('\'' :: rest) := by
  have double : Text.between? '"' ('\'' :: rest) = none := by
    rw [Text.between?, if_neg]
    rintro ⟨first, _⟩
    cases first
  rw [value, double]

/-- Only the outermost quotes are taken away. -/
theorem value_rawQuote (raw : Text) : value (Shell.rawQuote raw) = raw := by
  rw [Shell.rawQuote, List.cons_append, value_quote, between?_eq_some_iff.2 rfl]
  rfl

theorem value_escape (raw : Text) : value (Shell.escape raw) = requoted raw :=
  value_rawQuote (requoted raw)

theorem trim_name {name raw : Text} (sound : Variable.Sound name raw) : Text.trim name = name :=
  Text.trim_of_solid fun _ member => sound.not_blank member

theorem assignable_of_sound {name raw : Text} (sound : Variable.Sound name raw) :
    Assignable name where
  filled := sound.name_ne_nil
  trimmed := trim_name sound
  free := sound.ne_equals
  oneLine := sound.ne_blank rfl

/-- A variable's line is a comment if its name begins with a number sign. Otherwise it assigns the
value with its quotes as they were written. -/
theorem assignment?_written {name raw : Text} (sound : Variable.Sound name raw) :
    assignment? (Text.trim (written name raw)) =
      if name.head? = some '#' then none else some (name, requoted raw) := by
  obtain ⟨c, rest, rfl⟩ := List.exists_cons_of_ne_nil sound.name_ne_nil
  have kept : Text.trim (written (c :: rest) raw) = written (c :: rest) raw := by
    have ends := Text.trim_of_ends (sound.not_blank List.mem_cons_self)
      (show Text.isBlank '\'' = false by decide) (rest ++ '=' :: '\'' :: requoted raw)
    simpa [written, Shell.escape, requoted] using ends
  rw [kept]
  split
  · next comment =>
    exact if_pos (.inr comment)
  · next plain =>
    have value : Text.trim (Shell.escape raw) = Shell.escape raw :=
      Text.trim_of_ends (by decide) (by decide) (requoted raw)
    have first : (written (c :: rest) raw).head? ≠ some '#' := plain
    rw [assignment?_of_assignable (assignable_of_sound sound) first (unexported_written sound),
      value, value_escape]

theorem length_requoted (raw : Text) :
    (requoted raw).length = raw.length + 4 * raw.count '\'' := by
  induction raw with
  | nil => rfl
  | cons c raw ih =>
      rw [requoted, List.flatMap_cons, List.length_append, ← requoted, ih, Shell.escapeChar]
      by_cases quote : c = '\''
      · rw [if_pos quote, quote, List.count_cons_self, List.length_cons]
        change 5 + (raw.length + 4 * raw.count '\'') = _
        omega
      · rw [if_neg quote, List.count_cons_of_ne quote, List.length_singleton, List.length_cons]
        omega

theorem requoted_eq_self_iff {raw : Text} : requoted raw = raw ↔ '\'' ∉ raw := by
  constructor
  · intro same
    have length := length_requoted raw
    rw [same] at length
    exact List.count_eq_zero.1 (by omega)
  · intro unquoted
    induction raw with
    | nil => rfl
    | cons c raw ih =>
        obtain ⟨first, rest⟩ := List.ne_and_not_mem_of_not_mem_cons unquoted
        rw [requoted, List.flatMap_cons, ← requoted, ih rest, Shell.escapeChar,
          if_neg (Ne.symm first), List.singleton_append]

/-- Values of one line each come back with their quotes as they were written, except that names
with a number sign in front are lost. -/
theorem entries_render {entries : List (Text × Text)}
    (sound : ∀ e ∈ entries, Variable.Sound e.1 e.2) (oneLine : ∀ e ∈ entries, '\n' ∉ e.2) :
    DotEnv.entries (Shell.render entries .dotEnv) =
      (entries.filter fun e => e.1.head? != some '#').map fun e => (e.1, requoted e.2) := by
  induction entries with
  | nil => rfl
  | cons e entries ih =>
      obtain ⟨first, sound⟩ := List.forall_mem_cons.1 sound
      obtain ⟨line, oneLine⟩ := List.forall_mem_cons.1 oneLine
      rw [render_cons, entries_append, entries_of_notMem (newline_notMem_written first line),
        assignment?_written first, ih sound oneLine]
      by_cases comment : e.1.head? = some '#'
      · rw [if_pos comment, List.filter_cons_of_neg (by simp [comment])]
        rfl
      · rw [if_neg comment, List.filter_cons_of_pos (by simp [comment]), List.map_cons]
        rfl

/-- A variable that its line in an environment file gives back as it was. -/
structure Plain (name value : Text) : Prop where
  uncommented : name.head? ≠ some '#'
  unquoted : '\'' ∉ value
  oneLine : '\n' ∉ value

instance (name value : Text) : Decidable (Plain name value) :=
  decidable_of_iff (name.head? ≠ some '#' ∧ '\'' ∉ value ∧ '\n' ∉ value)
    ⟨fun h => ⟨h.1, h.2.1, h.2.2⟩, fun h => ⟨h.uncommented, h.unquoted, h.oneLine⟩⟩

theorem entries_render_eq_iff {entries : List (Text × Text)}
    (sound : ∀ e ∈ entries, Variable.Sound e.1 e.2) :
    DotEnv.entries (Shell.render entries .dotEnv) = entries ↔ ∀ e ∈ entries, Plain e.1 e.2 := by
  constructor
  · intro same
    have oneLine := oneLine_of_entries_render same
    rw [entries_render sound oneLine] at same
    -- A comment among the lines would leave fewer variables than were written.
    have all : ∀ e ∈ entries, (e.1.head? != some '#') = true := by
      have length := congrArg List.length same
      rw [List.length_map] at length
      exact List.length_filter_eq_length_iff.1 length
    rw [List.filter_eq_self.2 all] at same
    have each : ∀ e ∈ entries, (e.1, requoted e.2) = e :=
      List.map_inj_left.1 (same.trans (List.map_id entries).symm)
    intro e member
    refine ⟨bne_iff_ne.1 (all e member), ?_, oneLine e member⟩
    exact requoted_eq_self_iff.1 (congrArg Prod.snd (each e member))
  · intro plain
    rw [entries_render sound fun e member => (plain e member).oneLine,
      List.filter_eq_self.2 fun e member => bne_iff_ne.2 (plain e member).uncommented]
    refine (List.map_congr_left ?_).trans (List.map_id entries)
    intro e member
    rw [requoted_eq_self_iff.2 (plain e member).unquoted]
    rfl

/-- A bundle that is saved to an environment file can always be read, and it comes back unchanged
exactly if no name begins with a number sign, and no value has a single quote or a line feed. -/
theorem saved_reads_back_iff {t : Text} {bundle : Bundle} (parsed : Bundle.parse t = .ok bundle)
    {world : World} {path : Path}
    (saved : world.read path = .ok (Utf8.encode (Shell.render bundle.entries .dotEnv))) :
    ∃ entries, (world.readText path).map DotEnv.entries = .ok entries ∧
      (entries = bundle.entries ↔ ∀ e ∈ bundle.entries, Plain e.1 e.2) := by
  refine ⟨_, congrArg (Except.map DotEnv.entries) (World.readText_of_encoded saved), ?_⟩
  exact entries_render_eq_iff (Bundle.sound_of_parse parsed)

theorem saved_marks_read_back :
    ∃ bundle, Bundle.parse "\x7b\"A\":\"=\\\"#\\r\",\"B#\":\" \"\x7d".toList = .ok bundle ∧
      bundle.entries = [(['A'], "=\"#\r".toList), (['B', '#'], [' '])] ∧
      ((World.holding (Shell.render bundle.entries .dotEnv)).readText dotEnvPath).map
        DotEnv.entries = .ok bundle.entries := by
  have read : Json.object "\x7b\"A\":\"=\\\"#\\r\",\"B#\":\" \"\x7d".toList =
      .ok [(['A'], "=\"#\r".toList), (['B', '#'], [' '])] := by decide +kernel
  have parsed := Bundle.parse_of_object read (by decide)
  obtain ⟨entries, found, same⟩ := saved_reads_back_iff parsed (World.read_holding _ dotEnvPath)
  have plain : ∀ e ∈ [(['A'], "=\"#\r".toList), (['B', '#'], [' '])], Plain e.1 e.2 := by decide
  exact ⟨_, parsed, rfl, found.trans (congrArg _ (same.2 plain))⟩

/-- A single quote comes back as the five characters it was written with. -/
theorem saved_quote_reads_back_changed :
    ∃ bundle, Bundle.parse "\x7b\"A\":\"it's\"\x7d".toList = .ok bundle ∧
      ∃ entries, ((World.holding (Shell.render bundle.entries .dotEnv)).readText dotEnvPath).map
          DotEnv.entries = .ok entries ∧
        entries = [(['A'], "it'\"'\"'s".toList)] ∧ entries ≠ bundle.entries := by
  have read : Json.object "\x7b\"A\":\"it's\"\x7d".toList = .ok [(['A'], "it's".toList)] := by
    decide +kernel
  have parsed := Bundle.parse_of_object read (by decide)
  have saved := World.readText_of_encoded (World.read_holding
    (Shell.render (NameMap.ofList [(['A'], "it's".toList)]).entries .dotEnv) dotEnvPath)
  refine ⟨_, parsed, _, congrArg (Except.map DotEnv.entries) saved, ?_, ?_⟩
  · decide
  · decide

end EnvBundle.DotEnv
