import EnvBundle.Proofs.DotEnv.Written
import EnvBundle.Proofs.Shell.Standard
import Mathlib.Data.List.Basic

/-!
Variables written one a line can be told apart again, whatever their values are. A value may have
line feeds and quotes and look like further lines, so the lines of the text are no help. But a name
ends at its first equals sign, and a reader that takes a value as a word stops where it ends.
-/
namespace EnvBundle.Shell

open DotEnv (written render_dotEnv render_cons)

/-- An escaped value ends where a reader of words says, so what follows cannot be a part of it. -/
theorem escape_append_inj {value other rest tail : Text} (ended : Ended rest) (ended' : Ended tail)
    (same : escape value ++ rest = escape other ++ tail) : value = other ∧ rest = tail := by
  have read := Reads.escape value rest
  rw [same, Reads.escape other tail, wordFrom_of_ended ended, wordFrom_of_ended ended'] at read
  obtain ⟨words, rests⟩ := Prod.mk.inj (Option.some.inj read)
  rw [List.append_nil, List.append_nil] at words
  have values := congrArg Word.value words
  rw [value_escapedWord, value_escapedWord] at values
  exact ⟨values.symm, rests.symm⟩

theorem written_append_inj {e f : Text × Text} (named : '=' ∉ e.1) (named' : '=' ∉ f.1)
    {rest tail : Text}
    (same : written e.1 e.2 ++ '\n' :: rest = written f.1 f.2 ++ '\n' :: tail) :
    e = f ∧ rest = tail := by
  rw [written, written, List.append_assoc, List.append_assoc] at same
  have cut := congrArg (Split.first? '=') same
  simp only [List.cons_append, Split.first?_append _ named, Split.first?_append _ named',
    Option.some.injEq, Prod.mk.injEq] at cut
  obtain ⟨names, behind⟩ := cut
  obtain ⟨values, rests⟩ := escape_append_inj (ended_cons rfl rest) (ended_cons rfl tail) behind
  exact ⟨Prod.ext names values, (List.cons.inj rests).2⟩

/-- A text that begins with the lines of some variables is of variables that begin with these. -/
theorem prefix_of_render_prefix {entries others : List (Text × Text)}
    (named : ∀ e ∈ entries, '=' ∉ e.1) (named' : ∀ e ∈ others, '=' ∉ e.1)
    (begins : render entries .dotEnv <+: render others .dotEnv) : entries <+: others := by
  induction entries generalizing others with
  | nil => exact List.nil_prefix
  | cons e entries ih =>
      obtain ⟨first, named⟩ := List.forall_mem_cons.1 named
      obtain ⟨rest, same⟩ := begins
      rw [render_cons] at same
      cases others with
      | nil => simp [render] at same
      | cons f others =>
          obtain ⟨first', behind⟩ := List.forall_mem_cons.1 named'
          rw [render_cons, List.append_assoc, List.cons_append] at same
          obtain ⟨rfl, later⟩ := written_append_inj first first' same
          exact List.cons_prefix_cons.2 ⟨rfl, ih named behind ⟨rest, later⟩⟩

theorem render_prefix {entries others : List (Text × Text)} (begins : entries <+: others) :
    render entries .dotEnv <+: render others .dotEnv := by
  obtain ⟨more, rfl⟩ := begins
  rw [render_dotEnv, render_dotEnv, List.flatMap_append]
  exact List.prefix_append _ _

/-- The lines of variables with proper names give the variables, name by name and value by value.
No values make up a text that is also the text of others, and none hides what is written before or
behind it: a text begins with another only if it is of the same variables and then some. -/
theorem assignment_lines_tell_apart {entries others : List (Text × Text)}
    (named : ∀ e ∈ entries, Variable.checkName e.1 = .ok ())
    (named' : ∀ e ∈ others, Variable.checkName e.1 = .ok ()) :
    (render entries .dotEnv = render others .dotEnv ↔ entries = others) ∧
      (render entries .dotEnv <+: render others .dotEnv ↔ entries <+: others) := by
  have proper : ∀ e ∈ entries, '=' ∉ e.1 := fun e member =>
    (Variable.sound_of_checkName (named e member)).ne_equals
  have proper' : ∀ e ∈ others, '=' ∉ e.1 := fun e member =>
    (Variable.sound_of_checkName (named' e member)).ne_equals
  refine ⟨⟨fun same => ?_, fun same => by rw [same]⟩,
    prefix_of_render_prefix proper proper', render_prefix⟩
  have begins : entries <+: others :=
    prefix_of_render_prefix proper proper' (same ▸ List.prefix_rfl)
  have begins' : others <+: entries :=
    prefix_of_render_prefix proper' proper (same ▸ List.prefix_rfl)
  exact begins.eq_of_length_le begins'.length_le

/-- One variable with a value that looks like the end of its line and the next line. -/
def forgedEntries : List (Text × Text) := [(['A'], "1'\nexport B='2".toList)]

def plainEntries : List (Text × Text) := [(['A'], ['1']), (['B'], ['2'])]

/-- The lines with unescaped values are the same, and those with escaped values are not. -/
theorem assignment_lines_tell_apart_forged :
    render forgedEntries .pamCompatible = render plainEntries .pamCompatible ∧
      render forgedEntries .dotEnv ≠ render plainEntries .dotEnv ∧
      ¬render plainEntries .dotEnv <+: render forgedEntries .dotEnv := by
  have named : ∀ e ∈ forgedEntries, Variable.checkName e.1 = .ok () := by decide
  have named' : ∀ e ∈ plainEntries, Variable.checkName e.1 = .ok () := by decide
  refine ⟨by decide, ?_, ?_⟩
  · exact mt (assignment_lines_tell_apart named named').1.1 (by decide)
  · exact mt (assignment_lines_tell_apart named' named).2.1 (by decide)

end EnvBundle.Shell
