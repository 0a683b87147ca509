import EnvBundle.Proofs.Environment.Stored
import EnvBundle.Proofs.Settings.Said
import EnvBundle.Proofs.World
import EnvBundle.Settings.File

/-!
Where settings come from. One file at most is chosen, and it has to be good; there is no second
choice. The file in the home directory is chosen as soon as it is there: if it cannot be read, there
are no settings.
-/
namespace EnvBundle.Settings

open Environment (filled?_eq_none_iff filled?_eq_some_iff)
open RecordField (Fits fits_iff misfit?)

/-- A file that settings cannot be taken from, and what is reported about it. -/
inductive Spoils (world : World) (path : Path) : Fault → Prop
  | unreadable {cause : SystemFault} (unreadable : world.readText path = .error cause) :
      Spoils world path (.unreadable cause)
  | malformed {t : Text} (readable : world.readText path = .ok t)
      (malformed : Toml.parse? t = none) : Spoils world path .malformed
  | misfit {t : Text} {document : Toml.Entries} {mismatch : Mismatch}
      (readable : world.readText path = .ok t) (decoded : Toml.parse? t = some document)
      (misfit : document.findSome? (misfit? schema) = some mismatch) :
      Spoils world path (.mismatch mismatch)
  | unusable {t : Text} {document : Toml.Entries} {fault : Fetch.Options.Fault}
      (readable : world.readText path = .ok t) (decoded : Toml.parse? t = some document)
      (fits : Fits schema document)
      (refused : (settingsOf document).fetch.validate = .error fault) :
      Spoils world path (.unusable fault)

/-- A file with this document, in which everything is good. -/
structure Documents (world : World) (path : Path) (document : Toml.Entries) : Prop where
  decoded : ∃ t, world.readText path = .ok t ∧ Toml.parse? t = some document
  fits : Fits schema document
  usable : (settingsOf document).fetch.validate = .ok ()

theorem load_of_spoils {world : World} {path : Path} {fault : Fault}
    (spoils : Spoils world path fault) : load world path = .error fault := by
  rw [load]
  cases spoils with
  | unreadable unreadable => rw [unreadable]
  | malformed readable malformed => simp only [readable, parse, malformed]
  | misfit readable decoded misfit =>
      simp only [readable]
      exact parse_of_misfit decoded misfit
  | unusable readable decoded fits refused =>
      simp only [readable]
      exact parse_of_unusable decoded fits refused

theorem load_of_documents {world : World} {path : Path} {document : Toml.Entries}
    (documents : Documents world path document) :
    load world path = .ok (settingsOf document) := by
  obtain ⟨t, readable, decoded⟩ := documents.decoded
  rw [load, readable]
  exact parse_of_usable decoded documents.fits documents.usable

theorem spoils_or_documents (world : World) (path : Path) :
    (∃ fault, Spoils world path fault) ∨ ∃ document, Documents world path document := by
  cases readable : world.readText path with
  | error cause => exact .inl ⟨_, .unreadable readable⟩
  | ok t =>
      cases decoded : Toml.parse? t with
      | none => exact .inl ⟨_, .malformed readable decoded⟩
      | some document =>
          cases misfit : document.findSome? (misfit? schema) with
          | some mismatch => exact .inl ⟨_, .misfit readable decoded misfit⟩
          | none =>
              have fits := fits_iff.2 misfit
              cases usable : (settingsOf document).fetch.validate with
              | error fault => exact .inl ⟨_, .unusable readable decoded fits usable⟩
              | ok _ => exact .inr ⟨document, ⟨t, readable, decoded⟩, fits, usable⟩

theorem load_eq_error_iff {world : World} {path : Path} {fault : Fault} :
    load world path = .error fault ↔ Spoils world path fault := by
  constructor
  · intro refused
    rcases spoils_or_documents world path with ⟨other, spoils⟩ | ⟨document, documents⟩
    · have same := (load_of_spoils spoils).symm.trans refused
      cases same
      exact spoils
    · cases (load_of_documents documents).symm.trans refused
  · exact load_of_spoils

theorem load_eq_ok_iff_documents {world : World} {path : Path} {settings : Settings} :
    load world path = .ok settings ↔
      ∃ document, Documents world path document ∧ settings = settingsOf document := by
  constructor
  · intro loaded
    rcases spoils_or_documents world path with ⟨fault, spoils⟩ | ⟨document, documents⟩
    · cases (load_of_spoils spoils).symm.trans loaded
    · have same := (load_of_documents documents).symm.trans loaded
      exact ⟨document, documents, (Except.ok.inj same).symm⟩
  · rintro ⟨document, documents, rfl⟩
    exact load_of_documents documents

/-- Where settings are taken from. -/
inductive Source where
  | flag (path : Path)
  | environment (path : Path)
  | home (path : Path)
  | builtIn

def Source.path? : Source → Option Path
  | flag path => some path
  | environment path => some path
  | home path => some path
  | builtIn => none

section

variable (world : World) (env : Environment)

/-- Where the user is at home: where the variable says if it says something, else where the account
is on record to be. -/
inductive Lives : Path → Prop
  | told {home : Path} (held : env.raw? "HOME".toList = some home) (filled : home ≠ []) :
      Lives home
  | recorded {home : Path} (untold : ∀ bytes, env.raw? "HOME".toList = some bytes → bytes = [])
      (known : world.accountHome = some home) (filled : home ≠ []) : Lives home

/-- The path of the settings file in the home directory, which may end in a separator itself. -/
inductive HomeFile : Path → Prop
  | below {home : Path} (lives : Lives world env home)
      (bare : home.getLast? ≠ some Path.separator) :
      HomeFile (home ++ Utf8.encode "/.envkey/config.toml".toList)
  | behind {home : Path} (lives : Lives world env home)
      (closed : home.getLast? = some Path.separator) :
      HomeFile (home ++ Utf8.encode ".envkey/config.toml".toList)

/-- The source that counts: the file of the flag, else the one that the variable names if that is
not empty, else the one in the home directory if it is a plain file. Nothing is asked of a file
here but to be there. -/
inductive Selects (named : Option Path) : Source → Prop
  | flag {path : Path} (given : named = some path) : Selects named (.flag path)
  | environment {path : Path} (unnamed : named = none)
      (held : env.raw? "ENVKEY_CONFIG".toList = some path) (filled : path ≠ []) :
      Selects named (.environment path)
  | home {path : Path} {content : Except SystemFault Bytes}
      {start : Option (Except SystemFault (List Bytes → Report))} (unnamed : named = none)
      (unset : ∀ bytes, env.raw? "ENVKEY_CONFIG".toList = some bytes → bytes = [])
      (default : HomeFile world env path) (there : world.look path = .ok (.plain content start)) :
      Selects named (.home path)
  | builtIn (unnamed : named = none)
      (unset : ∀ bytes, env.raw? "ENVKEY_CONFIG".toList = some bytes → bytes = [])
      (missing : ∀ path, HomeFile world env path →
        ∀ content start, world.look path ≠ .ok (.plain content start)) :
      Selects named .builtIn

/-- The file that settings are taken from, wherever it is chosen. -/
def SelectsFile (named : Option Path) (path : Path) : Prop :=
  ∃ source, Selects world env named source ∧ source.path? = some path

end

section

variable {named : Option Path} {world : World} {env : Environment}

theorem home?_eq_some_iff {home : Path} : home? world env = some home ↔ Lives world env home := by
  rw [home?, Option.or_eq_some_iff, filled?_eq_some_iff, filled?_eq_none_iff,
    Option.filter_eq_some_iff, bne_iff_ne]
  constructor
  · rintro (⟨held, filled⟩ | ⟨untold, known, filled⟩)
    · exact .told held filled
    · exact .recorded untold known filled
  · intro lives
    cases lives with
    | told held filled => exact .inl ⟨held, filled⟩
    | recorded untold known filled => exact .inr ⟨untold, known, filled⟩

theorem defaultPath?_eq_some_iff {path : Path} :
    defaultPath? world env = some path ↔ HomeFile world env path := by
  rw [defaultPath?, Option.map_eq_some_iff]
  constructor
  · rintro ⟨home, found, rfl⟩
    have lives := home?_eq_some_iff.1 found
    have filled : home ≠ [] := by cases lives <;> assumption
    by_cases closed : home.getLast? = some Path.separator
    · rw [Path.join, if_pos (.inr closed)]
      exact .behind lives closed
    · rw [Path.join, if_neg (not_or.2 ⟨filled, closed⟩)]
      exact .below lives closed
  · intro default
    cases default with
    | @below home lives bare =>
        have filled : home ≠ [] := by cases lives <;> assumption
        refine ⟨home, home?_eq_some_iff.2 lives, ?_⟩
        rw [Path.join, if_neg (not_or.2 ⟨filled, bare⟩)]
        rfl
    | @behind home lives closed =>
        refine ⟨home, home?_eq_some_iff.2 lives, ?_⟩
        rw [Path.join, if_pos (.inr closed)]
        rfl

theorem Selects.file?_eq {source : Source} (selects : Selects world env named source) :
    file? world env named = source.path? := by
  cases selects with
  | flag given => rw [given]; rfl
  | environment unnamed held filled =>
      have found : env.filled? fileVariable = some _ := filled?_eq_some_iff.2 ⟨held, filled⟩
      rw [unnamed, file?, found]
      rfl
  | home unnamed unset default there =>
      have unfilled : env.filled? fileVariable = none := filled?_eq_none_iff.2 unset
      rw [unnamed, file?, unfilled]
      exact Option.filter_eq_some_iff.2
        ⟨defaultPath?_eq_some_iff.2 default, World.isFile_iff.2 ⟨_, _, there⟩⟩
  | builtIn unnamed unset missing =>
      have unfilled : env.filled? fileVariable = none := filled?_eq_none_iff.2 unset
      rw [unnamed, file?, unfilled, Source.path?, Option.filter_eq_none_iff]
      intro path default plain
      obtain ⟨content, start, there⟩ := World.isFile_iff.1 plain
      exact missing path (defaultPath?_eq_some_iff.1 default) content start there

variable (named world env) in
theorem exists_selects : ∃ source, Selects world env named source := by
  cases given : named with
  | some path => exact ⟨_, .flag rfl⟩
  | none =>
      cases held : env.filled? fileVariable with
      | some path =>
          obtain ⟨found, filled⟩ := filled?_eq_some_iff.1 held
          exact ⟨_, .environment rfl found filled⟩
      | none =>
          have unset := filled?_eq_none_iff.1 held
          by_cases there : ∃ path, HomeFile world env path ∧
              ∃ content start, world.look path = .ok (.plain content start)
          · obtain ⟨path, default, content, start, there⟩ := there
            exact ⟨_, .home rfl unset default there⟩
          · refine ⟨_, .builtIn rfl unset ?_⟩
            intro path default content start plain
            exact there ⟨path, default, content, start, plain⟩

theorem Selects.unique {first second : Source} (left : Selects world env named first)
    (right : Selects world env named second) : first = second := by
  cases left with
  | flag given =>
      cases right with
      | flag given' => rw [Option.some.inj (given.symm.trans given')]
      | environment unnamed _ _ => cases given.symm.trans unnamed
      | home unnamed _ _ _ => cases given.symm.trans unnamed
      | builtIn unnamed _ _ => cases given.symm.trans unnamed
  | environment unnamed held filled =>
      cases right with
      | flag given => cases given.symm.trans unnamed
      | environment _ held' _ => rw [Option.some.inj (held.symm.trans held')]
      | home _ unset _ _ => exact absurd (unset _ held) filled
      | builtIn _ unset _ => exact absurd (unset _ held) filled
  | home unnamed unset default there =>
      cases right with
      | flag given => cases given.symm.trans unnamed
      | environment _ held filled => exact absurd (unset _ held) filled
      | home _ _ default' _ =>
          have same := (defaultPath?_eq_some_iff.2 default).symm.trans
            (defaultPath?_eq_some_iff.2 default')
          rw [Option.some.inj same]
      | builtIn _ _ missing => exact absurd there (missing _ default _ _)
  | builtIn unnamed unset missing =>
      cases right with
      | flag given => cases given.symm.trans unnamed
      | environment _ held filled => exact absurd (unset _ held) filled
      | home _ _ default there => exact absurd there (missing _ default _ _)
      | builtIn _ _ _ => rfl

theorem file?_eq_some_iff {path : Path} :
    file? world env named = some path ↔ SelectsFile world env named path := by
  constructor
  · intro chosen
    obtain ⟨source, selects⟩ := exists_selects named world env
    exact ⟨source, selects, selects.file?_eq.symm.trans chosen⟩
  · rintro ⟨source, selects, kept⟩
    exact selects.file?_eq.trans kept

theorem file?_eq_none_iff : file? world env named = none ↔ Selects world env named .builtIn := by
  constructor
  · intro unchosen
    obtain ⟨source, selects⟩ := exists_selects named world env
    have fileless := selects.file?_eq.symm.trans unchosen
    cases source with
    | builtIn => exact selects
    | flag path => cases fileless
    | environment path => cases fileless
    | home path => cases fileless
  · exact Selects.file?_eq

end

/-- The document of a source. Without a file nothing is said. -/
inductive Provides (world : World) : Source → Toml.Entries → Prop
  | builtIn : Provides world .builtIn []
  | file {source : Source} {path : Path} {document : Toml.Entries}
      (kept : source.path? = some path) (documents : Documents world path document) :
      Provides world source document

end EnvBundle.Settings
