import EnvBundle.Binary64
import EnvBundle.Text

/-!
TOML values and the tables that make up a document. A table remembers how it came about, for that
decides what may still be added to it; the rules are those of the `toml` library.
-/
namespace EnvBundle.Toml

inductive Origin where
  /-- By a header of its own, or as the document itself. -/
  | header
  /-- As the parent of a header. -/
  | implied
  /-- By a key with dots. -/
  | dotted
  /-- Between braces. Nothing can be added. -/
  | inline
  deriving DecidableEq, Repr

inductive Value where
  | text (value : Text)
  | integer (value : Int)
  | real (value : Binary64)
  | boolean (value : Bool)
  | datetime
  | array (values : List Value)
  | table (origin : Origin) (entries : List (Text × Value))
  /-- The tables under one doubly bracketed header, each a list of entries. -/
  | tables (all : List (List (Text × Value)))

/-- Entries in the order of the document. -/
abbrev Entries := List (Text × Value)

namespace Entries

/-- Replaces the value of a name in its place, or adds the name at the end. -/
def put (name : Text) (value : Value) : Entries → Entries
  | [] => [(name, value)]
  | (key, old) :: rest =>
    if key = name then (key, value) :: rest else (key, old) :: put name value rest

def remove (name : Text) (entries : Entries) : Entries := entries.filter fun e => e.1 != name

end Entries

/-- A place inside a document: the entries of a table and how it came about. -/
structure Level where
  origin : Origin
  entries : Entries

/-- Goes down a path and changes the table at its end, which may also yield something. Tables on
the way that are not there are made. By a key with dots only such tables can be entered as have no
header of their own; in a list of tables the last one is entered. -/
def descend {α : Type} (byDots : Bool) (change : Level → Option (α × Level)) (level : Level) :
    List Text → Option (α × Level)
  | [] => change level
  | name :: path =>
    match level.entries.lookup name with
    | none =>
      (descend byDots change ⟨if byDots then .dotted else .implied, []⟩ path).map
        fun (yielded, below) => (yielded,
          { level with entries := level.entries.put name (.table below.origin below.entries) })
    | some (.table origin entries) =>
      if origin = .inline ∨ (byDots ∧ origin = .header) then none
      else (descend byDots change ⟨origin, entries⟩ path).map fun (yielded, below) => (yielded,
        { level with entries := level.entries.put name (.table below.origin below.entries) })
    | some (.tables all) =>
      (descend byDots change ⟨.header, all.getLastD []⟩ path).map fun (yielded, below) => (yielded,
        { level with
          entries := level.entries.put name (.tables (all.dropLast ++ [below.entries])) })
    | some _ => none

/-- Adds an entry under a key. A table of dotted keys grows by dotted keys alone, any other one by
plain keys, and no name is given twice. -/
def addEntry (path : List Text) (name : Text) (value : Value) (level : Level) : Option Level :=
  (descend true (fun below =>
    if decide (below.origin = .dotted) = path.isEmpty then none
    else if (below.entries.lookup name).isSome then none
    else some ((), { below with entries := below.entries ++ [(name, value)] })) level path).map
      Prod.snd

/-- The entries of a table between braces. -/
def inlineTable (pairs : List ((List Text × Text) × Value)) : Option Value :=
  (pairs.foldlM (fun level pair => addEntry pair.1.1 pair.1.2 pair.2 level)
    (⟨.header, []⟩ : Level)).map fun level => .table .inline level.entries

end EnvBundle.Toml
