import EnvBundle.Toml.Scalar

/-!
TOML documents: values that hold values, and the lines that put them into tables. The format is
TOML 1.0 as the `toml` library reads it. A fault has no description here, for the place of use
reports only that there is one.
-/
namespace EnvBundle.Toml

/-- The values of an array after its opening bracket, up to the closing one. -/
def arrayBody (value : Reader Value) (t : Text) : Option (List Value × Text) :=
  match filler? t with
  | none => none
  | some (']' :: rest) => some ([], rest)
  | some start =>
    match value start with
    | none => none
    | some (first, rest) =>
      match filler? rest with
      | some (']' :: rest) => some ([first], rest)
      | some (',' :: rest) =>
        if rest.length < t.length then
          (arrayBody value rest).map fun (values, rest) => (first :: values, rest)
        else none
      | _ => none
  termination_by t.length

/-- A key, its equals sign and a value. -/
def keyValue? (value : Reader Value) (t : Text) : Option (((List Text × Text) × Value) × Text) :=
  match key? t with
  | some (key, '=' :: rest) =>
    (value (skipSpace rest)).map fun (found, rest) => ((key, found), rest)
  | _ => none

/-- The entries of a table between braces, at least one, up to the closing brace. -/
def inlineBody (value : Reader Value) (t : Text) :
    Option (List ((List Text × Text) × Value) × Text) :=
  match keyValue? value t with
  | none => none
  | some (first, rest) =>
    match skipSpace rest with
    | '\x7d' :: rest => some ([first], rest)
    | ',' :: rest =>
      if rest.length < t.length then
        (inlineBody value rest).map fun (pairs, rest) => (first :: pairs, rest)
      else none
    | _ => none
  termination_by t.length

/-- A value that nests at most so deep. -/
def valueUpTo : Nat → Reader Value
  | 0 => scalar?
  | depth + 1 => fun t =>
    match t with
    | '[' :: rest =>
      (arrayBody (valueUpTo depth) rest).map fun (values, rest) => (.array values, rest)
    | '\x7b' :: rest =>
      match skipSpace rest with
      | '\x7d' :: rest => some (.table .inline [], rest)
      | _ =>
        match inlineBody (valueUpTo depth) rest with
        | none => none
        | some (pairs, rest) => (inlineTable pairs).map fun table => (table, rest)
    | t => scalar? t

def value? : Reader Value := valueUpTo (depthLimit - 1)

/-- The table that lines are being added to, and where it belongs once it is complete. -/
structure Section where
  path : List Text
  /-- Whether it is one of a list of tables. -/
  listed : Bool
  entries : Entries

/-- A document under way: the finished tables and the one in hand. -/
structure Draft where
  root : Entries
  current : Section

def Draft.start : Draft := ⟨[], ⟨[], false, []⟩⟩

/-- Adds a finished table under its name. -/
def settle (current : Section) (level : Level) : Option (Unit × Level) :=
  let name := current.path.getLastD []
  match current.listed, level.entries.lookup name with
  | true, some (.tables all) =>
    some ((), { level with entries := level.entries.put name (.tables (all ++ [current.entries])) })
  | true, none =>
    some ((), { level with entries := level.entries.put name (.tables [current.entries]) })
  | false, none =>
    some ((), { level with entries := level.entries.put name (.table .header current.entries) })
  | _, _ => none

/-- The entries of the document with the table in hand put in its place. -/
def Draft.finish (draft : Draft) : Option Entries :=
  if draft.current.path = [] then some draft.current.entries
  else
    (descend false (settle draft.current) ⟨.header, draft.root⟩ draft.current.path.dropLast).map
      fun (_, level) => level.entries

/-- Takes the table of a name out of its parent. One that so far was only implied goes on with its
entries; any other one is a fault. -/
def takeOut (name : Text) (level : Level) : Option (Entries × Level) :=
  match level.entries.lookup name with
  | none => some ([], level)
  | some (.table .implied entries) =>
    some (entries, { level with entries := level.entries.remove name })
  | some _ => none

/-- Opens the table of a header. -/
def openTable (root : Entries) (key : List Text × Text) : Option Draft :=
  (descend false (takeOut key.2) ⟨.header, root⟩ key.1).map fun (entries, level) =>
    ⟨level.entries, ⟨key.1 ++ [key.2], false, entries⟩⟩

/-- Opens a further table of a list. -/
def openListed (root : Entries) (key : List Text × Text) : Draft :=
  ⟨root, ⟨key.1 ++ [key.2], true, []⟩⟩

/-- A header, up to the end of its line. -/
def header? (draft : Draft) (t : Text) : Option (Draft × Text) := do
  let root ← draft.finish
  match t with
  | '[' :: '[' :: rest =>
    match ← key? rest with
    | (key, ']' :: ']' :: rest) => return (openListed root key, ← lineEnd? rest)
    | _ => none
  | '[' :: rest =>
    match ← key? rest with
    | (key, ']' :: rest) => return (← openTable root key, ← lineEnd? rest)
    | _ => none
  | _ => none

/-- An entry, up to the end of its line. -/
def entry? (draft : Draft) (t : Text) : Option (Draft × Text) := do
  let (((path, name), value), rest) ← keyValue? value? t
  let level ← addEntry path name value ⟨.header, draft.current.entries⟩
  return ({ draft with current := { draft.current with entries := level.entries } },
    ← lineEnd? rest)

/-- One line. -/
def line? (draft : Draft) (t : Text) : Option (Draft × Text) :=
  match t with
  | '[' :: _ => header? draft t
  | '#' :: _ => (lineEnd? t).map fun rest => (draft, rest)
  | '\n' :: _ => (lineEnd? t).map fun rest => (draft, rest)
  | '\r' :: _ => (lineEnd? t).map fun rest => (draft, rest)
  | _ => entry? draft t

/-- All lines. Every line takes something of the text. -/
def lines? (draft : Draft) (t : Text) : Option Draft :=
  match skipSpace t with
  | [] => some draft
  | start =>
    match line? draft start with
    | none => none
    | some (draft, rest) => if rest.length < t.length then lines? draft rest else none
  termination_by t.length

/-- The entries of a document. A byte order mark in front is passed over. -/
def parse? (t : Text) : Option Entries :=
  let body := match t with
    | c :: rest => if c = Char.ofNat 0xFEFF then rest else t
    | [] => []
  (lines? .start body).bind Draft.finish

end EnvBundle.Toml
