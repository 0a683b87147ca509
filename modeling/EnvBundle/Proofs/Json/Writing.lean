import EnvBundle.Text
import Mathlib.Logic.Basic

/-!
How an object of strings is written in JSON. The same members have many texts: a character of a
string stands for itself or is escaped, and there are blanks around the marks as one likes. All
members have a text.
-/
namespace EnvBundle.Json

def lowerDigits : Text := "0123456789abcdef".toList

def upperDigits : Text := "0123456789ABCDEF".toList

/-- A hexadecimal digit of either case. -/
def WritesDigit (n : Nat) (c : Char) : Prop :=
  lowerDigits[n]? = some c ∨ upperDigits[n]? = some c

/-- Sixteen bits, the highest four first. -/
inductive WritesUnit (n : Nat) : Text → Prop
  | digits {i j k l : Nat} {a b c d : Char} (first : WritesDigit i a) (second : WritesDigit j b)
      (third : WritesDigit k c) (last : WritesDigit l d)
      (sum : n = ((i * 16 + j) * 16 + k) * 16 + l) : WritesUnit n [a, b, c, d]

/-- The letters after a backslash and what they stand for. -/
def shortEscapes : List (Char × Char) :=
  [('"', '"'), ('\\', '\\'), ('/', '/'), ('b', '\x08'), ('f', '\x0c'), ('n', '\n'), ('r', '\r'),
    ('t', '\t')]

/-- A character inside a string. One beyond sixteen bits is escaped by two units, which have ten of
its bits each. -/
inductive WritesChar (c : Char) : Text → Prop
  | plain (unquoted : c ≠ '"') (unescaped : c ≠ '\\') (above : 0x20 ≤ c.toNat) : WritesChar c [c]
  | short {letter : Char} (listed : (letter, c) ∈ shortEscapes) : WritesChar c ['\\', letter]
  | unit {digits : Text} (unit : WritesUnit c.toNat digits) : WritesChar c ('\\' :: 'u' :: digits)
  | pair {i j : Nat} {leading trailing : Text} (first : WritesUnit (0xD800 + i) leading)
      (second : WritesUnit (0xDC00 + j) trailing) (small : j < 0x400)
      (sum : c.toNat = 0x10000 + i * 0x400 + j) :
      WritesChar c ('\\' :: 'u' :: (leading ++ '\\' :: 'u' :: trailing))

/-- What stands between the quotes of a string. -/
inductive WritesBody : Text → Text → Prop
  | nil : WritesBody [] []
  | cons {c : Char} {value s t : Text} (first : WritesChar c s) (others : WritesBody value t) :
      WritesBody (c :: value) (s ++ t)

inductive WritesString : Text → Text → Prop
  | quoted {value body : Text} (written : WritesBody value body) :
      WritesString value ('"' :: body ++ ['"'])

/-- The blanks of JSON, fewer than those of Unicode. -/
def Blank (t : Text) : Prop := ∀ c ∈ t, c = ' ' ∨ c = '\n' ∨ c = '\t' ∨ c = '\r'

/-- A mark of the structure with the blanks around it. -/
inductive WritesMark (mark : Char) : Text → Prop
  | spaced {before after : Text} (front : Blank before) (back : Blank after) :
      WritesMark mark (before ++ mark :: after)

inductive WritesMember : Text × Text → Text → Prop
  | colon {name value r s t : Text} (first : WritesString name r) (mark : WritesMark ':' s)
      (last : WritesString value t) : WritesMember (name, value) (r ++ s ++ t)

/-- The members after the first, each behind a comma. -/
inductive WritesMore : List (Text × Text) → Text → Prop
  | nil : WritesMore [] []
  | comma {e : Text × Text} {pairs : List (Text × Text)} {r s t : Text} (mark : WritesMark ',' r)
      (first : WritesMember e s) (others : WritesMore pairs t) :
      WritesMore (e :: pairs) (r ++ s ++ t)

inductive WritesMembers : List (Text × Text) → Text → Prop
  | none : WritesMembers [] []
  | some {e : Text × Text} {pairs : List (Text × Text)} {s t : Text} (first : WritesMember e s)
      (others : WritesMore pairs t) : WritesMembers (e :: pairs) (s ++ t)

/-- A text that consists of an object with these members, in this order. -/
inductive WritesObject (pairs : List (Text × Text)) : Text → Prop
  | braces {r s t : Text} (front : WritesMark '\x7b' r) (inside : WritesMembers pairs s)
      (back : WritesMark '\x7d' t) : WritesObject pairs (r ++ s ++ t)

theorem exists_writesDigit {n : Nat} (small : n < 16) : ∃ c, WritesDigit n c :=
  ⟨_, .inl (List.getElem?_eq_getElem small)⟩

theorem exists_writesUnit {n : Nat} (small : n < 0x10000) : ∃ t, WritesUnit n t := by
  obtain ⟨a, first⟩ := exists_writesDigit (show n / 4096 < 16 by omega)
  obtain ⟨b, second⟩ := exists_writesDigit (show n / 256 % 16 < 16 by omega)
  obtain ⟨c, third⟩ := exists_writesDigit (show n / 16 % 16 < 16 by omega)
  obtain ⟨d, last⟩ := exists_writesDigit (show n % 16 < 16 by omega)
  exact ⟨_, .digits first second third last (by omega)⟩

theorem exists_writesChar (c : Char) : ∃ t, WritesChar c t := by
  by_cases above : 0x20 ≤ c.toNat
  · by_cases quote : c = '"'
    · have listed : ('"', c) ∈ shortEscapes := by simp [quote, shortEscapes]
      exact ⟨_, .short listed⟩
    · by_cases backslash : c = '\\'
      · have listed : ('\\', c) ∈ shortEscapes := by simp [backslash, shortEscapes]
        exact ⟨_, .short listed⟩
      · exact ⟨_, .plain quote backslash above⟩
  · obtain ⟨digits, unit⟩ := exists_writesUnit (show c.toNat < 0x10000 by omega)
    exact ⟨_, .unit unit⟩

theorem exists_writesString (value : Text) : ∃ t, WritesString value t := by
  have body : ∃ t, WritesBody value t := by
    induction value with
    | nil => exact ⟨_, .nil⟩
    | cons c value ih =>
        obtain ⟨s, first⟩ := exists_writesChar c
        obtain ⟨t, others⟩ := ih
        exact ⟨_, .cons first others⟩
  obtain ⟨t, written⟩ := body
  exact ⟨_, .quoted written⟩

theorem blank_nil : Blank [] := List.forall_mem_nil _

theorem writesMark_alone (mark : Char) : WritesMark mark [mark] := .spaced blank_nil blank_nil

theorem exists_writesMember (e : Text × Text) : ∃ t, WritesMember e t := by
  obtain ⟨name, value⟩ := e
  obtain ⟨r, first⟩ := exists_writesString name
  obtain ⟨t, last⟩ := exists_writesString value
  exact ⟨_, .colon first (writesMark_alone ':') last⟩

theorem exists_writesMore (pairs : List (Text × Text)) : ∃ t, WritesMore pairs t := by
  induction pairs with
  | nil => exact ⟨_, .nil⟩
  | cons e pairs ih =>
      obtain ⟨s, first⟩ := exists_writesMember e
      obtain ⟨t, others⟩ := ih
      exact ⟨_, .comma (writesMark_alone ',') first others⟩

theorem exists_writesObject (pairs : List (Text × Text)) : ∃ t, WritesObject pairs t := by
  have members : ∃ t, WritesMembers pairs t := by
    cases pairs with
    | nil => exact ⟨_, .none⟩
    | cons e pairs =>
        obtain ⟨s, first⟩ := exists_writesMember e
        obtain ⟨t, others⟩ := exists_writesMore pairs
        exact ⟨_, .some first others⟩
  obtain ⟨t, inside⟩ := members
  exact ⟨_, .braces (writesMark_alone _) inside (writesMark_alone _)⟩

end EnvBundle.Json
