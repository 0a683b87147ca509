/-!
Text as a list of characters, and the line and word operations the readers share. Every operation
is by recursion on the characters.
-/
namespace EnvBundle

/-- Decoded text, one entry a character. -/
abbrev Text := List Char

/-- Undecoded text: file contents, environment values, program arguments. -/
abbrev Bytes := List UInt8

/-- A file or program name. Its bytes need not be decodable. -/
abbrev Path := Bytes

namespace Text

/-- The characters with Unicode's White_Space property. -/
def isBlank (c : Char) : Bool :=
  let n := c.toNat
  (0x09 ≤ n && n ≤ 0x0D) || n == 0x20 || n == 0x85 || n == 0xA0 || n == 0x1680 ||
    (0x2000 ≤ n && n ≤ 0x200A) || n == 0x2028 || n == 0x2029 || n == 0x202F || n == 0x205F ||
    n == 0x3000

def trimStart (t : Text) : Text := t.dropWhile isBlank

def trimEnd (t : Text) : Text := (trimStart t.reverse).reverse

/-- The text without the blanks at its two ends. -/
def trim (t : Text) : Text := trimEnd (trimStart t)

/-- A line feed ends a line, together with a carriage return just before it. What follows the last
line feed is a line only if there is something. -/
def lines : Text → List Text
  | [] => []
  | '\n' :: rest => [] :: lines rest
  | '\r' :: '\n' :: rest => [] :: lines rest
  | c :: rest =>
    match lines rest with
    | [] => [[c]]
    | line :: more => (c :: line) :: more

/-- The text of at least two characters between two marks, first and last. -/
def between? (mark : Char) : Text → Option Text
  | [] => none
  | c :: rest => if c = mark ∧ rest.getLast? = some mark then some rest.dropLast else none

/-- Puts `mark` between neighbours. -/
def joinWith (mark : Char) : List Text → Text
  | [] => []
  | [t] => t
  | t :: more => t ++ mark :: joinWith mark more

@[simp] theorem lines_nil : lines [] = [] := rfl

end Text

/-- How many bytes a text has when it is encoded. -/
def Text.byteCount : Text → Nat
  | [] => 0
  | c :: rest => c.utf8Size + Text.byteCount rest

end EnvBundle
