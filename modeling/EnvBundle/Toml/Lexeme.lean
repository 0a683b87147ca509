import EnvBundle.Text.Digits

/-!
The smallest parts of a TOML text: blanks, line ends, comments, strings and keys. Each reader takes
its part off the front and returns the rest, or none where the part does not stand there. What each
part may hold is as in the `toml` library.
-/
namespace EnvBundle.Toml

abbrev Reader (α : Type) := Text → Option (α × Text)

def isSpace (c : Char) : Bool := c = ' ' || c = '\t'

def skipSpace (t : Text) : Text := t.dropWhile isSpace

/-- The characters a line may hold. -/
def isInline (c : Char) : Bool :=
  c = '\t' || (0x20 ≤ c.toNat && c.toNat ≤ 0x7E) || 0x80 ≤ c.toNat

/-- One line end, if there is one. -/
def newline? : Text → Option Text
  | '\n' :: rest => some rest
  | '\r' :: '\n' :: rest => some rest
  | _ => none

def skipComment : Text → Text
  | '#' :: rest => rest.dropWhile isInline
  | t => t

/-- What may stand after a key's value or a header: blanks, a comment, and the end of the line. -/
def lineEnd? (t : Text) : Option Text :=
  match skipComment (skipSpace t) with
  | [] => some []
  | t => newline? t

/-- Blanks and line ends. -/
def skipLines : Text → Text
  | '\n' :: rest => skipLines rest
  | '\r' :: '\n' :: rest => skipLines rest
  | c :: rest => if isSpace c then skipLines rest else c :: rest
  | [] => []

/-- Blanks, line ends and comments, each comment with the end of its line. The count bounds the
comments. -/
def fillerUpTo : Nat → Text → Option Text
  | 0, t => some (skipLines t)
  | n + 1, t =>
    match skipLines t with
    | '#' :: rest =>
      match newline? (rest.dropWhile isInline) with
      | some rest => fillerUpTo n rest
      | none => none
    | t => some t

def filler? (t : Text) : Option Text := fillerUpTo t.length t

/-- A character by its number, in a fixed count of digits. -/
def codePoint? (size : Nat) (t : Text) : Option (Char × Text) :=
  let digits := t.take size
  let n := Text.ofDigits 16 digits
  if digits.length = size ∧ digits.all Text.isHexDigit ∧ n.isValidChar then
    some (Char.ofNat n, t.drop size)
  else none

/-- The character after a backslash. -/
def escape? : Reader Char
  | 'b' :: rest => some ('\x08', rest)
  | 'f' :: rest => some ('\x0c', rest)
  | 'n' :: rest => some ('\n', rest)
  | 'r' :: rest => some ('\r', rest)
  | 't' :: rest => some ('\t', rest)
  | '"' :: rest => some ('"', rest)
  | '\\' :: rest => some ('\\', rest)
  | 'u' :: rest => codePoint? 4 rest
  | 'U' :: rest => codePoint? 8 rest
  | _ => none

def push (c : Char) (read : Text × Text) : Text × Text := (c :: read.1, read.2)

/-- A string on one line, after its opening double quote. Every step takes a character, so the
length of the text is fuel enough. -/
def basicBody : Nat → Reader Text
  | _, '"' :: rest => some ([], rest)
  | n + 1, '\\' :: rest =>
    match escape? rest with
    | some (c, rest) => (basicBody n rest).map (push c)
    | none => none
  | n + 1, c :: rest => if isInline c then (basicBody n rest).map (push c) else none
  | _, _ => none

/-- A string on one line, after its opening single quote. -/
def literalBody : Reader Text
  | [] => none
  | c :: rest =>
    if c = '\'' then some ([], rest)
    else if isInline c then (literalBody rest).map (push c)
    else none

/-- The quotes at the end of a string of several lines: up to two belong to the string. -/
def closing? (mark : Char) (t : Text) : Option (Text × Text) :=
  let quotes := t.takeWhile (· = mark)
  if quotes.length < 3 then none
  else
    let inside := min (quotes.length - 3) 2
    some (List.replicate inside mark, t.drop (inside + 3))

/-- A backslash at the end of a line takes the blanks and line ends after it away. -/
def foldedLine? (t : Text) : Option Text := (newline? (skipSpace t)).map skipLines

/-- A string of several lines between double quotes. -/
def basicLines : Nat → Reader Text
  | 0, _ => none
  | n + 1, t =>
    match closing? '"' t with
    | some closed => some closed
    | none =>
      match newline? t with
      | some rest => (basicLines n rest).map (push '\n')
      | none =>
        match t with
        | [] => none
        | '\\' :: rest =>
          match foldedLine? rest with
          | some rest => basicLines n rest
          | none =>
            match escape? rest with
            | some (c, rest) => (basicLines n rest).map (push c)
            | none => none
        | c :: rest => if isInline c then (basicLines n rest).map (push c) else none

/-- A string of several lines between single quotes. -/
def literalLines : Nat → Reader Text
  | 0, _ => none
  | n + 1, t =>
    match closing? '\'' t with
    | some closed => some closed
    | none =>
      match newline? t with
      | some rest => (literalLines n rest).map (push '\n')
      | none =>
        match t with
        | [] => none
        | c :: rest => if isInline c then (literalLines n rest).map (push c) else none

/-- A line end right after the opening quotes does not count. -/
def firstLine (t : Text) : Text := (newline? t).getD t

/-- A string of either kind on one line. -/
def quoted? : Reader Text
  | '"' :: rest => basicBody rest.length rest
  | '\'' :: rest => literalBody rest
  | _ => none

def string? : Reader Text
  | '"' :: '"' :: '"' :: rest => basicLines (rest.length + 1) (firstLine rest)
  | '\'' :: '\'' :: '\'' :: rest => literalLines (rest.length + 1) (firstLine rest)
  | t => quoted? t

def isBare (c : Char) : Bool := c.isAlphanum || c = '_' || c = '-'

/-- One part of a key. -/
def keyPart? (t : Text) : Option (Text × Text) :=
  match t with
  | '"' :: _ => quoted? t
  | '\'' :: _ => quoted? t
  | _ =>
    let bare := t.takeWhile isBare
    if bare = [] then none else some (bare, t.dropWhile isBare)

/-- How deep keys and values may go. -/
def depthLimit : Nat := 80

/-- The parts of a key with blanks around each, at most so many. -/
def keyParts : Nat → Reader (List Text)
  | 0, _ => none
  | n + 1, t =>
    match keyPart? (skipSpace t) with
    | none => none
    | some (part, rest) =>
      match skipSpace rest with
      | '.' :: rest => (keyParts n rest).map fun (parts, rest) => (part :: parts, rest)
      | rest => some ([part], rest)

/-- A key: the parts before the last, and the last. -/
def key? (t : Text) : Option ((List Text × Text) × Text) :=
  match keyParts (depthLimit - 1) t with
  | none => none
  | some (parts, rest) => some ((parts.dropLast, parts.getLastD []), rest)

end EnvBundle.Toml
