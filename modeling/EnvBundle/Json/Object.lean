import EnvBundle.Json.Literal
import EnvBundle.Json.Number

/-!
A JSON object whose members are all strings, the only form a bundle has. The members come out in
the order of the text, repeated names included. Which texts are objects, where a fault stands and
what is found there is as `serde_json` has it, the library that reads bundles.
-/
namespace EnvBundle.Json

def isSpace (c : Char) : Bool := c = ' ' || c = '\n' || c = '\t' || c = '\r'

def skipSpace (t : Text) : Text := t.dropWhile isSpace

/-- The rest of one of the three words. -/
def word : Text → Text → Except Fault Text
  | [], t => .ok t
  | _ :: _, [] => .error (.before .endInValue [])
  | a :: letters, c :: t =>
    if a = c then word letters t else .error (.at .expectedWord (c :: t))

def unexpected (wanted : Wanted) (read : Except Fault (Found × Text)) : Fault :=
  match read with
  | .error fault => fault
  | .ok (found, rest) => .before (.unexpected found wanted) rest

def asFound (found : Found) (read : Except Fault Text) : Except Fault (Found × Text) :=
  read.map fun rest => (found, rest)

/-- The fault of a value that begins with this character and is not of the kind wanted. Words,
numbers and strings are read to their end first; a bracket or brace stays unread. -/
def wrongKind (wanted : Wanted) (c : Char) (rest : Text) : Fault :=
  if c = 'n' then unexpected wanted (asFound .null (word "ull".toList rest))
  else if c = 't' then unexpected wanted (asFound (.boolean true) (word "rue".toList rest))
  else if c = 'f' then unexpected wanted (asFound (.boolean false) (word "alse".toList rest))
  else if c = '-' then unexpected wanted (number true rest)
  else if c.isDigit then unexpected wanted (number false (c :: rest))
  else if c = '"' then
    unexpected wanted ((stringBody rest).map fun (body, rest) => (.text body, rest))
  else if c = '[' then .before (.unexpected .sequence wanted) (c :: rest)
  else if c = '\x7b' then .before (.unexpected .map wanted) (c :: rest)
  else .at .expectedValue (c :: rest)

/-- A member's value. -/
def stringValue (t : Text) : Except Fault (Text × Text) :=
  match skipSpace t with
  | [] => .error (.before .endInValue [])
  | c :: rest => if c = '"' then stringBody rest else .error (wrongKind .text c rest)

/-- The colon after a name. -/
def colon (t : Text) : Except Fault Text :=
  match skipSpace t with
  | [] => .error (.before .endInObject [])
  | c :: rest => if c = ':' then .ok rest else .error (.at .expectedColon (c :: rest))

/-- A member after the opening quote of its name. -/
def member (t : Text) : Except Fault ((Text × Text) × Text) :=
  match stringBody t with
  | .error fault => .error fault
  | .ok (name, t) =>
    match colon t with
    | .error fault => .error fault
    | .ok t =>
      match stringValue t with
      | .error fault => .error fault
      | .ok (value, t) => .ok ((name, value), t)

theorem skipSpace_length (t : Text) : (skipSpace t).length ≤ t.length := by
  induction t with
  | nil => simp [skipSpace]
  | cons c t ih =>
    simp only [skipSpace, List.dropWhile_cons] at ih ⊢
    split
    · simp only [List.length_cons]; omega
    · simp

theorem stringValue_length {t value rest : Text} (h : stringValue t = .ok (value, rest)) :
    rest.length < t.length := by
  have skipped := skipSpace_length t
  unfold stringValue at h
  split at h
  · cases h
  · next c t₁ h₁ =>
    rw [h₁] at skipped
    split at h
    · have := stringBody_length h
      simp only [List.length_cons] at skipped
      omega
    · cases h

theorem colon_length {t rest : Text} (h : colon t = .ok rest) : rest.length < t.length := by
  have skipped := skipSpace_length t
  unfold colon at h
  split at h
  · cases h
  · next c t₁ h₁ =>
    rw [h₁] at skipped
    split at h
    · cases h
      simp only [List.length_cons] at skipped
      omega
    · cases h

theorem member_length {t rest : Text} {pair : Text × Text} (h : member t = .ok (pair, rest)) :
    rest.length < t.length := by
  unfold member at h
  split at h
  · cases h
  · next h₁ =>
    split at h
    · cases h
    · next h₂ =>
      split at h
      · cases h
      · next h₃ =>
        cases h
        have := stringBody_length h₁
        have := colon_length h₂
        have := stringValue_length h₃
        omega

/-- Adds a member to those that follow it. -/
def memberFirst (pair : Text × Text) (read : List (Text × Text) × Text) :
    List (Text × Text) × Text := (pair :: read.1, read.2)

/-- The members after the first, each behind a comma, up to the closing brace. -/
def moreMembers (t : Text) : Except Fault (List (Text × Text) × Text) :=
  match hs : skipSpace t with
  | [] => .error (.before .endInObject [])
  | '\x7d' :: rest => .ok ([], rest)
  | ',' :: rest =>
    match hn : skipSpace rest with
    | [] => .error (.before .endInValue [])
    | '"' :: rest' =>
      match hm : member rest' with
      | .error fault => .error fault
      | .ok (pair, rest'') =>
        have : rest''.length < t.length := by
          have := skipSpace_length t
          have := skipSpace_length rest
          have := member_length hm
          rw [hs, List.length_cons] at *
          rw [hn, List.length_cons] at *
          omega
        (moreMembers rest'').map (memberFirst pair)
    | '\x7d' :: rest' => .error (.at .trailingComma ('\x7d' :: rest'))
    | c :: rest' => .error (.at .expectedKey (c :: rest'))
  | c :: rest => .error (.at .expectedComma (c :: rest))
  termination_by t.length

/-- The members after the opening brace. -/
def members (t : Text) : Except Fault (List (Text × Text) × Text) :=
  match skipSpace t with
  | [] => .error (.before .endInObject [])
  | '\x7d' :: rest => .ok ([], rest)
  | '"' :: rest =>
    match member rest with
    | .error fault => .error fault
    | .ok (pair, rest) => (moreMembers rest).map (memberFirst pair)
  | c :: rest => .error (.at .expectedKey (c :: rest))

/-- The members of the one object a text consists of. -/
def object (t : Text) : Except Fault (List (Text × Text)) :=
  match skipSpace t with
  | [] => .error (.before .endInValue [])
  | c :: rest =>
    if c = '\x7b' then
      match members rest with
      | .error fault => .error fault
      | .ok (pairs, rest) =>
        match skipSpace rest with
        | [] => .ok pairs
        | c :: rest => .error (.at .trailingText (c :: rest))
    else .error (wrongKind .map c rest)

end EnvBundle.Json
