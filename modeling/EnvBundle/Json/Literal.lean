import EnvBundle.Json.Fault

/-!
JSON strings. The reader starts after the opening quote and leaves what follows the closing one.
Escapes of surrogates have to come in pairs. The order of the checks is that of `serde_json`.
-/
namespace EnvBundle.Json

/-- The four digits of an escape. Fewer than four bytes are an unfinished string; otherwise four
bytes are taken before they are looked at. -/
def hexUnit (t : Text) : Except Fault (Nat × Text) :=
  if t.byteCount < 4 then .error (.before .endInString [])
  else match t with
    | a :: b :: c :: d :: rest =>
      if [a, b, c, d].all Text.isHexDigit then .ok (Text.ofDigits 16 [a, b, c, d], rest)
      else .error ⟨.badEscape, t.byteCount - 4⟩
    | _ => .error ⟨.badEscape, t.byteCount - 4⟩

def isLeading (unit : Nat) : Bool := 0xD800 ≤ unit && unit ≤ 0xDBFF

def isTrailing (unit : Nat) : Bool := 0xDC00 ≤ unit && unit ≤ 0xDFFF

/-- The character of a surrogate pair. -/
def paired (leading trailing : Nat) : Char :=
  Char.ofNat (0x10000 + (leading - 0xD800) * 0x400 + (trailing - 0xDC00))

/-- Takes the character that has to stand next between the halves of a pair. -/
def between (mark : Char) : Text → Except Fault Text
  | [] => .error (.before .endInString [])
  | c :: rest => if c = mark then .ok rest else .error (.at .unpairedEscape (c :: rest))

/-- The second half of a pair, from its backslash on. -/
def secondHalf (leading : Nat) (t : Text) : Except Fault (Char × Text) :=
  match between '\\' t with
  | .error fault => .error fault
  | .ok t =>
    match between 'u' t with
    | .error fault => .error fault
    | .ok t =>
      match hexUnit t with
      | .error fault => .error fault
      | .ok (trailing, rest) =>
        if isTrailing trailing then .ok (paired leading trailing, rest)
        else .error (.before .loneSurrogate rest)

/-- The character after `\u`. -/
def unicodeEscape (t : Text) : Except Fault (Char × Text) :=
  match hexUnit t with
  | .error fault => .error fault
  | .ok (unit, rest) =>
    if isTrailing unit then .error (.before .loneSurrogate rest)
    else if isLeading unit then secondHalf unit rest
    else .ok (Char.ofNat unit, rest)

/-- The character a backslash and the next character stand for. -/
def simpleEscape? (c : Char) : Option Char :=
  if c = '"' then some '"'
  else if c = '\\' then some '\\'
  else if c = '/' then some '/'
  else if c = 'b' then some '\x08'
  else if c = 'f' then some '\x0c'
  else if c = 'n' then some '\n'
  else if c = 'r' then some '\r'
  else if c = 't' then some '\t'
  else none

/-- The character after a backslash. -/
def escape : Text → Except Fault (Char × Text)
  | [] => .error (.before .endInString [])
  | c :: rest =>
    if c = 'u' then unicodeEscape rest
    else match simpleEscape? c with
      | some meant => .ok (meant, rest)
      | none => .error (.at .badEscape (c :: rest))

theorem hexUnit_length {t rest : Text} {unit : Nat} (h : hexUnit t = .ok (unit, rest)) :
    rest.length < t.length := by
  unfold hexUnit at h
  split at h
  · cases h
  · split at h
    · split at h
      · cases h; simp; omega
      · cases h
    · cases h

theorem between_length {mark : Char} {t rest : Text} (h : between mark t = .ok rest) :
    rest.length < t.length := by
  cases t with
  | nil => cases h
  | cons c t =>
    simp only [between] at h
    split at h
    · cases h; simp
    · cases h

theorem secondHalf_length {leading : Nat} {t rest : Text} {c : Char}
    (h : secondHalf leading t = .ok (c, rest)) : rest.length < t.length := by
  unfold secondHalf at h
  split at h
  · cases h
  · next t₁ h₁ =>
    split at h
    · cases h
    · next t₂ h₂ =>
      split at h
      · cases h
      · next trailing t₃ h₃ =>
        split at h
        · simp only [Except.ok.injEq, Prod.mk.injEq] at h
          have := between_length h₁
          have := between_length h₂
          have := hexUnit_length h₃
          rw [← h.2]
          omega
        · cases h

theorem unicodeEscape_length {t rest : Text} {c : Char} (h : unicodeEscape t = .ok (c, rest)) :
    rest.length < t.length := by
  unfold unicodeEscape at h
  split at h
  · cases h
  · next unit t₁ h₁ =>
    have := hexUnit_length h₁
    split at h
    · cases h
    · split at h
      · have := secondHalf_length h
        omega
      · simp only [Except.ok.injEq, Prod.mk.injEq] at h
        exact h.2 ▸ this

theorem escape_length {t rest : Text} {c : Char} (h : escape t = .ok (c, rest)) :
    rest.length < t.length := by
  cases t with
  | nil => cases h
  | cons d t =>
    simp only [escape] at h
    split at h
    · exact Nat.lt_succ_of_lt (unicodeEscape_length h)
    · split at h
      · cases h; simp
      · cases h

def consFirst (c : Char) (read : Text × Text) : Text × Text := (c :: read.1, read.2)

/-- A string after its opening quote. -/
def stringBody : Text → Except Fault (Text × Text)
  | [] => .error (.before .endInString [])
  | c :: rest =>
    if c = '"' then .ok ([], rest)
    else if c = '\\' then
      match h : escape rest with
      | .error fault => .error fault
      | .ok (meant, rest') =>
        have := escape_length h
        (stringBody rest').map (consFirst meant)
    else if c.toNat < 0x20 then .error (.before .controlCharacter rest)
    else (stringBody rest).map (consFirst c)
  termination_by t => t.length

theorem map_consFirst_length {c : Char} {r : Except Fault (Text × Text)} {body rest : Text}
    {bound : Nat} (h : r.map (consFirst c) = .ok (body, rest))
    (below : ∀ body, r = .ok (body, rest) → rest.length < bound) : rest.length < bound := by
  cases r with
  | error fault => cases h
  | ok read =>
    obtain ⟨first, last⟩ := read
    simp only [Except.map, consFirst, Except.ok.injEq, Prod.mk.injEq] at h
    exact below first (by rw [h.2])

theorem stringBody_length {t body rest : Text} (h : stringBody t = .ok (body, rest)) :
    rest.length < t.length := by
  fun_induction stringBody t generalizing body rest with
  | case1 => cases h
  | case2 => cases h; simp
  | case3 => cases h
  | case4 r meant r' he shorter hq ih =>
    have := map_consFirst_length h fun _ hr => ih hr
    simp only [List.length_cons]
    omega
  | case5 => cases h
  | case6 c r _ _ _ ih =>
    have := map_consFirst_length h fun _ hr => ih hr
    simp only [List.length_cons]
    omega

end EnvBundle.Json
