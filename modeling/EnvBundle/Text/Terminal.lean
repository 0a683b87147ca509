import EnvBundle.Text.Utf8

/-!
The part of a text that a terminal shows. Control sequences are passed over by the machine that a
terminal recognises them with, and so is every control character that leaves no space. This is how
`clap` prints what the user wrote.
-/
namespace EnvBundle.Terminal

/-- What a character belongs to. -/
inductive Mode where
  | text
  /-- An escape, from the character after it on. -/
  | escape
  /-- An escape that has more than one character. -/
  | longEscape
  /-- A control sequence: parameters and one last character. -/
  | sequence
  /-- A command to the terminal's surroundings. A bell ends it. -/
  | command
  /-- A string for a device, before its first character. -/
  | device
  /-- The parameters of a string for a device. -/
  | deviceParameters
  /-- The characters between the parameters and the body of such a string. -/
  | deviceIntermediates
  /-- The body of a string for a device, or any other string. -/
  | string
  deriving DecidableEq, Repr

def isSpacing (c : Char) : Bool := c = '\t' || c = '\n' || c = '\x0c' || c = '\r'

def isControl (c : Char) : Bool := c.toNat < 0x20 || c.toNat = 0x7F

/-- Whether the character stands for itself. -/
def isVisible (c : Char) : Bool := isSpacing c || !isControl c

/-- The byte that ends a string, also as a part of a longer character. -/
def terminator : UInt8 := 0x9C

/-- What an escape turns into with the character after it. -/
def afterEscape (c : Char) : Mode :=
  if c.toNat < 0x30 then .longEscape
  else if c = '[' then .sequence
  else if c = ']' then .command
  else if c = 'P' then .device
  else if c = 'X' ∨ c = '^' ∨ c = '_' then .string
  else .text

/-- How a string for a device goes on. Marks for private use come first if at all. -/
def inDevice (privateMark : Mode) (c : Char) : Mode :=
  if c.toNat < 0x30 then .deviceIntermediates
  else if c.toNat < 0x3C then .deviceParameters
  else if c.toNat < 0x40 then privateMark
  else .string

/-- The mode after an ASCII character that is no control character. -/
def continued (mode : Mode) (c : Char) : Mode :=
  match mode with
  | .text => .text
  | .escape => afterEscape c
  | .longEscape => if c.toNat < 0x30 then .longEscape else .text
  | .sequence => if c.toNat < 0x40 then .sequence else .text
  | .command => .command
  | .device => inDevice .deviceParameters c
  | .deviceParameters => inDevice .string c
  | .deviceIntermediates => if c.toNat < 0x30 then .deviceIntermediates else .string
  | .string => .string

/-- Whether spacing is shown although it stands in what is not. -/
def letsSpacingThrough : Mode → Bool
  | .escape | .longEscape | .sequence => true
  | _ => false

/-- The next mode, and whether the character is shown. Two characters abandon whatever is under
way, and an escape begins anew. -/
def step (mode : Mode) (c : Char) : Mode × Bool :=
  if c = '\x1b' then (.escape, false)
  else if c = '\x18' ∨ c = '\x1a' then (.text, false)
  else if mode = .text then (.text, isVisible c)
  else if isControl c then
    (if mode = .command ∧ c = '\x07' then .text else mode, letsSpacingThrough mode && isSpacing c)
  else if c.toNat < 0x80 then (continued mode c, false)
  else (if mode = .string ∧ terminator ∈ Utf8.encodeChar c then .text else mode, false)

/-- What becomes of an escape or a sequence in which spacing stands. -/
inductive Interruption where
  /-- It is over. -/
  | ends
  /-- It is put off: all is shown up to the next control character, and then it goes on. A
  character beyond ASCII shown meanwhile ends it. -/
  | suspends
  deriving DecidableEq, Repr

structure State where
  mode : Mode
  /-- Whether the last character was shown. -/
  showing : Bool
  deriving DecidableEq, Repr

def State.start : State := ⟨.text, false⟩

def State.next (interruption : Interruption) (state : State) (c : Char) : State :=
  if state.showing && isVisible c then ⟨if c.toNat < 0x80 then state.mode else .text, true⟩
  else
    let (mode, visible) := step state.mode c
    ⟨if visible && interruption = .ends then .text else mode, visible⟩

def shownFrom (interruption : Interruption) (state : State) : Text → Text
  | [] => []
  | c :: rest =>
    let state := state.next interruption c
    if state.showing then c :: shownFrom interruption state rest
    else shownFrom interruption state rest

def shown (interruption : Interruption) (t : Text) : Text := shownFrom interruption .start t

end EnvBundle.Terminal
