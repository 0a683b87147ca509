import EnvBundle.Text.Digits
import EnvBundle.Text.Quoted

/-!
What may stand in a variable. A name has to be settable in a process and to stand between single
quotes, and a value has to be settable.
-/
namespace EnvBundle.Variable

/-- The characters a name cannot have. -/
inductive Mark where
  | equals
  | nul
  | quote
  | blank
  deriving DecidableEq, Repr

def Mark.ofChar? (c : Char) : Option Mark :=
  if c = '=' then some .equals
  else if c = '\x00' then some .nul
  else if c = '\'' then some .quote
  else if Text.isBlank c then some .blank
  else none

/-- The first such character and how many characters stand before it. -/
def firstMark? : Text → Option (Mark × Nat)
  | [] => none
  | c :: rest =>
    match Mark.ofChar? c with
    | some mark => some (mark, 0)
    | none => (firstMark? rest).map fun (mark, before) => (mark, before + 1)

inductive Fault where
  | emptyName
  | badName (name : Text) (mark : Mark) (before : Nat)
  | badValue (name : Text)
  deriving DecidableEq, Repr

def checkName (name : Text) : Except Fault Unit :=
  if name = [] then .error .emptyName
  else match firstMark? name with
    | some (mark, before) => .error (.badName name mark before)
    | none => .ok ()

def checkValue (name value : Text) : Except Fault Unit :=
  if '\x00' ∈ value then .error (.badValue name) else .ok ()

/-- The name is looked at before the value. -/
def check (name value : Text) : Except Fault Unit :=
  match checkName name with
  | .error fault => .error fault
  | .ok () => checkValue name value

def Mark.word : Mark → Text
  | .equals => "'='".toList
  | .nul => "NUL".toList
  | .quote => "single quote".toList
  | .blank => "whitespace".toList

def Fault.message : Fault → Text
  | .emptyName => "empty variable name".toList
  | .badName name mark before =>
    "invalid variable name ".toList ++ Text.quoted name ++ ": ".toList ++ mark.word ++
      " at position ".toList ++ Text.ofNat (before + 1)
  | .badValue name => "invalid value for ".toList ++ name ++ ": contains NUL".toList

end EnvBundle.Variable
