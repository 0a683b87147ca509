import EnvBundle.Binary64.Reading
import EnvBundle.Invocation
import EnvBundle.Text.Terminal

/-! Why a command line asks for nothing that can be done, or only for a text about the program. The
wording is that of `clap`. -/
namespace EnvBundle.CommandLine

inductive NumberFault where
  | empty
  | badDigit
  | tooLarge
  | tooSmall
  | outside (value : Int)
  deriving DecidableEq, Repr

inductive ValueFault where
  | float (fault : Binary64.ReadingFault)
  | number (fault : NumberFault)
  deriving DecidableEq, Repr

inductive Fault where
  | unknownArgument (shown : Text)
  | missingValue (flag : ValueFlag)
  | badValue (value : Text) (flag : ValueFlag) (reason : ValueFault)
  | surplusValue (value : Text) (flag : Flag)
  | undecodable
  | repeated (flag : Flag)
  | conflict (switch : Switch) (others : List Switch)
  | version
  | help (long : Bool)
  deriving DecidableEq

def NumberFault.message : NumberFault → Text
  | .empty => "cannot parse integer from empty string".toList
  | .badDigit => "invalid digit found in string".toList
  | .tooLarge => "number too large to fit in target type".toList
  | .tooSmall => "number too small to fit in target type".toList
  | .outside value => Text.ofInt value ++ " is not in 0..=255".toList

def ValueFault.message : ValueFault → Text
  | .float fault => fault.message
  | .number fault => fault.message

def inQuotes (t : Text) : Text := '\'' :: t ++ ['\'']

/-- What the user wrote, without what a terminal would act upon. -/
def written (interruption : Terminal.Interruption) (t : Text) : Text :=
  inQuotes (Terminal.shown interruption t)

def description : Text :=
  "Fetches, decrypts, and verifies EnvKey config, then prints it as shell exports".toList

/-- The whole first paragraph of what is shown; a value may break it into lines. -/
def Fault.text (interruption : Terminal.Interruption) : Fault → Text
  | .unknownArgument shown => "error: unexpected argument ".toList ++
      written interruption shown ++ " found".toList
  | .missingValue flag => "error: a value is required for ".toList ++
      inQuotes (Flag.valued flag).shown ++ " but none was supplied".toList
  | .badValue value flag reason => "error: invalid value ".toList ++
      written interruption value ++ " for ".toList ++ inQuotes (Flag.valued flag).shown ++
      ": ".toList ++ reason.message
  | .surplusValue value flag => "error: unexpected value ".toList ++
      written interruption value ++ " for ".toList ++ inQuotes flag.shown ++
      " found; no more were expected".toList
  | .undecodable => "error: invalid UTF-8 was detected in one or more arguments".toList
  | .repeated flag => "error: the argument ".toList ++ inQuotes flag.shown ++
      " cannot be used multiple times".toList
  | .conflict switch others =>
    "error: the argument ".toList ++ inQuotes (Flag.switch switch).shown ++
      " cannot be used with".toList ++
      match others with
      | [other] => ' ' :: inQuotes (Flag.switch other).shown
      | _ => [':']
  | .version => Invocation.programName ++ ' ' :: Invocation.programVersion
  | .help long => description ++ if long then ['.'] else []

/-- The first line of what is shown. -/
def Fault.firstLine (interruption : Terminal.Interruption) (fault : Fault) : Text :=
  (Text.lines (fault.text interruption)).headD []

/-- The fault as a text to work with. -/
def Fault.message (fault : Fault) : Text := fault.firstLine .ends

/-- The fault as it comes out of a stream. -/
def Fault.streamed (fault : Fault) : Text := fault.firstLine .suspends

end EnvBundle.CommandLine
