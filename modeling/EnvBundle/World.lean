import EnvBundle.Text

/-! What the surroundings answer: files, directories and programs, each found by its path. What is
there can be told without opening it, so that a file which is there may still refuse to be read and
a program which may be run may still fail to start. A program that does start is a function from its
arguments to what it leaves behind. -/
namespace EnvBundle

/-- Why the system refuses to look at a path, to read a file or to start a program. -/
inductive SystemFault where
  | absent
  | isDirectory
  | belowFile
  | denied
  | nameTooLong
  | staleHandle
  | missingDevice
  | timedOut
  /-- A program in no form that the system can start. -/
  | unknownFormat
  | undecodable
  | nulInPath
  | nulInArgument
  | described (text : Text)
  deriving DecidableEq, Repr

def SystemFault.message : SystemFault → Text
  | .absent => "No such file or directory (os error 2)".toList
  | .isDirectory => "Is a directory (os error 21)".toList
  | .belowFile => "Not a directory (os error 20)".toList
  | .denied => "Permission denied (os error 13)".toList
  | .nameTooLong => "File name too long (os error 36)".toList
  | .staleHandle => "Stale file handle (os error 116)".toList
  | .missingDevice => "No such device (os error 19)".toList
  | .timedOut => "Connection timed out (os error 110)".toList
  | .unknownFormat => "Exec format error (os error 8)".toList
  | .undecodable => "stream did not contain valid UTF-8".toList
  | .nulInPath => "file name contained an unexpected NUL byte".toList
  | .nulInArgument => "nul byte found in provided data".toList
  | .described text => text

inductive Ending where
  | exited (status : Nat)
  | killed
  deriving DecidableEq, Repr

def Ending.succeeded (ending : Ending) : Bool := ending = .exited 0

/-- What a finished program leaves behind. -/
structure Report where
  stdout : Bytes
  stderr : Bytes
  ending : Ending
  deriving DecidableEq, Repr

/-- What is at a path. -/
inductive Node where
  /-- A directory, and why it is not read as a file. -/
  | folder (refusal : SystemFault)
  /-- A pipe, a device or the like, and what reading it comes to. It is never started. -/
  | special (content : Except SystemFault Bytes)
  /-- A plain file: what reading it comes to, and what starting it comes to if its permissions let
  it be run. -/
  | plain (content : Except SystemFault Bytes)
      (start : Option (Except SystemFault (List Bytes → Report)))

namespace Node

/-- A directory that can be opened. -/
def directory : Node := .folder .isDirectory

/-- A plain file that can be read, and started if it may be run. -/
def file (content : Bytes) (run : Option (List Bytes → Report)) : Node :=
  .plain (.ok content) (run.map .ok)

def isPlain : Node → Bool
  | .plain _ _ => true
  | _ => false

def content : Node → Except SystemFault Bytes
  | .folder refusal => .error refusal
  | .special content => content
  | .plain content _ => content

/-- What starting it comes to, if that is permitted. -/
def start? : Node → Option (Except SystemFault (List Bytes → Report))
  | .plain _ start => start
  | _ => none

end Node

structure World where
  /-- What is at a path, or why nothing can be told about it. Reading and starting fail for the same
  reason then. -/
  look : Path → Except SystemFault Node
  /-- The home directory on record for the user, for want of the variable. -/
  accountHome : Option Path

end EnvBundle
