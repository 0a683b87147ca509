import EnvBundle.Split
import EnvBundle.Text.Digits
import EnvBundle.Text.Quoted

/-! Log lines: a level, a message and named fields, written as `tracing-subscriber` writes them. -/
namespace EnvBundle.Log

inductive Level where
  | error
  | warn
  | info
  | debug
  | trace
  deriving DecidableEq, Repr

namespace Level

/-- How much a level lets through. -/
def rank : Level → Nat
  | .error => 1
  | .warn => 2
  | .info => 3
  | .debug => 4
  | .trace => 5

/-- The name, right-aligned to five characters. -/
def label : Level → Text
  | .error => "ERROR".toList
  | .warn => " WARN".toList
  | .info => " INFO".toList
  | .debug => "DEBUG".toList
  | .trace => "TRACE".toList

end Level

structure Line where
  level : Level
  message : Text
  fields : List (Text × Text)
  deriving DecidableEq, Repr

/-- A character of a message. What a terminal would act upon is written as a code. -/
def safeChar (c : Char) : Text :=
  let n := c.toNat
  if n = 0x1B then "\\x1b".toList
  else if n = 0x07 then "\\x07".toList
  else if n = 0x08 then "\\x08".toList
  else if n = 0x0C then "\\x0c".toList
  else if n = 0x7F then "\\x7f".toList
  else if 0x80 ≤ n ∧ n ≤ 0x9F then Text.codePoint c
  else [c]

def Line.render (line : Line) : Text :=
  line.level.label ++ ' ' :: line.message.flatMap safeChar ++
    line.fields.flatMap (fun (name, value) => ' ' :: name ++ '=' :: value) ++ ['\n']

/-- The rank up to which lines are written. -/
abbrev Threshold := Nat

def render (threshold : Threshold) (lines : List Line) : Text :=
  (lines.filter fun line => line.level.rank ≤ threshold).flatMap Line.render

/-- A level by name, in any case, or by rank. -/
def thresholdWord? (word : Text) : Option Threshold :=
  let word := word.map Char.toLower
  if word = "off".toList ∨ word = "0".toList then some 0
  else if word = "error".toList ∨ word = "1".toList then some 1
  else if word = "warn".toList ∨ word = "2".toList then some 2
  else if word = "info".toList ∨ word = "3".toList then some 3
  else if word = "debug".toList ∨ word = "4".toList then some 4
  else if word = "trace".toList ∨ word = "5".toList then some 5
  else none

/-- A filter as the user writes it: a level, perhaps after the name of the program's messages.
Nothing written lets errors through. Of the filters that `tracing-subscriber` knows these are the
ones with a single directive; left out are lists of directives, names of other messages or of parts
of the program, and conditions on spans and fields. -/
def threshold? (filter : Text) : Option Threshold :=
  if filter = [] then some Level.error.rank
  else thresholdWord? ((Split.after? "envkey=".toList filter).getD filter)

end EnvBundle.Log
