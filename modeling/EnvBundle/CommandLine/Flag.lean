import EnvBundle.Text

/-! The flags of the command line and their names. All but the one for help are the program's
own. -/
namespace EnvBundle.CommandLine

/-- Flags that stand alone. -/
inductive Switch where
  | cache
  | verbose
  | json
  | pamCompatible
  | dotEnvCompatible
  | force
  deriving DecidableEq, Repr

/-- Flags with a value. -/
inductive ValueFlag where
  | cacheDir
  | clientName
  | clientVersion
  | timeout
  | retries
  | retryBackoff
  | fetchBin
  | config
  deriving DecidableEq, Repr

inductive Flag where
  | switch (flag : Switch)
  | valued (flag : ValueFlag)
  | version
  | help
  deriving DecidableEq, Repr

namespace Switch

def name : Switch → Text
  | .cache => "cache".toList
  | .verbose => "verbose".toList
  | .json => "json".toList
  | .pamCompatible => "pam-compatible".toList
  | .dotEnvCompatible => "dot-env-compatible".toList
  | .force => "force".toList

def all : List Switch := [.cache, .verbose, .json, .pamCompatible, .dotEnvCompatible, .force]

/-- Whether two switches contradict each other. -/
def excludes : Switch → Switch → Bool
  | .json, .pamCompatible | .pamCompatible, .json => true
  | .json, .dotEnvCompatible | .dotEnvCompatible, .json => true
  | .json, .force | .force, .json => true
  | .pamCompatible, .dotEnvCompatible | .dotEnvCompatible, .pamCompatible => true
  | _, _ => false

end Switch

namespace ValueFlag

def name : ValueFlag → Text
  | .cacheDir => "cache-dir".toList
  | .clientName => "client-name".toList
  | .clientVersion => "client-version".toList
  | .timeout => "timeout".toList
  | .retries => "retries".toList
  | .retryBackoff => "retryBackoff".toList
  | .fetchBin => "fetch-bin".toList
  | .config => "config".toList

/-- The name of the value. -/
def placeholder : ValueFlag → Text
  | .cacheDir => "DIR".toList
  | .clientName => "NAME".toList
  | .clientVersion => "VERSION".toList
  | .timeout => "SECONDS".toList
  | .retries => "N".toList
  | .retryBackoff => "FACTOR".toList
  | .fetchBin => "PATH".toList
  | .config => "PATH".toList

def all : List ValueFlag :=
  [.cacheDir, .clientName, .clientVersion, .timeout, .retries, .retryBackoff, .fetchBin, .config]

end ValueFlag

namespace Flag

def name : Flag → Text
  | .switch flag => flag.name
  | .valued flag => flag.name
  | .version => "version".toList
  | .help => "help".toList

def all : List Flag :=
  Switch.all.map .switch ++ ValueFlag.all.map .valued ++ [.version, .help]

def named? (name : Text) : Option Flag := all.find? fun flag => flag.name == name

/-- The flags of one letter. -/
def short? (c : Char) : Option Flag :=
  if c = 'f' then some (.switch .force)
  else if c = 'v' then some .version
  else if c = 'h' then some .help
  else none

/-- A flag as messages show it. -/
def shown : Flag → Text
  | .valued flag => "--".toList ++ flag.name ++ " <".toList ++ flag.placeholder ++ ['>']
  | flag => "--".toList ++ flag.name

end Flag

end EnvBundle.CommandLine
