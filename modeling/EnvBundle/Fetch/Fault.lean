import EnvBundle.World

/-! Why a fetch returns no bundle. -/
namespace EnvBundle.Fetch

inductive Fault where
  | missingToken
  | backendNotFound (program : Text)
  /-- The backend could not be started. -/
  | notStarted (cause : SystemFault)
  /-- The backend ended without success. -/
  | rejected (reason : Text)
  | undecodableOutput
  deriving DecidableEq, Repr

def Fault.message : Fault → Text
  | .missingToken => "missing ENVKEY".toList
  | .backendNotFound program => "fetch backend not found: ".toList ++ program
  | .notStarted cause => "failed to run fetch backend: ".toList ++ cause.message
  | .rejected reason => reason
  | .undecodableOutput => "fetch backend returned non UTF-8 output".toList

end EnvBundle.Fetch
