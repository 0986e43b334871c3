import MountKeys.Log.Notice

/-!
# Failed runs

Why a run failed and what it had done by then.
-/

namespace MountKeys

/-- An object that a run wrote. -/
structure Applied where
  kind : Kind
  ns : String
  name : String
  deriving DecidableEq, Repr

/-- The object in words. -/
def Applied.label (a : Applied) : String :=
  s!"{a.kind.label} {a.ns}/{a.name}"

/-- Why a run failed. -/
inductive RunError
  | invalidNames (cause : Names.Invalid)
  | missingKey (cause : KeyFault)
  | namespaceFailed (ns : String) (cause : ClusterError)
  | applyFailed (kind : Kind) (name : String) (applied : List Applied) (cause : ClusterError)
  /-- An object could not be read back, or was not there. -/
  | verificationFailed (kind : Kind) (name : String) (applied : List Applied)
      (cause : Option ClusterError)
  deriving DecidableEq

namespace RunError

/-- The objects that the run wrote. -/
def applied : RunError → List Applied
  | .applyFailed _ _ applied _ | .verificationFailed _ _ applied _ => applied
  | _ => []

/-- Whether the run left something behind. -/
def isPartial (e : RunError) : Bool :=
  !e.applied.isEmpty

/-- The objects that a run wrote, as a message goes on with them. -/
def appliedText (applied : List Applied) : String :=
  if applied.isEmpty then ""
  else " (already applied: " ++ ", ".intercalate (applied.map Applied.label) ++ ")"

/-- A cause that may be missing, as a message goes on with it. -/
def causeText : Option ClusterError → String
  | some cause => ": " ++ cause.message
  | none => ""

/-- What went wrong, in words. -/
def message : RunError → String
  | .invalidNames cause => s!"invalid configuration: {cause.message}"
  | .missingKey cause => cause.message
  | .namespaceFailed ns cause => s!"failed to ensure namespace '{ns}': {cause.message}"
  | .applyFailed kind name applied cause =>
    s!"failed to apply {kind.label} '{name}'{appliedText applied}: {cause.message}"
  | .verificationFailed kind name applied cause =>
    s!"{kind.label} '{name}' not found after apply{appliedText applied}{causeText cause}"

/-- The words of what lies behind the error. -/
def causes : RunError → List String
  | .invalidNames cause => [cause.message]
  | .missingKey cause => [cause.fault.message]
  | .namespaceFailed _ cause => [cause.message]
  | .applyFailed _ _ _ cause => [cause.message]
  | .verificationFailed _ _ _ cause => (cause.map ClusterError.message).toList

end RunError

end MountKeys
