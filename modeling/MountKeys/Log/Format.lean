import MountKeys.Text.Basic
import MountKeys.Text.Lowercase

/-!
# Formats of log lines

Lines for people, or one JSON object for each event.
-/

namespace MountKeys

/-- The format of log lines. -/
inductive LogFormat
  | text
  | json
  deriving DecidableEq, Repr

namespace LogFormat

/-- The name of the format. -/
def label : LogFormat → String
  | .text => "text"
  | .json => "json"

/-- A text that names no format. -/
structure Unknown where
  /-- The text in lower case, without blanks around it. -/
  word : String
  deriving DecidableEq, Repr

/-- What is wrong, in words. -/
def Unknown.message (e : Unknown) : String :=
  s!"unknown log format '{e.word}' (expected 'text' or 'json')"

/-- The format that a text names, whatever its case and the blanks around it. -/
def read (text : String) : Except Unknown LogFormat :=
  let word := String.ofList (Text.lower (Text.trim text.toList))
  if word = "text" ∨ word = "pretty" then .ok .text
  else if word = "json" then .ok .json
  else .error ⟨word⟩

end LogFormat

end MountKeys
