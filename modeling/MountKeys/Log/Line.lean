import MountKeys.Json.Printer
import MountKeys.Log.Format
import MountKeys.Log.Notice

/-!
# Log lines

How a notice stands in the log.  A line of text shows the message almost as it is: only characters
that a terminal would obey are written out, so that a name cannot steer the terminal of whoever
reads the log.  A JSON line needs no such care.
-/

namespace MountKeys

namespace LogFormat

/-- A code in hexadecimal. -/
def hex (n : Nat) : String :=
  String.ofList (Nat.toDigits 16 n)

/-- A character of a message in a line of text. -/
def shownChar (c : Char) : String :=
  if c = '\x1b' ∨ c = '\x7f' then "\\x" ++ hex c.toNat
  else if c = '\x07' ∨ c = '\x08' ∨ c = '\x0c' then "\\x0" ++ hex c.toNat
  else if 0x80 ≤ c.toNat ∧ c.toNat ≤ 0x9F then "\\u\x7b" ++ hex c.toNat ++ "\x7d"
  else String.singleton c

/-- A message as a line of the format tells it to a reader. -/
def shown : LogFormat → String → String
  | .text, message => String.join (message.toList.map shownChar)
  | .json, message => message

/-- The line for a notice, without its end. -/
def line (format : LogFormat) (n : Notice) : String :=
  let message := format.shown n.message
  match format with
  | .text =>
    String.ofList (List.replicate (5 - n.level.label.length) ' ') ++ n.level.label ++ " " ++ message
  | .json =>
    String.ofList (Json.object [("level", .text n.level.label),
      ("fields", .object [("message", .text message)])]).print

end LogFormat

end MountKeys
