import MountKeys.Text.Extending
import MountKeys.Text.Printable

/-!
# Quoted text

A text between double quotes on one line, for messages that show text of unknown content.  The
quote, the backslash and four control characters have short escapes; every other character that
shows nothing by itself is written by its number.
-/

namespace MountKeys.Text

/-- A character inside double quotes. -/
def quoteChar (c : Char) : List Char :=
  if c = '\x00' then ['\\', '0']
  else if c = '\t' then ['\\', 't']
  else if c = '\r' then ['\\', 'r']
  else if c = '\n' then ['\\', 'n']
  else if c = '\\' ∨ c = '"' then ['\\', c]
  else if isExtending c ∨ ¬isPrintable c then
    ['\\', 'u', '\x7b'] ++ Nat.toDigits 16 c.toNat ++ ['\x7d']
  else [c]

/-- A text between double quotes. -/
def quoted (s : String) : String :=
  String.ofList ('"' :: s.toList.flatMap quoteChar ++ ['"'])

/-- A list of texts between brackets, each one quoted. -/
def quotedList (ss : List String) : String :=
  "[" ++ ", ".intercalate (ss.map quoted) ++ "]"

end MountKeys.Text
