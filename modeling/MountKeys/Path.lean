import MountKeys.Utf8

/-!
# Paths

A path is any bytes; it need not be text.  `Path.join` goes on from a directory, and `Path.display`
shows a path in a message.
-/

namespace MountKeys

/-- The path of a file. -/
structure Path where
  bytes : Bytes
  deriving DecidableEq, Repr

namespace Path

/-- The path that a text spells. -/
def ofText (s : String) : Path :=
  ⟨textBytes s⟩

/-- The byte between the parts of a path. -/
def separator : UInt8 := 0x2F

/-- Whether a path starts at the root. -/
def isAbsolute (p : Path) : Bool :=
  p.bytes.head? == some separator

/-- The path `q` as seen from the directory `p`; one that starts at the root stays as it is. -/
def join (p q : Path) : Path :=
  if q.isAbsolute then q
  else if p.bytes.isEmpty || p.bytes.getLast? == some separator then ⟨p.bytes ++ q.bytes⟩
  else ⟨p.bytes ++ separator :: q.bytes⟩

/-- The path as text for reading. -/
def display (p : Path) : String :=
  Utf8.lossy p.bytes

end Path

end MountKeys
