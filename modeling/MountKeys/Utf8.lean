/-!
# UTF-8

Text as bytes and back.  `Utf8.encode` writes characters; `Utf8.pieces` cuts any bytes into
characters and the runs that are none, and both readers are views of it: `Utf8.decode` takes bytes
that are text throughout and says where others stop being it, `Utf8.lossy` shows each bad run as
one replacement character.
-/

namespace MountKeys

/-- A run of bytes: key material, a stored value, a path. -/
abbrev Bytes := List UInt8

namespace Utf8

/-- A byte that goes on with a character: six bits of its number under the mark `10`. -/
def tail (n : Nat) : UInt8 :=
  .ofNat (0x80 + n % 0x40)

/-- The bytes of one character, one to four of them. -/
def encodeChar (c : Char) : Bytes :=
  let n := c.toNat
  if n < 0x80 then [.ofNat n]
  else if n < 0x800 then [.ofNat (0xC0 + n / 0x40), tail n]
  else if n < 0x10000 then [.ofNat (0xE0 + n / 0x1000), tail (n / 0x40), tail n]
  else [.ofNat (0xF0 + n / 0x40000), tail (n / 0x1000), tail (n / 0x40), tail n]

/-- The bytes of a text. -/
def encode (cs : List Char) : Bytes :=
  cs.flatMap encodeChar

/-- One piece of bytes that are read as text. -/
inductive Piece
  /-- A whole character. -/
  | char (c : Char)
  /-- `length` bytes that no further byte could complete to a character. -/
  | invalid (length : Nat)
  /-- The bytes end inside a character. -/
  | incomplete
  deriving DecidableEq, Repr

/-- Whether a byte may stand after the first byte of a character. -/
def isTail (b : UInt8) : Bool :=
  0x80 ≤ b && b ≤ 0xBF

/-- Whether `b` may be the second byte after the first byte `a`.  The narrower ranges keep out
longer spellings of small numbers, surrogates, and numbers above `10FFFF`. -/
def isSecond (a b : UInt8) : Bool :=
  if a = 0xE0 then 0xA0 ≤ b && b ≤ 0xBF
  else if a = 0xED then 0x80 ≤ b && b ≤ 0x9F
  else if a = 0xF0 then 0x90 ≤ b && b ≤ 0xBF
  else if a = 0xF4 then 0x80 ≤ b && b ≤ 0x8F
  else isTail b

/-- How many bytes a character has that begins with `a`; none begins with some bytes. -/
def width? (a : UInt8) : Option Nat :=
  if a < 0x80 then some 1
  else if a < 0xC2 then none
  else if a < 0xE0 then some 2
  else if a < 0xF0 then some 3
  else if a < 0xF5 then some 4
  else none

/-- The six bits that a later byte of a character holds. -/
def low (b : UInt8) : Nat :=
  b.toNat - 0x80

/-- The characters of the bytes, and the runs between them that are none. -/
def pieces : Bytes → List Piece
  | [] => []
  | a :: rest =>
    match width? a with
    | some 1 => .char (Char.ofNat a.toNat) :: pieces rest
    | some 2 =>
      match rest with
      | [] => [.incomplete]
      | b :: after =>
        if isSecond a b then
          .char (Char.ofNat ((a.toNat - 0xC0) * 0x40 + low b)) :: pieces after
        else .invalid 1 :: pieces (b :: after)
    | some 3 =>
      match rest with
      | [] => [.incomplete]
      | [b] => if isSecond a b then [.incomplete] else .invalid 1 :: pieces [b]
      | b :: c :: after =>
        if isSecond a b then
          if isTail c then
            .char (Char.ofNat ((a.toNat - 0xE0) * 0x1000 + low b * 0x40 + low c)) :: pieces after
          else .invalid 2 :: pieces (c :: after)
        else .invalid 1 :: pieces (b :: c :: after)
    | some _ =>
      match rest with
      | [] => [.incomplete]
      | [b] => if isSecond a b then [.incomplete] else .invalid 1 :: pieces [b]
      | [b, c] =>
        if isSecond a b then
          if isTail c then [.incomplete] else .invalid 2 :: pieces [c]
        else .invalid 1 :: pieces [b, c]
      | b :: c :: d :: after =>
        if isSecond a b then
          if isTail c then
            if isTail d then
              .char (Char.ofNat
                ((a.toNat - 0xF0) * 0x40000 + low b * 0x1000 + low c * 0x40 + low d)) ::
                pieces after
            else .invalid 3 :: pieces (d :: after)
          else .invalid 2 :: pieces (c :: d :: after)
        else .invalid 1 :: pieces (b :: c :: d :: after)
    | none => .invalid 1 :: pieces rest

/-- Where bytes stop being text. -/
structure Fault where
  /-- How many bytes before it are text. -/
  index : Nat
  /-- How many bytes are bad; none when the bytes end inside a character. -/
  length : Option Nat
  deriving DecidableEq, Repr

/-- What is wrong, in words. -/
def Fault.message : Fault → String
  | ⟨index, some length⟩ => s!"invalid utf-8 sequence of {length} bytes from index {index}"
  | ⟨index, none⟩ => s!"incomplete utf-8 byte sequence from index {index}"

/-- The characters of pieces that start at byte `index`, if all of them are characters. -/
def join (index : Nat) : List Piece → Except Fault (List Char)
  | [] => .ok []
  | .char c :: rest => (join (index + (encodeChar c).length) rest).map (c :: ·)
  | .invalid length :: _ => .error ⟨index, some length⟩
  | .incomplete :: _ => .error ⟨index, none⟩

/-- The characters that bytes stand for, or where they stop being text. -/
def decode (bs : Bytes) : Except Fault (List Char) :=
  join 0 (pieces bs)

/-- The text that bytes stand for, if they are text throughout. -/
def decode? (bs : Bytes) : Option String :=
  (decode bs).toOption.map String.ofList

/-- The character that stands for bytes that are no text. -/
def replacement : Char := '\uFFFD'

/-- The bytes as text for reading: each bad run becomes one replacement character. -/
def lossy (bs : Bytes) : String :=
  String.ofList ((pieces bs).map fun
    | .char c => c
    | _ => replacement)

end Utf8

/-- The UTF-8 bytes of a text. -/
def textBytes (s : String) : Bytes :=
  Utf8.encode s.toList

end MountKeys
