import MountKeys.Utf8

/-!
# Base64

The standard alphabet.  `Base64.encode` pads its text to whole groups of four characters,
`Base64.encodeBare` leaves the padding out, and `Base64.decode?` reads the padded form only: a text
is accepted when it is what `encode` writes for some bytes, so every byte string has one spelling.
-/

namespace MountKeys.Base64

/-- The character for six bits. -/
def symbol (n : Nat) : Char :=
  if n < 26 then Char.ofNat (65 + n)
  else if n < 52 then Char.ofNat (71 + n)
  else if n < 62 then Char.ofNat (n - 4)
  else if n = 62 then '+'
  else '/'

/-- The six bits that a character stands for. -/
def value? (c : Char) : Option Nat :=
  if 'A' ≤ c ∧ c ≤ 'Z' then some (c.toNat - 65)
  else if 'a' ≤ c ∧ c ≤ 'z' then some (c.toNat - 71)
  else if '0' ≤ c ∧ c ≤ '9' then some (c.toNat + 4)
  else if c = '+' then some 62
  else if c = '/' then some 63
  else none

/-- The text of some bytes without padding, three bytes to four characters. -/
def encodeBare : Bytes → List Char
  | [] => []
  | [a] => [symbol (a.toNat / 4), symbol (a.toNat % 4 * 16)]
  | [a, b] =>
    [symbol (a.toNat / 4), symbol (a.toNat % 4 * 16 + b.toNat / 16), symbol (b.toNat % 16 * 4)]
  | a :: b :: c :: rest =>
    symbol (a.toNat / 4) :: symbol (a.toNat % 4 * 16 + b.toNat / 16) ::
      symbol (b.toNat % 16 * 4 + c.toNat / 64) :: symbol (c.toNat % 64) :: encodeBare rest

/-- The text of some bytes, filled up with `=` to whole groups of four characters. -/
def encode : Bytes → List Char
  | a :: b :: c :: rest => encodeBare [a, b, c] ++ encode rest
  | [a, b] => encodeBare [a, b] ++ ['=']
  | [a] => encodeBare [a] ++ ['=', '=']
  | [] => []

/-- The bytes that a padded text stands for.  Padding is required where a group is short, the bits
that no byte uses have to be zero, and no other character may occur. -/
def decode? : List Char → Option Bytes
  | [] => some []
  | [p, q, '=', '='] =>
    match value? p, value? q with
    | some p, some q => if q % 16 = 0 then some [.ofNat (p * 4 + q / 16)] else none
    | _, _ => none
  | [p, q, r, '='] =>
    match value? p, value? q, value? r with
    | some p, some q, some r =>
      if r % 4 = 0 then some [.ofNat (p * 4 + q / 16), .ofNat (q % 16 * 16 + r / 4)] else none
    | _, _, _ => none
  | p :: q :: r :: s :: rest =>
    match value? p, value? q, value? r, value? s, decode? rest with
    | some p, some q, some r, some s, some bytes =>
      some (.ofNat (p * 4 + q / 16) :: .ofNat (q % 16 * 16 + r / 4) :: .ofNat (r % 4 * 64 + s) ::
        bytes)
    | _, _, _, _, _ => none
  | _ => none

end MountKeys.Base64
