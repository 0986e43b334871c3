import MountKeys.Text.Basic

/-!
# Timestamps

A point in time to the second.  `Timestamp.parse?` reads RFC 3339 and is lenient about it: blanks
may stand before each number and each mark, numbers may be shorter than their field, a blank may
stand in place of the `T`, and a time zone may be written `UTC`.  `Timestamp.print` writes the one
canonical form, in UTC.
-/

namespace MountKeys

/-- A date of the Gregorian calendar and a time of day.  The second `60` is a leap second. -/
structure Timestamp where
  year : Int
  month : Nat
  day : Nat
  hour : Nat
  minute : Nat
  second : Nat
  deriving DecidableEq, Repr

namespace Timestamp

/-! ## The calendar -/

/-- Whether a year has a 29th of February. -/
def isLeap (year : Int) : Bool :=
  year % 4 == 0 && (year % 100 != 0 || year % 400 == 0)

/-- How many days a month has. -/
def daysIn (year : Int) (month : Nat) : Nat :=
  if month = 2 then if isLeap year then 29 else 28
  else if month = 4 ∨ month = 6 ∨ month = 9 ∨ month = 11 then 30
  else 31

/-- The same time one day later. -/
def nextDay (t : Timestamp) : Timestamp :=
  if t.day < daysIn t.year t.month then { t with day := t.day + 1 }
  else if t.month < 12 then { t with month := t.month + 1, day := 1 }
  else { t with year := t.year + 1, month := 1, day := 1 }

/-- The same time one day earlier. -/
def previousDay (t : Timestamp) : Timestamp :=
  if 1 < t.day then { t with day := t.day - 1 }
  else if 1 < t.month then { t with month := t.month - 1, day := daysIn t.year (t.month - 1) }
  else { t with year := t.year - 1, month := 12, day := 31 }

/-- Whether a year can be counted. -/
def yearFits (year : Int) : Bool :=
  -262143 ≤ year && year ≤ 262142

/-- Whether the fields name a day and a time of day. -/
def isValid (t : Timestamp) : Bool :=
  yearFits t.year && 1 ≤ t.month && t.month ≤ 12 && 1 ≤ t.day && t.day ≤ daysIn t.year t.month &&
    t.hour ≤ 23 && t.minute ≤ 59 && t.second ≤ 60

/-- The time in UTC of a local time that is `offset` minutes ahead of it, less than a day. -/
def toUtc (t : Timestamp) (offset : Int) : Timestamp :=
  let minutes : Int := t.hour * 60 + t.minute - offset
  let day :=
    if minutes < 0 then previousDay t else if minutes < 1440 then t else nextDay t
  let ofDay := (minutes % 1440).toNat
  { day with hour := ofDay / 60, minute := ofDay % 60 }

/-! ## Reading -/

/-- A number of one to `width` digits, any number of them where there is no width, after blanks. -/
def scanNumber (width : Option Nat) (cs : List Char) : Option (Nat × List Char) :=
  let cs := Text.trimStart cs
  let ds := (width.elim cs cs.take).takeWhile Char.isDigit
  if ds.isEmpty then none else some (Text.decimal ds, cs.drop ds.length)

/-- A year: four digits at most, or any number of them after a sign. -/
def scanYear (cs : List Char) : Option (Int × List Char) :=
  match Text.trimStart cs with
  | '-' :: rest => signed (-1) rest
  | '+' :: rest => signed 1 rest
  | cs => (scanNumber (some 4) cs).map fun (n, rest) => ((n : Int), rest)
where
  /-- The digits that stand right after a sign. -/
  signed (sign : Int) (cs : List Char) : Option (Int × List Char) :=
    match cs with
    | c :: _ =>
      if c.isDigit then (scanNumber none cs).map fun (n, rest) => (sign * n, rest) else none
    | [] => none

/-- What follows a mark that may stand after blanks. -/
def scanMark (mark : Char) (cs : List Char) : Option (List Char) :=
  match Text.trimStart cs with
  | c :: rest => if c = mark then some rest else none
  | [] => none

/-- What follows a fraction of a second; the fraction may be missing. -/
def scanFraction : List Char → Option (List Char)
  | '.' :: rest =>
    match rest with
    | c :: _ => if c.isDigit then some (rest.dropWhile Char.isDigit) else none
    | [] => none
  | cs => some cs

/-- What may stand between the hours and the minutes of an offset. -/
def skipColons (cs : List Char) : List Char :=
  cs.dropWhile fun c => c == ':' || Text.isBlank c

/-- An offset after its sign, in minutes. -/
def scanOffset (sign : Int) : List Char → Option (Int × List Char)
  | a :: b :: rest =>
    if a.isDigit && b.isDigit then
      match skipColons rest with
      | c :: d :: rest =>
        if '0' ≤ c && c ≤ '5' && d.isDigit then
          let minutes := Text.decimal [a, b] * 60 + Text.decimal [c, d]
          if minutes < 1440 then some (sign * minutes, rest) else none
        else none
      | _ => none
    else none
  | _ => none

/-- A time zone: how many minutes it is ahead of UTC. -/
def scanZone : List Char → Option (Int × List Char)
  | u :: t :: c :: rest =>
    if (u = 'U' ∨ u = 'u') ∧ (t = 'T' ∨ t = 't') ∧ (c = 'C' ∨ c = 'c') then some (0, rest)
    else scanSigned (u :: t :: c :: rest)
  | cs => scanSigned cs
where
  /-- A zone that is not spelled `UTC`. -/
  scanSigned : List Char → Option (Int × List Char)
    | c :: rest =>
      if c = 'Z' ∨ c = 'z' then some (0, rest)
      else if c = '+' then scanOffset 1 rest
      else if c = '-' ∨ c = '\u2212' then scanOffset (-1) rest
      else none
    | [] => none

/-- The point in time that a text names, in UTC. -/
def parse? (cs : List Char) : Option Timestamp := do
  let (year, cs) ← scanYear cs
  let cs ← scanMark '-' cs
  let (month, cs) ← scanNumber (some 2) cs
  let cs ← scanMark '-' cs
  let (day, cs) ← scanNumber (some 2) cs
  let cs ←
    match cs with
    | c :: rest => if c = 'T' ∨ c = 't' ∨ c = ' ' then some rest else none
    | [] => none
  let (hour, cs) ← scanNumber (some 2) cs
  let cs ← scanMark ':' cs
  let (minute, cs) ← scanNumber (some 2) cs
  let cs ← scanMark ':' cs
  let (second, cs) ← scanNumber (some 2) cs
  let cs ← scanFraction cs
  let (offset, cs) ← scanZone (Text.trimStart cs)
  let stated : Timestamp := ⟨year, month, day, hour, minute, second⟩
  let utc := stated.toUtc offset
  if (Text.trimStart cs).isEmpty && stated.isValid && yearFits utc.year then some utc else none

/-! ## Writing -/

/-- A number with zeros before it, so that it has `width` digits at least. -/
def padded (width n : Nat) : List Char :=
  let ds := Nat.toDigits 10 n
  List.replicate (width - ds.length) '0' ++ ds

/-- A year has four digits, and a sign where four digits do not do. -/
def printYear (year : Int) : List Char :=
  if 0 ≤ year ∧ year ≤ 9999 then padded 4 year.toNat
  else (if year < 0 then '-' else '+') :: padded 4 year.natAbs

/-- The canonical text of a point in time. -/
def print (t : Timestamp) : String :=
  String.ofList (printYear t.year ++ '-' :: padded 2 t.month ++ '-' :: padded 2 t.day ++
    'T' :: padded 2 t.hour ++ ':' :: padded 2 t.minute ++ ':' :: padded 2 t.second ++ ['Z'])

end Timestamp

end MountKeys
