import Mathlib.Data.Char
import MountKeys.Json.Parser
import MountKeys.Json.Printer

/-!
# JSON there and back

`Json.parse` reads what `Json.print` writes as the same value: `parse_print`.  The one condition is
that numbers are numbers (`Json.isProper`), for a value keeps any lexeme as it is.

The parts follow the reader.

* Texts: every character is read back from its escape (`scanUnits_escapeChar`).
* Numbers: a scanner that has read a whole lexeme reads it also before other characters, as long as
  none of them could go on with it (`Boundary`).
* Values: by mutual induction with the reader's fuel, of which the length of the text is enough.
-/

namespace MountKeys.Json

/-! ## Texts -/

/-- A scanner's result with a number before those that it has read. -/
def consUnit (n : Nat) : Option (List Nat × List Char) → Option (List Nat × List Char) :=
  Option.map fun (ns, rest) => (n :: ns, rest)

/-- A control character is read from its two hexadecimal digits. -/
theorem hexNumber?_hexDigit :
    ∀ n < 0x20, hexNumber? '0' '0' (hexDigit (n / 16)) (hexDigit (n % 16)) = some n := by
  decide

theorem scanUnits_escaped {c : Char} (c' : Char) (h : escaped? c' = some c) (hu : c' ≠ 'u')
    (rest : List Char) : scanUnits ('\\' :: c' :: rest) = consUnit c.toNat (scanUnits rest) := by
  rw [scanUnits]
  · cases hrest : scanUnits rest <;> simp [h, consUnit]
  · rintro a b c d rest' hu' -
    exact hu hu'

theorem scanUnits_raw {c : Char} (hq : c ≠ '"') (hb : c ≠ '\\') (hc : 0x20 ≤ c.toNat)
    (rest : List Char) : scanUnits (c :: rest) = consUnit c.toNat (scanUnits rest) := by
  rw [scanUnits.eq_def]
  split
  next h => exact nomatch h
  next h => exact absurd (List.cons.inj h).1 hq
  next h => exact absurd (List.cons.inj h).1 hb
  next h => exact absurd (List.cons.inj h).1 hb
  next h =>
    obtain ⟨rfl, rfl⟩ := List.cons.inj h
    rw [if_neg (by simp only [hb, or_false]; omega)]
    rfl

/-- A character is read back from its escape. -/
theorem scanUnits_escapeChar (c : Char) (rest : List Char) :
    scanUnits (escapeChar c ++ rest) = consUnit c.toNat (scanUnits rest) := by
  rw [escapeChar]
  split
  next h => exact h ▸ scanUnits_escaped '"' rfl (by decide) rest
  split
  next h => exact h ▸ scanUnits_escaped '\\' rfl (by decide) rest
  split
  next h => exact h ▸ scanUnits_escaped 'b' rfl (by decide) rest
  split
  next h => exact h ▸ scanUnits_escaped 'f' rfl (by decide) rest
  split
  next h => exact h ▸ scanUnits_escaped 'n' rfl (by decide) rest
  split
  next h => exact h ▸ scanUnits_escaped 'r' rfl (by decide) rest
  split
  next h => exact h ▸ scanUnits_escaped 't' rfl (by decide) rest
  split
  next h =>
    simp only [List.cons_append, List.nil_append]
    rw [scanUnits, hexNumber?_hexDigit _ h]
    cases scanUnits rest <;> rfl
  next hq hb _ _ _ _ _ hc => exact scanUnits_raw hq hb (by omega) rest

/-- The numbers of a printed text are those of its characters. -/
theorem scanUnits_printed (cs rest : List Char) :
    scanUnits (cs.flatMap escapeChar ++ '"' :: rest) = some (cs.map Char.toNat, rest) := by
  induction cs with
  | nil => simp [scanUnits]
  | cons c cs ih =>
    rw [List.flatMap_cons, List.append_assoc, scanUnits_escapeChar, ih]
    rfl

/-- No character is half of a surrogate pair. -/
theorem not_surrogate (c : Char) : isHigh c.toNat = false ∧ isLow c.toNat = false := by
  have range : c.toNat < 0xD800 ∨ (0xDFFF < c.toNat ∧ c.toNat < 0x110000) := c.valid
  simp only [isHigh, isLow, Bool.and_eq_false_iff, decide_eq_false_iff_not]
  omega

/-- The numbers of characters are joined to these characters. -/
theorem joinUnits_toNat (cs : List Char) : joinUnits (cs.map Char.toNat) = some cs := by
  induction cs with
  | nil => rfl
  | cons c cs ih =>
    rw [List.map_cons, joinUnits.eq_def]
    simp [not_surrogate c, ih, Char.ofNat_toNat]

/-- A printed text is read back, whatever follows its closing quote. -/
theorem scanText_printed (s : String) (rest : List Char) :
    scanText (s.toList.flatMap escapeChar ++ '"' :: rest) = some (some s, rest) := by
  rw [scanText, scanUnits_printed]
  simp [joinUnits_toNat]

/-! ## Numbers -/

/-- What may follow a value: nothing, or a character that ends it. -/
def Boundary : List Char → Prop
  | [] => True
  | c :: _ => c = ',' ∨ c = ']' ∨ c = '\x7d'

/-- No character of a number stands at a boundary. -/
theorem Boundary.head {c : Char} {rest : List Char} (h : Boundary (c :: rest)) :
    c.isDigit = false ∧ c ≠ '0' ∧ c ≠ '.' ∧ c ≠ 'e' ∧ c ≠ 'E' ∧ c ≠ '+' ∧ c ≠ '-' := by
  rcases h with rfl | rfl | rfl <;> decide

/-- A sign is found at the first character or not at all. -/
theorem scanSign_append (c : Char) (cs rest : List Char) :
    scanSign (c :: cs ++ rest) = ((scanSign (c :: cs)).1, (scanSign (c :: cs)).2 ++ rest) := by
  by_cases plus : c = '+'
  · subst plus
    rfl
  by_cases minus : c = '-'
  · subst minus
    rfl
  have skipped (cs : List Char) : scanSign (c :: cs) = ([], c :: cs) := by
    rw [scanSign.eq_def]
    split
    next h => exact absurd (List.cons.inj h).1 plus
    next h => exact absurd (List.cons.inj h).1 minus
    next => rfl
  rw [List.cons_append, skipped, skipped]
  rfl

section Append

variable {cs l r rest : List Char} (boundary : Boundary rest)
include boundary

/-- The digits before a boundary. -/
theorem takeWhile_isDigit_append (cs : List Char) :
    (cs ++ rest).takeWhile Char.isDigit = cs.takeWhile Char.isDigit ∧
      (cs ++ rest).dropWhile Char.isDigit = cs.dropWhile Char.isDigit ++ rest := by
  induction cs with
  | nil =>
    cases rest with
    | nil => exact ⟨rfl, rfl⟩
    | cons c rest => simp [boundary.head.1]
  | cons c cs ih =>
    cases hc : c.isDigit <;> simp [hc, ih]

/-- Digits that are read are read also before a boundary. -/
theorem scanDigits_append (h : scanDigits cs = some (l, r)) :
    scanDigits (cs ++ rest) = some (l, r ++ rest) := by
  have ⟨htake, hdrop⟩ := takeWhile_isDigit_append boundary cs
  rw [scanDigits] at h ⊢
  rw [htake, hdrop]
  split at h
  next => exact nomatch h
  next =>
    obtain ⟨rfl, rfl⟩ := Prod.mk.inj (Option.some.inj h)
    rfl

theorem scanWhole_append (h : scanWhole cs = some (l, r)) :
    scanWhole (cs ++ rest) = some (l, r ++ rest) := by
  rw [scanWhole.eq_def] at h
  split at h
  next cs =>
    obtain ⟨rfl, rfl⟩ := Prod.mk.inj (Option.some.inj h)
    rfl
  next not_zero =>
    have h' := scanDigits_append boundary h
    cases cs with
    | nil => exact nomatch h
    | cons c cs =>
      rw [List.cons_append, scanWhole, ← List.cons_append, h']
      rintro r hr
      exact not_zero cs (by rw [(List.cons.inj hr).1])

theorem scanFraction_append (h : scanFraction cs = some (l, r)) :
    scanFraction (cs ++ rest) = some (l, r ++ rest) := by
  rw [scanFraction.eq_def] at h
  split at h
  next cs =>
    cases hds : scanDigits cs with
    | none => rw [hds] at h; exact nomatch h
    | some d =>
      rw [hds] at h
      rw [List.cons_append, scanFraction, scanDigits_append boundary hds]
      obtain ⟨rfl, rfl⟩ := Prod.mk.inj (Option.some.inj h)
      rfl
  next not_point =>
    obtain ⟨rfl, rfl⟩ := Prod.mk.inj (Option.some.inj h)
    rw [scanFraction.eq_def]
    split
    next r' hr =>
      cases cs with
      | nil =>
        cases hr
        exact absurd rfl boundary.head.2.2.1
      | cons c cs => exact absurd (by rw [(List.cons.inj hr).1]) (not_point cs)
    next => rfl

theorem scanExponent_append (h : scanExponent cs = some (l, r)) :
    scanExponent (cs ++ rest) = some (l, r ++ rest) := by
  cases cs with
  | nil =>
    obtain ⟨rfl, rfl⟩ := Prod.mk.inj (Option.some.inj h)
    cases rest with
    | nil => rfl
    | cons c rest =>
      have head := boundary.head
      rw [List.nil_append, scanExponent, if_neg (by simp [head])]
  | cons c cs =>
    rw [List.cons_append, scanExponent]
    rw [scanExponent] at h
    split at h
    next mark =>
      rw [if_pos mark]
      cases cs with
      | nil => exact nomatch h
      | cons d cs =>
        rw [scanSign_append]
        dsimp only at h ⊢
        cases hds : scanDigits (scanSign (d :: cs)).2 with
        | none => rw [hds] at h; exact nomatch h
        | some ds =>
          rw [hds] at h
          rw [scanDigits_append boundary hds]
          obtain ⟨rfl, rfl⟩ := Prod.mk.inj (Option.some.inj h)
          rfl
    next mark =>
      obtain ⟨rfl, rfl⟩ := Prod.mk.inj (Option.some.inj h)
      rw [if_neg mark]
      rfl

theorem scanUnsigned_append (h : scanUnsigned cs = some (l, r)) :
    scanUnsigned (cs ++ rest) = some (l, r ++ rest) := by
  rw [scanUnsigned] at h ⊢
  cases hwhole : scanWhole cs with
  | none => rw [hwhole] at h; exact nomatch h
  | some whole =>
    rw [hwhole] at h
    rw [scanWhole_append boundary hwhole]
    dsimp only at h ⊢
    cases hfraction : scanFraction whole.2 with
    | none => rw [hfraction] at h; exact nomatch h
    | some fraction =>
      rw [hfraction] at h
      rw [scanFraction_append boundary hfraction]
      dsimp only at h ⊢
      cases hexponent : scanExponent fraction.2 with
      | none => rw [hexponent] at h; exact nomatch h
      | some exponent =>
        rw [hexponent] at h
        rw [scanExponent_append boundary hexponent]
        obtain ⟨rfl, rfl⟩ := Prod.mk.inj (Option.some.inj h)
        rfl

/-- A number that is read is read also before a boundary. -/
theorem scanNumber_append (h : scanNumber cs = some (l, r)) :
    scanNumber (cs ++ rest) = some (l, r ++ rest) := by
  rw [scanNumber.eq_def] at h
  split at h
  next cs =>
    rw [List.cons_append, scanNumber]
    cases hunsigned : scanUnsigned cs with
    | none => rw [hunsigned] at h; exact nomatch h
    | some unsigned =>
      rw [hunsigned] at h
      rw [scanUnsigned_append boundary hunsigned]
      obtain ⟨rfl, rfl⟩ := Prod.mk.inj (Option.some.inj h)
      rfl
  next not_minus =>
    have h' := scanUnsigned_append boundary h
    cases cs with
    | nil => exact nomatch h
    | cons c cs =>
      rw [List.cons_append, scanNumber, ← List.cons_append, h']
      rintro r hr
      exact not_minus cs (by rw [(List.cons.inj hr).1])

end Append

/-! ## Values -/

mutual

/-- Whether every number in a value is one. -/
def isProper : Json → Bool
  | .number lexeme => scanNumber lexeme.toList == some (lexeme.toList, [])
  | .array items => areProper items
  | .object fields => haveProper fields
  | _ => true

/-- Whether every number in some values is one. -/
def areProper : List Json → Bool
  | [] => true
  | j :: rest => isProper j && areProper rest

/-- Whether every number in the values of some fields is one. -/
def haveProper : List (String × Json) → Bool
  | [] => true
  | (_, j) :: rest => isProper j && haveProper rest

end

/-- How a value may begin. -/
def isStart (c : Char) : Prop :=
  c ∈ ['n', 't', 'f', '"', '[', '\x7b', '-'] ∨ c.isDigit = true

theorem isStart.not_blank {c : Char} (h : isStart c) :
    ¬ (c = ' ' ∨ c = '\n' ∨ c = '\t' ∨ c = '\r') ∧ c ≠ ']' := by
  constructor
  · rintro (rfl | rfl | rfl | rfl) <;> simp [isStart] at h
  · rintro rfl
    simp [isStart] at h

/-- A number begins with its sign or a digit. -/
theorem scanNumber_head {cs l r : List Char} (h : scanNumber cs = some (l, r)) :
    ∃ c cs', cs = c :: cs' ∧ (c = '-' ∨ c.isDigit = true) := by
  rw [scanNumber.eq_def] at h
  split at h
  next cs => exact ⟨'-', cs, rfl, .inl rfl⟩
  next =>
    cases cs with
    | nil => exact nomatch h
    | cons c cs =>
      refine ⟨c, cs, rfl, .inr ?_⟩
      by_contra hc
      have hwhole : scanWhole (c :: cs) = none := by
        rw [scanWhole, scanDigits]
        · simp [hc]
        · rintro _ h
          cases h
          exact hc rfl
      rw [scanUnsigned, hwhole] at h
      exact nomatch h

/-- What is printed begins with a character that only begins values. -/
theorem print_head {j : Json} (proper : j.isProper = true) :
    ∃ c cs, print j = c :: cs ∧ isStart c := by
  cases j with
  | null => exact ⟨'n', _, rfl, .inl (by simp)⟩
  | bool b =>
    cases b with
    | true => exact ⟨'t', _, rfl, .inl (by simp)⟩
    | false => exact ⟨'f', _, rfl, .inl (by simp)⟩
  | number lexeme =>
    rw [isProper, beq_iff_eq] at proper
    obtain ⟨c, cs, h, hc⟩ := scanNumber_head proper
    refine ⟨c, cs, h, ?_⟩
    rcases hc with rfl | hc
    · exact .inl (by simp)
    · exact .inr hc
  | text s => exact ⟨'"', _, rfl, .inl (by simp)⟩
  | unreadable => exact ⟨'"', _, rfl, .inl (by simp)⟩
  | array items => exact ⟨'[', _, rfl, .inl (by simp)⟩
  | object fields => exact ⟨'\x7b', _, rfl, .inl (by simp)⟩

/-- There is no blank to skip before a character that begins a value. -/
theorem skip_cons {c : Char} (h : isStart c) (cs : List Char) : skip (c :: cs) = c :: cs := by
  rw [skip, if_neg h.not_blank.1]

/-- There is no blank to skip before a mark between values. -/
theorem skip_mark (c : Char) (cs : List Char) (h : c = ',' ∨ c = ':') :
    skip (c :: cs) = c :: cs := by
  rcases h with rfl | rfl <;> rw [skip, if_neg (by decide)]

/-- A number is scanned as a value. -/
theorem scanValue_number {cs l r : List Char} (h : scanNumber cs = some (l, r)) (fuel : Nat) :
    scanValue (fuel + 1) cs = some (.number (String.ofList l), r) := by
  obtain ⟨c, cs, rfl, hc⟩ := scanNumber_head h
  have other : ∀ d : Char, (d = '-' ∨ d.isDigit = true) →
      d ≠ '\x7b' ∧ d ≠ '[' ∧ d ≠ '"' ∧ d ≠ 'n' ∧ d ≠ 't' ∧ d ≠ 'f' := by
    intro d hd
    refine ⟨?_, ?_, ?_, ?_, ?_, ?_⟩ <;> (rintro rfl; exact absurd hd (by decide))
  obtain ⟨h₁, h₂, h₃, h₄, h₅, h₆⟩ := other c hc
  have start : isStart c := hc.imp (fun h => by simp [h]) id
  rw [scanValue, skip_cons start]
  split
  next h => exact absurd (List.cons.inj h).1 h₁
  next h => exact absurd (List.cons.inj h).1 h₂
  next h => exact absurd (List.cons.inj h).1 h₃
  next h => exact absurd (List.cons.inj h).1 h₄
  next h => exact absurd (List.cons.inj h).1 h₅
  next h => exact absurd (List.cons.inj h).1 h₆
  next => rw [h]; rfl

/-! ### Values of one step -/

theorem print_number (lexeme : String) : print (.number lexeme) = lexeme.toList := rfl

theorem print_text (s : String) :
    print (.text s) = '"' :: (s.toList.flatMap escapeChar ++ ['"']) := rfl

theorem print_unreadable : print .unreadable = ['"', '\\', 'u', 'd', '8', '0', '0', '"'] := rfl

theorem print_array (items : List Json) :
    print (.array items) = '[' :: (printItems items ++ [']']) := rfl

theorem print_object (fields : List (String × Json)) :
    print (.object fields) = '\x7b' :: (printFields fields ++ ['\x7d']) := rfl

theorem scanValue_null (fuel : Nat) (rest : List Char) :
    scanValue (fuel + 1) (print .null ++ rest) = some (.null, rest) := rfl

theorem scanValue_bool (b : Bool) (fuel : Nat) (rest : List Char) :
    scanValue (fuel + 1) (print (.bool b) ++ rest) = some (.bool b, rest) := by
  cases b <;> rfl

theorem scanValue_text (s : String) (fuel : Nat) (rest : List Char) :
    scanValue (fuel + 1) (print (.text s) ++ rest) = some (.text s, rest) := by
  rw [print_text, scanValue]
  simp only [List.cons_append, List.append_assoc, List.nil_append]
  rw [skip_cons (.inl (by simp))]
  simp only [scanText_printed s rest]
  rfl

/-- Half of a surrogate pair is written where a text cannot be read, and it is not read there. -/
theorem scanValue_unreadable (fuel : Nat) (rest : List Char) :
    scanValue (fuel + 1) (print .unreadable ++ rest) = some (.unreadable, rest) := by
  have units : scanUnits ('\\' :: 'u' :: 'd' :: '8' :: '0' :: '0' :: '"' :: rest) =
      some ([0xD800], rest) := by
    rw [scanUnits, show hexNumber? 'd' '8' '0' '0' = some 0xD800 by decide, scanUnits]
  have half : joinUnits [0xD800] = none := by decide
  rw [print_unreadable, scanValue]
  simp only [List.cons_append, List.nil_append]
  rw [skip_cons (.inl (by simp))]
  simp only [scanText, units, half, Option.map_some]
  rfl

theorem scanValue_array_nil (fuel : Nat) (rest : List Char) :
    scanValue (fuel + 1) (print (.array []) ++ rest) = some (.array [], rest) := rfl

theorem scanValue_object_nil (fuel : Nat) (rest : List Char) :
    scanValue (fuel + 1) (print (.object []) ++ rest) = some (.object [], rest) := rfl

/-! ### Values of more steps -/

theorem printItems_one (j : Json) : printItems [j] = print j := rfl

theorem printItems_cons (j j' : Json) (items : List Json) :
    printItems (j :: j' :: items) = print j ++ ',' :: printItems (j' :: items) := rfl

theorem printFields_one (k : String) (j : Json) :
    printFields [(k, j)] = '"' :: (k.toList.flatMap escapeChar ++ '"' :: ':' :: print j) := by
  rw [printFields, printText]
  simp

theorem printFields_cons (k : String) (j : Json) (f : String × Json)
    (fields : List (String × Json)) :
    printFields ((k, j) :: f :: fields) =
      '"' :: (k.toList.flatMap escapeChar ++ '"' :: ':' ::
        (print j ++ ',' :: printFields (f :: fields))) := by
  rw [printFields, printText]
  · simp
  · simp

/-- The values of an array that is not empty are scanned after its bracket. -/
theorem scanValue_array {j : Json} {items items' : List Json} {fuel : Nat} {rest rest' : List Char}
    (proper : j.isProper = true)
    (h : scanItems fuel (printItems (j :: items) ++ ']' :: rest) = some (items', rest')) :
    scanValue (fuel + 1) (print (.array (j :: items)) ++ rest) = some (.array items', rest') := by
  obtain ⟨c, cs, hc, start⟩ : ∃ c cs, printItems (j :: items) = c :: cs ∧ isStart c := by
    obtain ⟨c, cs, hc, start⟩ := print_head proper
    cases items with
    | nil => exact ⟨c, cs, hc, start⟩
    | cons j' items => exact ⟨c, _, by rw [printItems_cons, hc, List.cons_append], start⟩
  rw [hc, List.cons_append] at h
  rw [print_array, hc, scanValue]
  simp only [List.cons_append, List.append_assoc, List.nil_append]
  rw [skip_cons (.inl (by simp))]
  simp only [skip_cons start]
  split
  next h' => exact absurd (List.cons.inj h').1 start.not_blank.2
  next => rw [h]; rfl

/-- The fields of an object that is not empty are scanned after its brace. -/
theorem scanValue_object {f : String × Json} {fields fields' : List (String × Json)} {fuel : Nat}
    {rest rest' : List Char}
    (h : scanFields fuel (printFields (f :: fields) ++ '\x7d' :: rest) =
      some (some fields', rest')) :
    scanValue (fuel + 1) (print (.object (f :: fields)) ++ rest) =
      some (.object fields', rest') := by
  obtain ⟨cs, hc⟩ : ∃ cs, printFields (f :: fields) = '"' :: cs := by
    cases fields with
    | nil => exact ⟨_, printFields_one f.1 f.2⟩
    | cons f' fields => exact ⟨_, printFields_cons f.1 f.2 f' fields⟩
  rw [hc, List.cons_append] at h
  rw [print_object, hc, scanValue]
  simp only [List.cons_append, List.append_assoc, List.nil_append]
  have quote := skip_cons (c := '"') (.inl (by simp)) (cs ++ '\x7d' :: rest)
  rw [skip_cons (.inl (by simp))]
  simp only [quote]
  split
  next h' => exact absurd (List.cons.inj h').1 (by decide)
  next => rw [h]; rfl

/-- The first of some values is scanned before the others. -/
theorem scanItems_cons {fuel : Nat} {cs rest rest' : List Char} {j : Json} {items : List Json}
    (value : scanValue fuel cs = some (j, ',' :: rest))
    (more : scanItems fuel rest = some (items, rest')) :
    scanItems (fuel + 1) cs = some (j :: items, rest') := by
  rw [scanItems, value]
  simp only [skip_mark _ rest (.inl rfl), more]
  rfl

theorem scanItems_one {fuel : Nat} {cs rest : List Char} {j : Json}
    (value : scanValue fuel cs = some (j, ']' :: rest)) :
    scanItems (fuel + 1) cs = some ([j], rest) := by
  rw [scanItems, value]
  rfl

/-- The first of some fields is scanned before the others. -/
theorem scanFields_cons {fuel : Nat} {k : String} {cs rest rest' : List Char} {j : Json}
    {fields : List (String × Json)} (value : scanValue fuel cs = some (j, ',' :: rest))
    (more : scanFields fuel rest = some (some fields, rest')) :
    scanFields (fuel + 1) ('"' :: (k.toList.flatMap escapeChar ++ '"' :: ':' :: cs)) =
      some (some ((k, j) :: fields), rest') := by
  rw [scanFields, skip_cons (.inl (by simp))]
  simp only [scanText_printed, skip_mark ':' cs (.inr rfl), value, skip_mark ',' rest (.inl rfl),
    more]
  rfl

theorem scanFields_one {fuel : Nat} {k : String} {cs rest : List Char} {j : Json}
    (value : scanValue fuel cs = some (j, '\x7d' :: rest)) :
    scanFields (fuel + 1) ('"' :: (k.toList.flatMap escapeChar ++ '"' :: ':' :: cs)) =
      some (some [(k, j)], rest) := by
  rw [scanFields, skip_cons (.inl (by simp))]
  simp only [scanText_printed, skip_mark ':' cs (.inr rfl), value]
  rfl

mutual

/-- A value is scanned from its text, whatever follows it, if the fuel is more than its length. -/
theorem scanValue_print : ∀ (j : Json), j.isProper = true → ∀ (fuel : Nat) (rest : List Char),
    (print j).length < fuel → Boundary rest → scanValue fuel (print j ++ rest) = some (j, rest)
  | _, _, 0, _, h, _ => absurd h (Nat.not_lt_zero _)
  | .null, _, fuel + 1, rest, _, _ => scanValue_null fuel rest
  | .bool b, _, fuel + 1, rest, _, _ => scanValue_bool b fuel rest
  | .number lexeme, proper, fuel + 1, rest, _, boundary => by
    rw [isProper, beq_iff_eq] at proper
    rw [print_number, scanValue_number (scanNumber_append boundary proper), String.ofList_toList]
    rfl
  | .text s, _, fuel + 1, rest, _, _ => scanValue_text s fuel rest
  | .unreadable, _, fuel + 1, rest, _, _ => scanValue_unreadable fuel rest
  | .array [], _, fuel + 1, rest, _, _ => scanValue_array_nil fuel rest
  | .array (j :: items), proper, fuel + 1, rest, h, _ => by
    rw [print_array, List.length_cons, List.length_append, List.length_singleton] at h
    rw [isProper] at proper
    have first := (Bool.and_eq_true_iff.1 proper).1
    exact scanValue_array first (scanItems_print j items proper fuel rest (by omega))
  | .object [], _, fuel + 1, rest, _, _ => scanValue_object_nil fuel rest
  | .object ((k, j) :: fields), proper, fuel + 1, rest, h, _ => by
    rw [print_object, List.length_cons, List.length_append, List.length_singleton] at h
    rw [isProper] at proper
    exact scanValue_object (scanFields_print k j fields proper fuel rest (by omega))

theorem scanItems_print : ∀ (j : Json) (items : List Json), areProper (j :: items) = true →
    ∀ (fuel : Nat) (rest : List Char), (printItems (j :: items)).length + 1 < fuel →
    scanItems fuel (printItems (j :: items) ++ ']' :: rest) = some (j :: items, rest)
  | _, _, _, 0, _, h => absurd h (Nat.not_lt_zero _)
  | j, [], proper, fuel + 1, rest, h => by
    have first := (Bool.and_eq_true_iff.1 proper).1
    rw [printItems_one] at h ⊢
    exact scanItems_one (scanValue_print j first fuel _ (by omega) (.inr (.inl rfl)))
  | j, j' :: items, proper, fuel + 1, rest, h => by
    obtain ⟨first, others⟩ := Bool.and_eq_true_iff.1 proper
    rw [printItems_cons] at h ⊢
    rw [List.length_append, List.length_cons] at h
    rw [List.append_assoc]
    exact scanItems_cons (scanValue_print j first fuel _ (by omega) (.inl rfl))
      (scanItems_print j' items others fuel rest (by omega))

theorem scanFields_print : ∀ (k : String) (j : Json) (fields : List (String × Json)),
    haveProper ((k, j) :: fields) = true → ∀ (fuel : Nat) (rest : List Char),
    (printFields ((k, j) :: fields)).length + 1 < fuel →
    scanFields fuel (printFields ((k, j) :: fields) ++ '\x7d' :: rest) =
      some (some ((k, j) :: fields), rest)
  | _, _, _, _, 0, _, h => absurd h (Nat.not_lt_zero _)
  | k, j, [], proper, fuel + 1, rest, h => by
    have first := (Bool.and_eq_true_iff.1 proper).1
    rw [printFields_one] at h ⊢
    simp only [List.length_cons, List.length_append] at h
    simp only [List.cons_append, List.append_assoc]
    exact scanFields_one (scanValue_print j first fuel _ (by omega) (.inr (.inr rfl)))
  | k, j, (k', j') :: fields, proper, fuel + 1, rest, h => by
    obtain ⟨first, others⟩ := Bool.and_eq_true_iff.1 proper
    rw [printFields_cons] at h ⊢
    simp only [List.length_cons, List.length_append] at h
    simp only [List.cons_append, List.append_assoc]
    exact scanFields_cons (scanValue_print j first fuel _ (by omega) (.inl rfl))
      (scanFields_print k' j' fields others fuel rest (by omega))

end

/-- What is printed for a value is read as that value. -/
theorem parse_print {j : Json} (proper : j.isProper = true) : parse (print j) = some j := by
  have := scanValue_print j proper ((print j).length + 1) [] (by omega) trivial
  rw [List.append_nil] at this
  rw [parse, this]
  rfl

end MountKeys.Json
