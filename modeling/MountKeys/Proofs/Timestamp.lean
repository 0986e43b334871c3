import Mathlib.Algebra.Group.Nat.Defs
import MountKeys.Timestamp

/-!
# Times there and back

`Timestamp.parse?` reads what `Timestamp.print` writes for a valid time of a year with four digits
(`parse?_print`).  Each part of the text is a number with zeros before it, which is read whatever
follows it, since its reader takes no more digits than the number has.
-/

namespace MountKeys

/-- The digits of a number write that number. -/
theorem Text.decimal_toDigits (n : Nat) : Text.decimal (Nat.toDigits 10 n) = n := by
  have := Nat.ofDigitChars_ten_toDigits (n := n)
  rw [Nat.ofDigitChars_eq_foldl] at this
  simpa [Text.decimal, Nat.mul_comm] using this

/-- Zeros before digits do not count. -/
theorem Text.decimal_zeros (n : Nat) (ds : List Char) :
    Text.decimal (List.replicate n '0' ++ ds) = Text.decimal ds := by
  induction n with
  | zero => rfl
  | succ n ih =>
    rw [← ih]
    rfl

namespace Timestamp

/-! ## Numbers -/

theorem padded_length {width n : Nat} (pos : 0 < width) (h : n < 10 ^ width) :
    (padded width n).length = width := by
  have := (Nat.length_toDigits_le_iff (b := 10) (by decide) pos).2 h
  rw [padded, List.length_append, List.length_replicate]
  omega

theorem padded_digits (width n : Nat) : ∀ c ∈ padded width n, c.isDigit = true := by
  intro c hc
  rcases List.mem_append.1 hc with hc | hc
  · rw [List.eq_of_mem_replicate hc]
    rfl
  · exact Nat.isDigit_of_mem_toDigits (by decide) (by decide) hc

theorem takeWhile_padded (width n : Nat) :
    (padded width n).takeWhile Char.isDigit = padded width n := by
  rw [← List.append_nil (padded width n),
    List.takeWhile_append_of_pos (padded_digits width n), List.takeWhile_nil]

theorem decimal_padded (width n : Nat) : Text.decimal (padded width n) = n := by
  rw [padded, Text.decimal_zeros, Text.decimal_toDigits]

/-- No digit is a blank. -/
theorem isBlank_of_isDigit {c : Char} (h : c.isDigit = true) : Text.isBlank c = false := by
  have range : 48 ≤ c.toNat ∧ c.toNat ≤ 57 := by
    simpa [Char.isDigit, Char.le_def, UInt32.le_iff_toNat_le] using h
  simp only [Text.isBlank, Bool.or_eq_false_iff, Bool.and_eq_false_iff, beq_eq_false_iff_ne,
    decide_eq_false_iff_not]
  omega

/-- There is no blank before a number. -/
theorem trimStart_padded {width n : Nat} (pos : 0 < width) (h : n < 10 ^ width)
    (rest : List Char) : Text.trimStart (padded width n ++ rest) = padded width n ++ rest := by
  cases hp : padded width n with
  | nil =>
    have := padded_length pos h
    rw [hp] at this
    exact absurd this (by simp; omega)
  | cons c cs =>
    have := padded_digits width n c (by simp [hp])
    rw [Text.trimStart, List.cons_append, List.dropWhile_cons_of_neg]
    simp [isBlank_of_isDigit this]

/-- A number is read from as many digits as it has, whatever follows. -/
theorem scanNumber_padded {width n : Nat} (pos : 0 < width) (h : n < 10 ^ width)
    (rest : List Char) : scanNumber (some width) (padded width n ++ rest) = some (n, rest) := by
  have digits : ((padded width n ++ rest).take width).takeWhile Char.isDigit = padded width n := by
    rw [List.take_left' (padded_length pos h)]
    exact takeWhile_padded width n
  have some_digit : (padded width n).isEmpty = false := by
    cases hp : padded width n with
    | nil =>
      have := padded_length pos h
      rw [hp] at this
      exact absurd this (by simp; omega)
    | cons c cs => rfl
  rw [scanNumber, trimStart_padded pos h]
  simp only [Option.elim_some, digits, some_digit]
  rw [if_neg (by decide), decimal_padded, List.drop_left]

/-! ## Times -/

/-- There is no blank before a mark. -/
theorem scanMark_cons (mark : Char) (h : Text.isBlank mark = false) (rest : List Char) :
    scanMark mark (mark :: rest) = some rest := by
  rw [scanMark, Text.trimStart, List.dropWhile_cons_of_neg (by simp [h])]
  simp

/-- A year with four digits is read before anything. -/
theorem scanYear_padded {n : Nat} (h : n < 10 ^ 4) (rest : List Char) :
    scanYear (padded 4 n ++ rest) = some ((n : Int), rest) := by
  rw [scanYear, trimStart_padded (by decide) h]
  have no_sign : ∀ c cs, padded 4 n ++ rest = c :: cs → c.isDigit = true := by
    intro c cs hc
    cases hp : padded 4 n with
    | nil =>
      have := padded_length (by decide) h
      rw [hp] at this
      exact nomatch this
    | cons d ds =>
      rw [hp] at hc
      rw [← (List.cons.inj hc).1]
      exact padded_digits 4 n d (by simp [hp])
  split
  next h' => exact absurd (no_sign _ _ h') (by decide)
  next h' => exact absurd (no_sign _ _ h') (by decide)
  next => rw [scanNumber_padded (by decide) h]; rfl

/-- A time in UTC is its own time in UTC. -/
theorem toUtc_zero {t : Timestamp} (hour : t.hour ≤ 23) (minute : t.minute ≤ 59) :
    t.toUtc 0 = t := by
  have minutes : ((t.hour : Int) * 60 + t.minute - 0) % 1440 =
      ((t.hour * 60 + t.minute : Nat) : Int) := by
    omega
  simp only [toUtc, minutes]
  rw [if_neg (by omega), if_pos (by omega), Int.toNat_natCast]
  have hHour : (t.hour * 60 + t.minute) / 60 = t.hour := by omega
  have hMinute : (t.hour * 60 + t.minute) % 60 = t.minute := by omega
  rw [hHour, hMinute]

/-- A valid time of a year with four digits is read back from its text. -/
theorem parse?_print {t : Timestamp} (valid : t.isValid = true) (era : 0 ≤ t.year)
    (era' : t.year ≤ 9999) : parse? t.print.toList = some t := by
  have ranges := valid
  simp only [isValid, Bool.and_eq_true, decide_eq_true_eq] at ranges
  obtain ⟨⟨⟨⟨⟨⟨⟨fits, -⟩, month⟩, -⟩, day⟩, hour⟩, minute⟩, second⟩ := ranges
  have day' : t.day ≤ 31 := by
    have : daysIn t.year t.month ≤ 31 := by
      rw [daysIn]
      repeat' split
      all_goals decide
    omega
  have year : ((t.year.toNat : Nat) : Int) = t.year := Int.toNat_of_nonneg era
  rw [print, String.toList_ofList, printYear, if_pos ⟨era, era'⟩]
  simp only [List.append_assoc, List.cons_append]
  have two {n : Nat} (h : n ≤ 60) (rest : List Char) :
      scanNumber (some 2) (padded 2 n ++ rest) = some (n, rest) :=
    scanNumber_padded (by decide) (by omega) rest
  have same : (⟨t.year.toNat, t.month, t.day, t.hour, t.minute, t.second⟩ : Timestamp) = t := by
    rw [year]
  -- The text is read part by part, in the order of the reader.
  refine Option.bind_eq_some_iff.2 ⟨_, scanYear_padded (show t.year.toNat < 10 ^ 4 by omega) _, ?_⟩
  refine Option.bind_eq_some_iff.2 ⟨_, scanMark_cons '-' rfl _, ?_⟩
  refine Option.bind_eq_some_iff.2 ⟨_, two (show t.month ≤ 60 by omega) _, ?_⟩
  refine Option.bind_eq_some_iff.2 ⟨_, scanMark_cons '-' rfl _, ?_⟩
  refine Option.bind_eq_some_iff.2 ⟨_, two (show t.day ≤ 60 by omega) _, ?_⟩
  refine Option.bind_eq_some_iff.2 ⟨_, two (show t.hour ≤ 60 by omega) _, ?_⟩
  refine Option.bind_eq_some_iff.2 ⟨_, scanMark_cons ':' rfl _, ?_⟩
  refine Option.bind_eq_some_iff.2 ⟨_, two (show t.minute ≤ 60 by omega) _, ?_⟩
  refine Option.bind_eq_some_iff.2 ⟨_, scanMark_cons ':' rfl _, ?_⟩
  refine Option.bind_eq_some_iff.2 ⟨_, two second _, ?_⟩
  refine Option.bind_eq_some_iff.2 ⟨['Z'], rfl, ?_⟩
  refine Option.bind_eq_some_iff.2 ⟨(0, []), rfl, ?_⟩
  dsimp only
  rw [same, toUtc_zero hour minute, valid, fits]
  rfl

end Timestamp

end MountKeys
