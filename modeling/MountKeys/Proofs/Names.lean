import MountKeys.Names

/-!
# What checked names are

Names that pass `Names.check` are short and made of lower case letters, digits, hyphens and dots
(`check_plain`).  That is all that the requests need of them: such a name stands for itself in a
path.
-/

namespace MountKeys.Names

/-- Whether a character may occur in a name. -/
def isPlainChar (c : Char) : Bool :=
  isAlphanumeric c || c == '-' || c == '.'

/-- The numbers of the characters that may occur in a name. -/
theorem isPlainChar_iff {c : Char} :
    isPlainChar c = true ↔ (97 ≤ c.toNat ∧ c.toNat ≤ 122) ∨ (48 ≤ c.toNat ∧ c.toNat ≤ 57) ∨
      c.toNat = 45 ∨ c.toNat = 46 := by
  have eq_iff (d : Char) : c = d ↔ c.toNat = d.toNat := Char.toNat_inj.symm
  simp only [isPlainChar, isAlphanumeric, Bool.or_eq_true, Bool.and_eq_true, decide_eq_true_eq,
    beq_iff_eq, eq_iff, Char.le_def, UInt32.le_iff_toNat_le]
  change (((97 ≤ c.toNat ∧ c.toNat ≤ 122) ∨ (48 ≤ c.toNat ∧ c.toNat ≤ 57)) ∨ c.toNat = 45) ∨
    c.toNat = 46 ↔ _
  rw [or_assoc, or_assoc]

/-- A reader that completes a name has read nothing else. -/
theorem plain_of_completes {dots : Bool} {last : Last} {cs : List Char}
    (h : completes dots last cs = true) : ∀ c ∈ cs, isPlainChar c = true := by
  induction cs generalizing last with
  | nil => exact fun _ h => nomatch h
  | cons c rest ih =>
    rw [completes] at h
    rw [List.forall_mem_cons]
    split at h
    next hc => exact ⟨by simp [isPlainChar, hc], ih h⟩
    split at h
    next hc => exact ⟨by simp [isPlainChar, hc], ih (Bool.and_eq_true_iff.1 h).2⟩
    split at h
    next hc => exact ⟨by simp [isPlainChar, hc], ih (Bool.and_eq_true_iff.1 h).2⟩
    next => exact nomatch h

/-- What is known of a name that was checked: its characters, and that there are some, but not too
many. -/
structure IsPlain (value : String) : Prop where
  nonempty : value ≠ ""
  chars : ∀ c ∈ value.toList, isPlainChar c = true
  short : (textBytes value).length ≤ 253

theorem checkOne_plain {role : Role} {value : String} (h : checkOne role value = .ok ()) :
    IsPlain value := by
  rw [checkOne] at h
  split at h
  next => exact nomatch h
  next nonempty =>
    split at h
    next => exact nomatch h
    next short =>
      split at h
      next complete =>
        have limit : role.limit ≤ 253 := by cases role <;> decide
        exact ⟨by simpa using nonempty, plain_of_completes complete, by omega⟩
      next => exact nomatch h

/-- All three names are plain if they pass the check. -/
theorem check_plain {names : Names} (h : names.check = .ok ()) :
    IsPlain names.ns ∧ IsPlain names.secret ∧ IsPlain names.configMap := by
  rw [check] at h
  split at h
  next => exact nomatch h
  next hns =>
    split at h
    next => exact nomatch h
    next hsecret => exact ⟨checkOne_plain hns, checkOne_plain hsecret, checkOne_plain h⟩

end MountKeys.Names
