import MountKeys.Base64
import MountKeys.Proofs.Utf8

/-!
# Base64 there and back

What `encode` writes is read by `decode?` as the same bytes (`decode?_encode`).  The induction is
on groups of three bytes, and one lemma for each form of a group says what is read from its symbols.
The other way round nothing else is read: no text but the one that `encode` writes for some bytes
stands for them (`decode?_eq_some_iff`).
-/

namespace MountKeys.Base64

/-- A symbol stands for the six bits that it was written for. -/
@[simp] theorem value?_symbol : ∀ {n : Nat}, n < 64 → value? (symbol n) = some n := by
  decide

/-- A character that stands for six bits is the symbol that is written for them. -/
theorem symbol_of_value? {c : Char} {n : Nat} (h : value? c = some n) : n < 64 ∧ symbol n = c := by
  have back : Char.ofNat c.toNat = c := c.ofNat_toNat
  simp only [value?, Char.le_def, UInt32.le_iff_toNat_le, Char.toNat_val, Char.reduceToNat] at h
  split at h
  next upper =>
    obtain rfl := Option.some.inj h
    rw [symbol, if_pos (by omega), Nat.add_sub_cancel' upper.1, back]
    exact ⟨by omega, rfl⟩
  split at h
  next lower =>
    obtain rfl := Option.some.inj h
    rw [symbol, if_neg (by omega), if_pos (by omega), Nat.add_sub_cancel' (by omega), back]
    exact ⟨by omega, rfl⟩
  split at h
  next digit =>
    obtain rfl := Option.some.inj h
    rw [symbol, if_neg (by omega), if_neg (by omega), if_pos (by omega), Nat.add_sub_cancel, back]
    exact ⟨by omega, rfl⟩
  split at h
  next plus =>
    obtain rfl := Option.some.inj h
    exact ⟨by decide, plus.symm⟩
  split at h
  next slash =>
    obtain rfl := Option.some.inj h
    exact ⟨by decide, slash.symm⟩
  next => exact nomatch h

/-- The padding is no symbol. -/
theorem ne_pad_of_value? {c : Char} {n : Nat} (h : value? c = some n) : c ≠ '=' := by
  rintro rfl
  exact nomatch h

section Groups

variable {p q r s : Char} {p' q' r' s' : Nat} (hp : value? p = some p') (hq : value? q = some q')
include hp hq

/-- A group without padding is three bytes. -/
theorem decode?_three {rest : List Char} {bytes : Bytes} (hr : value? r = some r')
    (hs : value? s = some s') (hrest : decode? rest = some bytes) :
    decode? (p :: q :: r :: s :: rest) =
      some (.ofNat (p' * 4 + q' / 16) :: .ofNat (q' % 16 * 16 + r' / 4) ::
        .ofNat (r' % 4 * 64 + s') :: bytes) := by
  rw [decode?.eq_def]
  simp [hp, hq, hr, hs, hrest, ne_pad_of_value? hs]

/-- A group with one padding is two bytes. -/
theorem decode?_two (hr : value? r = some r') (zero : r' % 4 = 0) :
    decode? [p, q, r, '='] =
      some [.ofNat (p' * 4 + q' / 16), .ofNat (q' % 16 * 16 + r' / 4)] := by
  rw [decode?.eq_def]
  simp [hp, hq, hr, zero, ne_pad_of_value? hr]

/-- A group with two paddings is one byte. -/
theorem decode?_one (zero : q' % 16 = 0) :
    decode? [p, q, '=', '='] = some [.ofNat (p' * 4 + q' / 16)] := by
  rw [decode?.eq_def]
  simp [hp, hq, zero]

end Groups

/-- What is written for some bytes is read as these bytes. -/
@[simp] theorem decode?_encode (bs : Bytes) : decode? (encode bs) = some bs := by
  induction bs using encode.induct with
  | case1 a b c rest ih =>
    have := a.toNat_lt
    have := b.toNat_lt
    have := c.toNat_lt
    simp only [encode, encodeBare, List.cons_append, List.nil_append]
    rw [decode?_three (value?_symbol (by omega)) (value?_symbol (by omega))
      (value?_symbol (by omega)) (value?_symbol (by omega)) ih, byte_ofNat (b := a) (by omega),
      byte_ofNat (b := b) (by omega), byte_ofNat (b := c) (by omega)]
  | case2 a b =>
    have := a.toNat_lt
    have := b.toNat_lt
    simp only [encode, encodeBare, List.cons_append, List.nil_append]
    rw [decode?_two (value?_symbol (by omega)) (value?_symbol (by omega))
      (value?_symbol (by omega)) (by omega), byte_ofNat (b := a) (by omega),
      byte_ofNat (b := b) (by omega)]
  | case3 a =>
    have := a.toNat_lt
    simp only [encode, encodeBare, List.cons_append, List.nil_append]
    rw [decode?_one (value?_symbol (by omega)) (value?_symbol (by omega)) (by omega),
      byte_ofNat (b := a) (by omega)]
  | case4 => rfl

/-- A text that is read as some bytes is what is written for them. -/
theorem encode_of_decode? {text : List Char} {bs : Bytes} (h : decode? text = some bs) :
    encode bs = text := by
  have sextet {m n : Nat} {c : Char} (hc : value? c = some n) (same : m = n) : symbol m = c :=
    same ▸ (symbol_of_value? hc).2
  fun_induction decode? text generalizing bs with
  | case1 =>
    obtain rfl := Option.some.inj h
    rfl
  | case2 p q p' q' hq hp zero =>
    have := (symbol_of_value? hp).1
    have := (symbol_of_value? hq).1
    obtain rfl := Option.some.inj h
    simp only [encode, encodeBare, List.cons_append, List.nil_append]
    rw [byte_toNat (by omega), sextet hp (by omega), sextet hq (by omega)]
  | case5 p q r _ p' q' r' hr hq hp zero =>
    have := (symbol_of_value? hp).1
    have := (symbol_of_value? hq).1
    have := (symbol_of_value? hr).1
    obtain rfl := Option.some.inj h
    simp only [encode, encodeBare, List.cons_append, List.nil_append]
    rw [byte_toNat (by omega), byte_toNat (by omega), sextet hp (by omega), sextet hq (by omega),
      sextet hr (by omega)]
  | case8 p q r s rest _ _ p' q' r' s' bytes hrest hs hr hq hp ih =>
    have := (symbol_of_value? hp).1
    have := (symbol_of_value? hq).1
    have := (symbol_of_value? hr).1
    have := (symbol_of_value? hs).1
    obtain rfl := Option.some.inj h
    simp only [encode, encodeBare, List.cons_append, List.nil_append]
    rw [byte_toNat (by omega), byte_toNat (by omega), byte_toNat (by omega), sextet hp (by omega),
      sextet hq (by omega), sextet hr (by omega), sextet hs (by omega), ih hrest]
  | _ => exact nomatch h

/-- A text stands for some bytes exactly if it is what is written for them. -/
theorem decode?_eq_some_iff {text : List Char} {bs : Bytes} :
    decode? text = some bs ↔ text = encode bs :=
  ⟨fun h => (encode_of_decode? h).symm, fun h => h ▸ decode?_encode bs⟩

/-- No two byte strings are written alike. -/
theorem encode_inj {bs bs' : Bytes} : encode bs = encode bs' ↔ bs = bs' :=
  ⟨fun h => Option.some.inj (by rw [← decode?_encode, h, decode?_encode]), congrArg encode⟩

/-- The padding of a text is what its length lacks to whole groups. -/
theorem encode_eq_bare (bs : Bytes) :
    encode bs = encodeBare bs ++ List.replicate ((4 - (encodeBare bs).length % 4) % 4) '=' := by
  induction bs using encode.induct with
  | case1 a b c rest ih =>
    rw [encode, ih]
    simp only [encodeBare, List.cons_append, List.nil_append, List.length_cons]
    rw [show (encodeBare rest).length + 1 + 1 + 1 + 1 = (encodeBare rest).length + 4 from rfl,
      Nat.add_mod_right]
  | case2 a b => rfl
  | case3 a => rfl
  | case4 => rfl

/-- No two byte strings are written alike without padding either. -/
theorem encodeBare_inj {bs bs' : Bytes} : encodeBare bs = encodeBare bs' ↔ bs = bs' :=
  ⟨fun h => encode_inj.1 (by rw [encode_eq_bare, h, ← encode_eq_bare]), congrArg encodeBare⟩

/-- What is written consists of symbols and padding. -/
theorem forall_mem_encode {P : Char → Prop} (symbols : ∀ n < 64, P (symbol n)) (pad : P '=')
    (bs : Bytes) : ∀ c ∈ encode bs, P c := by
  induction bs using encode.induct with
  | case1 a b c rest ih =>
    have := a.toNat_lt
    have := b.toNat_lt
    have := c.toNat_lt
    simp only [encode, encodeBare, List.cons_append, List.nil_append, List.forall_mem_cons]
    exact ⟨symbols _ (by omega), symbols _ (by omega), symbols _ (by omega), symbols _ (by omega),
      ih⟩
  | case2 a b =>
    have := a.toNat_lt
    have := b.toNat_lt
    simp only [encode, encodeBare, List.cons_append, List.nil_append, List.forall_mem_cons]
    exact ⟨symbols _ (by omega), symbols _ (by omega), symbols _ (by omega), pad, nofun⟩
  | case3 a =>
    have := a.toNat_lt
    simp only [encode, encodeBare, List.cons_append, List.nil_append, List.forall_mem_cons]
    exact ⟨symbols _ (by omega), symbols _ (by omega), pad, pad, nofun⟩
  | case4 => exact nofun

end MountKeys.Base64
