import MountKeys.Utf8

/-!
# UTF-8 there and back

`decode_eq_ok_iff` is the main result: bytes are text exactly if they are what `encode` writes for
it, so no text has two spellings and none is lost on the way.

* The bytes of a character by their ranges: `width?_eq_some_iff`, `isSecond_iff`, `isTail_iff`.
* One character: `encodeChar` writes what `pieces` takes for one character (`pieces_encodeChar`),
  and what it takes for one character is what `encodeChar` writes (`encodeChar_two` and the lemmas
  after it).
* All characters, by induction on the pieces.
* The UTF-8 of the standard library is the same (`encodeChar_eq`), and so are the bytes that are
  valid (`isValid_iff`).
-/

namespace MountKeys

/-- A byte is made from its number. -/
theorem byte_ofNat {n : Nat} {b : UInt8} (h : n = b.toNat) : UInt8.ofNat n = b := by
  rw [h, UInt8.ofNat_toNat]

/-- A byte has the number that it is made from. -/
theorem byte_toNat {n : Nat} (h : n < 256) : (UInt8.ofNat n).toNat = n := by
  rw [UInt8.toNat_ofNat']
  omega

namespace Utf8

/-! ## Ranges -/

@[simp] theorem tail_toNat (n : Nat) : (tail n).toNat = 0x80 + n % 0x40 := by
  rw [tail, UInt8.toNat_ofNat']
  omega

theorem low_eq (b : UInt8) : low b = b.toNat - 0x80 := rfl

theorem isTail_iff {b : UInt8} : isTail b = true ↔ 0x80 ≤ b.toNat ∧ b.toNat ≤ 0xBF := by
  simp [isTail, UInt8.le_iff_toNat_le]

/-- The ranges of the second byte by the first one. -/
theorem isSecond_iff {a b : UInt8} :
    isSecond a b = true ↔ (0x80 ≤ b.toNat ∧ b.toNat ≤ 0xBF) ∧
      (a.toNat = 0xE0 → 0xA0 ≤ b.toNat) ∧ (a.toNat = 0xED → b.toNat ≤ 0x9F) ∧
      (a.toNat = 0xF0 → 0x90 ≤ b.toNat) ∧ (a.toNat = 0xF4 → b.toNat ≤ 0x8F) := by
  have eq_iff (n : UInt8) : a = n ↔ a.toNat = n.toNat := UInt8.toNat_inj.symm
  simp only [isSecond, eq_iff, UInt8.reduceToNat]
  split
  next => simp [UInt8.le_iff_toNat_le]; omega
  split
  next => simp [UInt8.le_iff_toNat_le]; omega
  split
  next => simp [UInt8.le_iff_toNat_le]; omega
  split
  next => simp [UInt8.le_iff_toNat_le]; omega
  next => rw [isTail_iff]; omega

/-- The ranges of the first byte by the width of the character. -/
theorem width?_eq_some_iff {a : UInt8} {w : Nat} :
    width? a = some w ↔
      (w = 1 ∧ a.toNat < 0x80) ∨ (w = 2 ∧ 0xC2 ≤ a.toNat ∧ a.toNat < 0xE0) ∨
        (w = 3 ∧ 0xE0 ≤ a.toNat ∧ a.toNat < 0xF0) ∨ (w = 4 ∧ 0xF0 ≤ a.toNat ∧ a.toNat < 0xF5) := by
  have lt_iff (n : UInt8) : a < n ↔ a.toNat < n.toNat := UInt8.lt_iff_toNat_lt
  simp only [width?, lt_iff, UInt8.reduceToNat]
  repeat' split
  all_goals simp only [Option.some.injEq, reduceCtorEq, false_iff]
  all_goals omega

/-- The numbers of characters: no surrogates, and none above the last plane. -/
theorem toNat_range (c : Char) : c.toNat < 0xD800 ∨ (0xDFFF < c.toNat ∧ c.toNat < 0x110000) :=
  c.valid

/-! ## One character -/

/-- A character that was made from its number has that number. -/
private theorem toNat_ofNat {n : Nat} (valid : n.isValidChar) : (Char.ofNat n).toNat = n := by
  rw [Char.ofNat, dif_pos valid]
  rfl

/-- The bytes of a character by its number. -/
theorem encodeChar_ofNat {n : Nat} (valid : n.isValidChar) :
    encodeChar (Char.ofNat n) =
      if n < 0x80 then [.ofNat n]
      else if n < 0x800 then [.ofNat (0xC0 + n / 0x40), tail n]
      else if n < 0x10000 then [.ofNat (0xE0 + n / 0x1000), tail (n / 0x40), tail n]
      else [.ofNat (0xF0 + n / 0x40000), tail (n / 0x1000), tail (n / 0x40), tail n] := by
  simp only [encodeChar, toNat_ofNat valid]

private theorem tail_eq {n : Nat} {b : UInt8} (h : 0x80 + n % 0x40 = b.toNat) : tail n = b :=
  byte_ofNat h

theorem encodeChar_one {a : UInt8} (ha : width? a = some 1) :
    encodeChar (Char.ofNat a.toNat) = [a] := by
  have ha' := width?_eq_some_iff.1 ha
  rw [encodeChar_ofNat (.inl (by omega)), if_pos (by omega), byte_ofNat rfl]

theorem encodeChar_two {a b : UInt8} (ha : width? a = some 2) (hb : isSecond a b = true) :
    encodeChar (Char.ofNat ((a.toNat - 0xC0) * 0x40 + low b)) = [a, b] := by
  have ha' := width?_eq_some_iff.1 ha
  have hb' := isSecond_iff.1 hb
  have hlow := low_eq b
  generalize hn : (a.toNat - 0xC0) * 0x40 + low b = n
  rw [encodeChar_ofNat (.inl (by omega)), if_neg (by omega), if_pos (by omega),
    byte_ofNat (b := a) (by omega), tail_eq (b := b) (by omega)]

theorem encodeChar_three {a b c : UInt8} (ha : width? a = some 3) (hb : isSecond a b = true)
    (hc : isTail c = true) :
    encodeChar (Char.ofNat ((a.toNat - 0xE0) * 0x1000 + low b * 0x40 + low c)) = [a, b, c] := by
  have ha' := width?_eq_some_iff.1 ha
  have hb' := isSecond_iff.1 hb
  have hc' := isTail_iff.1 hc
  have hlow := And.intro (low_eq b) (low_eq c)
  generalize hn : (a.toNat - 0xE0) * 0x1000 + low b * 0x40 + low c = n
  have valid : n.isValidChar := by
    rw [Nat.isValidChar]
    omega
  rw [encodeChar_ofNat valid, if_neg (by omega), if_neg (by omega), if_pos (by omega),
    byte_ofNat (b := a) (by omega), tail_eq (b := b) (by omega), tail_eq (b := c) (by omega)]

theorem encodeChar_four {a b c d : UInt8} (ha : width? a = some 4) (hb : isSecond a b = true)
    (hc : isTail c = true) (hd : isTail d = true) :
    encodeChar (Char.ofNat
      ((a.toNat - 0xF0) * 0x40000 + low b * 0x1000 + low c * 0x40 + low d)) = [a, b, c, d] := by
  have ha' := width?_eq_some_iff.1 ha
  have hb' := isSecond_iff.1 hb
  have hc' := isTail_iff.1 hc
  have hd' := isTail_iff.1 hd
  have hlow := And.intro (low_eq b) (And.intro (low_eq c) (low_eq d))
  generalize hn : (a.toNat - 0xF0) * 0x40000 + low b * 0x1000 + low c * 0x40 + low d = n
  have valid : n.isValidChar := by
    rw [Nat.isValidChar]
    omega
  rw [encodeChar_ofNat valid, if_neg (by omega), if_neg (by omega), if_neg (by omega),
    byte_ofNat (b := a) (by omega), tail_eq (b := b) (by omega), tail_eq (b := c) (by omega),
    tail_eq (b := d) (by omega)]

theorem pieces_one {a : UInt8} (ha : width? a = some 1) (rest : Bytes) :
    pieces (a :: rest) = .char (Char.ofNat a.toNat) :: pieces rest := by
  rw [pieces.eq_def]
  simp only [ha]

theorem pieces_two {a b : UInt8} (ha : width? a = some 2) (hb : isSecond a b = true)
    (rest : Bytes) :
    pieces (a :: b :: rest) =
      .char (Char.ofNat ((a.toNat - 0xC0) * 0x40 + low b)) :: pieces rest := by
  rw [pieces.eq_def]
  simp only [ha, hb, if_true]

theorem pieces_three {a b c : UInt8} (ha : width? a = some 3) (hb : isSecond a b = true)
    (hc : isTail c = true) (rest : Bytes) :
    pieces (a :: b :: c :: rest) =
      .char (Char.ofNat ((a.toNat - 0xE0) * 0x1000 + low b * 0x40 + low c)) :: pieces rest := by
  rw [pieces.eq_def]
  simp only [ha, hb, hc, if_true]

theorem pieces_four {a b c d : UInt8} (ha : width? a = some 4) (hb : isSecond a b = true)
    (hc : isTail c = true) (hd : isTail d = true) (rest : Bytes) :
    pieces (a :: b :: c :: d :: rest) =
      .char (Char.ofNat ((a.toNat - 0xF0) * 0x40000 + low b * 0x1000 + low c * 0x40 + low d)) ::
        pieces rest := by
  rw [pieces.eq_def]
  simp only [ha, hb, hc, hd, if_true]

/-- The bytes of a character are taken for that character, whatever follows. -/
theorem pieces_encodeChar (c : Char) (rest : Bytes) :
    pieces (encodeChar c ++ rest) = .char c :: pieces rest := by
  have range := toNat_range c
  have back : Char.ofNat c.toNat = c := c.ofNat_toNat
  rw [encodeChar]
  generalize c.toNat = n at range back ⊢
  split
  next small =>
    have ha : (UInt8.ofNat n).toNat = n := byte_toNat (by omega)
    rw [List.singleton_append, pieces_one (width?_eq_some_iff.2 (by omega)), ha, back]
  split
  next small =>
    have ha := byte_toNat (n := 0xC0 + n / 0x40) (by omega)
    have hb : isSecond (UInt8.ofNat (0xC0 + n / 0x40)) (tail n) = true :=
      isSecond_iff.2 (by rw [ha, tail_toNat]; omega)
    have value : (0xC0 + n / 0x40 - 0xC0) * 0x40 + low (tail n) = n := by
      rw [low_eq, tail_toNat]
      omega
    simp only [List.cons_append, List.nil_append]
    rw [pieces_two (width?_eq_some_iff.2 (by omega)) hb, ha, value, back]
  split
  next small =>
    have ha := byte_toNat (n := 0xE0 + n / 0x1000) (by omega)
    have hb : isSecond (UInt8.ofNat (0xE0 + n / 0x1000)) (tail (n / 0x40)) = true :=
      isSecond_iff.2 (by rw [ha, tail_toNat]; omega)
    have hc : isTail (tail n) = true := isTail_iff.2 (by rw [tail_toNat]; omega)
    have value : (0xE0 + n / 0x1000 - 0xE0) * 0x1000 + low (tail (n / 0x40)) * 0x40 +
        low (tail n) = n := by
      rw [low_eq, low_eq, tail_toNat, tail_toNat]
      omega
    simp only [List.cons_append, List.nil_append]
    rw [pieces_three (width?_eq_some_iff.2 (by omega)) hb hc, ha, value, back]
  next =>
    have ha := byte_toNat (n := 0xF0 + n / 0x40000) (by omega)
    have hb : isSecond (UInt8.ofNat (0xF0 + n / 0x40000)) (tail (n / 0x1000)) = true :=
      isSecond_iff.2 (by rw [ha, tail_toNat]; omega)
    have hc : isTail (tail (n / 0x40)) = true := isTail_iff.2 (by rw [tail_toNat]; omega)
    have hd : isTail (tail n) = true := isTail_iff.2 (by rw [tail_toNat]; omega)
    have value : (0xF0 + n / 0x40000 - 0xF0) * 0x40000 + low (tail (n / 0x1000)) * 0x1000 +
        low (tail (n / 0x40)) * 0x40 + low (tail n) = n := by
      rw [low_eq, low_eq, low_eq, tail_toNat, tail_toNat, tail_toNat]
      omega
    simp only [List.cons_append, List.nil_append]
    rw [pieces_four (width?_eq_some_iff.2 (by omega)) hb hc hd, ha, value, back]

/-! ## All characters -/

/-- Pieces are joined to a text exactly if they are its characters. -/
theorem join_eq_ok_iff {index : Nat} {ps : List Piece} {cs : List Char} :
    join index ps = .ok cs ↔ ps = cs.map .char := by
  induction ps generalizing index cs with
  | nil => cases cs <;> simp [join]
  | cons p rest ih =>
    cases p with
    | char c =>
      cases cs with
      | nil => cases h : join (index + (encodeChar c).length) rest <;> simp [join, h, Except.map]
      | cons c' cs' =>
        rw [List.map_cons, List.cons.injEq, Piece.char.injEq,
          ← @ih (index + (encodeChar c).length)]
        cases h : join (index + (encodeChar c).length) rest <;> simp [join, h, Except.map]
    | invalid length => cases cs <;> simp [join]
    | incomplete => cases cs <;> simp [join]

/-- If the bytes after a first character are the bytes of the other characters, then all are. -/
private theorem encode_cons_of_pieces {c : Char} {bs rest : Bytes} (hc : encodeChar c = bs)
    (ih : ∀ {cs : List Char}, pieces rest = cs.map .char → encode cs = rest) {cs : List Char}
    (h : .char c :: pieces rest = cs.map Piece.char) : encode cs = bs ++ rest := by
  cases cs with
  | nil => exact nomatch h
  | cons c' cs' =>
    obtain ⟨hhead, htail⟩ := List.cons.inj h
    rw [← Piece.char.inj hhead, ← ih htail, ← hc]
    rfl

/-- No text begins with a piece that is no character. -/
private theorem not_map_char {p : Piece} {ps : List Piece} {cs : List Char}
    (h : p :: ps = cs.map Piece.char) : ∃ c, p = .char c := by
  cases cs with
  | nil => exact nomatch h
  | cons c cs' => exact ⟨c, (List.cons.inj h).1⟩

/-- Bytes that are taken for characters throughout are the bytes of these characters. -/
theorem encode_of_pieces {bs : Bytes} {cs : List Char} (h : pieces bs = cs.map .char) :
    encode cs = bs := by
  fun_induction pieces bs generalizing cs with
  | case1 =>
    rw [List.map_eq_nil_iff.1 h.symm]
    rfl
  | case2 a rest ha ih => exact encode_cons_of_pieces (encodeChar_one ha) ih h
  | case4 a ha b rest hb ih => exact encode_cons_of_pieces (encodeChar_two ha hb) ih h
  | case9 a ha b c rest hb hc ih => exact encode_cons_of_pieces (encodeChar_three ha hb hc) ih h
  | case18 a w h₁ h₂ h₃ ha b c d rest hb hc hd ih =>
    rcases width?_eq_some_iff.1 ha with ⟨hw, _⟩ | ⟨hw, _⟩ | ⟨hw, _⟩ | ⟨rfl, _⟩
    · exact (h₁ hw).elim
    · exact (h₂ hw).elim
    · exact (h₃ hw).elim
    exact encode_cons_of_pieces (encodeChar_four ha hb hc hd) ih h
  | _ =>
    obtain ⟨c, hc⟩ := not_map_char h
    exact nomatch hc

/-- The bytes of a text are taken for its characters, whatever follows. -/
theorem pieces_encode_append (cs : List Char) (bs : Bytes) :
    pieces (encode cs ++ bs) = cs.map .char ++ pieces bs := by
  induction cs with
  | nil => rfl
  | cons c rest ih =>
    rw [encode, List.flatMap_cons, List.append_assoc, pieces_encodeChar, List.map_cons]
    exact congrArg _ ih

theorem pieces_encode (cs : List Char) : pieces (encode cs) = cs.map .char := by
  have whole := pieces_encode_append cs []
  rw [List.append_nil] at whole
  exact whole.trans (List.append_nil _)

/-- Bytes are text exactly if they are the bytes of that text. -/
theorem decode_eq_ok_iff {bs : Bytes} {cs : List Char} : decode bs = .ok cs ↔ encode cs = bs := by
  rw [decode, join_eq_ok_iff]
  exact ⟨encode_of_pieces, fun h => h ▸ pieces_encode cs⟩

@[simp] theorem decode_encode (cs : List Char) : decode (encode cs) = .ok cs :=
  decode_eq_ok_iff.2 rfl

/-- Bytes after those of a text go on with it exactly if they are text themselves. -/
theorem decode_encode_append_eq_ok_iff {cs text : List Char} {bs : Bytes} :
    decode (encode cs ++ bs) = .ok text ↔ ∃ more, decode bs = .ok more ∧ text = cs ++ more := by
  simp only [decode, join_eq_ok_iff, pieces_encode_append]
  constructor
  · intro h
    obtain ⟨front, more, rfl, hfront, hmore⟩ := List.map_eq_append_iff.1 h.symm
    obtain rfl := (List.map_inj_right fun _ _ => Piece.char.inj).1 hfront
    exact ⟨more, hmore.symm, rfl⟩
  · rintro ⟨more, h, rfl⟩
    rw [h, List.map_append]

/-- Bytes that are a text are the bytes of that text. -/
theorem textBytes_of_decode? {bs : Bytes} {s : String} (h : decode? bs = some s) :
    textBytes s = bs := by
  rw [decode?] at h
  cases hd : decode bs with
  | error fault => simp [hd, Except.toOption] at h
  | ok cs =>
    rw [hd] at h
    rw [textBytes, ← Option.some.inj h, String.toList_ofList]
    exact decode_eq_ok_iff.1 hd

/-! ## The UTF-8 of the standard library -/

/-- The bytes of a character are those that the standard library gives it. -/
theorem encodeChar_eq (c : Char) : encodeChar c = String.utf8EncodeChar c := by
  have range := toNat_range c
  have byte {m n : Nat} (h : m % 256 = n % 256) : UInt8.ofNat m = UInt8.ofNat n := by
    rw [← UInt8.toNat_inj, UInt8.toNat_ofNat', UInt8.toNat_ofNat']
    exact h
  rw [encodeChar, String.utf8EncodeChar, Char.toNat_val]
  generalize c.toNat = n at range ⊢
  simp only [tail, Nat.add_comm 0x80, ← Nat.lt_add_one_iff, Nat.reduceAdd]
  split
  next => rfl
  split
  next => rw [byte (by omega : (0xC0 + n / 0x40) % 256 = (n / 0x40 % 32 + 0xC0) % 256)]
  split
  next => rw [byte (by omega : (0xE0 + n / 0x1000) % 256 = (n / 0x1000 % 16 + 0xE0) % 256)]
  next => rw [byte (by omega : (0xF0 + n / 0x40000) % 256 = (n / 0x40000 % 8 + 0xF0) % 256)]

theorem encode_toByteArray (cs : List Char) : (encode cs).toByteArray = cs.utf8Encode := by
  rw [encode, List.utf8Encode, funext encodeChar_eq]

/-- Bytes are valid UTF-8 exactly if they are read as text. -/
theorem isValid_iff {bs : Bytes} : bs.toByteArray.IsValidUTF8 ↔ ∃ cs, encode cs = bs := by
  constructor
  · rintro ⟨cs, h⟩
    refine ⟨cs, ?_⟩
    rw [← encode_toByteArray] at h
    have := congrArg (fun b => b.data.toList) h
    simpa using this.symm
  · rintro ⟨cs, rfl⟩
    exact ⟨cs, encode_toByteArray cs⟩

/-- Bytes are a text exactly if they are valid UTF-8. -/
theorem decode?_isSome_iff {bs : Bytes} :
    (decode? bs).isSome = true ↔ bs.toByteArray.IsValidUTF8 := by
  rw [isValid_iff, decode?]
  cases decoded : decode bs with
  | error fault =>
    refine ⟨nofun, fun ⟨cs, same⟩ => ?_⟩
    exact nomatch decoded.symm.trans (decode_eq_ok_iff.2 same)
  | ok cs => exact ⟨fun _ => ⟨cs, decode_eq_ok_iff.1 decoded⟩, fun _ => rfl⟩

end Utf8

/-- The bytes of two texts one after the other. -/
theorem textBytes_append (s t : String) : textBytes (s ++ t) = textBytes s ++ textBytes t := by
  rw [textBytes, String.toList_append, Utf8.encode, List.flatMap_append]
  rfl

/-- The bytes of a text are as many as the standard library counts. -/
theorem textBytes_length (s : String) : (textBytes s).length = s.utf8ByteSize := by
  rw [String.utf8ByteSize, ← String.utf8Encode_toList, ← Utf8.encode_toByteArray]
  simp [textBytes]

end MountKeys
