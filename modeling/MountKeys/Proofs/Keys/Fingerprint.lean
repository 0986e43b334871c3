import Mathlib.Algebra.Group.Nat.Defs
import MountKeys.Keys.Fingerprint
import MountKeys.Proofs.Base64
import MountKeys.Proofs.Text.Words
import MountKeys.Proofs.Utf8

/-!
# What a fingerprint stands for

`HoldsKey` says which key a text holds without running the search: its first line that is not blank
and no comment, the first two words side by side there that are a type and the base64 of a blob of
that type.  The fingerprint is the hash of exactly this blob (`ofText?_eq_some_iff`).

* A blob is that of a type when it is on the wire `wire type payload` for some payload
  (`blobType?_eq_some_iff`), and a type and its spelling can be had from it (`IsKey.unique`).
* Among words the search goes from left to right, and `NoPair` is what it has passed over
  (`blobAmong?_eq_some_iff`).
* Among lines it passes over those that are idle (`keyLine?_eq_some_iff`).

The hash is used as a function only: nothing here depends on how it mixes bits.
-/

namespace MountKeys.Fingerprint

/-! ## Blobs -/

/-- The blob of a key: the length of its type in four bytes, the type, and the key itself. -/
def wire (type : List Char) (payload : Bytes) : Bytes :=
  Sha256.bigEndian 4 (Utf8.encode type).length ++ (Utf8.encode type ++ payload)

/-- A blob that ends before the length of its type does, or before the bytes that this length
promises. -/
def Truncated (blob : Bytes) : Prop :=
  blob.length < 4 ∨
    ∃ declared < 2 ^ 32, ∃ rest, blob = Sha256.bigEndian 4 declared ++ rest ∧ rest.length < declared

/-- A type of keys, and the spelling of a blob of that type. -/
structure IsKey (type body : List Char) (blob : Bytes) : Prop where
  /-- The length of the type fits into four bytes. -/
  short : (Utf8.encode type).length < 2 ^ 32
  /-- The blob starts with the type. -/
  typed : ∃ payload, blob = wire type payload
  /-- The spelling is that of the encoder, with its padding. -/
  canonical : body = Base64.encode blob

private theorem bigEndian_four (n : Nat) :
    Sha256.bigEndian 4 n =
      [.ofNat (n / 256 ^ 3 % 256), .ofNat (n / 256 ^ 2 % 256), .ofNat (n / 256 ^ 1 % 256),
        .ofNat (n / 256 ^ 0 % 256)] := rfl

/-- Any four bytes are the spelling of a number. -/
theorem exists_bigEndian (a b c d : UInt8) :
    ∃ n < 2 ^ 32, [a, b, c, d] = Sha256.bigEndian 4 n := by
  have := a.toNat_lt
  have := b.toNat_lt
  have := c.toNat_lt
  have := d.toNat_lt
  refine ⟨((a.toNat * 256 + b.toNat) * 256 + c.toNat) * 256 + d.toNat, by omega, ?_⟩
  rw [bigEndian_four, byte_ofNat (b := a) (by omega), byte_ofNat (b := b) (by omega),
    byte_ofNat (b := c) (by omega), byte_ofNat (b := d) (by omega)]

/-- The number that is read from the four bytes written for it. -/
theorem exists_bytes_of_bigEndian {n : Nat} (h : n < 2 ^ 32) :
    ∃ a b c d : UInt8, Sha256.bigEndian 4 n = [a, b, c, d] ∧
      ((a.toNat * 256 + b.toNat) * 256 + c.toNat) * 256 + d.toNat = n := by
  refine ⟨_, _, _, _, bigEndian_four n, ?_⟩
  simp only [UInt8.toNat_ofNat']
  omega

/-- Reading goes on after the length of the type. -/
theorem blobType?_bigEndian {declared : Nat} (h : declared < 2 ^ 32) (rest : Bytes) :
    blobType? (Sha256.bigEndian 4 declared ++ rest) =
      if declared ≤ rest.length then (Utf8.decode (rest.take declared)).toOption else none := by
  obtain ⟨a, b, c, d, bytes, number⟩ := exists_bytes_of_bigEndian h
  rw [bytes]
  simp only [List.cons_append, List.nil_append, blobType?, number]

/-- A blob ends early, or is a length and at least as many bytes. -/
theorem truncated_or (blob : Bytes) :
    Truncated blob ∨
      ∃ declared < 2 ^ 32, ∃ rest, blob = Sha256.bigEndian 4 declared ++ rest ∧
        declared ≤ rest.length := by
  match blob with
  | a :: b :: c :: d :: rest =>
    obtain ⟨declared, small, length⟩ := exists_bigEndian a b c d
    have split : a :: b :: c :: d :: rest = Sha256.bigEndian 4 declared ++ rest := by
      rw [← length]
      rfl
    rw [split]
    obtain less | enough := Nat.lt_or_ge rest.length declared
    · exact .inl (.inr ⟨declared, small, rest, rfl, less⟩)
    · exact .inr ⟨declared, small, rest, rfl, enough⟩
  | [] | [_] | [_, _] | [_, _, _] => exact .inl (.inl (by simp))

theorem blobType?_of_truncated {blob : Bytes} (h : Truncated blob) : blobType? blob = none := by
  rcases h with short | ⟨declared, small, rest, rfl, less⟩
  · match blob with
    | [] | [_] | [_, _] | [_, _, _] => rfl
  · rw [blobType?_bigEndian small, if_neg (by omega)]

/-- The type of a blob is the one that it starts with. -/
theorem blobType?_eq_some_iff {blob : Bytes} {type : List Char} :
    blobType? blob = some type ↔
      (Utf8.encode type).length < 2 ^ 32 ∧ ∃ payload, blob = wire type payload := by
  constructor
  · intro h
    obtain truncated | ⟨declared, small, rest, rfl, enough⟩ := truncated_or blob
    · rw [blobType?_of_truncated truncated] at h
      exact nomatch h
    rw [blobType?_bigEndian small, if_pos enough] at h
    cases decoded : Utf8.decode (rest.take declared) with
    | error fault => exact nomatch decoded ▸ h
    | ok cs =>
      rw [decoded] at h
      obtain rfl := Option.some.inj h
      have bytes := Utf8.decode_eq_ok_iff.1 decoded
      have length : (Utf8.encode cs).length = declared := by
        rw [bytes, List.length_take_of_le enough]
      refine ⟨length ▸ small, rest.drop declared, ?_⟩
      rw [wire, length, bytes, List.take_append_drop]
  · rintro ⟨short, payload, rfl⟩
    rw [wire, blobType?_bigEndian short, if_pos (by simp), List.take_left, Utf8.decode_encode]
    rfl

/-- Two words are taken for a key exactly if they are one. -/
theorem blobOf?_eq_some_iff {type body : List Char} {blob : Bytes} :
    blobOf? type body = some blob ↔ IsKey type body blob := by
  rw [blobOf?, Option.filter_eq_some_iff, beq_iff_eq, Base64.decode?_eq_some_iff,
    blobType?_eq_some_iff]
  exact ⟨fun ⟨canonical, short, typed⟩ => ⟨short, typed, canonical⟩,
    fun ⟨short, typed, canonical⟩ => ⟨canonical, short, typed⟩⟩

theorem blobOf?_eq_none_iff {type body : List Char} :
    blobOf? type body = none ↔ ∀ blob, ¬IsKey type body blob := by
  rw [Option.eq_none_iff_forall_ne_some]
  exact forall_congr' fun _ => not_congr blobOf?_eq_some_iff

/-- A key has one type and one spelling. -/
theorem IsKey.unique {type type' body body' : List Char} {blob : Bytes} (h : IsKey type body blob)
    (h' : IsKey type' body' blob) : type = type' ∧ body = body' := by
  have same := (blobType?_eq_some_iff.2 ⟨h.short, h.typed⟩).symm.trans
    (blobType?_eq_some_iff.2 ⟨h'.short, h'.typed⟩)
  exact ⟨Option.some.inj same, h.canonical.trans h'.canonical.symm⟩

theorem IsKey.not_truncated {type body : List Char} {blob : Bytes} (h : IsKey type body blob) :
    ¬Truncated blob := fun truncated => by
  have read := blobType?_eq_some_iff.2 ⟨h.short, h.typed⟩
  exact nomatch (blobType?_of_truncated truncated).symm.trans read

/-! ## Words -/

/-- No two words side by side are a key. -/
def NoPair (ws : List (List Char)) : Prop :=
  ∀ x y, [x, y] <:+: ws → ∀ blob, ¬IsKey x y blob

/-- The first two words side by side that are a key. -/
structure FirstKey (ws : List (List Char)) (type body : List Char) (blob : Bytes) : Prop where
  key : IsKey type body blob
  first : ∃ before after, ws = before ++ type :: body :: after ∧ NoPair (before ++ [type])

theorem noPair_singleton (x : List Char) : NoPair [x] := fun _ _ pair =>
  absurd pair.length_le (by simp)

theorem noPair_cons_cons {x y : List Char} {ws : List (List Char)} :
    NoPair (x :: y :: ws) ↔ (∀ blob, ¬IsKey x y blob) ∧ NoPair (y :: ws) := by
  constructor
  · intro none
    exact ⟨none x y ⟨[], ws, rfl⟩, fun x' y' pair => none x' y' (pair.trans ⟨[x], [], by simp⟩)⟩
  · rintro ⟨head, tail⟩ x' y' pair
    obtain start | later := List.infix_cons_iff.1 pair
    · obtain ⟨rfl, next⟩ := List.cons_prefix_cons.1 start
      obtain ⟨rfl, -⟩ := List.cons_prefix_cons.1 next
      exact head
    · exact tail x' y' later

/-- The search goes on past two words that are no key. -/
theorem blobAmong?_cons_cons {x y : List Char} (no : ∀ blob, ¬IsKey x y blob)
    (ws : List (List Char)) : blobAmong? (x :: y :: ws) = blobAmong? (y :: ws) := by
  rw [blobAmong?, blobOf?_eq_none_iff.2 no]

/-- The search passes over words none of which begins a key. -/
theorem blobAmong?_append {before : List (List Char)} {type : List Char}
    (none : NoPair (before ++ [type])) (ws : List (List Char)) :
    blobAmong? (before ++ type :: ws) = blobAmong? (type :: ws) := by
  induction before with
  | nil => rfl
  | cons x before ih =>
    cases before with
    | nil => exact blobAmong?_cons_cons (noPair_cons_cons.1 none).1 ws
    | cons y before =>
      have pairs := noPair_cons_cons.1 none
      exact (blobAmong?_cons_cons pairs.1 _).trans (ih pairs.2)

/-- What is found among words is the first key. -/
theorem blobAmong?_eq_some_iff {ws : List (List Char)} {blob : Bytes} :
    blobAmong? ws = some blob ↔ ∃ type body, FirstKey ws type body blob := by
  constructor
  · intro h
    induction ws using blobAmong?.induct with
    | case1 type body rest found blobOf =>
      rw [blobAmong?, blobOf] at h
      obtain rfl := Option.some.inj h
      exact ⟨type, body, blobOf?_eq_some_iff.1 blobOf, [], rest, rfl, noPair_singleton type⟩
    | case2 x y rest no ih =>
      rw [blobAmong?, no] at h
      obtain ⟨type, body, key, before, after, split, none⟩ := ih h
      refine ⟨type, body, key, x :: before, after, congrArg (x :: ·) split, ?_⟩
      cases before with
      | nil =>
        obtain ⟨rfl, -⟩ := List.cons.inj split
        exact noPair_cons_cons.2 ⟨blobOf?_eq_none_iff.1 no, none⟩
      | cons z before =>
        obtain ⟨rfl, -⟩ := List.cons.inj split
        exact noPair_cons_cons.2 ⟨blobOf?_eq_none_iff.1 no, none⟩
    | case3 ws short =>
      rw [blobAmong?.eq_def] at h
      split at h
      · exact (short _ _ _ rfl).elim
      · exact nomatch h
  · rintro ⟨type, body, key, before, after, rfl, none⟩
    rw [blobAmong?_append none, blobAmong?, blobOf?_eq_some_iff.2 key]

/-! ## Lines -/

/-- A line that is blank throughout or a comment. -/
def IsIdle (line : List Char) : Prop :=
  (∀ c ∈ line, Text.isBlank c = true) ∨
    ∃ lead rest, line = lead ++ '#' :: rest ∧ ∀ c ∈ lead, Text.isBlank c = true

/-- A text holds a key if its first line that is not idle does: the first of its words there that
are a key. -/
def HoldsKey (text type body : List Char) (blob : Bytes) : Prop :=
  ∃ idle line more, text.splitOn '\n' = idle ++ line :: more ∧ (∀ l ∈ idle, IsIdle l) ∧
    ¬IsIdle line ∧ FirstKey ((line.splitOnP Text.isBlank).filter (· ≠ [])) type body blob

/-- A line is idle exactly if its first character that is no blank, if any, marks a comment. -/
theorem isIdle_iff {line : List Char} :
    IsIdle line ↔ ∀ c ∈ line.find? (!Text.isBlank ·), c = '#' := by
  constructor
  · rintro (blank | ⟨lead, rest, rfl, blank⟩) c found
    · rw [List.find?_eq_none.2 (by simpa using blank)] at found
      exact nomatch found
    · have mark : (lead ++ '#' :: rest).find? (!Text.isBlank ·) = some '#' :=
        List.find?_eq_some_iff_append.2 ⟨by decide, lead, rest, rfl, by simpa using blank⟩
      exact (Option.some.inj (mark.symm.trans found)).symm
  · intro first
    cases found : line.find? (!Text.isBlank ·) with
    | none => exact .inl (by simpa using List.find?_eq_none.1 found)
    | some c =>
      obtain ⟨-, lead, rest, rfl, blank⟩ := List.find?_eq_some_iff_append.1 found
      obtain rfl := first c found
      exact .inr ⟨lead, rest, rfl, by simpa using blank⟩

instance (line : List Char) : Decidable (IsIdle line) :=
  decidable_of_iff ((line.find? (!Text.isBlank ·)).all (· == '#') = true) (by
    rw [isIdle_iff]
    cases line.find? (!Text.isBlank ·) <;> simp)

/-- The lines that are searched are those that are not idle. -/
theorem mayHoldKey_trim (line : List Char) : mayHoldKey (Text.trim line) = true ↔ ¬IsIdle line := by
  rw [isIdle_iff, ← Text.head?_trim]
  cases Text.trim line <;> simp [mayHoldKey]

theorem keyLine?_eq_some_iff {text found : List Char} :
    keyLine? text = some found ↔
      ∃ idle line more, text.splitOn '\n' = idle ++ line :: more ∧ (∀ l ∈ idle, IsIdle l) ∧
        ¬IsIdle line ∧ found = Text.trim line := by
  rw [keyLine?, Text.cutAt_eq, List.find?_map, Option.map_eq_some_iff]
  simp only [List.find?_eq_some_iff_append, Function.comp_apply, mayHoldKey_trim, Bool.not_eq_true',
    Bool.eq_false_iff, ne_eq, not_not]
  constructor
  · rintro ⟨line, ⟨busy, idle, more, split, rest⟩, rfl⟩
    exact ⟨idle, line, more, split, rest, busy, rfl⟩
  · rintro ⟨idle, line, more, split, rest, busy, rfl⟩
    exact ⟨line, ⟨busy, idle, more, split, rest⟩, rfl⟩

/-- What is found in a text is the blob of the key that it holds. -/
theorem blobIn?_eq_some_iff {text : List Char} {blob : Bytes} :
    blobIn? text = some blob ↔ ∃ type body, HoldsKey text type body blob := by
  rw [blobIn?, Option.bind_eq_some_iff]
  constructor
  · rintro ⟨found, line?, among⟩
    obtain ⟨idle, line, more, split, rest, busy, rfl⟩ := keyLine?_eq_some_iff.1 line?
    obtain ⟨type, body, first⟩ := blobAmong?_eq_some_iff.1 among
    rw [Text.words_trim, Text.words_eq] at first
    exact ⟨type, body, idle, line, more, split, rest, busy, first⟩
  · rintro ⟨type, body, idle, line, more, split, rest, busy, first⟩
    refine ⟨_, keyLine?_eq_some_iff.2 ⟨idle, line, more, split, rest, busy, rfl⟩, ?_⟩
    rw [Text.words_trim, Text.words_eq]
    exact blobAmong?_eq_some_iff.2 ⟨type, body, first⟩

/-- A text has the fingerprint of the blob of the key that it holds, and no other. -/
theorem ofText?_eq_some_iff {text : List Char} {f : String} :
    ofText? text = some f ↔ ∃ type body blob, HoldsKey text type body blob ∧ f = ofBlob blob := by
  simp only [ofText?, Option.map_eq_some_iff, blobIn?_eq_some_iff]
  constructor
  · rintro ⟨blob, ⟨type, body, holds⟩, rfl⟩
    exact ⟨type, body, blob, holds, rfl⟩
  · rintro ⟨type, body, blob, holds, rfl⟩
    exact ⟨blob, ⟨type, body, holds⟩, rfl⟩

theorem HoldsKey.isKey {text type body : List Char} {blob : Bytes}
    (h : HoldsKey text type body blob) : IsKey type body blob := by
  obtain ⟨_, _, _, _, _, _, first⟩ := h
  exact first.key

/-- A text holds one key at most. -/
theorem HoldsKey.unique {text type type' body body' : List Char} {blob blob' : Bytes}
    (h : HoldsKey text type body blob) (h' : HoldsKey text type' body' blob') :
    type = type' ∧ body = body' ∧ blob = blob' := by
  have same := (blobIn?_eq_some_iff.2 ⟨_, _, h⟩).symm.trans (blobIn?_eq_some_iff.2 ⟨_, _, h'⟩)
  obtain rfl := Option.some.inj same
  obtain ⟨types, bodies⟩ := h.isKey.unique h'.isKey
  exact ⟨types, bodies, rfl⟩

/-- Blobs with one fingerprint have one hash. -/
theorem ofBlob_inj {blob blob' : Bytes} :
    ofBlob blob = ofBlob blob' ↔ Sha256.digest blob = Sha256.digest blob' := by
  rw [ofBlob, ofBlob, String.append_right_inj, String.ofList_inj, Base64.encodeBare_inj]

/-- Two keys are the same, or their blobs differ. -/
theorem IsKey.same_or_ne {type type' body body' : List Char} {blob blob' : Bytes}
    (h : IsKey type body blob) (h' : IsKey type' body' blob') :
    (type = type' ∧ body = body') ∨ blob ≠ blob' := by
  by_cases same : blob = blob'
  · subst same
    exact .inl (h.unique h')
  · exact .inr same

/-- A fingerprint is sound and identifies its key.  A text has it exactly if it is the hash of the
blob of the key that the text holds; a truncated blob is that of no key, and the search passes over
it as if it were any other word; and two texts with one fingerprint hold the same key, spelled
alike, unless their blobs are a collision of the hash. -/
theorem identifies_key (text other : List Char) :
    (∀ f, ofText? text = some f ↔ ∃ type body blob, HoldsKey text type body blob ∧
      f = "SHA256:" ++ String.ofList (Base64.encodeBare (Sha256.digest blob))) ∧
    (∀ type body blob, HoldsKey text type body blob → ¬Truncated blob) ∧
    (∀ blob, Truncated blob → ∀ type rest,
      blobAmong? (type :: Base64.encode blob :: rest) =
        blobAmong? (Base64.encode blob :: rest)) ∧
    ∀ type body blob type' body' blob',
      HoldsKey text type body blob → HoldsKey other type' body' blob' →
        ofText? text = ofText? other →
          (type = type' ∧ body = body') ∨
            (blob ≠ blob' ∧ Sha256.digest blob = Sha256.digest blob') := by
  refine ⟨fun f => ofText?_eq_some_iff, fun type body blob holds => ?_,
    fun blob truncated type rest => blobAmong?_cons_cons (fun other key => ?_) rest,
    fun type body blob type' body' blob' holds holds' same => ?_⟩
  · exact holds.isKey.not_truncated
  · obtain rfl := Base64.encode_inj.1 key.canonical
    exact key.not_truncated truncated
  · have hash : Sha256.digest blob = Sha256.digest blob' := by
      rw [ofText?_eq_some_iff.2 ⟨_, _, _, holds, rfl⟩,
        ofText?_eq_some_iff.2 ⟨_, _, _, holds', rfl⟩] at same
      exact ofBlob_inj.1 (Option.some.inj same)
    exact (holds.isKey.same_or_ne holds'.isKey).imp_right fun differ => ⟨differ, hash⟩

/-- A pair whose blob promises nine bytes and has none does not hide the key behind it, which is the
one that the other text holds. -/
theorem identifies_key_behind_truncated :
    let text := "t AAAACQ== t AAAAAXQ=".toList
    let other := "# mine\n\tt AAAAAXQ= me\r\n".toList
    let type := "t".toList
    let body := "AAAAAXQ=".toList
    let blob : Bytes := [0, 0, 0, 1, 0x74]
    (HoldsKey text type body blob ∧ HoldsKey other type body blob ∧ Truncated [0, 0, 0, 9]) ∧
      ofText? text = some ("SHA256:" ++ String.ofList (Base64.encodeBare (Sha256.digest blob))) ∧
      ¬Truncated blob ∧
      blobAmong? [type, Base64.encode [0, 0, 0, 9], type, body] =
        blobAmong? [Base64.encode [0, 0, 0, 9], type, body] ∧
      ((type = type ∧ body = body) ∨
        (blob ≠ blob ∧ Sha256.digest blob = Sha256.digest blob)) := by
  intro text other type body blob
  have key : IsKey type body blob := ⟨by decide, ⟨[], by decide⟩, by decide⟩
  have holds : HoldsKey text type body blob := by
    refine ⟨[], text, [], by decide, nofun, by decide, key,
      [type, "AAAACQ==".toList], [], by decide, ?_⟩
    exact noPair_cons_cons.2 ⟨blobOf?_eq_none_iff.1 (by decide), noPair_cons_cons.2
      ⟨blobOf?_eq_none_iff.1 (by decide), noPair_singleton type⟩⟩
  have holds' : HoldsKey other type body blob :=
    ⟨["# mine".toList], "\tt AAAAAXQ= me\r".toList, [[]], by decide,
      List.forall_mem_singleton.2 (by decide), by decide, key, [], ["me".toList], by decide,
      noPair_singleton type⟩
  have truncated : Truncated [0, 0, 0, 9] := .inr ⟨9, by decide, [], by decide, by decide⟩
  obtain ⟨found, full, passed, same⟩ := identifies_key text other
  obtain ⟨found', -⟩ := identifies_key other text
  have fingerprint := (found _).2 ⟨_, _, _, holds, rfl⟩
  refine ⟨⟨holds, holds', truncated⟩, fingerprint, full _ _ _ holds, passed _ truncated _ _, ?_⟩
  exact same _ _ _ _ _ _ holds holds'
    (fingerprint.trans ((found' _).2 ⟨_, _, _, holds', rfl⟩).symm)

end MountKeys.Fingerprint
