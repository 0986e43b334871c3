import MountKeys.Proofs.Keys.Fingerprint

/-!
# Every key text is fingerprinted

`KeyText type payload` is the shape of a file that holds one key: lines that are blank or comments,
then the line of the key with options before it and a remark after it, then anything.  Whatever
fills this shape, the text holds the key (`KeyText.holdsKey`), so its fingerprint is that of the key
alone (`KeyText.fingerprint_text`).

The proof follows the text from its start.  The idle lines are cut off one by one, the first word of
the line of the key shows that this line is not idle, and gaps part its words.
-/

namespace MountKeys.Fingerprint

/-- Blanks within a line. -/
structure IsGap (gap : List Char) : Prop where
  blank : ∀ c ∈ gap, Text.isBlank c = true
  inLine : '\n' ∉ gap

instance (gap : List Char) : Decidable (IsGap gap) :=
  decidable_of_iff (gap.all Text.isBlank = true ∧ '\n' ∉ gap)
    ⟨fun h => ⟨List.all_eq_true.1 h.1, h.2⟩, fun h => ⟨List.all_eq_true.2 h.blank, h.inLine⟩⟩

/-- How the line of a key ends, and what stands after it. -/
inductive Ending
  | textEnd
  | lf (more : List Char)
  | crlf (more : List Char)

/-- The characters of an ending, and those after it. -/
def Ending.chars : Ending → List Char
  | .textEnd => []
  | .lf more => '\n' :: more
  | .crlf more => '\r' :: '\n' :: more

/-- A text with the key of type `type` that `payload` stands for. -/
structure KeyText (type : List Char) (payload : Bytes) where
  /-- The lines before the key. -/
  idle : List (List Char)
  lead : List Char
  /-- The options, each with the gap after it. -/
  options : List (List Char × List Char)
  gap : List Char
  /-- Nothing, or a blank and a comment after it. -/
  remark : List Char
  ending : Ending
  idle_lines : ∀ line ∈ idle, '\n' ∉ line ∧ IsIdle line
  lead_gap : IsGap lead
  options_parted : ∀ option ∈ options, Text.IsWord option.1 ∧ IsGap option.2 ∧ option.2 ≠ []
  gap_gap : IsGap gap
  gap_nonempty : gap ≠ []
  remark_parted : remark.head?.all Text.isBlank = true
  remark_inLine : '\n' ∉ remark
  /-- The first word does not make the line a comment. -/
  no_comment : ∀ w ∈ (options.map Prod.fst ++ [type]).head?, w.head? ≠ some '#'
  /-- No pair of words before the key is a key. -/
  no_pair : NoPair (options.map Prod.fst ++ [type])

namespace KeyText

variable {type : List Char} {payload : Bytes} (t : KeyText type payload)

/-- The options and the type, with the gaps between them. -/
def front : List Char :=
  t.options.flatMap (fun option => option.1 ++ option.2) ++ type

/-- The line of the key. -/
def line : List Char :=
  t.lead ++ t.front ++ t.gap ++ Base64.encode (wire type payload) ++ t.remark

/-- The whole text. -/
def text : List Char :=
  t.idle.flatMap (· ++ ['\n']) ++ (t.line ++ t.ending.chars)

/-! ## The words of the line -/

theorem words_remark_append (cs : List Char) : ∃ more, Text.words (cs ++ t.remark) =
    Text.words cs ++ more := by
  have parted := t.remark_parted
  generalize t.remark = remark at parted
  cases remark with
  | nil => exact ⟨[], by simp⟩
  | cons c rest => exact ⟨_, Text.words_append_blank parted cs rest⟩

/-- What is written in base64 is a word. -/
theorem isWord_encode {blob : Bytes} (nonempty : blob ≠ []) : Text.IsWord (Base64.encode blob) :=
  ⟨fun h => nonempty (Base64.encode_inj.1 h),
    Base64.forall_mem_encode (by decide) (by decide) blob⟩

theorem wire_ne_nil : wire type payload ≠ [] :=
  List.cons_ne_nil _ _

theorem words_front (word : Text.IsWord type) :
    Text.words t.front = t.options.map Prod.fst ++ [type] := by
  have parted := t.options_parted
  rw [front]
  generalize t.options = options at parted
  induction options with
  | nil => exact Text.words_of_isWord word
  | cons option options ih =>
    obtain ⟨head, tail⟩ := List.forall_mem_cons.1 parted
    rw [List.flatMap_cons, List.append_assoc, Text.words_append_gap head.2.1.blank _ _ head.2.2,
      Text.words_of_isWord head.1, ih tail]
    rfl

/-- The words of the line, with its type and blob side by side. -/
theorem words_line (word : Text.IsWord type) : ∃ more, Text.words t.line =
    t.options.map Prod.fst ++ type :: Base64.encode (wire type payload) :: more := by
  obtain ⟨more, split⟩ := t.words_remark_append
    (t.lead ++ t.front ++ t.gap ++ Base64.encode (wire type payload))
  refine ⟨more, ?_⟩
  rw [line, split, Text.words_append_gap t.gap_gap.blank _ _ t.gap_nonempty,
    Text.words_gap_append t.lead_gap.blank, t.words_front word,
    Text.words_of_isWord (isWord_encode wire_ne_nil)]
  simp

/-! ## The line in the text -/

/-- A line whose first word does not mark a comment is not idle. -/
theorem not_isIdle_of_word {lead w : List Char} (blank : ∀ c ∈ lead, Text.isBlank c = true)
    (word : Text.IsWord w) (other : w.head? ≠ some '#') (rest : List Char) :
    ¬IsIdle (lead ++ (w ++ rest)) := by
  obtain ⟨c, w, rfl⟩ := List.exists_cons_of_ne_nil word.nonempty
  have first : (lead ++ (c :: w ++ rest)).find? (!Text.isBlank ·) = some c :=
    List.find?_eq_some_iff_append.2 ⟨by simp [word.unbroken c List.mem_cons_self], lead, w ++ rest,
      rfl, by simpa using blank⟩
  exact fun idle => other (congrArg some (isIdle_iff.1 idle c first))

/-- The line is not idle, whatever follows on it. -/
theorem not_isIdle_line (word : Text.IsWord type) (rest : List Char) :
    ¬IsIdle (t.line ++ rest) := by
  have blank := t.lead_gap.blank
  have parted := t.options_parted
  have first := t.no_comment
  rw [line, front]
  simp only [List.append_assoc]
  -- The first word is the type or, where there are options, the first of them.
  generalize t.options = options at parted first
  cases options with
  | nil => exact not_isIdle_of_word blank word (first type rfl) _
  | cons option options =>
    rw [List.flatMap_cons, List.append_assoc, List.append_assoc]
    exact not_isIdle_of_word blank (parted option List.mem_cons_self).1 (first option.1 rfl) _

/-- The ending adds blanks to the line at most. -/
theorem split_ending (ending : Ending) {line : List Char} (inLine : '\n' ∉ line) :
    ∃ trail more, (line ++ ending.chars).splitOn '\n' = (line ++ trail) :: more ∧
      ∀ c ∈ trail, Text.isBlank c = true := by
  cases ending with
  | textEnd =>
    refine ⟨[], [], ?_, nofun⟩
    simpa [Ending.chars] using List.splitOn_eq_singleton inLine
  | lf more =>
    refine ⟨[], more.splitOn '\n', ?_, nofun⟩
    simpa [Ending.chars] using List.splitOn_append_cons_self_of_not_mem inLine _
  | crlf more =>
    refine ⟨['\r'], more.splitOn '\n', ?_, List.forall_mem_singleton.2 (by decide)⟩
    have inLine' : '\n' ∉ line ++ ['\r'] := by simp [inLine]
    simpa [Ending.chars] using List.splitOn_append_cons_self_of_not_mem inLine' more

/-- A word has no line feed in it. -/
theorem inLine_of_isWord {w : List Char} (word : Text.IsWord w) : '\n' ∉ w := fun h =>
  absurd (word.unbroken _ h) (by decide)

theorem line_inLine (word : Text.IsWord type) : '\n' ∉ t.line := by
  have options : '\n' ∉ t.options.flatMap fun option => option.1 ++ option.2 := by
    rw [List.mem_flatMap]
    rintro ⟨option, mem, h⟩
    obtain ⟨word, gap, -⟩ := t.options_parted option mem
    exact (List.mem_append.1 h).elim (inLine_of_isWord word) gap.inLine
  simp only [line, front, List.mem_append, not_or]
  exact ⟨⟨⟨⟨t.lead_gap.inLine, options, inLine_of_isWord word⟩, t.gap_gap.inLine⟩,
    inLine_of_isWord (isWord_encode wire_ne_nil)⟩, t.remark_inLine⟩

/-- The text holds the key. -/
theorem holdsKey (word : Text.IsWord type) (short : (Utf8.encode type).length < 2 ^ 32) :
    HoldsKey t.text type (Base64.encode (wire type payload)) (wire type payload) := by
  obtain ⟨trail, more, split, blank⟩ := split_ending t.ending (t.line_inLine word)
  obtain ⟨after, words⟩ := t.words_line word
  refine ⟨t.idle, t.line ++ trail, more, ?_, fun l mem => (t.idle_lines l mem).2,
    t.not_isIdle_line word trail, ⟨short, ⟨payload, rfl⟩, rfl⟩, t.options.map Prod.fst, after, ?_,
    t.no_pair⟩
  · rw [text, Text.splitOn_ended fun l mem => (t.idle_lines l mem).1, split]
  · rw [← Text.words_eq, Text.words_append_gap_end blank, words]

/-- Every key text has the fingerprint of its key, so nothing around the key changes it. -/
theorem fingerprint_text (word : Text.IsWord type) (short : (Utf8.encode type).length < 2 ^ 32)
    (other : KeyText type payload) :
    ofText? t.text = some ("SHA256:" ++
      String.ofList (Base64.encodeBare (Sha256.digest (wire type payload)))) ∧
    ofText? other.text = ofText? t.text := by
  have fingerprint (u : KeyText type payload) :
      ofText? u.text = some (ofBlob (wire type payload)) :=
    ofText?_eq_some_iff.2 ⟨_, _, _, u.holdsKey word short, rfl⟩
  exact ⟨fingerprint t, (fingerprint other).trans (fingerprint t).symm⟩

/-- The line `t AAAAAXQH` alone. -/
private def bare : KeyText "t".toList [7] where
  idle := []
  lead := []
  options := []
  gap := [' ']
  remark := []
  ending := .textEnd
  idle_lines := nofun
  lead_gap := by decide
  options_parted := nofun
  gap_gap := by decide
  gap_nonempty := by decide
  remark_parted := rfl
  remark_inLine := nofun
  no_comment := by decide
  no_pair := noPair_singleton _

/-- The same key after a comment and a blank line, with an option, a remark and another line. -/
private def dressed : KeyText "t".toList [7] where
  idle := ["# mine".toList, " ".toList]
  lead := ['\t']
  options := [("no-pty".toList, "  ".toList)]
  gap := [' ']
  remark := " me@here".toList
  ending := .crlf "u AAAAAXU=".toList
  idle_lines := by decide
  lead_gap := by decide
  options_parted := List.forall_mem_singleton.2 (by decide)
  gap_gap := by decide
  gap_nonempty := by decide
  remark_parted := by decide
  remark_inLine := by decide
  no_comment := by decide
  no_pair := noPair_cons_cons.2 ⟨blobOf?_eq_none_iff.1 (by decide), noPair_singleton _⟩

/-- Both have the fingerprint of their key. -/
theorem fingerprint_text_dressed :
    Text.IsWord "t".toList ∧ (Utf8.encode "t".toList).length < 2 ^ 32 ∧
      ofText? "t AAAAAXQH".toList = some ("SHA256:" ++
        String.ofList (Base64.encodeBare (Sha256.digest (wire "t".toList [7])))) ∧
      ofText? "# mine\n \n\tno-pty  t AAAAAXQH me@here\r\nu AAAAAXU=".toList =
        ofText? "t AAAAAXQH".toList := by
  have word : Text.IsWord "t".toList := by decide
  have short : (Utf8.encode "t".toList).length < 2 ^ 32 := by decide
  have bare_eq : bare.text = "t AAAAAXQH".toList := by decide
  have dressed_eq : dressed.text =
      "# mine\n \n\tno-pty  t AAAAAXQH me@here\r\nu AAAAAXU=".toList := by decide
  have fingerprints := bare.fingerprint_text word short dressed
  rw [bare_eq, dressed_eq] at fingerprints
  exact ⟨word, short, fingerprints⟩

end KeyText

end MountKeys.Fingerprint
