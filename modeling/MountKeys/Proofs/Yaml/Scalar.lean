import MountKeys.Proofs.Yaml.Quoted

/-!
# Texts as values

Whatever style `Yaml.style` picks for a text, `Yaml.scanValue` reads that text again from what
`Yaml.printValue` writes: `scanValue_printValue`.  There is one section for each style.

* A plain text has none of the marks that end it and is not taken for anything else
  (`scanPlain_append`, `PlainSafe.resolve_eq`).
* Between quotes it is read as shown for quoted texts.
* A literal block ends at the first line that is not indented (`Outdented`), its lines are read as
  they were (`scanLines_indented`), and what the header says of the line breaks at its end is right
  (`apply_chompOf`).
-/

namespace MountKeys.Yaml

/-! ## Styles -/

/-- A text without a need for escapes has only characters that may be shown, and no space at the end
of a line. -/
theorem needsEscapes_eq_false {cs : List Char} (h : needsEscapes cs = false) :
    (∀ c ∈ cs, isShown c = true) ∧ hasPair (· == ' ') isBreak cs = false := by
  simpa [needsEscapes] using h

theorem style_single {cs : List Char} (h : style cs = .single) : SingleSafe cs := by
  rw [style] at h
  split at h
  next => split at h <;> exact nomatch h
  next noNewline =>
    split at h
    next => exact nomatch h
    split at h
    next allowed =>
      rw [allowsSingle, Bool.and_eq_true, Bool.not_eq_true', Bool.not_eq_true'] at allowed
      obtain ⟨shown, before⟩ := needsEscapes_eq_false allowed.1
      exact ⟨shown, by simpa using noNewline, before, allowed.2⟩
    next => exact nomatch h

theorem style_literal {cs : List Char} (h : style cs = .literal) :
    '\n' ∈ cs ∧ ∀ c ∈ cs, isShown c = true := by
  rw [style] at h
  split at h
  next newline =>
    split at h
    next allowed =>
      rw [allowsLiteral, Bool.and_eq_true, Bool.not_eq_true'] at allowed
      exact ⟨by simpa using newline, (needsEscapes_eq_false allowed.1).1⟩
    next => exact nomatch h
  split at h
  next => exact nomatch h
  split at h <;> exact nomatch h

/-! ## Plain texts -/

/-- What is so of a text that stands without quotes. -/
structure PlainSafe (cs : List Char) : Prop where
  shown : ∀ c ∈ cs, isShown c = true
  oneLine : ∀ c ∈ cs, isBreak c = false
  noBlankFirst : startsWith (· == ' ') cs = false
  noBlankLast : endsWith (· == ' ') cs = false
  noIndicator : hasIndicator cs = false
  unambiguous : isAmbiguous cs = false

theorem style_plain {cs : List Char} (h : style cs = .plain) : PlainSafe cs := by
  rw [style] at h
  split at h
  next => split at h <;> exact nomatch h
  split at h
  next allowed =>
    simp only [allowsPlain, Bool.and_eq_true, Bool.not_eq_true'] at allowed
    obtain ⟨⟨⟨⟨⟨escapes, breaks⟩, first⟩, last⟩, indicator⟩, unambiguous⟩ := allowed
    exact ⟨(needsEscapes_eq_false escapes).1, by simpa using breaks, first, last, indicator,
      unambiguous⟩
  split at h <;> exact nomatch h

/-- Whether a plain text ends before the rest of a stream. -/
def endsPlain : List Char → Bool
  | [] => true
  | c :: rest => isBreak c || (c == ':' && spaceNext rest)

/-- What goes on with a character that may be shown and is no gap goes on with no blank. -/
theorem spaceNext_append {cs : List Char} (shown : ∀ c ∈ cs, isShown c = true)
    (h : gapNext cs = false) (rest : List Char) : spaceNext (cs ++ rest) = false := by
  cases cs with
  | nil => exact nomatch h
  | cons c cs =>
    rw [List.cons_append, spaceNext, isBlank_of_isShown (shown c List.mem_cons_self)]
    exact h

/-- A reader of plain text stops where a text without marks does. -/
theorem scanPlain_append {before : Char} {cs rest : List Char}
    (shown : ∀ c ∈ cs, isShown c = true) (oneLine : ∀ c ∈ cs, isBreak c = false)
    (hbefore : isBlank before = true → isGap before = true) (marks : hasMark before cs = false)
    (ends : endsPlain rest = true) : scanPlain before (cs ++ rest) = (cs, rest) := by
  induction cs generalizing before with
  | nil =>
    cases rest with
    | nil => rfl
    | cons c rest =>
      rw [endsPlain] at ends
      rw [List.nil_append, scanPlain, ends, Bool.true_or]
      rfl
  | cons c cs ih =>
    rw [List.forall_mem_cons] at shown oneLine
    simp only [hasMark, Bool.or_eq_false_iff] at marks
    obtain ⟨⟨colon, hash⟩, marks⟩ := marks
    have goesOn : (isBreak c || (c == ':' && spaceNext (cs ++ rest)) ||
        (c == '#' && isBlank before)) = false := by
      rw [oneLine.1, Bool.false_or, Bool.or_eq_false_iff, Bool.and_eq_false_imp,
        Bool.and_eq_false_imp]
      rw [Bool.and_eq_false_imp] at colon hash
      refine ⟨fun h => spaceNext_append shown.2 (colon h) rest, fun h => ?_⟩
      exact Bool.eq_false_iff.2 fun blank => Bool.eq_false_iff.1 (hash h) (hbefore blank)
    have hc : isBlank c = true → isGap c = true := fun blank => by
      rw [isBlank_of_isShown shown.1] at blank
      rw [isGap, blank, Bool.true_or]
    rw [List.cons_append, scanPlain, goesOn, ih shown.2 oneLine.2 hc marks]
    rfl

namespace PlainSafe

variable {cs : List Char} (safe : PlainSafe cs)
include safe

theorem hasMark_eq : hasMark ' ' cs = false := by
  have indicator := safe.noIndicator
  cases cs with
  | nil => rfl
  | cons c cs =>
    simp only [hasIndicator, Bool.or_eq_false_iff] at indicator
    obtain ⟨⟨⟨⟨lead, start⟩, marks⟩, -⟩, -⟩ := indicator
    have hash : (c == '#') = false := by
      refine beq_false_of_ne ?_
      rintro rfl
      exact nomatch lead
    rw [hasMark, marks, hash, Bool.false_and, Bool.or_false, Bool.or_false]
    rw [Bool.and_eq_false_imp] at start ⊢
    exact fun colon => start (by simp [colon])

/-- A plain text is read back up to where it ends. -/
theorem plainText_append {rest : List Char} (ends : endsPlain rest = true) :
    plainText ' ' (cs ++ rest) = (cs, rest) := by
  rw [plainText, scanPlain_append safe.shown safe.oneLine (fun _ => rfl) safe.hasMark_eq ends]
  refine Prod.ext (List.rdropWhile_eq_self_iff.2 fun nonempty => ?_) rfl
  have last := safe.noBlankLast
  rw [endsWith, List.getLast?_eq_some_getLast nonempty] at last
  rw [isBlank_of_isShown (safe.shown _ (List.getLast_mem nonempty))]
  exact Bool.eq_false_iff.1 last

/-- The first character of a plain text does not mean anything else. -/
theorem eq_cons : ∃ c rest, cs = c :: rest ∧ isBlank c = false ∧ isBreak c = false ∧
    leadMarks.contains c = false := by
  have indicator := safe.noIndicator
  have first := safe.noBlankFirst
  cases cs with
  | nil => exact nomatch safe.unambiguous
  | cons c rest =>
    simp only [hasIndicator, Bool.or_eq_false_iff] at indicator
    exact ⟨c, rest, rfl, (isBlank_of_isShown (safe.shown c List.mem_cons_self)).trans first,
      safe.oneLine c List.mem_cons_self, indicator.1.1.1.1⟩

theorem startsPlain_append (rest : List Char) : startsPlain (cs ++ rest) = true := by
  have indicator := safe.noIndicator
  have shown := safe.shown
  obtain ⟨c, cs, rfl, blank, newline, lead⟩ := safe.eq_cons
  simp only [hasIndicator, Bool.or_eq_false_iff] at indicator
  have start : ((c == '-' || c == '?' || c == ':') && spaceNext (cs ++ rest)) = false := by
    have start := indicator.1.1.1.2
    rw [Bool.and_eq_false_imp] at start ⊢
    refine fun h => spaceNext_append (List.forall_mem_cons.1 shown).2 (start ?_) rest
    simp only [Bool.or_eq_true] at h ⊢
    tauto
  rw [List.cons_append, startsPlain, blank, newline, lead, start]
  rfl

/-- A plain text is not taken for anything else. -/
theorem resolve_eq : resolve cs = .text (String.ofList cs) := by
  have unambiguous := safe.unambiguous
  simp only [isAmbiguous, Bool.or_eq_false_iff] at unambiguous
  obtain ⟨⟨⟨⟨null, truth⟩, whole⟩, zeroLed⟩, float⟩ := unambiguous
  simp [resolve, null, truth, whole, zeroLed, float]

end PlainSafe

theorem endLine_newline (rest : List Char) : endLine ('\n' :: rest) = some rest := rfl

/-- Of a text that starts with no mark for another style the plain scalar is read. -/
theorem scanValue_of_startsPlain {column : Nat} {c : Char} {cs : List Char}
    (lead : leadMarks.contains c = false) (start : startsPlain (c :: cs) = true) :
    scanValue column (c :: cs) =
      (endLine (plainText ' ' (c :: cs)).2).map fun rest =>
        (resolve (plainText ' ' (c :: cs)).1, rest) := by
  have other {d : Char} (h : leadMarks.contains d = true) : c ≠ d := by
    rintro rfl
    rw [lead] at h
    exact nomatch h
  rw [scanValue.eq_def]
  split
  next h => exact absurd (List.cons.inj h).1 (other rfl)
  next h => exact absurd (List.cons.inj h).1 (other rfl)
  next h => exact absurd (List.cons.inj h).1 (other rfl)
  next h => exact absurd (List.cons.inj h).1 (other rfl)
  next => rw [if_pos start]

/-! ## Literal blocks -/

/-- Whether the stream ends, or its next line has its first character no further to the right than
at a column. -/
def Outdented (column : Nat) (cs : List Char) : Prop :=
  cs = [] ∨ ∃ n c rest, n ≤ column ∧ c ≠ ' ' ∧ isBreak c = false ∧ cs = blanks n ++ c :: rest

/-- A line break is kept, and a line starts after it. -/
theorem scanLines_break {c : Char} (newline : isBreak c = true) (indent : Nat) (read : Option Nat)
    (cs : List Char) :
    scanLines indent read (c :: cs) =
      (c :: (scanLines indent (some 0) cs).1, (scanLines indent (some 0) cs).2) := by
  have space : c ≠ ' ' := by
    rintro rfl
    exact nomatch newline
  cases read <;> simp [scanLines, newline, space]

/-- Another character is kept if it is not before the indentation. -/
theorem scanLines_char {c : Char} (newline : isBreak c = false) {indent : Nat} {read : Option Nat}
    (inside : read = none ∨ read = some indent) (cs : List Char) :
    scanLines indent read (c :: cs) =
      (c :: (scanLines indent none cs).1, (scanLines indent none cs).2) := by
  rcases inside with rfl | rfl <;> simp [scanLines, newline]

/-- Blanks up to the indentation are passed over. -/
theorem scanLines_blanks {indent k n : Nat} (h : k + n ≤ indent) (cs : List Char) :
    scanLines indent (some k) (blanks n ++ cs) = scanLines indent (some (k + n)) cs := by
  induction n generalizing k with
  | zero => rfl
  | succ n ih =>
    have room : k < indent := by omega
    rw [blanks, List.replicate_succ, List.cons_append, scanLines, if_pos ⟨rfl, room⟩]
    exact (ih (by omega)).trans (by rw [Nat.add_right_comm, Nat.add_assoc])

/-- A block ends before a line that is not indented. -/
theorem scanLines_outdented {indent column : Nat} (less : column < indent) {cs : List Char}
    (out : Outdented column cs) : scanLines indent (some 0) cs = ([], cs) := by
  obtain rfl | ⟨n, c, rest, hn, space, newline, rfl⟩ := out
  · rfl
  · have short : n ≠ indent := by omega
    rw [scanLines_blanks (by omega), Nat.zero_add, scanLines]
    simp [space, newline, short]

/-- What a printer of a block sets after a text to end its last line. -/
def lineEnd (fresh : Bool) : List Char :=
  if fresh then [] else ['\n']

/-- The lines of a block are read as they were. -/
theorem scanLines_indented {indent column : Nat} (less : column < indent) {rest : List Char}
    (out : Outdented column rest) (fresh : Bool) (cs : List Char) :
    scanLines indent (if fresh then some 0 else none)
        (indented indent fresh cs ++ (lineEnd (freshAfter fresh cs) ++ rest)) =
      (cs ++ lineEnd (freshAfter fresh cs), rest) := by
  -- the reader counts blanks exactly where the printer is at the start of a line
  induction cs generalizing fresh with
  | nil =>
    cases fresh with
    | true => exact scanLines_outdented less out
    | false =>
      refine (scanLines_break rfl indent none rest).trans ?_
      rw [scanLines_outdented less out]
      rfl
  | cons c cs ih =>
    rw [freshAfter_cons]
    cases newline : isBreak c with
    | true =>
      have next := ih true
      rw [if_pos rfl] at next
      rw [indented_break newline, List.cons_append, scanLines_break newline, next]
      rfl
    | false =>
      have next := ih false
      rw [if_neg Bool.false_ne_true] at next
      rw [indented_char newline, List.append_assoc, List.cons_append]
      have entered (cs : List Char) :
          scanLines indent (if fresh then some 0 else none) (margin indent fresh ++ c :: cs) =
            (c :: (scanLines indent none cs).1, (scanLines indent none cs).2) := by
        cases fresh with
        | true =>
          refine (scanLines_blanks (Nat.zero_add indent).le _).trans ?_
          exact scanLines_char newline (.inr (by rw [Nat.zero_add])) cs
        | false => exact scanLines_char newline (.inl rfl) cs
      rw [entered, next]
      rfl

/-- What a header has to say of the line breaks at the end of a text. -/
def chompOf (cs : List Char) : Chomp :=
  match cs.reverse with
  | [] => .strip
  | last :: before =>
    if !isBreak last then .strip
    else if startsWith (fun c => !isBreak c) before then .clip
    else .keep

/-- How a header says it. -/
def Chomp.mark : Chomp → List Char
  | .strip => ['-']
  | .clip => []
  | .keep => ['+']

theorem chomping_eq (cs : List Char) : chomping cs = (chompOf cs).mark := by
  rw [chomping, chompOf]
  cases cs.reverse with
  | nil => rfl
  | cons last before =>
    simp only
    split
    · rfl
    · split <;> rfl

theorem freshAfter_concat (fresh : Bool) (cs : List Char) (c : Char) :
    freshAfter fresh (cs ++ [c]) = isBreak c := by
  simp [freshAfter]

/-- The break after a last line with something on it is the only one that is dropped. -/
theorem rdropWhile_isBreak {c last : Char} (inner : isBreak c = false)
    (newline : isBreak last = true) (cs : List Char) :
    (cs ++ [c] ++ [last]).rdropWhile isBreak = cs ++ [c] := by
  rw [List.rdropWhile_concat_pos _ _ _ newline, List.rdropWhile_concat_neg]
  rw [inner]
  exact Bool.false_ne_true

/-- What the header says of the line breaks gives the text again. -/
theorem apply_chompOf {cs : List Char} (nonempty : cs ≠ []) :
    (chompOf cs).apply (cs ++ lineEnd (freshAfter true cs)) = cs := by
  obtain rfl | ⟨before, last, rfl⟩ := List.eq_nil_or_concat' cs
  · exact absurd rfl nonempty
  rw [freshAfter_concat]
  cases newline : isBreak last with
  | false =>
    have strip : chompOf (before ++ [last]) = .strip := by simp [chompOf, newline]
    rw [strip]
    exact rdropWhile_isBreak newline rfl before
  | true =>
    rw [lineEnd, if_pos rfl, List.append_nil]
    obtain rfl | ⟨front, c, rfl⟩ := List.eq_nil_or_concat' before
    · simp [chompOf, newline, startsWith, Chomp.apply]
    cases inner : isBreak c with
    | true => simp [chompOf, newline, inner, startsWith, Chomp.apply]
    | false =>
      have clip : chompOf (front ++ [c] ++ [last]) = .clip := by
        simp [chompOf, newline, inner, startsWith]
      rw [clip, Chomp.apply, rdropWhile_isBreak inner newline]
      exact (if_neg (by simp)).trans (List.take_of_length_le (by simp))

theorem scanHeader_mark (hinted : Bool) (chomp : Chomp) (body : List Char) :
    scanHeader ((if hinted then ['2'] else []) ++ chomp.mark ++ '\n' :: body) =
      ((chomp, if hinted then some 2 else none), '\n' :: body) := by
  cases hinted <;> cases chomp <;> rfl

/-- The first line with something on it says by how much the lines are indented. -/
theorem widest_blanks {c : Char} (gap : isGap c = false) (tab : c ≠ '\t')
    (column most n : Nat) (cs : List Char) :
    widest column most (blanks n ++ c :: cs) = some (max most (column + n)) := by
  obtain ⟨space, newline⟩ := Bool.or_eq_false_iff.1 gap
  induction n generalizing column with
  | zero =>
    change widest column most (c :: cs) = _
    rw [widest, if_neg (by simpa using space), newline, if_neg Bool.false_ne_true, if_neg tab]
    rfl
  | succ n ih =>
    rw [blanks, List.replicate_succ, List.cons_append, widest, if_pos rfl]
    exact (ih (column + 1)).trans (by rw [Nat.add_right_comm, Nat.add_assoc])

/-- The lines of a block are indented by as much as the reader takes them to be: where the first
line does not say so, the header does. -/
theorem blockIndent?_printed {column : Nat} {cs : List Char} (nonempty : cs ≠ [])
    (shown : ∀ c ∈ cs, isShown c = true) (rest : List Char) :
    blockIndent? column (if startsWith isGap cs then some 2 else none)
      (indented (column + 2) true cs ++ rest) = some (column + 2) := by
  cases cs with
  | nil => exact absurd rfl nonempty
  | cons c cs =>
    cases gap : startsWith isGap (c :: cs) with
    | true => rfl
    | false =>
      have tab : c ≠ '\t' := by
        rintro rfl
        exact nomatch shown _ List.mem_cons_self
      rw [if_neg Bool.false_ne_true, blockIndent?,
        indented_char (Bool.or_eq_false_iff.1 gap).2, margin, if_pos rfl, List.append_assoc,
        List.cons_append, widest_blanks gap tab]
      simp

/-- A literal block is read back. -/
theorem scanLiteral_printLiteral {column : Nat} {cs rest : List Char} (nonempty : cs ≠ [])
    (shown : ∀ c ∈ cs, isShown c = true) (out : Outdented column rest) :
    scanLiteral column ((printLiteral (column + 2) cs).tail ++ rest) = some (cs, rest) := by
  have fresh : endsWith isBreak cs = freshAfter true cs := by
    obtain rfl | ⟨before, last, rfl⟩ := List.eq_nil_or_concat' cs
    · exact absurd rfl nonempty
    · rw [endsWith_isBreak, freshAfter_concat, freshAfter_concat]
  have printed : (printLiteral (column + 2) cs).tail ++ rest =
      (if startsWith isGap cs then ['2'] else []) ++ (chompOf cs).mark ++
        '\n' :: (indented (column + 2) true cs ++ (lineEnd (freshAfter true cs) ++ rest)) := by
    rw [printLiteral, chomping_eq, fresh, lineEnd]
    simp
  have lines := scanLines_indented (show column < column + 2 by omega) out true cs
  rw [if_pos rfl] at lines
  rw [printed, scanLiteral, scanHeader_mark]
  simp only [endLine_newline, Option.bind_eq_bind, Option.bind_some,
    blockIndent?_printed nonempty shown, lines, apply_chompOf nonempty]
  rfl

/-! ## Values -/

/-- A text is read back from the style that was picked for it. -/
theorem scanValue_printValue {column : Nat} (cs : List Char) {rest : List Char}
    (out : Outdented column rest) :
    scanValue column (printValue (column + 2) cs ++ rest) =
      some (.text (String.ofList cs), rest) := by
  cases h : style cs with
  | plain =>
    have safe := style_plain h
    have start := safe.startsPlain_append ('\n' :: rest)
    obtain ⟨c, cs, rfl, -, -, lead⟩ := safe.eq_cons
    rw [List.cons_append] at start
    have read : plainText ' ' (c :: (cs ++ '\n' :: rest)) = (c :: cs, '\n' :: rest) :=
      safe.plainText_append rfl
    have printed : printValue (column + 2) (c :: cs) ++ rest = c :: (cs ++ '\n' :: rest) := by
      simp [printValue, h]
    rw [printed, scanValue_of_startsPlain lead start, read, endLine_newline, safe.resolve_eq]
    rfl
  | single =>
    have read := @scanQuoted_printSingle (column + 2) (by omega) cs ('\n' :: rest)
      (style_single h) (by simp)
    have printed : printValue (column + 2) cs ++ rest =
        '\'' :: ((printSingle (column + 2) cs).tail ++ '\n' :: rest) := by
      simp [printValue, h, printSingle]
    rw [printed, scanValue, scanQuotedValue, read]
    rfl
  | double =>
    have printed : printValue (column + 2) cs ++ rest =
        '"' :: ((printDouble cs).tail ++ '\n' :: rest) := by
      simp [printValue, h, printDouble]
    rw [printed, scanValue, scanQuotedValue, scanQuoted_printDouble]
    rfl
  | literal =>
    obtain ⟨newline, shown⟩ := style_literal h
    have nonempty : cs ≠ [] := List.ne_nil_of_mem newline
    have printed : printValue (column + 2) cs ++ rest =
        '|' :: ((printLiteral (column + 2) cs).tail ++ rest) := by
      simp [printValue, h, printLiteral]
    rw [printed, scanValue, scanLiteral_printLiteral nonempty shown out]
    rfl

/-- The first character of a value starts no comment. -/
theorem printValue_head (indent : Nat) (cs : List Char) :
    ∃ c rest, printValue indent cs = c :: rest ∧ isBlank c = false ∧ isBreak c = false ∧
      c ≠ '#' := by
  cases h : style cs with
  | plain =>
    obtain ⟨c, cs, rfl, blank, newline, lead⟩ := (style_plain h).eq_cons
    refine ⟨c, cs ++ ['\n'], by simp [printValue, h], blank, newline, ?_⟩
    rintro rfl
    exact nomatch lead
  | single => exact ⟨'\'', _, by rw [printValue, h]; rfl, rfl, rfl, by decide⟩
  | double => exact ⟨'"', _, by rw [printValue, h]; rfl, rfl, rfl, by decide⟩
  | literal => exact ⟨'|', _, by rw [printValue, h]; rfl, rfl, rfl, by decide⟩

end MountKeys.Yaml
