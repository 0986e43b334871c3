import MountKeys.Proofs.Utf8
import MountKeys.Proofs.Yaml.Reader

/-!
# Texts between quotes

What `Yaml.printSingle` and `Yaml.printDouble` write is read back by `Yaml.scanQuoted`, whatever
comes after the closing quote: `scanQuoted_printSingle` and `scanQuoted_printDouble`.

The reader holds some text and a gap, and the two together are what was read so far.  Between single
quotes its state also says whether the printer is at the start of a line.  There the printer sets
blanks, which do not count; that the text itself has no blanks there is what `Yaml.allowsSingle`
asks for (`Gap.Allows`).
-/

namespace MountKeys.Yaml

/-! ## Characters -/

/-- A character that stands without an escape is blank only if it is a space. -/
theorem isBlank_of_isShown {c : Char} (shown : isShown c = true) : isBlank c = (c == ' ') := by
  by_cases tab : c = '\t'
  · subst tab
    exact nomatch shown
  · simp [isBlank, tab]

/-- What is so of each of the five characters that end a line. -/
theorem forall_isBreak {P : Char → Prop}
    (h : P '\n' ∧ P '\r' ∧ P '\u0085' ∧ P '\u2028' ∧ P '\u2029') {c : Char}
    (newline : isBreak c = true) : P c := by
  obtain ⟨lf, cr, nel, ls, ps⟩ := h
  simp only [isBreak, Bool.or_eq_true, beq_iff_eq] at newline
  rcases newline with (((rfl | rfl) | rfl) | rfl) | rfl <;> assumption

/-- No character both ends a line and is blank. -/
theorem not_isBlank_of_isBreak {c : Char} (h : isBreak c = true) : isBlank c = false :=
  @forall_isBreak (fun c => isBlank c = false) ⟨rfl, rfl, rfl, rfl, rfl⟩ c h

/-- A test of pairs passes nowhere in the rest of a text where it passes nowhere, and not at its
start. -/
theorem hasPair_cons {p q : Char → Bool} {c : Char} {cs : List Char}
    (h : hasPair p q (c :: cs) = false) :
    hasPair p q cs = false ∧ (p c = true → startsWith q cs = false) := by
  cases cs with
  | nil => exact ⟨rfl, fun _ => rfl⟩
  | cons d rest =>
    rw [hasPair, Bool.or_eq_false_iff] at h
    exact ⟨h.2, fun hp => by simpa [startsWith, hp] using h.1⟩

/-! ## Pieces -/

theorem nextPiece_newline (quotes : Quotes) {c : Char} (h : isBreak c = true) (cs : List Char) :
    nextPiece quotes (c :: cs) = some (.newline c, cs) := by
  simp [nextPiece, not_isBlank_of_isBreak h, h]

section Walk

variable {quotes : Quotes} {text : List Char} {gap : Gap} {cs : List Char}

theorem walk_blank :
    Text.walk (quotedStep quotes) (text, gap) (' ' :: cs) =
      Text.walk (quotedStep quotes) (text, gap.blank ' ') cs :=
  @Text.walk_next _ _ _ _ _ [' '] cs rfl (List.cons_ne_nil _ _)

theorem walk_newline {c : Char} (h : isBreak c = true) :
    Text.walk (quotedStep quotes) (text, gap) (c :: cs) =
      Text.walk (quotedStep quotes) (text, gap.newline c) cs := by
  refine @Text.walk_next _ _ _ _ _ [c] cs ?_ (List.cons_ne_nil _ _)
  rw [quotedStep, List.singleton_append, nextPiece_newline quotes h]

/-- A character goes to the end of the text, after the gap. -/
theorem walk_char {front : List Char} {c : Char}
    (h : nextPiece quotes (front ++ cs) = some (.char c, cs)) (taken : front ≠ [])
    (inside : gap.atMargin = false) :
    Text.walk (quotedStep quotes) (text, gap) (front ++ cs) =
      Text.walk (quotedStep quotes) (text ++ gap.text ++ [c], .within []) cs := by
  refine Text.walk_next ?_ taken
  simp [quotedStep, h, inside]

theorem walk_close {rest : List Char} (h : nextPiece quotes cs = some (.close, rest))
    (inside : gap.atMargin = false) :
    Text.walk (quotedStep quotes) (text, gap) cs = some (text ++ gap.text, rest) := by
  refine Text.walk_done ?_
  simp [quotedStep, h, inside]

end Walk

/-! ## Between single quotes -/

/-- Whether a text ends with a line break, where the empty text stands after one or not. -/
def freshAfter (fresh : Bool) (cs : List Char) : Bool :=
  (cs.getLast?.map isBreak).getD fresh

theorem freshAfter_cons (fresh : Bool) (c : Char) (cs : List Char) :
    freshAfter fresh (c :: cs) = freshAfter (isBreak c) cs := by
  rw [freshAfter, freshAfter, List.getLast?_cons]
  cases cs.getLast? <;> rfl

theorem endsWith_isBreak (cs : List Char) : endsWith isBreak cs = freshAfter false cs := by
  rw [endsWith, freshAfter]
  cases cs.getLast? <;> rfl

/-- The blanks that a printer sets before the first character of a line. -/
def margin (indent : Nat) (fresh : Bool) : List Char :=
  if fresh then blanks indent else []

namespace Gap

/-- The gap after the blanks at the start of a line. -/
def entered : Gap → Gap
  | .within blanks => .within blanks
  | .across first more _ => .across first more false

@[simp] theorem within_text (blanks : List Char) : (within blanks).text = blanks := rfl

@[simp] theorem within_atMargin (blanks : List Char) : (within blanks).atMargin = false := rfl

@[simp] theorem blank_within (c : Char) (blanks : List Char) :
    (within blanks).blank c = within (blanks ++ [c]) := rfl

@[simp] theorem entered_text (gap : Gap) : gap.entered.text = gap.text := by
  cases gap <;> rfl

@[simp] theorem entered_atMargin (gap : Gap) : gap.entered.atMargin = false := by
  cases gap <;> rfl

@[simp] theorem newline_atMargin (c : Char) (gap : Gap) : (gap.newline c).atMargin = true := by
  cases gap <;> rfl

/-- Whether a reader keeps the gap as it is if some text is next: blanks do not stand at the end of
a line or at its start, and the line break is not the usual one. -/
def Allows (next : List Char) : Gap → Prop
  | .within blanks => blanks = [] ∨ startsWith isBreak next = false
  | .across first _ margin =>
    first ≠ '\n' ∧ margin = true ∧ startsWith (· == ' ') next = false

end Gap

/-- A gap that is kept together with a line break is kept. -/
theorem Gap.Allows.newline {gap : Gap} {c : Char} {cs : List Char} (allows : gap.Allows (c :: cs))
    (newline : isBreak c = true) (unusual : c ≠ '\n') (noBlank : startsWith (· == ' ') cs = false) :
    (gap.newline c).Allows cs ∧ (gap.newline c).text = gap.text ++ [c] := by
  cases gap with
  | within blanks =>
    obtain rfl : blanks = [] := by simpa [Allows, startsWith, newline] using allows
    exact ⟨⟨unusual, rfl, noBlank⟩, if_neg unusual⟩
  | across first more fresh =>
    obtain ⟨unusual', rfl, -⟩ := allows
    have text (more : List Char) : (across first more true).text = first :: more :=
      if_neg unusual'
    refine ⟨⟨unusual', rfl, noBlank⟩, ?_⟩
    rw [text more]
    exact text (more ++ [c])

/-- Blanks at the start of a line are passed over. -/
theorem walk_margin {indent : Nat} (wide : indent ≠ 0) {quotes : Quotes} {text : List Char}
    {gap : Gap} {cs : List Char} :
    Text.walk (quotedStep quotes) (text, gap) (margin indent gap.atMargin ++ cs) =
      Text.walk (quotedStep quotes) (text, gap.entered) cs := by
  cases gap with
  | within blanks => rfl
  | across first more fresh =>
    have passed (n : Nat) :
        Text.walk (quotedStep quotes) (text, .across first more false) (blanks n ++ cs) =
          Text.walk (quotedStep quotes) (text, .across first more false) cs := by
      induction n with
      | zero => rfl
      | succ n ih => exact walk_blank.trans ih
    cases fresh with
    | false => rfl
    | true =>
      obtain ⟨n, rfl⟩ := Nat.exists_eq_succ_of_ne_zero wide
      exact walk_blank.trans (passed n)

/-- What must be so of a text between single quotes for a reader to keep all of it. -/
structure SingleSafe (cs : List Char) : Prop where
  shown : ∀ c ∈ cs, isShown c = true
  noNewline : '\n' ∉ cs
  noBlankBefore : hasPair (· == ' ') isBreak cs = false
  noBlankAfter : hasPair isBreak (· == ' ') cs = false

theorem SingleSafe.tail {c : Char} {cs : List Char} (safe : SingleSafe (c :: cs)) :
    SingleSafe cs where
  shown := fun d hd => safe.shown d (List.mem_cons_of_mem _ hd)
  noNewline := fun h => safe.noNewline (List.mem_cons_of_mem _ h)
  noBlankBefore := (hasPair_cons safe.noBlankBefore).1
  noBlankAfter := (hasPair_cons safe.noBlankAfter).1

theorem doubleQuotes_cons (c : Char) (cs : List Char) :
    doubleQuotes (c :: cs) =
      (if c = '\'' then ['\'', '\''] else [c]) ++ doubleQuotes cs :=
  List.flatMap_cons

/-- A line break is written as it is. -/
theorem indented_break {c : Char} (h : isBreak c = true) (indent : Nat) (fresh : Bool)
    (cs : List Char) :
    indented indent fresh (c :: cs) = c :: indented indent true cs := by
  rw [indented, if_pos h]

/-- Another character stands after the margin if it is the first of its line. -/
theorem indented_char {c : Char} (h : isBreak c = false) (indent : Nat) (fresh : Bool)
    (cs : List Char) :
    indented indent fresh (c :: cs) = margin indent fresh ++ c :: indented indent false cs := by
  rw [indented, h]
  rfl

/-- A character of a line is written as one piece, after the margin: a quote twice, and any other
character once. -/
theorem exists_singlePiece {c : Char} (newline : isBreak c = false) (blank : isBlank c = false) :
    ∃ front, front ≠ [] ∧
      (∀ indent fresh cs,
        indented indent fresh ((if c = '\'' then ['\'', '\''] else [c]) ++ cs) =
          margin indent fresh ++ (front ++ indented indent false cs)) ∧
      ∀ cs, nextPiece .single (front ++ cs) = some (.char c, cs) := by
  by_cases quote : c = '\''
  · subst quote
    refine ⟨['\'', '\''], List.cons_ne_nil _ _, fun indent fresh cs => ?_, fun cs => rfl⟩
    rw [if_pos rfl, List.cons_append, indented_char newline]
    rfl
  · refine ⟨[c], List.cons_ne_nil _ _, fun indent fresh cs => ?_, fun cs => ?_⟩
    · rw [if_neg quote, List.singleton_append, indented_char newline, List.singleton_append]
    · simp [nextPiece, blank, newline, quote]

/-- A text is read back from a state in which everything before it is held. -/
theorem walk_single {indent : Nat} (wide : indent ≠ 0) {rest : List Char}
    (ends : rest.head? ≠ some '\'') (text : List Char) {cs : List Char} (safe : SingleSafe cs)
    {gap : Gap} (allows : gap.Allows cs) :
    Text.walk (quotedStep .single) (text, gap)
      (indented indent gap.atMargin (doubleQuotes cs) ++
        (margin indent (freshAfter gap.atMargin cs) ++ '\'' :: rest)) =
      some (text ++ gap.text ++ cs, rest) := by
  -- the printer is at the start of a line exactly where the gap is at the margin
  induction cs generalizing text gap with
  | nil =>
    refine (walk_margin wide).trans ?_
    rw [walk_close ?close gap.entered_atMargin, Gap.entered_text, List.append_nil]
    case close => simp [nextPiece, isBlank, isBreak, ends]
  | cons c cs ih =>
    have shown := safe.shown c List.mem_cons_self
    rw [doubleQuotes_cons, freshAfter_cons]
    by_cases newline : isBreak c = true
    · have unusual : c ≠ '\n' := fun h => safe.noNewline (h ▸ List.mem_cons_self)
      have quote : c ≠ '\'' := by
        rintro rfl
        exact nomatch newline
      obtain ⟨allows', text'⟩ :=
        allows.newline newline unusual ((hasPair_cons safe.noBlankAfter).2 newline)
      have next := ih text safe.tail allows'
      rw [Gap.newline_atMargin, text'] at next
      rw [if_neg quote, List.singleton_append, indented_break newline, newline]
      simpa using (walk_newline newline).trans next
    rw [Bool.not_eq_true] at newline
    rw [newline]
    by_cases blank : c = ' '
    · subst blank
      cases gap with
      | across first more fresh => exact nomatch allows.2.2
      | within blanks =>
        have allows' : (Gap.within (blanks ++ [' '])).Allows cs :=
          .inr ((hasPair_cons safe.noBlankBefore).2 rfl)
        have next := ih text safe.tail allows'
        rw [Gap.within_atMargin, if_neg (by decide), List.singleton_append,
          indented_char newline]
        refine walk_blank.trans ?_
        simpa using next
    have notBlank : isBlank c = false := by simp [isBlank_of_isShown shown, blank]
    obtain ⟨front, taken, printed, piece⟩ := exists_singlePiece newline notBlank
    have next := @ih (text ++ gap.text ++ [c]) safe.tail (.within []) (.inl rfl)
    rw [printed, List.append_assoc, walk_margin wide, List.append_assoc,
      walk_char (piece _) taken gap.entered_atMargin, Gap.entered_text]
    simpa using next

/-- A text between single quotes is read back. -/
theorem scanQuoted_printSingle {indent : Nat} (wide : indent ≠ 0) {cs rest : List Char}
    (safe : SingleSafe cs) (ends : rest.head? ≠ some '\'') :
    scanQuoted .single ((printSingle indent cs).tail ++ rest) = some (cs, rest) := by
  have printed : (printSingle indent cs).tail ++ rest = indented indent false (doubleQuotes cs) ++
      (margin indent (endsWith isBreak cs) ++ '\'' :: rest) := by
    simp [printSingle, margin]
  rw [scanQuoted, printed, endsWith_isBreak]
  exact @walk_single indent wide rest ends [] cs safe (.within []) (.inl rfl)

/-! ## Between double quotes -/

theorem digit?_hexDigit : ∀ n < 16, digit? (hexDigit n) = some n := by
  decide

theorem hexDigits_length (width n : Nat) : (hexDigits width n).length = width := by
  induction width with
  | zero => rfl
  | succ width ih => rw [hexDigits, List.length_cons, ih]

/-- The digits of a number write its last places. -/
theorem digitsFrom_hexDigits (acc width n : Nat) :
    digitsFrom 16 acc (hexDigits width n) =
      some (acc * Nat.pow 16 width + n % Nat.pow 16 width) := by
  induction width generalizing acc with
  | zero => simp [hexDigits, digitsFrom, Nat.mod_one]
  | succ width ih =>
    have power : Nat.pow 16 (width + 1) = Nat.pow 16 width * 16 := rfl
    have digit : n / Nat.pow 16 width % 16 < 16 := Nat.mod_lt _ (by decide)
    rw [hexDigits, digitsFrom, digit?_hexDigit _ digit, power]
    simp only [if_pos digit]
    rw [ih, Nat.mod_mul, Nat.add_mul, Nat.mul_assoc, Nat.mul_comm 16,
      Nat.mul_comm _ (Nat.pow 16 width), Nat.add_assoc, Nat.add_comm (n % Nat.pow 16 width)]

/-- A number is read back from its digits, if there is room for all of them. -/
theorem number?_hexDigits {width n : Nat} (room : n < Nat.pow 16 width) (wide : width ≠ 0) :
    number? 16 (hexDigits width n) = some n := by
  obtain ⟨width, rfl⟩ := Nat.exists_eq_succ_of_ne_zero wide
  have read := digitsFrom_hexDigits 0 (width + 1) n
  rw [Nat.mod_eq_of_lt room, Nat.zero_mul, Nat.zero_add] at read
  exact read

theorem char?_toNat (c : Char) : char? c.toNat = some c := by
  have valid : c.toNat.isValidChar := c.valid
  rw [char?, if_pos valid, Char.ofNat_toNat]

theorem hexDigits_shown (width n : Nat) : ∀ c ∈ hexDigits width n, isShown c = true := by
  have digit : ∀ n < 16, isShown (hexDigit n) = true := by decide
  induction width with
  | zero => exact fun _ h => nomatch h
  | succ width ih => exact List.forall_mem_cons.2 ⟨digit _ (Nat.mod_lt _ (by decide)), ih⟩

/-- The ways to write a character after a backslash: as a mark that stands for it, or as the digits
of its number. -/
inductive Escapes (c : Char) : List Char → Prop
  | named {mark : Char} (stands : named? mark = some c) (shown : isShown mark = true) :
    Escapes c [mark]
  | digits {mark : Char} {width : Nat} (unnamed : named? mark = none)
    (stands : width? mark = some width) (shown : isShown mark = true) (wide : width ≠ 0)
    (room : c.toNat < Nat.pow 16 width) : Escapes c (mark :: hexDigits width c.toNat)

namespace Escapes

variable {c : Char}

theorem of_toNat {mark : Char} {n : Nat} (h : c.toNat = n)
    (stands : named? mark = some (Char.ofNat n)) (shown : isShown mark = true) :
    Escapes c [mark] :=
  .named (by rw [stands, ← h, Char.ofNat_toNat]) shown

theorem ite {p : Prop} [Decidable p] {a b : List Char} (ha : p → Escapes c a)
    (hb : ¬p → Escapes c b) : Escapes c (if p then a else b) :=
  iteInduction (motive := Escapes c) ha hb

theorem shown {cs : List Char} (h : Escapes c cs) : ∀ d ∈ cs, isShown d = true := by
  cases h with
  | named _ shown => exact List.forall_mem_singleton.2 shown
  | digits _ _ shown => exact List.forall_mem_cons.2 ⟨shown, hexDigits_shown _ _⟩

/-- A character is read back however it is written. -/
theorem scanEscape_append {cs : List Char} (h : Escapes c cs) (rest : List Char) :
    scanEscape (cs ++ rest) = some (c, rest) := by
  cases h with
  | named stands => rw [List.singleton_append, scanEscape, stands]
  | @digits mark width unnamed stands _ wide room =>
    have digits : (hexDigits width c.toNat ++ rest).take width = hexDigits width c.toNat :=
      List.take_left' (hexDigits_length ..)
    have after : (hexDigits width c.toNat ++ rest).drop width = rest :=
      List.drop_left' (hexDigits_length ..)
    rw [List.cons_append, scanEscape, unnamed, stands]
    simp only [digits, after, hexDigits_length, if_pos, number?_hexDigits room wide,
      Option.bind_some, char?_toNat, Option.map_some]

end Escapes

/-- A printer writes each character in one of these ways. -/
theorem escape_escapes (c : Char) : Escapes c (escape c).tail := by
  have inRange : c.toNat < 0x110000 := by
    rcases Utf8.toNat_range c with h | h <;> omega
  rw [escape, List.tail_cons]
  refine .ite (.of_toNat · rfl rfl) fun _ => ?_
  refine .ite (.of_toNat · rfl rfl) fun _ => ?_
  refine .ite (.of_toNat · rfl rfl) fun _ => ?_
  refine .ite (.of_toNat · rfl rfl) fun _ => ?_
  refine .ite (.of_toNat · rfl rfl) fun _ => ?_
  refine .ite (.of_toNat · rfl rfl) fun _ => ?_
  refine .ite (.of_toNat · rfl rfl) fun _ => ?_
  refine .ite (.of_toNat · rfl rfl) fun _ => ?_
  refine .ite (.of_toNat · rfl rfl) fun _ => ?_
  refine .ite (fun h => ?quoted) fun _ => ?_
  case quoted =>
    rcases h with h | h
    · obtain rfl : c = '"' := Char.toNat_inj.1 h
      exact .named rfl rfl
    · obtain rfl : c = '\\' := Char.toNat_inj.1 h
      exact .named rfl rfl
  refine .ite (.of_toNat · rfl rfl) fun _ => ?_
  refine .ite (.of_toNat · rfl rfl) fun _ => ?_
  refine .ite (.of_toNat · rfl rfl) fun _ => ?_
  refine .ite (fun h => ?short) fun _ => ?_
  case short => exact .digits rfl rfl rfl (by decide) (Nat.lt_succ_of_le h)
  refine .ite (fun h => ?middle) fun _ => ?_
  case middle => exact .digits rfl rfl rfl (by decide) (Nat.lt_succ_of_le h)
  exact .digits rfl rfl rfl (by decide) (Nat.lt_trans inRange (by decide))

/-- Whether a character stands between double quotes without an escape. -/
def isDirect (c : Char) : Bool :=
  isShown c && !isBreak c && c != '"' && c != '\\'

/-- A character is read back as a blank or at the end of the text. -/
theorem walk_double_char (c : Char) (text blanks cs : List Char) :
    ∃ text' blanks', text' ++ blanks' = text ++ blanks ++ [c] ∧
      Text.walk (quotedStep .double) (text, .within blanks)
          ((if isDirect c then [c] else escape c) ++ cs) =
        Text.walk (quotedStep .double) (text', .within blanks') cs := by
  cases direct : isDirect c with
  | false =>
    refine ⟨text ++ blanks ++ [c], [], List.append_nil _, ?_⟩
    have piece : nextPiece .double (escape c ++ cs) = some (.char c, cs) := by
      have start : escape c ++ cs = '\\' :: ((escape c).tail ++ cs) := rfl
      rw [start]
      simp [nextPiece, isBlank, isBreak, (escape_escapes c).scanEscape_append]
    exact walk_char piece (List.cons_ne_nil _ _) rfl
  | true =>
    simp only [isDirect, Bool.and_eq_true, Bool.not_eq_true', bne_iff_ne] at direct
    obtain ⟨⟨⟨shown, newline⟩, quote⟩, backslash⟩ := direct
    by_cases blank : c = ' '
    · subst blank
      exact ⟨text, blanks ++ [' '], (List.append_assoc ..).symm, walk_blank⟩
    · have piece : nextPiece .double ([c] ++ cs) = some (.char c, cs) := by
        simp [nextPiece, isBlank_of_isShown shown, blank, newline, quote, backslash]
      exact ⟨text ++ blanks ++ [c], [], List.append_nil _,
        walk_char piece (List.cons_ne_nil _ _) rfl⟩

/-- A text is read back from a state in which everything before it is held. -/
theorem walk_double (cs text blanks rest : List Char) :
    Text.walk (quotedStep .double) (text, .within blanks)
      (cs.flatMap (fun c => if isDirect c then [c] else escape c) ++ '"' :: rest) =
      some (text ++ blanks ++ cs, rest) := by
  induction cs generalizing text blanks with
  | nil =>
    rw [List.append_nil]
    exact walk_close rfl rfl
  | cons c cs ih =>
    obtain ⟨text', blanks', held, step⟩ := walk_double_char c text blanks
      (cs.flatMap (fun c => if isDirect c then [c] else escape c) ++ '"' :: rest)
    rw [List.flatMap_cons, List.append_assoc, step, ih, held, List.append_assoc]
    rfl

/-- A text between double quotes is read back. -/
theorem scanQuoted_printDouble (cs rest : List Char) :
    scanQuoted .double ((printDouble cs).tail ++ rest) = some (cs, rest) := by
  have read := walk_double cs [] [] rest
  simpa [scanQuoted, printDouble, isDirect] using read

end MountKeys.Yaml
