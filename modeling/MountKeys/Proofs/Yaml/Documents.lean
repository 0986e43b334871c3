import MountKeys.Proofs.Names
import MountKeys.Proofs.Yaml.Rendered

/-!
# Cutting a stream at its markers

`toYaml_documents`: whoever cuts the YAML of a key pair at the lines that are `---`, with no regard
to quotes and blocks, gets the two documents as they were printed.

The two are put together as they are, so all depends on the lines of each: none may start with a
character of a marker (`isClear`).  A line inside a document starts with what the printer sets there
or with a line of a text.  The printer sets blanks before every line of a text (`indented_isClear`)
and before every key but the outermost (`printEntries_isClear`), whose names are known.
-/

namespace MountKeys

namespace Yaml

/-! ## Lines and markers -/

/-- The lines of a text, each with the character that ends it. -/
def lines (ends : Char → Bool) : List Char → List (List Char)
  | [] => []
  | c :: cs =>
    if ends c then [c] :: lines ends cs
    else
      match lines ends cs with
      | [] => [[c]]
      | line :: more => (c :: line) :: more

/-- Whether a line is the marker of a document and nothing else. -/
def isMarker (ends : Char → Bool) (line : List Char) : Bool :=
  line.takeWhile (fun c => !ends c) == ['-', '-', '-']

/-- Lines cut at the markers: the text before the first one, and for each the text behind it. -/
def cut (ends : Char → Bool) : List (List Char) → List Char × List (List Char)
  | [] => ([], [])
  | line :: rest =>
    let (before, documents) := cut ends rest
    if isMarker ends line then ([], before :: documents) else (line ++ before, documents)

variable {ends : Char → Bool}

theorem lines_cons_end {c : Char} (ending : ends c = true) (cs : List Char) :
    lines ends (c :: cs) = [c] :: lines ends cs :=
  if_pos ending

theorem lines_cons_inner {c : Char} (inner : ends c = false) {cs line : List Char}
    {more : List (List Char)} (h : lines ends cs = line :: more) :
    lines ends (c :: cs) = (c :: line) :: more := by
  rw [lines, inner, h]
  rfl

/-- A text up to the end of a line is the first line. -/
theorem lines_append {front : List Char} (inner : ∀ c ∈ front, ends c = false) {last : Char}
    (ending : ends last = true) (rest : List Char) :
    lines ends (front ++ last :: rest) = (front ++ [last]) :: lines ends rest := by
  induction front with
  | nil => exact lines_cons_end ending rest
  | cons c front ih =>
    rw [List.forall_mem_cons] at inner
    exact lines_cons_inner inner.1 (ih inner.2)

/-- Lines are all of their text. -/
theorem flatten_lines (cs : List Char) : (lines ends cs).flatten = cs := by
  induction cs with
  | nil => rfl
  | cons c cs ih =>
    cases ending : ends c with
    | true => rw [lines_cons_end ending, List.flatten_cons, ih, List.singleton_append]
    | false =>
      cases h : lines ends cs with
      | nil =>
        obtain rfl : [] = cs := by rw [← ih, h, List.flatten_nil]
        rw [lines, ending]
        rfl
      | cons line more =>
        rw [lines_cons_inner ending h, List.flatten_cons, List.cons_append, ← List.flatten_cons,
          ← h, ih]

/-- A text that ends with the end of a line shares no line with what comes behind it. -/
theorem lines_append_of_ended {last : Char} (ending : ends last = true)
    (front rest : List Char) :
    lines ends (front ++ [last] ++ rest) = lines ends (front ++ [last]) ++ lines ends rest := by
  induction front with
  | nil =>
    rw [List.nil_append, List.singleton_append, lines_cons_end ending, lines_cons_end ending]
    rfl
  | cons c front ih =>
    cases inner : ends c with
    | true =>
      rw [List.cons_append, List.cons_append, lines_cons_end inner, lines_cons_end inner, ih,
        List.cons_append]
    | false =>
      have nonempty : lines ends (front ++ [last]) ≠ [] := fun h => by
        have flat := @flatten_lines ends (front ++ [last])
        simp [h] at flat
      obtain ⟨line, more, h⟩ := List.exists_cons_of_ne_nil nonempty
      rw [h, List.cons_append] at ih
      rw [List.cons_append, List.cons_append, lines_cons_inner inner h, lines_cons_inner inner ih,
        List.cons_append]

/-- Lines without a marker belong to what is before the next one. -/
theorem cut_append {front : List (List Char)}
    (unmarked : ∀ line ∈ front, isMarker ends line = false) (rest : List (List Char)) :
    cut ends (front ++ rest) = (front.flatten ++ (cut ends rest).1, (cut ends rest).2) := by
  induction front with
  | nil => rfl
  | cons line front ih =>
    rw [List.forall_mem_cons] at unmarked
    rw [List.cons_append, cut, ih unmarked.2, unmarked.1, List.flatten_cons, List.append_assoc]
    rfl

/-! ## Texts without markers -/

/-- The characters of the markers that begin and end a document. -/
def isMarkerChar (c : Char) : Bool :=
  c == '-' || c == '.'

/-- Whether no line starts with a character of a marker; `fresh` says whether a line starts with the
text. -/
def isClear (fresh : Bool) : List Char → Bool
  | [] => true
  | c :: cs => !(fresh && isMarkerChar c) && isClear (isBreak c) cs

/-- What ends a line is in no marker. -/
theorem not_isMarkerChar_of_isBreak {c : Char} (h : isBreak c = true) : isMarkerChar c = false :=
  @forall_isBreak (fun c => isMarkerChar c = false) ⟨rfl, rfl, rfl, rfl, rfl⟩ c h

/-- A character that may start a line may stand anywhere. -/
theorem isClear_cons {c : Char} (h : isMarkerChar c = false) (fresh : Bool) (cs : List Char) :
    isClear fresh (c :: cs) = isClear (isBreak c) cs := by
  rw [isClear, h, Bool.and_false]
  rfl

theorem isClear_of_fresh {cs : List Char} (h : isClear true cs = true) (fresh : Bool) :
    isClear fresh cs = true := by
  cases fresh with
  | true => exact h
  | false =>
    cases cs with
    | nil => rfl
    | cons c cs => exact (Bool.and_eq_true_iff.1 h).2

/-- What may start a line may come after anything. -/
theorem isClear_append {fresh : Bool} {front back : List Char} (hfront : isClear fresh front = true)
    (hback : isClear true back = true) : isClear fresh (front ++ back) = true := by
  induction front generalizing fresh with
  | nil => exact isClear_of_fresh hback fresh
  | cons c front ih =>
    rw [isClear, Bool.and_eq_true] at hfront
    rw [List.cons_append, isClear, hfront.1, ih hfront.2]
    rfl

/-- On the line that is there already, anything may come. -/
theorem isClear_oneLine {cs : List Char} (oneLine : ∀ c ∈ cs, isBreak c = false)
    {rest : List Char} (h : isClear false rest = true) : isClear false (cs ++ rest) = true := by
  induction cs with
  | nil => exact h
  | cons c cs ih =>
    rw [List.forall_mem_cons] at oneLine
    rw [List.cons_append, isClear, oneLine.1, ih oneLine.2]
    rfl

theorem isClear_of_start {cs : List Char} (start : startsWith isMarkerChar cs = false)
    (h : isClear false cs = true) : isClear true cs = true := by
  cases cs with
  | nil => rfl
  | cons c cs =>
    rw [isClear_cons start] at h ⊢
    exact h

theorem isClear_blanks {n : Nat} (wide : n ≠ 0) (fresh : Bool) {rest : List Char}
    (h : isClear false rest = true) : isClear fresh (blanks n ++ rest) = true := by
  obtain ⟨n, rfl⟩ := Nat.exists_eq_succ_of_ne_zero wide
  have inner : ∀ c ∈ blanks n, isBreak c = false := fun c hc => by
    rw [List.eq_of_mem_replicate hc]
    rfl
  change isClear fresh (' ' :: (blanks n ++ rest)) = true
  rw [isClear_cons rfl]
  exact isClear_oneLine inner h

/-- No line of a clear text starts with a character of a marker. -/
theorem lines_of_isClear (breaks : ∀ c, ends c = true → isBreak c = true) {cs : List Char}
    {fresh : Bool} (clear : isClear fresh cs = true) :
    (fresh = true → ∀ line ∈ lines ends cs, startsWith isMarkerChar line = false) ∧
      ∀ line ∈ (lines ends cs).tail, startsWith isMarkerChar line = false := by
  -- the first line may go on with one that is not in the text, all others start in it
  induction cs generalizing fresh with
  | nil => exact ⟨fun _ => List.forall_mem_nil _, List.forall_mem_nil _⟩
  | cons c cs ih =>
    rw [isClear, Bool.and_eq_true, Bool.not_eq_true', Bool.and_eq_false_imp] at clear
    obtain ⟨start, clear⟩ := clear
    obtain ⟨all, others⟩ := ih clear
    cases ending : ends c with
    | true =>
      rw [lines, if_pos ending]
      have all := all (breaks c ending)
      exact ⟨fun fresh => List.forall_mem_cons.2 ⟨start fresh, all⟩, all⟩
    | false =>
      rw [lines, ending, if_neg Bool.false_ne_true]
      cases h : lines ends cs with
      | nil => exact ⟨fun fresh => List.forall_mem_singleton.2 (start fresh), List.forall_mem_nil _⟩
      | cons line more =>
        rw [h] at others
        exact ⟨fun fresh => List.forall_mem_cons.2 ⟨start fresh, others⟩, others⟩

/-! ## What is printed -/

/-- Lines that are indented start with a blank or are empty. -/
theorem indented_isClear {indent : Nat} (wide : indent ≠ 0) (fresh : Bool) (cs : List Char) :
    isClear fresh (indented indent fresh cs) = true := by
  induction cs generalizing fresh with
  | nil => rfl
  | cons c cs ih =>
    cases newline : isBreak c with
    | true =>
      rw [indented_break newline, isClear_cons (not_isMarkerChar_of_isBreak newline), newline]
      exact ih true
    | false =>
      have next : isClear false (c :: indented indent false cs) = true := by
        rw [isClear, newline, ih false]
        rfl
      rw [indented_char newline, margin]
      cases fresh with
      | true => exact isClear_blanks wide true next
      | false => exact next

/-- A character that stands for another after a backslash ends no line. -/
theorem not_isBreak_of_named? {mark c : Char} (h : named? mark = some c) :
    isBreak mark = false :=
  Bool.eq_false_iff.2 fun newline => nomatch h.symm.trans
    (@forall_isBreak (fun c => named? c = none) ⟨rfl, rfl, rfl, rfl, rfl⟩ mark newline)

theorem not_isBreak_of_width? {mark : Char} {width : Nat} (h : width? mark = some width) :
    isBreak mark = false :=
  Bool.eq_false_iff.2 fun newline => nomatch h.symm.trans
    (@forall_isBreak (fun c => width? c = none) ⟨rfl, rfl, rfl, rfl, rfl⟩ mark newline)

theorem hexDigits_oneLine (width n : Nat) : ∀ c ∈ hexDigits width n, isBreak c = false := by
  have digit : ∀ n < 16, isBreak (hexDigit n) = false := by decide
  induction width with
  | zero => exact List.forall_mem_nil _
  | succ width ih => exact List.forall_mem_cons.2 ⟨digit _ (Nat.mod_lt _ (by decide)), ih⟩

theorem Escapes.oneLine {c : Char} {cs : List Char} (h : Escapes c cs) :
    ∀ d ∈ cs, isBreak d = false := by
  cases h with
  | named stands => exact List.forall_mem_singleton.2 (not_isBreak_of_named? stands)
  | digits _ stands =>
    exact List.forall_mem_cons.2 ⟨not_isBreak_of_width? stands, hexDigits_oneLine _ _⟩

/-- The escape of a character stays on its line. -/
theorem escape_oneLine (c : Char) : ∀ d ∈ escape c, isBreak d = false :=
  List.forall_mem_cons.2 ⟨rfl, (escape_escapes c).oneLine⟩

/-- A text between double quotes stays on its line. -/
theorem printDouble_oneLine (cs : List Char) : ∀ c ∈ printDouble cs, isBreak c = false := by
  rw [printDouble]
  refine List.forall_mem_append.2 ⟨List.forall_mem_cons.2 ⟨rfl, ?_⟩,
    List.forall_mem_singleton.2 rfl⟩
  intro c hc
  obtain ⟨d, -, hc⟩ := List.mem_flatMap.1 hc
  split at hc
  next direct =>
    simp only [Bool.and_eq_true, Bool.not_eq_true'] at direct
    exact List.mem_singleton.1 hc ▸ direct.1.1.2
  next => exact escape_oneLine d c hc

theorem printSingle_isClear {indent : Nat} (wide : indent ≠ 0) (cs : List Char) :
    isClear true (printSingle indent cs) = true := by
  have closing : isClear true (if endsWith isBreak cs then blanks indent else []) = true := by
    split
    next =>
      rw [← List.append_nil (blanks indent)]
      exact isClear_blanks wide true rfl
    next => rfl
  have opening : isClear true ('\'' :: indented indent false (doubleQuotes cs)) = true :=
    indented_isClear wide false _
  rw [printSingle]
  exact isClear_append (isClear_append opening closing) rfl

theorem printLiteral_isClear {indent : Nat} (wide : indent ≠ 0) (cs : List Char) :
    isClear true (printLiteral indent cs) = true := by
  have hint : ∀ c ∈ (if startsWith isGap cs then ['2'] else []), isBreak c = false := by
    split <;> simp [isBreak]
  have mark : ∀ c ∈ (chompOf cs).mark, isBreak c = false := by
    cases chompOf cs <;> simp [Chomp.mark, isBreak]
  have block : isClear false ('\n' :: indented indent true cs) = true :=
    indented_isClear wide true cs
  have closing : isClear true (if endsWith isBreak cs then [] else ['\n']) = true := by
    split <;> rfl
  have header : isClear true ('|' :: ((if startsWith isGap cs then ['2'] else []) ++
      ((chompOf cs).mark ++ '\n' :: indented indent true cs))) = true :=
    isClear_oneLine hint (isClear_oneLine mark block)
  rw [printLiteral, chomping_eq]
  refine isClear_append ?_ closing
  simpa using header

/-- No line of a value but its first starts with a character of a marker. -/
theorem printValue_isClear {indent : Nat} (wide : indent ≠ 0) (cs : List Char) :
    isClear false (printValue indent cs) = true := by
  cases h : style cs with
  | plain =>
    rw [printValue, h]
    exact isClear_oneLine (style_plain h).oneLine rfl
  | single =>
    rw [printValue, h]
    exact isClear_append (isClear_of_fresh (printSingle_isClear wide cs) false) rfl
  | double =>
    rw [printValue, h]
    exact isClear_oneLine (printDouble_oneLine cs) rfl
  | literal =>
    rw [printValue, h]
    exact isClear_of_fresh (printLiteral_isClear wide cs) false

/-- A value without line feeds ends with the one behind it. -/
theorem printValue_getLast? {cs : List Char} (noNewline : '\n' ∉ cs) (indent : Nat) :
    (printValue indent cs).getLast? = some '\n' := by
  cases h : style cs with
  | literal => exact absurd (style_literal h).1 noNewline
  | plain => rw [printValue, h, List.getLast?_concat]
  | single => rw [printValue, h, List.getLast?_concat]
  | double => rw [printValue, h, List.getLast?_concat]

end Yaml

namespace Tree

open Yaml

mutual

theorem printAfterKey_isClear : ∀ {t : Tree}, t.hasPlainKeys = true → ∀ depth : Nat,
    isClear false (printAfterKey depth t) = true
  | .text s, _, depth => printValue_isClear (Nat.succ_ne_zero _) s.toList
  | .map [], _, depth => by rw [printAfterKey]; rfl
  | .map (e :: rest), plain, depth =>
    printEntries_isClear plain (depth + 1) (.inl (Nat.succ_ne_zero depth))

/-- Keys are indented, or do not start with a character of a marker. -/
theorem printEntries_isClear : ∀ {entries : List (String × Tree)}, havePlainKeys entries = true →
    ∀ depth : Nat,
    (depth ≠ 0 ∨ ∀ e ∈ entries, startsWith isMarkerChar e.1.toList = false) →
    isClear true (printEntries depth entries) = true
  | [], _, _, _ => rfl
  | (name, t) :: rest, plain, depth, starts => by
    simp only [havePlainKeys, Bool.and_eq_true] at plain
    obtain ⟨⟨⟨key, -⟩, under⟩, others⟩ := plain
    have key := Yaml.PlainKey.of_isPlainKey key
    have after : isClear false (name.toList ++ ':' :: printAfterKey depth t) = true :=
      isClear_oneLine key.safe.oneLine (printAfterKey_isClear under depth)
    have line : isClear true
        (blanks (2 * depth) ++ (name.toList ++ ':' :: printAfterKey depth t)) = true := by
      by_cases deep : depth = 0
      · have start := (starts.resolve_left (not_not_intro deep)) (name, t) List.mem_cons_self
        obtain ⟨c, cs, spelled, -⟩ := key.safe.eq_cons
        subst deep
        rw [spelled] at start after ⊢
        exact isClear_of_start start after
      · exact isClear_blanks (by omega) true after
    have next := printEntries_isClear others depth
      (starts.imp_right fun h => (List.forall_mem_cons.1 h).2)
    rw [printEntries, key.printed]
    simpa using isClear_append line next

end

/-- Entries end as what stands under the last of them. -/
theorem printEntries_getLast? {entries : List (String × Tree)} {e : String × Tree}
    (last : entries.getLast? = some e) {depth : Nat}
    (h : (printAfterKey depth e.2).getLast? = some '\n') :
    (printEntries depth entries).getLast? = some '\n' := by
  obtain ⟨front, rfl⟩ := List.getLast?_eq_some_iff.1 last
  induction front with
  | nil => simp [printEntries, List.getLast?_append, List.getLast?_cons, h]
  | cons e front ih =>
    rw [List.cons_append, printEntries, List.getLast?_append, ih (by simp)]
    rfl

end Tree

namespace Yaml

/-! ## Streams -/

variable {ends : Char → Bool}

/-- What is so of a document that cannot be cut, and from which the next one can be told. -/
structure IsDocument (ends : Char → Bool) (cs : List Char) : Prop where
  /-- The next line is a new one. -/
  ended : cs.getLast? = some '\n'
  /-- No line starts as a marker does. -/
  unmarked : ∀ line ∈ lines ends cs, ¬['-', '-', '-'] <+: line ∧ ¬['.', '.', '.'] <+: line

/-- A line that does not start with a character of a marker does not start with a marker. -/
theorem not_prefix_of_start {line : List Char} (h : startsWith isMarkerChar line = false) :
    ¬['-', '-', '-'] <+: line ∧ ¬['.', '.', '.'] <+: line := by
  constructor <;>
  · rintro ⟨rest, rfl⟩
    exact nomatch h

/-- A text is a document if it is clear and ends with a line feed. -/
theorem IsDocument.of_isClear (breaks : ∀ c, ends c = true → isBreak c = true) {cs : List Char}
    (clear : isClear true cs = true) (ended : cs.getLast? = some '\n') : IsDocument ends cs :=
  ⟨ended, fun line hline =>
    not_prefix_of_start ((lines_of_isClear breaks clear).1 rfl line hline)⟩

/-- A marker starts with itself. -/
theorem isMarker_eq_false {line : List Char} (h : ¬['-', '-', '-'] <+: line) :
    isMarker ends line = false := by
  rw [isMarker, beq_eq_false_iff_ne]
  intro marker
  exact h (marker ▸ List.takeWhile_prefix _)

/-- A stream of documents, each behind a marker, is cut into just these. -/
theorem cut_stream (lineFeed : ends '\n' = true) (inner : ends '-' = false)
    {documents : List (List Char)} (h : ∀ cs ∈ documents, IsDocument ends cs) :
    cut ends (lines ends (documents.flatMap ("---\n".toList ++ ·))) = ([], documents) := by
  induction documents with
  | nil => rfl
  | cons cs rest ih =>
    obtain ⟨document, others⟩ := List.forall_mem_cons.1 h
    obtain ⟨front, rfl⟩ := List.getLast?_eq_some_iff.1 document.ended
    have marker (text : List Char) :
        lines ends ("---\n".toList ++ text) = "---\n".toList :: lines ends text :=
      @lines_append ends ['-', '-', '-'] (by simp [inner]) _ lineFeed text
    have marks : isMarker ends "---\n".toList = true := by
      simp [isMarker, List.takeWhile, inner, lineFeed]
    rw [List.flatMap_cons, List.append_assoc, marker, lines_append_of_ended lineFeed, cut,
      cut_append fun line hline => isMarker_eq_false (document.unmarked line hline).1, ih others,
      flatten_lines, marks]
    simp

end Yaml

/-! ## The stream of a key pair -/

theorem Names.IsPlain.noNewline {value : String} (plain : IsPlain value) :
    '\n' ∉ value.toList :=
  fun h => nomatch plain.chars _ h

namespace Desired

open Yaml

/-- A marker stands before each of the two documents. -/
theorem toYaml_eq_flatMap (d : Desired) :
    d.toYaml.toList =
      [d.secret.tree.toYaml, d.configMap.tree.toYaml].flatMap ("---\n".toList ++ ·) := by
  unfold toYaml
  simp only [String.toList_ofList, List.flatMap_cons, List.flatMap_nil, List.append_nil,
    List.append_assoc]

variable (keys : KeyPair) (names : Names)

/-- The last key of the Secret is its type. -/
theorem secret_getLast? :
    (Tree.map (secretEntries keys names)).toYaml.getLast? = some '\n' := by
  have type : (Tree.printAfterKey 0 (.text "Opaque")).getLast? = some '\n' := by decide +kernel
  exact Tree.printEntries_getLast? rfl type

/-- The last key of the ConfigMap is the namespace in its metadata. -/
theorem configMap_getLast? (noNewline : '\n' ∉ names.ns.toList) :
    (Tree.map (configMapEntries keys names)).toYaml.getLast? = some '\n' := by
  have ns : (Tree.printAfterKey 1 (.text names.ns)).getLast? = some '\n' := by
    rw [Tree.printAfterKey, List.getLast?_cons, printValue_getLast? noNewline]
    rfl
  have metadata :
      (Tree.printAfterKey 0 (metadataTree names.ns names.configMap)).getLast? = some '\n' := by
    rw [metadataTree, Tree.printAfterKey, List.getLast?_cons, Tree.printEntries_getLast? rfl ns]
    rfl
  exact Tree.printEntries_getLast? rfl metadata

/-- The outermost keys of both objects start with a letter. -/
theorem toYaml_isClear {entries : List (String × Tree)}
    (h : entries ∈ [secretEntries keys names, configMapEntries keys names]) :
    isClear true (Tree.map entries).toYaml = true := by
  obtain ⟨nonempty, plain⟩ := arePlain keys names entries h
  rw [toYaml_map nonempty]
  refine Tree.printEntries_isClear plain 0 (.inr ?_)
  simp only [List.mem_cons, List.not_mem_nil, or_false] at h
  rcases h with rfl | rfl
  · rw [secretEntries]
    simp only [List.forall_mem_cons]
    decide +kernel
  · rw [configMapEntries, publicKeyField]
    cases Utf8.decode? keys.publicKey <;>
    · simp only [List.forall_mem_cons]
      decide +kernel

/-- The YAML of a key pair is cut at its markers into the Secret and the ConfigMap, whichever
characters are taken for the end of a line. -/
theorem toYaml_documents {names : Names} (valid : names.check = .ok ()) {ends : Char → Bool}
    (lineFeed : ends '\n' = true) (breaks : ∀ c, ends c = true → isBreak c = true) :
    let d := render keys names
    cut ends (lines ends d.toYaml.toList) =
        ([], [d.secret.tree.toYaml, d.configMap.tree.toYaml]) ∧
      IsDocument ends d.secret.tree.toYaml ∧ IsDocument ends d.configMap.tree.toYaml := by
  intro d
  have inner : ends '-' = false := Bool.eq_false_iff.2 fun h => nomatch breaks '-' h
  have secret : IsDocument ends d.secret.tree.toYaml := by
    rw [secret_tree]
    exact .of_isClear breaks (toYaml_isClear keys names List.mem_cons_self)
      (secret_getLast? keys names)
  have configMap : IsDocument ends d.configMap.tree.toYaml := by
    rw [configMap_tree]
    exact .of_isClear breaks (toYaml_isClear keys names (by simp))
      (configMap_getLast? keys names (Names.check_plain valid).1.noNewline)
  refine ⟨?_, secret, configMap⟩
  rw [toYaml_eq_flatMap]
  exact cut_stream lineFeed inner (List.forall_mem_cons.2
    ⟨secret, List.forall_mem_singleton.2 configMap⟩)

/-- A public key of markers, between all the line breaks that a text may have. -/
theorem toYaml_documents_markers :
    let names : Names := ⟨"default", "ssh-key", "public-key"⟩
    let keys : KeyPair := ⟨[0x2D, 0x2D, 0x2D], textBytes "---\nssh-rsa\n...\u2028---\n\n---"⟩
    names.check = .ok () ∧ ∃ secret configMap : List Char,
      cut isBreak (lines isBreak (render keys names).toYaml.toList) = ([], [secret, configMap]) ∧
      IsDocument isBreak secret ∧ IsDocument isBreak configMap ∧
      "apiVersion: v1\nkind: ConfigMap\ndata:\n  id_rsa.pub: |-\n    ---\n".toList <+:
        configMap := by
  intro names keys
  have valid : names.check = .ok () := by decide +kernel
  obtain ⟨documents, secret, configMap⟩ :=
    @toYaml_documents keys names valid isBreak rfl fun _ h => h
  exact ⟨valid, _, _, documents, secret, configMap, by decide +kernel⟩

end Desired

end MountKeys
