import MountKeys.Manifest.Tree
import MountKeys.Proofs.Yaml.Scalar

/-!
# Printed characters

Every character that is printed for a tree may be shown, so a reader takes the stream as it is
(`normalize_of_shown`).
-/

namespace MountKeys

namespace Yaml

/-! ## Values -/

/-- The characters of a text that is known can be looked at. -/
theorem shown_of_all {cs : List Char} (h : cs.all isShown = true) : ∀ c ∈ cs, isShown c = true :=
  List.all_eq_true.1 h

theorem blanks_shown (n : Nat) : ∀ c ∈ blanks n, isShown c = true := by
  intro c h
  rw [List.eq_of_mem_replicate h]
  rfl

theorem indented_shown {cs : List Char} (h : ∀ c ∈ cs, isShown c = true) (indent : Nat)
    (fresh : Bool) : ∀ c ∈ indented indent fresh cs, isShown c = true := by
  induction cs generalizing fresh with
  | nil => exact List.forall_mem_nil _
  | cons c cs ih =>
    rw [List.forall_mem_cons] at h
    cases newline : isBreak c with
    | true =>
      rw [indented_break newline]
      exact List.forall_mem_cons.2 ⟨h.1, ih h.2 true⟩
    | false =>
      rw [indented_char newline, margin]
      refine List.forall_mem_append.2 ⟨?_, List.forall_mem_cons.2 ⟨h.1, ih h.2 false⟩⟩
      cases fresh with
      | true => exact blanks_shown indent
      | false => exact List.forall_mem_nil _

/-- The escape of a character needs no escapes. -/
theorem escape_shown (c : Char) : ∀ d ∈ escape c, isShown d = true :=
  List.forall_mem_cons.2 ⟨rfl, (escape_escapes c).shown⟩

theorem printSingle_shown {cs : List Char} (h : ∀ c ∈ cs, isShown c = true) (indent : Nat) :
    ∀ c ∈ printSingle indent cs, isShown c = true := by
  have doubled : ∀ c ∈ doubleQuotes cs, isShown c = true := by
    intro c hc
    obtain ⟨d, hd, hc⟩ := List.mem_flatMap.1 hc
    split at hc
    next => exact shown_of_all rfl c hc
    next => exact List.mem_singleton.1 hc ▸ h d hd
  have closing : ∀ c ∈ (if endsWith isBreak cs then blanks indent else []), isShown c = true := by
    split
    next => exact blanks_shown indent
    next => exact List.forall_mem_nil _
  rw [printSingle]
  refine List.forall_mem_append.2 ⟨List.forall_mem_append.2 ⟨?_, closing⟩, ?_⟩
  · exact List.forall_mem_cons.2 ⟨rfl, indented_shown doubled indent false⟩
  · exact List.forall_mem_singleton.2 rfl

theorem printDouble_shown (cs : List Char) : ∀ c ∈ printDouble cs, isShown c = true := by
  rw [printDouble]
  refine List.forall_mem_append.2 ⟨List.forall_mem_cons.2 ⟨rfl, ?_⟩,
    List.forall_mem_singleton.2 rfl⟩
  intro c hc
  obtain ⟨d, -, hc⟩ := List.mem_flatMap.1 hc
  split at hc
  next direct =>
    simp only [Bool.and_eq_true] at direct
    exact List.mem_singleton.1 hc ▸ direct.1.1.1
  next => exact escape_shown d c hc

theorem printLiteral_shown {cs : List Char} (h : ∀ c ∈ cs, isShown c = true) (indent : Nat) :
    ∀ c ∈ printLiteral indent cs, isShown c = true := by
  have hint : ∀ c ∈ (if startsWith isGap cs then ['2'] else []), isShown c = true := by
    split <;> exact shown_of_all rfl
  have mark : ∀ c ∈ (chompOf cs).mark, isShown c = true := by
    cases chompOf cs <;> exact shown_of_all rfl
  have ends : ∀ c ∈ (if endsWith isBreak cs then [] else ['\n']), isShown c = true := by
    split <;> exact shown_of_all rfl
  rw [printLiteral, chomping_eq]
  refine List.forall_mem_append.2 ⟨List.forall_mem_append.2 ⟨List.forall_mem_append.2
    ⟨List.forall_mem_cons.2 ⟨rfl, hint⟩, mark⟩, ?_⟩, ends⟩
  exact List.forall_mem_cons.2 ⟨rfl, indented_shown h indent true⟩

/-- All characters of a value may be shown. -/
theorem printValue_shown (indent : Nat) (cs : List Char) :
    ∀ c ∈ printValue indent cs, isShown c = true := by
  have newline : ∀ c ∈ ['\n'], isShown c = true := shown_of_all rfl
  cases h : style cs with
  | plain =>
    rw [printValue, h]
    exact List.forall_mem_append.2 ⟨(style_plain h).shown, newline⟩
  | single =>
    rw [printValue, h]
    exact List.forall_mem_append.2 ⟨printSingle_shown (style_single h).shown indent, newline⟩
  | double =>
    rw [printValue, h]
    exact List.forall_mem_append.2 ⟨printDouble_shown cs, newline⟩
  | literal =>
    rw [printValue, h]
    exact printLiteral_shown (style_literal h).2 indent

/-! ## Trees -/

/-- Whether a key is written as it is, and is short enough to be one. -/
def isPlainKey (name : String) : Bool :=
  keyStyle name.toList == .plain && name.toList.length < keyLimit

/-- What is so of a key that is written as it is. -/
structure PlainKey (name : String) : Prop where
  safe : PlainSafe name.toList
  short : name.toList.length < keyLimit
  printed : printKey name.toList = name.toList

theorem PlainKey.of_isPlainKey {name : String} (h : isPlainKey name = true) : PlainKey name := by
  rw [isPlainKey, Bool.and_eq_true, beq_iff_eq, decide_eq_true_eq] at h
  obtain ⟨plain, short⟩ := h
  have styled : style name.toList = .plain := by
    rw [keyStyle] at plain
    split at plain
    next => exact nomatch plain
    next => exact plain
  exact ⟨style_plain styled, short, by rw [printKey, plain]⟩

end Yaml

namespace Tree

mutual

/-- Whether all keys in a tree are written as they are, and no map has one twice. -/
def hasPlainKeys : Tree → Bool
  | .text _ => true
  | .map entries => havePlainKeys entries

/-- Whether all keys in some entries are written as they are, and no map has one twice. -/
def havePlainKeys : List (String × Tree) → Bool
  | [] => true
  | (name, t) :: rest =>
    Yaml.isPlainKey name && !(rest.map Prod.fst).contains name && t.hasPlainKeys &&
      havePlainKeys rest

end

mutual

theorem printAfterKey_shown : ∀ {t : Tree}, t.hasPlainKeys = true → ∀ depth : Nat,
    ∀ c ∈ printAfterKey depth t, Yaml.isShown c = true
  | .text s, _, depth =>
    List.forall_mem_cons.2 ⟨rfl, Yaml.printValue_shown (2 * depth + 2) s.toList⟩
  | .map [], _, depth => by
    rw [printAfterKey]
    exact Yaml.shown_of_all rfl
  | .map (e :: rest), plain, depth =>
    List.forall_mem_cons.2 ⟨rfl, printEntries_shown plain (depth + 1)⟩

theorem printEntries_shown : ∀ {entries : List (String × Tree)}, havePlainKeys entries = true →
    ∀ depth : Nat, ∀ c ∈ printEntries depth entries, Yaml.isShown c = true
  | [], _, _ => fun _ h => nomatch h
  | (name, t) :: rest, plain, depth => by
    simp only [havePlainKeys, Bool.and_eq_true] at plain
    obtain ⟨⟨⟨key, -⟩, under⟩, others⟩ := plain
    have key := Yaml.PlainKey.of_isPlainKey key
    rw [printEntries, key.printed]
    refine List.forall_mem_append.2 ⟨List.forall_mem_append.2 ⟨List.forall_mem_append.2
      ⟨Yaml.blanks_shown _, key.safe.shown⟩, ?_⟩, printEntries_shown others depth⟩
    exact List.forall_mem_cons.2 ⟨rfl, printAfterKey_shown under depth⟩

end

end Tree

namespace Yaml

/-! ## Reading them -/

/-- What may be shown may be read. -/
theorem isReadable_of_isShown {c : Char} (h : isShown c = true) : isReadable c = true := by
  rw [isReadable, h]
  rfl

/-- A reader takes a stream as it is if it has no other spellings of a line break. -/
theorem normalize_of_shown {cs : List Char} (h : ∀ c ∈ cs, isShown c = true) :
    normalize cs = cs := by
  induction cs with
  | nil => rfl
  | cons c cs ih =>
    rw [List.forall_mem_cons] at h
    have carriage : c ≠ '\r' := by
      rintro rfl
      exact nomatch h.1
    have next : c ≠ '\u0085' := by
      rintro rfl
      exact nomatch h.1
    rw [normalize, ih h.2]
    · simp [carriage, next]
    · rintro rest rfl
      exact absurd rfl carriage

end Yaml

end MountKeys
