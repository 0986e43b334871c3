import Mathlib.Data.List.DropRight
import MountKeys.Text.Basic

/-!
# Lines and words

What a text is cut into, said with the cuts of the standard library: `cutAt` gives the parts between
the marks (`cutAt_eq`) and `words` the parts between the blanks that are not empty (`words_eq`).
From this follows what a reader of lines and words relies on: a blank parts the words before it from
those after it, and blanks at the ends of a line change neither its words nor what it starts with.
-/

namespace MountKeys.Text

/-- A run of characters that no blank is among. -/
structure IsWord (w : List Char) : Prop where
  nonempty : w ≠ []
  unbroken : ∀ c ∈ w, isBlank c = false

instance (w : List Char) : Decidable (IsWord w) :=
  decidable_of_iff (w ≠ [] ∧ w.all (!isBlank ·) = true)
    ⟨fun h => ⟨h.1, by simpa using h.2⟩, fun h => ⟨h.1, by simpa using h.2⟩⟩

/-! ## Lines -/

theorem cutAt_eq (sep : Char) (cs : List Char) : cutAt sep cs = cs.splitOn sep := by
  induction cs with
  | nil => simp [cutAt]
  | cons c rest ih =>
    obtain ⟨head, parts, cut⟩ := List.exists_cons_of_ne_nil (List.splitOn_ne_nil sep rest)
    rw [cutAt, List.splitOn_cons_eq_if_modifyHead, ih, cut]
    simp

/-- Where two texts meet, the last line of the one goes on as the first line of the other. -/
theorem splitOn_append {sep : Char} {cs more : List Char} {before after : List (List Char)}
    {last first : List Char} (lines : cs.splitOn sep = before ++ [last])
    (further : more.splitOn sep = first :: after) :
    (cs ++ more).splitOn sep = before ++ (last ++ first) :: after := by
  -- The first character of `cs` is a mark and ends an empty line, or it is the first of its line.
  induction cs generalizing before last with
  | nil =>
    obtain ⟨rfl, rfl⟩ : before = [] ∧ last = [] := by
      cases before <;> simp_all
    exact further
  | cons c rest ih =>
    rw [List.splitOn_cons_eq_if_modifyHead] at lines
    rw [List.cons_append, List.splitOn_cons_eq_if_modifyHead]
    split at lines
    next mark =>
      obtain _ | ⟨head, before⟩ := before
      · exact (List.splitOn_ne_nil sep rest (List.cons.inj lines).2).elim
      obtain ⟨rfl, tail⟩ := List.cons.inj lines
      rw [if_pos mark, ih tail]
      rfl
    next other =>
      rw [if_neg other]
      obtain ⟨head, parts, split⟩ := List.exists_cons_of_ne_nil (List.splitOn_ne_nil sep rest)
      rw [split, List.modifyHead_cons] at lines
      obtain _ | ⟨start, before⟩ := before
      · obtain ⟨rfl, rfl⟩ := List.cons.inj lines
        have alone : rest.splitOn sep = [] ++ [head] := split
        rw [ih alone]
        rfl
      · obtain ⟨rfl, rfl⟩ := List.cons.inj lines
        have tail : rest.splitOn sep = (head :: before) ++ [last] := split
        rw [ih tail]
        rfl

/-- Parts without the mark between them are cut from a text that has it before each but the first. -/
theorem splitOn_parts {sep : Char} {part : List Char} {parts : List (List Char)}
    (free : ∀ p ∈ part :: parts, sep ∉ p) :
    (part ++ parts.flatMap (sep :: ·)).splitOn sep = part :: parts := by
  induction parts generalizing part with
  | nil => rw [List.flatMap_nil, List.append_nil, List.splitOn_eq_singleton (free _ (by simp))]
  | cons next parts ih =>
    obtain ⟨head, tail⟩ := List.forall_mem_cons.1 free
    rw [List.flatMap_cons, List.cons_append, List.splitOn_append_cons_self_of_not_mem head, ih tail]

/-- Parts without the mark that each end in it are cut off from what follows them. -/
theorem splitOn_ended {sep : Char} {parts : List (List Char)} (free : ∀ p ∈ parts, sep ∉ p)
    (rest : List Char) :
    (parts.flatMap (· ++ [sep]) ++ rest).splitOn sep = parts ++ rest.splitOn sep := by
  induction parts with
  | nil => rfl
  | cons part parts ih =>
    obtain ⟨head, tail⟩ := List.forall_mem_cons.1 free
    rw [List.flatMap_cons, List.append_assoc, List.append_assoc, List.singleton_append,
      List.splitOn_append_cons_self_of_not_mem head, ih tail]
    rfl

/-! ## Words -/

private theorem wordsFrom_eq (cs : List Char) {start : List Char}
    (unbroken : ∀ c ∈ start, isBlank c = false) :
    wordsFrom start cs = ((start.reverse ++ cs).splitOnP isBlank).filter (· ≠ []) := by
  induction cs generalizing start with
  | nil =>
    rw [List.append_nil, List.splitOnP_eq_singleton (by simpa using unbroken)]
    cases start <;> simp [wordsFrom]
  | cons c rest ih =>
    rw [wordsFrom]
    split
    next blank =>
      have restart : wordsFrom [] rest = (rest.splitOnP isBlank).filter (· ≠ []) := ih nofun
      rw [List.splitOnP_append_cons_of_forall_mem (by simpa using unbroken) _ blank, restart]
      cases start <;> simp
    next other =>
      have longer : ∀ d ∈ c :: start, isBlank d = false := by simpa [other] using unbroken
      rw [ih longer]
      simp

/-- Words are the parts between the blanks, without the empty ones. -/
theorem words_eq (cs : List Char) : words cs = (cs.splitOnP isBlank).filter (· ≠ []) :=
  wordsFrom_eq cs nofun

/-- A blank parts the words before it from those after it. -/
theorem words_append_blank {c : Char} (blank : isBlank c = true) (cs rest : List Char) :
    words (cs ++ c :: rest) = words cs ++ words rest := by
  rw [words_eq, List.splitOnP_append_cons _ _ blank, List.filter_append, ← words_eq, ← words_eq]

/-- A word is all there is in it. -/
theorem words_of_isWord {w : List Char} (word : IsWord w) : words w = [w] := by
  rw [words_eq, List.splitOnP_eq_singleton word.unbroken]
  simp [word.nonempty]

section Gaps

variable {gap : List Char} (blank : ∀ c ∈ gap, isBlank c = true)
include blank

/-- A gap parts the words before it from those after it. -/
theorem words_append_gap (cs rest : List Char) (nonempty : gap ≠ []) :
    words (cs ++ gap ++ rest) = words cs ++ words rest := by
  induction gap generalizing cs with
  | nil => exact (nonempty rfl).elim
  | cons c gap ih =>
    rw [List.forall_mem_cons] at blank
    rw [List.append_assoc, List.cons_append, words_append_blank blank.1]
    congr 1
    obtain _ | ⟨c', gap⟩ := gap
    · rfl
    · exact ih blank.2 [] (List.cons_ne_nil _ _)

theorem words_gap_append (cs : List Char) : words (gap ++ cs) = words cs := by
  obtain rfl | nonempty := eq_or_ne gap []
  · rfl
  · exact words_append_gap blank [] cs nonempty

theorem words_append_gap_end (cs : List Char) : words (cs ++ gap) = words cs := by
  obtain rfl | nonempty := eq_or_ne gap []
  · rw [List.append_nil]
  · rw [← List.append_nil (cs ++ gap), words_append_gap blank cs [] nonempty]
    exact List.append_nil _

end Gaps

/-! ## Ends of lines -/

theorem trimEnd_eq (cs : List Char) : trimEnd cs = cs.rdropWhile isBlank := rfl

/-- Blanks at its ends are no part of the words of a line. -/
@[simp] theorem words_trim (cs : List Char) : words (trim cs) = words cs := by
  have start : words (trimStart cs) = words cs := by
    conv_rhs => rw [← List.takeWhile_append_dropWhile (p := isBlank) (l := cs)]
    exact (words_gap_append (fun _ => List.mem_takeWhile_imp) _).symm
  have finish (cs : List Char) : words (trimEnd cs) = words cs := by
    rw [trimEnd_eq]
    conv_rhs => rw [← List.rdropWhile_append_rtakeWhile (p := isBlank) (l := cs)]
    exact (words_append_gap_end (fun _ => List.mem_rtakeWhile_imp) _).symm
  rw [trim, finish, start]

/-- Cutting off the blanks at the end keeps a first character that is no blank. -/
private theorem head?_trimEnd {c : Char} (h : isBlank c = false) (rest : List Char) :
    (trimEnd (c :: rest)).head? = some c := by
  rw [trimEnd_eq]
  have kept : (c :: rest).rdropWhile isBlank ≠ [] := fun none =>
    absurd (List.rdropWhile_eq_nil_iff.1 none c List.mem_cons_self) (by simp [h])
  obtain ⟨d, more, line⟩ := List.exists_cons_of_ne_nil kept
  have start : d :: more <+: c :: rest := line ▸ List.rdropWhile_prefix isBlank (c :: rest)
  rw [line, List.head?_cons, (List.cons_prefix_cons.1 start).1]

/-- A line without the blanks at its ends starts with its first character that is no blank. -/
theorem head?_trim (cs : List Char) : (trim cs).head? = cs.find? (!isBlank ·) := by
  have start := List.head?_dropWhile_not isBlank cs
  rw [List.find?_eq_head?_dropWhile_not, trim, trimStart]
  simp only [Bool.not_not]
  cases line : cs.dropWhile isBlank with
  | nil => rfl
  | cons c rest =>
    rw [line] at start
    exact head?_trimEnd start rest

end MountKeys.Text
