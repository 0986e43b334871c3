import Mathlib.Computability.Language
import MountKeys.Proofs.Names
import MountKeys.Proofs.Utf8

/-!
# The grammar of names

`Names.completes` reads a name from the left and remembers what it has just read.  This module says
what it accepts in two other ways.

* `IsLabel` and `IsDotted` look at a name as a whole: a label is letters, digits and hyphens with no
  hyphen at either end, and a dotted name is labels with dots between them.  `completes_iff` is the
  induction that relates the reader to the labels that a name is cut into.
* `labelPattern` and `dottedPattern` are the regular expressions of RFC 1123, as languages.
  `mem_labelPattern` and `mem_dottedPattern` show that they describe the same names.

`check_follows_grammar` puts this together with the bounds on the length: which names pass the
check, why each other name is refused, and which of three names is blamed.
-/

namespace MountKeys.Names

open scoped Computability

/-! ## Labels -/

/-- Whether a character may stand in a label. -/
def IsLabelChar (c : Char) : Prop :=
  ('a' ≤ c ∧ c ≤ 'z') ∨ ('0' ≤ c ∧ c ≤ '9') ∨ c = '-'

/-- A label: some lower case letters, digits and hyphens, with no hyphen at either end. -/
structure IsLabel (cs : List Char) : Prop where
  nonempty : cs ≠ []
  chars : ∀ c ∈ cs, IsLabelChar c
  head : cs.head? ≠ some '-'
  last : cs.getLast? ≠ some '-'

/-- One or more labels with a dot between each two of them. -/
def IsDotted (cs : List Char) : Prop :=
  ∃ labels : List (List Char), labels ≠ [] ∧ (∀ l ∈ labels, IsLabel l) ∧
    ['.'].intercalate labels = cs

theorem isAlphanumeric_iff {c : Char} :
    isAlphanumeric c = true ↔ ('a' ≤ c ∧ c ≤ 'z') ∨ ('0' ≤ c ∧ c ≤ '9') := by
  simp [isAlphanumeric]

theorem isLabelChar_iff {c : Char} : IsLabelChar c ↔ isAlphanumeric c = true ∨ c = '-' := by
  rw [isAlphanumeric_iff, IsLabelChar, or_assoc]

theorem ne_hyphen_of_isAlphanumeric {c : Char} (h : isAlphanumeric c = true) : c ≠ '-' := by
  rintro rfl
  exact nomatch h

theorem ne_dot_of_isLabelChar {c : Char} (h : IsLabelChar c) : c ≠ '.' := by
  rintro rfl
  exact absurd (isLabelChar_iff.1 h) (by decide)

/-- No dot stands in a label. -/
theorem IsLabel.dot_notMem {l : List Char} (h : IsLabel l) : '.' ∉ l :=
  fun hdot => ne_dot_of_isLabelChar (h.chars _ hdot) rfl

/-- A dotted name is cut at its dots into labels. -/
theorem isDotted_iff {cs : List Char} : IsDotted cs ↔ ∀ l ∈ cs.splitOn '.', IsLabel l := by
  constructor
  · rintro ⟨labels, some_, good, rfl⟩
    rwa [List.splitOn_intercalate '.' (fun l hl => (good l hl).dot_notMem) some_]
  · intro h
    exact ⟨cs.splitOn '.', List.splitOn_ne_nil _ _, h, List.intercalate_splitOn '.'⟩

/-! ## The reader -/

/-- What may follow in a label after a beginning that the reader remembers as `last`. -/
structure Finishes (last : Last) (cs : List Char) : Prop where
  ends : cs = [] → last = .alphanumeric
  head : last = .boundary → cs.head? ≠ some '-'
  chars : ∀ c ∈ cs, IsLabelChar c
  last : cs.getLast? ≠ some '-'

/-- Where a label begins, all of it follows. -/
theorem finishes_boundary {cs : List Char} : Finishes .boundary cs ↔ IsLabel cs :=
  ⟨fun h => ⟨fun empty => (nomatch h.ends empty), h.chars, h.head rfl, h.last⟩,
    fun h => ⟨fun empty => absurd empty h.nonempty, fun _ => h.head, h.chars, h.last⟩⟩

/-- A label may end after a letter or a digit. -/
theorem finishes_nil {last : Last} : Finishes last [] ↔ last = .alphanumeric :=
  ⟨fun h => h.ends rfl, fun h => ⟨fun _ => h, by simp, by simp, by simp⟩⟩

/-- The last of some characters is no hyphen. -/
theorem getLast?_ne_hyphen {c : Char} {cs : List Char} :
    (c :: cs).getLast? ≠ some '-' ↔ (cs = [] → c ≠ '-') ∧ cs.getLast? ≠ some '-' := by
  cases cs with
  | nil => simp
  | cons d ds => simp [List.getLast?_cons_cons]

/-- A letter or a digit may stand anywhere in a label. -/
theorem finishes_alphanumeric {last : Last} {c : Char} {cs : List Char}
    (h : isAlphanumeric c = true) : Finishes last (c :: cs) ↔ Finishes .alphanumeric cs := by
  have good := ne_hyphen_of_isAlphanumeric h
  constructor
  · rintro ⟨-, -, chars, end_⟩
    exact ⟨fun _ => rfl, nofun, (List.forall_mem_cons.1 chars).2, (getLast?_ne_hyphen.1 end_).2⟩
  · rintro ⟨-, -, chars, end_⟩
    exact ⟨nofun, fun _ => by simpa using good,
      List.forall_mem_cons.2 ⟨isLabelChar_iff.2 (.inl h), chars⟩,
      getLast?_ne_hyphen.2 ⟨fun _ => good, end_⟩⟩

/-- A hyphen may stand in a label, but neither at its beginning nor at its end. -/
theorem finishes_hyphen {last : Last} {cs : List Char} :
    Finishes last ('-' :: cs) ↔ last ≠ .boundary ∧ Finishes .hyphen cs := by
  constructor
  · rintro ⟨-, head, chars, end_⟩
    have ⟨more, end_⟩ := getLast?_ne_hyphen.1 end_
    exact ⟨fun h => head h rfl, fun empty => absurd rfl (more empty), nofun,
      (List.forall_mem_cons.1 chars).2, end_⟩
  · rintro ⟨inside, ends, -, chars, end_⟩
    exact ⟨nofun, fun h => absurd h inside,
      List.forall_mem_cons.2 ⟨isLabelChar_iff.2 (.inr rfl), chars⟩,
      getLast?_ne_hyphen.2 ⟨fun empty => (nomatch ends empty), end_⟩⟩

/-- No other character stands in a label. -/
theorem not_finishes {last : Last} {c : Char} {cs : List Char} (h : ¬ IsLabelChar c) :
    ¬ Finishes last (c :: cs) :=
  fun finishes => h (finishes.chars c List.mem_cons_self)

/-- The reader takes what finishes the label that it is in, and then whole labels. -/
theorem completes_iff {dots : Bool} {last : Last} {cs first : List Char}
    {more : List (List Char)} (cut : cs.splitOn '.' = first :: more) :
    completes dots last cs = true ↔
      Finishes last first ∧ (∀ l ∈ more, IsLabel l) ∧ (dots = false → more = []) := by
  induction cs generalizing last first more with
  | nil =>
    obtain ⟨rfl, rfl⟩ := List.cons.inj (cut : [[]] = first :: more)
    simp [completes, finishes_nil]
  | cons c rest ih =>
    obtain ⟨first', more', cut'⟩ := List.exists_cons_of_ne_nil (List.splitOn_ne_nil '.' rest)
    rw [List.splitOn_cons_eq_if_modifyHead, cut'] at cut
    by_cases dot : c = '.'
    · -- One label ends here and another one begins.
      rw [if_pos (beq_iff_eq.2 dot)] at cut
      obtain ⟨rfl, rfl⟩ := List.cons.inj cut
      have step : completes dots last ('.' :: rest) =
          (dots && last == .alphanumeric && completes dots .boundary rest) := rfl
      rw [dot, step, Bool.and_eq_true_iff, Bool.and_eq_true_iff, ih cut', finishes_boundary,
        finishes_nil, List.forall_mem_cons, beq_iff_eq]
      cases dots <;> simp
    · rw [if_neg (by simpa using dot)] at cut
      obtain ⟨rfl, rfl⟩ := List.cons.inj cut
      rw [completes]
      split
      next h => rw [ih cut', finishes_alphanumeric h]
      split
      next h => rw [Bool.and_eq_true_iff, ih cut', h, finishes_hyphen, and_assoc, bne_iff_ne]
      next other hyphen =>
        have bad : ¬ IsLabelChar c := fun h => (isLabelChar_iff.1 h).elim other hyphen
        exact ⟨fun h => absurd h Bool.false_ne_true, fun h => absurd h.1 (not_finishes bad)⟩

/-- Without dots the reader takes labels. -/
theorem completes_label {cs : List Char} :
    completes false .boundary cs = true ↔ IsLabel cs := by
  constructor
  · intro h
    obtain ⟨first, more, cut⟩ := List.exists_cons_of_ne_nil (List.splitOn_ne_nil '.' cs)
    obtain ⟨finishes, -, single⟩ := (completes_iff cut).1 h
    have whole : ['.'].intercalate (cs.splitOn '.') = cs := List.intercalate_splitOn '.'
    rw [cut, single rfl, List.intercalate_singleton] at whole
    exact whole ▸ finishes_boundary.1 finishes
  · intro h
    have cut := List.splitOn_eq_singleton h.dot_notMem
    exact (completes_iff cut).2 ⟨finishes_boundary.2 h, nofun, fun _ => rfl⟩

/-- With dots it takes labels with dots between them. -/
theorem completes_dotted {cs : List Char} :
    completes true .boundary cs = true ↔ IsDotted cs := by
  obtain ⟨first, more, cut⟩ := List.exists_cons_of_ne_nil (List.splitOn_ne_nil '.' cs)
  rw [completes_iff cut, isDotted_iff, cut, finishes_boundary, List.forall_mem_cons]
  simp

/-! ## Regular expressions -/

/-- One character of a class. -/
def oneOf (p : Char → Prop) : Language Char :=
  {cs | ∃ c, cs = [c] ∧ p c}

/-- The expression in brackets, or nothing. -/
def maybe (l : Language Char) : Language Char :=
  1 + l

/-- The expression for a letter or a digit. -/
def letterOrDigit : Language Char :=
  oneOf fun c => ('a' ≤ c ∧ c ≤ 'z') ∨ ('0' ≤ c ∧ c ≤ '9')

/-- The regular expression of a label, `[a-z0-9]([-a-z0-9]*[a-z0-9])?`. -/
def labelPattern : Language Char :=
  letterOrDigit * maybe ((oneOf IsLabelChar)∗ * letterOrDigit)

/-- The regular expression of labels with dots between them,
`[a-z0-9]([-a-z0-9]*[a-z0-9])?(\.[a-z0-9]([-a-z0-9]*[a-z0-9])?)*`. -/
def dottedPattern : Language Char :=
  labelPattern * (oneOf (· = '.') * labelPattern)∗

theorem mem_kstar_oneOf {p : Char → Prop} {cs : List Char} :
    cs ∈ (oneOf p)∗ ↔ ∀ c ∈ cs, p c := by
  rw [Language.mem_kstar]
  constructor
  · rintro ⟨parts, rfl, h⟩ c hc
    obtain ⟨part, hpart, hc⟩ := List.mem_flatten.1 hc
    obtain ⟨d, rfl, hd⟩ := h part hpart
    exact List.mem_singleton.1 hc ▸ hd
  · intro h
    refine ⟨cs.map fun c => [c], by simp [← List.flatMap_def], fun part hpart => ?_⟩
    obtain ⟨c, hc, rfl⟩ := List.mem_map.1 hpart
    exact ⟨c, rfl, h c hc⟩

/-- The expression of a label describes labels. -/
theorem mem_labelPattern {cs : List Char} : cs ∈ labelPattern ↔ IsLabel cs := by
  rw [← finishes_boundary, labelPattern, Language.mem_mul]
  constructor
  · rintro ⟨_, ⟨c, rfl, hc⟩, rest, hrest, rfl⟩
    rw [List.singleton_append, finishes_alphanumeric (isAlphanumeric_iff.2 hc)]
    rcases (Language.mem_add _ _ _).1 hrest with empty | more
    · rw [(Language.mem_one _).1 empty]
      exact finishes_nil.2 rfl
    · obtain ⟨inner, hinner, _, ⟨d, rfl, hd⟩, rfl⟩ := Language.mem_mul.1 more
      have end_ := ne_hyphen_of_isAlphanumeric (isAlphanumeric_iff.2 hd)
      refine ⟨fun _ => rfl, nofun, fun e he => ?_, by simpa using end_⟩
      rcases List.mem_append.1 he with he | he
      · exact mem_kstar_oneOf.1 hinner e he
      · rw [List.mem_singleton.1 he]
        exact isLabelChar_iff.2 (.inl (isAlphanumeric_iff.2 hd))
  · intro h
    have outer {c : Char} (hc : IsLabelChar c) (other : c ≠ '-') : isAlphanumeric c = true :=
      (isLabelChar_iff.1 hc).resolve_right other
    cases cs with
    | nil => exact nomatch h.ends rfl
    | cons c rest =>
      have hc := outer (h.chars c List.mem_cons_self) (by simpa using h.head rfl)
      refine ⟨[c], ⟨c, rfl, isAlphanumeric_iff.1 hc⟩, rest, ?_, rfl⟩
      rw [finishes_alphanumeric hc] at h
      rcases List.eq_nil_or_concat rest with rfl | ⟨inner, d, rfl⟩
      · exact .inl rfl
      · have hd := outer (h.chars d (by simp)) (by simpa using h.last)
        refine .inr (Language.mem_mul.2 ⟨inner, ?_, [d], ⟨d, rfl, isAlphanumeric_iff.1 hd⟩,
          List.concat_eq_append.symm⟩)
        exact mem_kstar_oneOf.2 fun e he => h.chars e (by simp [he])

/-- What a separator and a text describe, any number of times. -/
theorem mem_kstar_separated {sep : Char} {l : Language Char} {cs : List Char} :
    cs ∈ (oneOf (· = sep) * l)∗ ↔
      ∃ parts : List (List Char), (∀ p ∈ parts, p ∈ l) ∧ cs = parts.flatMap (sep :: ·) := by
  rw [Language.mem_kstar]
  constructor
  · rintro ⟨pieces, rfl, h⟩
    induction pieces with
    | nil => exact ⟨[], nofun, rfl⟩
    | cons piece rest ih =>
      rw [List.forall_mem_cons] at h
      obtain ⟨_, ⟨_, rfl, rfl⟩, p, hp, rfl⟩ := Language.mem_mul.1 h.1
      obtain ⟨parts, good, flat⟩ := ih h.2
      exact ⟨p :: parts, List.forall_mem_cons.2 ⟨hp, good⟩, by rw [List.flatten_cons, flat]; rfl⟩
  · rintro ⟨parts, good, rfl⟩
    refine ⟨parts.map (sep :: ·), List.flatMap_def, fun piece hpiece => ?_⟩
    obtain ⟨p, hp, rfl⟩ := List.mem_map.1 hpiece
    exact Language.mem_mul.2 ⟨[sep], ⟨sep, rfl, rfl⟩, p, good p hp, rfl⟩

theorem intercalate_cons (sep : Char) (first : List Char) (more : List (List Char)) :
    [sep].intercalate (first :: more) = first ++ more.flatMap (sep :: ·) := by
  induction more generalizing first with
  | nil => simp
  | cons second more ih => simp [List.intercalate_cons_cons, ih]

/-- The expression of labels with dots between them describes such names. -/
theorem mem_dottedPattern {cs : List Char} : cs ∈ dottedPattern ↔ IsDotted cs := by
  rw [dottedPattern, Language.mem_mul]
  constructor
  · rintro ⟨first, hfirst, rest, hrest, rfl⟩
    obtain ⟨more, hmore, rfl⟩ := mem_kstar_separated.1 hrest
    refine ⟨first :: more, nofun, fun l hl => mem_labelPattern.1 ?_, intercalate_cons _ _ _⟩
    exact List.forall_mem_cons.2 ⟨hfirst, hmore⟩ l hl
  · rintro ⟨labels, some_, good, rfl⟩
    obtain ⟨first, more, rfl⟩ := List.exists_cons_of_ne_nil some_
    have ⟨hfirst, hmore⟩ := List.forall_mem_cons.1 good
    refine ⟨first, mem_labelPattern.2 hfirst, more.flatMap ('.' :: ·), ?_,
      (intercalate_cons _ _ _).symm⟩
    exact mem_kstar_separated.2 ⟨more, fun l hl => mem_labelPattern.2 (hmore l hl), rfl⟩

/-! ## The check -/

/-- The names that the grammar of a role describes. -/
def Role.Describes : Role → List Char → Prop
  | .ns => IsLabel
  | .secret | .configMap => IsDotted

/-- The regular expression of a role. -/
def Role.pattern : Role → Language Char
  | .ns => labelPattern
  | .secret | .configMap => dottedPattern

theorem Role.completes_iff (role : Role) (cs : List Char) :
    completes role.allowsDots .boundary cs = true ↔ role.Describes cs := by
  cases role with
  | ns => exact completes_label
  | secret | configMap => exact completes_dotted

theorem Role.mem_pattern (role : Role) (cs : List Char) :
    cs ∈ role.pattern ↔ role.Describes cs := by
  cases role with
  | ns => exact mem_labelPattern
  | secret | configMap => exact mem_dottedPattern

/-- Why a name is refused: the first of three reasons. -/
inductive Refused (role : Role) (value : String) : Reason → Prop
  | empty (nothing : value.utf8ByteSize = 0) : Refused role value .empty
  | tooLong (long : role.limit < value.utf8ByteSize) :
    Refused role value (.tooLong value.utf8ByteSize)
  | malformed (some_ : value.utf8ByteSize ≠ 0) (short : value.utf8ByteSize ≤ role.limit)
    (bad : ¬ role.Describes value.toList) : Refused role value .malformed

/-- Only one reason is the first. -/
theorem Refused.unique {role : Role} {value : String} {reason reason' : Reason}
    (h : Refused role value reason) (h' : Refused role value reason') : reason = reason' := by
  cases h with
  | empty nothing =>
    cases h' with
    | empty => rfl
    | tooLong long => omega
    | malformed some_ => exact absurd nothing some_
  | tooLong long =>
    cases h' with
    | empty nothing => omega
    | tooLong => rfl
    | malformed _ short => omega
  | malformed some_ short =>
    cases h' with
    | empty nothing => exact absurd nothing some_
    | tooLong long => omega
    | malformed => rfl

/-- A name that passes is short enough and of the form of its role; any other is refused with the
first reason that applies. -/
theorem checkOne_cases (role : Role) (value : String) :
    (checkOne role value = .ok () ∧ value.utf8ByteSize ≠ 0 ∧ value.utf8ByteSize ≤ role.limit ∧
        role.Describes value.toList) ∨
      ∃ reason, checkOne role value = .error ⟨role, value, reason⟩ ∧ Refused role value reason := by
  have empty_iff : value.isEmpty = true ↔ value.utf8ByteSize = 0 := by simp
  simp only [checkOne, textBytes_length, empty_iff]
  split
  next nothing => exact .inr ⟨_, rfl, .empty nothing⟩
  split
  next long => exact .inr ⟨_, rfl, .tooLong long⟩
  next some_ short =>
    have short := Nat.le_of_not_lt short
    split
    next complete => exact .inl ⟨rfl, some_, short, (role.completes_iff _).1 complete⟩
    next incomplete =>
      exact .inr ⟨_, rfl, .malformed some_ short fun h => incomplete ((role.completes_iff _).2 h)⟩

theorem checkOne_ok_iff {role : Role} {value : String} :
    checkOne role value = .ok () ↔
      1 ≤ value.utf8ByteSize ∧ value.utf8ByteSize ≤ role.limit ∧
        role.Describes value.toList := by
  rcases checkOne_cases role value with ⟨passes, some_, short, good⟩ | ⟨reason, fails, refused⟩
  · exact ⟨fun _ => ⟨Nat.one_le_iff_ne_zero.2 some_, short, good⟩, fun _ => passes⟩
  · refine ⟨fun h => (nomatch fails.symm.trans h), fun ⟨some_, short, good⟩ => ?_⟩
    cases refused with
    | empty nothing => omega
    | tooLong long => omega
    | malformed _ _ bad => exact absurd good bad

theorem checkOne_error_iff {role : Role} {value : String} {e : Invalid} :
    checkOne role value = .error e ↔
      ∃ reason, e = ⟨role, value, reason⟩ ∧ Refused role value reason := by
  rcases checkOne_cases role value with ⟨passes, some_, short, good⟩ | ⟨reason, fails, refused⟩
  · refine ⟨fun h => (nomatch passes.symm.trans h), fun ⟨reason, _, refused⟩ => ?_⟩
    cases refused with
    | empty nothing => exact absurd nothing some_
    | tooLong long => omega
    | malformed _ _ bad => exact absurd good bad
  · constructor
    · intro h
      exact ⟨reason, (Except.error.inj (fails.symm.trans h)).symm, refused⟩
    · rintro ⟨reason', rfl, refused'⟩
      rw [fails, refused.unique refused']

/-! ## All three names -/

/-- The name of a role. -/
def value (names : Names) : Role → String
  | .ns => names.ns
  | .secret => names.secret
  | .configMap => names.configMap

/-- When the name of a role is looked at: the namespace first, then the Secret, then the
ConfigMap. -/
def Role.rank : Role → Nat
  | .ns => 0
  | .secret => 1
  | .configMap => 2

theorem Role.rank_inj {role role' : Role} : role.rank = role'.rank ↔ role = role' := by
  cases role <;> cases role' <;> simp [Role.rank]

/-- The error is that of the first name that is refused. -/
def BlamesFirst (names : Names) (e : Invalid) : Prop :=
  ∃ role, checkOne role (names.value role) = .error e ∧
    ∀ earlier : Role, earlier.rank < role.rank → checkOne earlier (names.value earlier) = .ok ()

/-- Names pass where each of them does; otherwise the first one that does not is blamed. -/
theorem check_cases (names : Names) :
    (names.check = .ok () ∧ ∀ role, checkOne role (names.value role) = .ok ()) ∨
      ∃ e, names.check = .error e ∧ names.BlamesFirst e := by
  rw [check]
  cases ns : checkOne .ns names.ns with
  | error e =>
    exact .inr ⟨e, rfl, .ns, ns, fun _ before => absurd before (Nat.not_lt_zero _)⟩
  | ok =>
    dsimp only
    cases secret : checkOne .secret names.secret with
    | error e =>
      refine .inr ⟨e, rfl, .secret, secret, fun earlier before => ?_⟩
      cases earlier with
      | ns => exact ns
      | secret | configMap => simp [Role.rank] at before
    | ok =>
      dsimp only
      cases configMap : checkOne .configMap names.configMap with
      | error e =>
        refine .inr ⟨e, rfl, .configMap, configMap, fun earlier before => ?_⟩
        cases earlier with
        | ns => exact ns
        | secret => exact secret
        | configMap => simp at before
      | ok =>
        refine .inl ⟨rfl, fun role => ?_⟩
        cases role with
        | ns => exact ns
        | secret => exact secret
        | configMap => exact configMap

/-- There is one first name that is refused. -/
theorem BlamesFirst.unique {names : Names} {e e' : Invalid} (h : names.BlamesFirst e)
    (h' : names.BlamesFirst e') : e = e' := by
  obtain ⟨role, fails, before⟩ := h
  obtain ⟨role', fails', before'⟩ := h'
  rcases lt_trichotomy role.rank role'.rank with lt | eq | gt
  · exact nomatch (before' role lt).symm.trans fails
  · obtain rfl := Role.rank_inj.1 eq
    exact Except.error.inj (fails.symm.trans fails')
  · exact nomatch (before role' gt).symm.trans fails'

theorem check_ok_iff {names : Names} :
    names.check = .ok () ↔ ∀ role, checkOne role (names.value role) = .ok () := by
  rcases names.check_cases with ⟨passes, all⟩ | ⟨e, fails, role, bad, -⟩
  · exact ⟨fun _ => all, fun _ => passes⟩
  · exact ⟨fun h => (nomatch fails.symm.trans h), fun all => (nomatch (all role).symm.trans bad)⟩

theorem check_error_iff {names : Names} {e : Invalid} :
    names.check = .error e ↔ names.BlamesFirst e := by
  rcases names.check_cases with ⟨passes, all⟩ | ⟨e', fails, first⟩
  · refine ⟨fun h => (nomatch passes.symm.trans h), ?_⟩
    rintro ⟨role, bad, -⟩
    exact nomatch (all role).symm.trans bad
  · refine ⟨fun h => ?_, fun h => ?_⟩
    · exact Except.error.inj (fails.symm.trans h) ▸ first
    · rw [fails, first.unique h]

/-- The check follows the grammar.  A name of a role passes exactly if it has some bytes, at most so
many as the role allows, and is of the form that the role describes, which is also what its regular
expression describes.  Any other name is refused as it is, with the first reason that applies.
Three names pass if each of them does, and otherwise the first that does not is blamed. -/
theorem check_follows_grammar :
    (Role.ns.limit = 63 ∧ Role.secret.limit = 253 ∧ Role.configMap.limit = 253) ∧
    (∀ (role : Role) (value : String),
      (checkOne role value = .ok () ↔
        1 ≤ value.utf8ByteSize ∧ value.utf8ByteSize ≤ role.limit ∧
          role.Describes value.toList) ∧
      (role.Describes value.toList ↔ value.toList ∈ role.pattern) ∧
      ∀ e, checkOne role value = .error e ↔
        ∃ reason, e = ⟨role, value, reason⟩ ∧ Refused role value reason) ∧
    ∀ names : Names,
      (names.check = .ok () ↔ ∀ role, checkOne role (names.value role) = .ok ()) ∧
      ∀ e, names.check = .error e ↔ names.BlamesFirst e := by
  refine ⟨⟨rfl, rfl, rfl⟩, fun role value => ⟨checkOne_ok_iff, ?_, fun e => checkOne_error_iff⟩,
    fun names => ⟨check_ok_iff, fun e => check_error_iff⟩⟩
  exact (role.mem_pattern _).symm

/-- A hyphen next to a dot is at an end of its label. -/
example : checkOne .secret "a-.b" = .error ⟨.secret, "a-.b", .malformed⟩ := by
  decide

end MountKeys.Names
