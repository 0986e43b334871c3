import MountKeys.Proofs.Keys.Fingerprint
import MountKeys.Proofs.Reconcile.Course

/-!
# The comment after a key

A blank and anything after it leave the key of a text as it is (`HoldsKey.append_blank`), so a
comment does not change the fingerprint as long as the file with the comment is text.  The file is
bytes, though, and it is read as text as a whole: bytes in the comment that are no UTF-8 hide the
key before them.  `comment_decides` says that they are the only ones that do, for the fingerprint,
for what a run says about the key and for what it reports.
-/

namespace MountKeys

/-! ## More text after a key -/

namespace Fingerprint

variable {type body : List Char} {blob : Bytes}

/-- More words after it leave the first key where it is. -/
theorem FirstKey.append {ws : List (List Char)} (h : FirstKey ws type body blob)
    (more : List (List Char)) : FirstKey (ws ++ more) type body blob := by
  obtain ⟨key, before, after, rfl, none⟩ := h
  exact ⟨key, before, after ++ more, by simp, none⟩

/-- A line that is not idle may go on with anything. -/
theorem not_isIdle_append {line : List Char} (h : ¬IsIdle line) (rest : List Char) :
    ¬IsIdle (line ++ rest) := by
  rw [isIdle_iff, List.find?_append]
  rw [isIdle_iff] at h
  cases first : line.find? (!Text.isBlank ·) with
  | none => exact (h (by simp [first])).elim
  | some c => simpa [first] using h

/-- What a line goes on with after a blank comes after its words. -/
private theorem words_goesOn {c : Char} (blank : Text.isBlank c = true) {rest first : List Char}
    {after : List (List Char)} (further : (c :: rest).splitOn '\n' = first :: after)
    (line : List Char) : ∃ more, Text.words (line ++ first) = Text.words line ++ more := by
  rw [List.splitOn_cons_eq_if_modifyHead] at further
  split at further
  next mark => exact ⟨[], by simp [← (List.cons.inj further).1]⟩
  next other =>
    obtain ⟨start, parts, split⟩ := List.exists_cons_of_ne_nil (List.splitOn_ne_nil '\n' rest)
    rw [split, List.modifyHead_cons] at further
    rw [← (List.cons.inj further).1]
    exact ⟨_, Text.words_append_blank blank line start⟩

/-- A blank and anything after it leave the key of a text as it is. -/
theorem HoldsKey.append_blank {text : List Char} (h : HoldsKey text type body blob) {c : Char}
    (blank : Text.isBlank c = true) (rest : List Char) :
    HoldsKey (text ++ c :: rest) type body blob := by
  obtain ⟨idle, line, more, split, idle_lines, busy, key⟩ := h
  obtain ⟨first, after, further⟩ :=
    List.exists_cons_of_ne_nil (List.splitOn_ne_nil '\n' (c :: rest))
  obtain rfl | ⟨lines, last, rfl⟩ := List.eq_nil_or_concat' more
  -- The key is on the last line, which goes on with the first line of what is added.
  · obtain ⟨words, goesOn⟩ := words_goesOn blank further line
    refine ⟨idle, line ++ first, after, Text.splitOn_append split further, idle_lines,
      not_isIdle_append busy first, ?_⟩
    rw [← Text.words_eq] at key ⊢
    rw [goesOn]
    exact key.append words
  -- The key is on a line before it.
  · have lines_split : text.splitOn '\n' = (idle ++ line :: lines) ++ [last] := by
      rw [split, List.append_assoc]
      rfl
    refine ⟨idle, line, lines ++ (last ++ first) :: after, ?_, idle_lines, busy, key⟩
    rw [Text.splitOn_append lines_split further, List.append_assoc]
    rfl

/-- So they leave its fingerprint as it is. -/
theorem ofText?_append_blank {text : List Char} {f : String} (h : ofText? text = some f) {c : Char}
    (blank : Text.isBlank c = true) (rest : List Char) : ofText? (text ++ c :: rest) = some f := by
  obtain ⟨type, body, blob, holds, rfl⟩ := ofText?_eq_some_iff.1 h
  exact ofText?_eq_some_iff.2 ⟨type, body, blob, holds.append_blank blank rest, rfl⟩

end Fingerprint

/-! ## What a run says about the key -/

/-- Whether a notice is about the public key as such. -/
def Notice.isAboutKey : Notice → Bool
  | .fingerprint _ | .noFingerprint => true
  | _ => false

namespace Reconcile

theorem NamespaceCourse.not_aboutKey {ns : String} {ts : List CallTurn} {notes : List Notice}
    {v : Except RunError Bool} (course : NamespaceCourse ns ts notes v) :
    notes.filter Notice.isAboutKey = [] := by
  cases course <;> rfl

theorem foundNotices_not_aboutKey (keys : KeyPair) (names : Names) (kind : Kind) (stored : Stored) :
    (foundNotices keys names kind stored).filter Notice.isAboutKey = [] := by
  rw [foundNotices, driftNotices]
  split <;> rfl

theorem missNotice_not_aboutKey (names : Names) (kind : Kind) (cause : Option ClusterError) :
    [missNotice names kind cause].filter Notice.isAboutKey = [] := by
  cases cause <;> rfl

/-- A run says once what it takes the public key for. -/
theorem RunCourse.aboutKey {keys : KeyPair} {names : Names} {ts : List CallTurn}
    {notes : List Notice} {v : Except RunError Report} (course : RunCourse keys names ts notes v)
    (good : names.check = .ok ()) :
    notes.filter Notice.isAboutKey = [keyNotice keys.fingerprint?] := by
  have first (rest : List Notice) : (keyNotice keys.fingerprint? :: rest).filter Notice.isAboutKey =
      keyNotice keys.fingerprint? :: rest.filter Notice.isAboutKey :=
    List.filter_cons_of_pos (by cases keys.fingerprint? <;> rfl)
  cases course with
  | invalid bad => exact nomatch good.symm.trans bad
  | noNamespace _ start => rw [first, start.not_aboutKey]
  | secretRefused _ start => rw [first, List.filter_append, start.not_aboutKey]; rfl
  | configMapRefused _ start => rw [first, List.filter_append, start.not_aboutKey]; rfl
  | secretMissed _ start =>
    rw [first, List.filter_append, List.filter_append, start.not_aboutKey, missNotice_not_aboutKey]
    rfl
  | configMapMissed _ start =>
    rw [first, List.filter_append, List.filter_append, List.filter_append, start.not_aboutKey,
      foundNotices_not_aboutKey, missNotice_not_aboutKey]
    rfl
  | done _ start =>
    rw [first, List.filter_append, List.filter_append, List.filter_append, List.filter_append,
      start.not_aboutKey, foundNotices_not_aboutKey, foundNotices_not_aboutKey]
    rfl

/-- The report of a run has the fingerprint of the public key. -/
theorem RunCourse.reported {keys : KeyPair} {names : Names} {ts : List CallTurn}
    {notes : List Notice} {report : Report} (course : RunCourse keys names ts notes (.ok report)) :
    report.fingerprint = keys.fingerprint? := by
  cases course
  rfl

end Reconcile

/-- A key pair is shown by a fingerprint, or by none: as its own, in what any run with good names
says about the key, and in the report of a run that succeeds. -/
structure KeyPair.ShownAs (keys : KeyPair) (shown : Option String) : Prop where
  own : keys.fingerprint? = shown
  said : ∀ {names : Names} {ts : List CallTurn} {notes : List Notice} {v : Except RunError Report},
    names.check = .ok () → (Reconcile.run keys names).Ends ts notes v →
      notes.filter Notice.isAboutKey = [Reconcile.keyNotice shown]
  reported : ∀ {names : Names} {ts : List CallTurn} {notes : List Notice} {report : Report},
    (Reconcile.run keys names).Ends ts notes (.ok report) → report.fingerprint = shown

theorem KeyPair.shownAs_fingerprint? (keys : KeyPair) : keys.ShownAs keys.fingerprint? where
  own := rfl
  said good ends := (Reconcile.run_course ends).aboutKey good
  reported ends := (Reconcile.run_course ends).reported

/-! ## Bytes after a key -/

/-- The line of a key, a space and the bytes of a comment. -/
def withComment (line : List Char) (comment : Bytes) : Bytes :=
  Utf8.encode line ++ 0x20 :: comment

/-- The file with the comment is text exactly if the comment is. -/
theorem decode_withComment_eq_ok_iff {line text : List Char} {comment : Bytes} :
    Utf8.decode (withComment line comment) = .ok text ↔
      ∃ more, Utf8.decode comment = .ok more ∧ text = line ++ ' ' :: more := by
  have bytes : withComment line comment = Utf8.encode (line ++ [' ']) ++ comment := by
    rw [withComment, Utf8.encode, Utf8.encode, List.flatMap_append, List.append_assoc]
    rfl
  rw [bytes, Utf8.decode_encode_append_eq_ok_iff]
  simp

section Comment

variable {line : List Char} {f : String} {comment : Bytes} (privateKey : Bytes)

theorem fingerprint?_withText (keyed : Fingerprint.ofText? line = some f)
    (text : comment.toByteArray.IsValidUTF8) :
    (⟨privateKey, withComment line comment⟩ : KeyPair).fingerprint? = some f := by
  obtain ⟨more, bytes⟩ := Utf8.isValid_iff.1 text
  rw [KeyPair.fingerprint?,
    decode_withComment_eq_ok_iff.2 ⟨more, Utf8.decode_eq_ok_iff.2 bytes, rfl⟩]
  exact Fingerprint.ofText?_append_blank keyed (by decide) more

theorem fingerprint?_withoutText (other : ¬comment.toByteArray.IsValidUTF8) :
    (⟨privateKey, withComment line comment⟩ : KeyPair).fingerprint? = none := by
  rw [KeyPair.fingerprint?]
  cases read : Utf8.decode (withComment line comment) with
  | error fault => rfl
  | ok text =>
    obtain ⟨more, decoded, -⟩ := decode_withComment_eq_ok_iff.1 read
    exact (other (Utf8.isValid_iff.2 ⟨more, Utf8.decode_eq_ok_iff.1 decoded⟩)).elim

/-- A comment after a key leaves everything that is said about the key as it is exactly if the
comment is UTF-8.  After any other comment the file is shown by no fingerprint. -/
theorem comment_decides (keyed : Fingerprint.ofText? line = some f) (comment : Bytes) :
    (comment.toByteArray.IsValidUTF8 →
      (⟨privateKey, withComment line comment⟩ : KeyPair).ShownAs (some f)) ∧
    (¬comment.toByteArray.IsValidUTF8 →
      (⟨privateKey, withComment line comment⟩ : KeyPair).ShownAs none) :=
  ⟨fun text => fingerprint?_withText privateKey keyed text ▸ KeyPair.shownAs_fingerprint? _,
    fun other => fingerprint?_withoutText privateKey other ▸ KeyPair.shownAs_fingerprint? _⟩

end Comment

/-- The line of a key without a comment. -/
def exampleLine : List Char :=
  "ssh-ed25519 AAAAC3NzaC1lZDI1NTE5AAAAIJ6kOAWIiYoz0wo7yydfXhVuH8/6bffXByIaf3DZ82uJ".toList

theorem exampleLine_keyed : ∃ f, Fingerprint.ofText? exampleLine = some f := by
  have found : (Fingerprint.blobIn? exampleLine).isSome = true := by decide
  obtain ⟨blob, blobIn⟩ := Option.isSome_iff_exists.1 found
  exact ⟨_, congrArg (Option.map Fingerprint.ofBlob) blobIn⟩

theorem latin1_not_valid : ¬([0xE9] : Bytes).toByteArray.IsValidUTF8 := by
  rw [← Utf8.decode?_isSome_iff]
  decide

/-- The comment `é` in Latin-1 hides the key before it, and a run says that there is none. -/
theorem latin1_comment_hides_key :
    ∃ f, Fingerprint.ofText? exampleLine = some f ∧ 0x0A ∉ ([0xE9] : Bytes) ∧
      (⟨[], withComment exampleLine [0xE9]⟩ : KeyPair).fingerprint? ≠ some f ∧
      Names.standard.check = .ok () ∧
      ∀ ts notes v, (Reconcile.run ⟨[], withComment exampleLine [0xE9]⟩ .standard).Ends ts notes v →
        .noFingerprint ∈ notes := by
  obtain ⟨f, keyed⟩ := exampleLine_keyed
  have none : (⟨[], withComment exampleLine [0xE9]⟩ : KeyPair).fingerprint? = none :=
    fingerprint?_withoutText [] latin1_not_valid
  have shown := none ▸ KeyPair.shownAs_fingerprint? ⟨[], withComment exampleLine [0xE9]⟩
  refine ⟨f, keyed, by decide, by simp [none], by decide, fun ts notes v ends => ?_⟩
  have said := shown.said (by decide) ends
  exact (List.mem_filter.1 (said ▸ List.mem_singleton_self _)).1

/-- The comment `me` leaves the key where it is, and `é` in Latin-1 hides it. -/
theorem comment_decides_latin1 :
    ∃ f, Fingerprint.ofText? exampleLine = some f ∧
      (⟨[], withComment exampleLine [0x6D, 0x65]⟩ : KeyPair).ShownAs (some f) ∧
      (⟨[], withComment exampleLine [0xE9]⟩ : KeyPair).ShownAs none := by
  obtain ⟨f, keyed⟩ := exampleLine_keyed
  have text : ([0x6D, 0x65] : Bytes).toByteArray.IsValidUTF8 :=
    Utf8.decode?_isSome_iff.1 (by decide)
  exact ⟨f, keyed, (comment_decides [] keyed [0x6D, 0x65]).1 text,
    (comment_decides [] keyed [0xE9]).2 latin1_not_valid⟩

end MountKeys
