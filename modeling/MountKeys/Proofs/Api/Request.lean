import MountKeys.Api.Server
import MountKeys.Proofs.Names
import MountKeys.Proofs.Text.Words
import MountKeys.Proofs.Utf8

/-!
# Paths and what they name

A client spells the path of a resource from names, and a server reads it again.  For names that pass
the check both agree: the target is taken as it is, with or without the query of a writer, and it
names what the client meant (`ofTarget?_objectPath` and the lemmas beside it).

`Spells` ties a text to the parts of its path.  Everything else about a path follows from it.
-/

namespace MountKeys

namespace Request

/-! ## Parts of paths -/

/-- Whether a text stands for itself as a part of a path, and is no longer than a name. -/
def IsPart (p : String) : Prop :=
  (∀ c ∈ p.toList, isMadeOf isPathByte c = true ∧ c ≠ '/' ∧ c ≠ '?' ∧ c ≠ '#') ∧
    (textBytes p).length ≤ 253

instance (p : String) : Decidable (IsPart p) :=
  decidable_of_iff
    ((p.toList.all fun c => isMadeOf isPathByte c && c != '/' && c != '?' && c != '#') = true ∧
      (textBytes p).length ≤ 253) (by simp [IsPart, and_assoc])

/-- A plain name stands for itself. -/
theorem isPart_of_plain {name : String} (plain : Names.IsPlain name) : IsPart name := by
  refine ⟨fun c hc => ?_, plain.short⟩
  have range := Names.isPlainChar_iff.1 (plain.chars c hc)
  have ne (d : Char) (h : c.toNat ≠ d.toNat) : c ≠ d := fun hcd => h (congrArg Char.toNat hcd)
  refine ⟨?_, ne _ (by simp; omega), ne _ (by simp; omega), ne _ (by simp; omega)⟩
  have small : c.toNat < 0x80 := by omega
  have byte : (UInt8.ofNat c.toNat).toNat = c.toNat := by
    rw [UInt8.toNat_ofNat']
    omega
  simp only [isMadeOf, Utf8.encodeChar, if_pos small, List.all_cons, List.all_nil, Bool.and_true,
    isPathByte, Bool.or_eq_true, Bool.and_eq_true, beq_iff_eq, decide_eq_true_eq,
    UInt8.le_iff_toNat_le, ← UInt8.toNat_inj, byte, UInt8.reduceToNat]
  omega

/-- The path of some parts. -/
def pathOf (parts : List String) : List Char :=
  (parts.map String.toList).flatMap ('/' :: ·)

theorem pathOf_append (parts parts' : List String) :
    pathOf (parts ++ parts') = pathOf parts ++ pathOf parts' := by
  rw [pathOf, List.map_append, List.flatMap_append]
  rfl

/-- The text is the path of the parts, and each of them stands for itself. -/
structure Spells (text : String) (parts : List String) : Prop where
  isPart : ∀ p ∈ parts, IsPart p
  chars : text.toList = pathOf parts

/-- A path has at most as many bytes as its parts may have, and one more for each of them. -/
theorem Spells.size {text : String} {parts : List String} (spells : Spells text parts) :
    (textBytes text).length ≤ 254 * parts.length := by
  rw [textBytes, spells.chars]
  have parts_size := spells.isPart
  clear spells
  induction parts with
  | nil => exact Nat.le_refl 0
  | cons p parts ih =>
    have first := (parts_size p List.mem_cons_self).2
    have more := ih fun q hq => parts_size q (List.mem_cons_of_mem _ hq)
    have mark : (Utf8.encodeChar '/').length = 1 := rfl
    rw [textBytes, Utf8.encode] at first
    simp only [pathOf, Utf8.encode, List.map_cons, List.flatMap_cons, List.flatMap_append,
      List.length_append, List.length_cons, List.cons_append] at more ⊢
    omega

section Target

variable {text : String} {parts : List String}

/-- The characters of a path may all stand there. -/
theorem Spells.path_chars (spells : Spells text parts) :
    ∀ c ∈ text.toList, isMadeOf isPathByte c = true ∧ c ≠ '?' ∧ c ≠ '#' := by
  intro c hc
  rw [spells.chars, pathOf] at hc
  obtain ⟨_, hmem, hc⟩ := List.mem_flatMap.1 hc
  obtain ⟨p, hp, rfl⟩ := List.mem_map.1 hmem
  rcases List.mem_cons.1 hc with rfl | hc
  · decide
  · obtain ⟨made, -, query, fragment⟩ := (spells.isPart p hp).1 c hc
    exact ⟨made, query, fragment⟩

/-- A path is taken as it is, and so is what follows it. -/
theorem pathAndQuery?_append {cs : List Char}
    (h : ∀ c ∈ cs, isMadeOf isPathByte c = true ∧ c ≠ '?' ∧ c ≠ '#') (rest : List Char) :
    pathAndQuery? (cs ++ rest) = (pathAndQuery? rest).map (cs ++ ·) := by
  induction cs with
  | nil => simp
  | cons c cs ih =>
    obtain ⟨made, query, fragment⟩ := h c List.mem_cons_self
    rw [List.cons_append, pathAndQuery?, if_neg fragment, if_neg query, if_pos made,
      ih fun d hd => h d (List.mem_cons_of_mem _ hd), Option.map_map]
    rfl

/-- The target of a path. -/
theorem Spells.target? (spells : Spells text parts) (few : parts.length ≤ 6) :
    target? text = .ok text := by
  have size := spells.size
  have whole := pathAndQuery?_append spells.path_chars []
  rw [List.append_nil, pathAndQuery?, Option.map_some, List.append_nil] at whole
  rw [Request.target?, if_neg (by rw [targetLimit]; omega), whole]
  exact congrArg Except.ok String.ofList_toList

/-- The target of a path with the query of a writer. -/
theorem Spells.target?_writer (spells : Spells text parts) (few : parts.length ≤ 6) :
    Request.target? (text ++ writerQuery) = .ok (text ++ writerQuery) := by
  have size' := spells.size
  have query : pathAndQuery? writerQuery.toList = some writerQuery.toList := rfl
  have size : (textBytes writerQuery).length = 28 := rfl
  have whole := pathAndQuery?_append spells.path_chars writerQuery.toList
  rw [query, Option.map_some] at whole
  rw [Request.target?, if_neg (by rw [textBytes_append, List.length_append, targetLimit]; omega),
    String.toList_append, whole, ← String.toList_append]
  exact congrArg Except.ok String.ofList_toList

/-- The parts that a path spells are the steps of its text. -/
theorem Spells.splitOn (spells : Spells text parts) :
    text.toList.splitOn '/' = [] :: parts.map String.toList := by
  have free : ∀ p ∈ [] :: parts.map String.toList, '/' ∉ p := by
    refine List.forall_mem_cons.2 ⟨List.not_mem_nil, fun _ hmem hc => ?_⟩
    obtain ⟨p, hp, rfl⟩ := List.mem_map.1 hmem
    exact ((spells.isPart p hp).1 _ hc).2.1 rfl
  rw [spells.chars, pathOf]
  exact Text.splitOn_parts free

/-- The parts of a path are read again from its text, whatever query follows it. -/
theorem Spells.cut (spells : Spells text parts) {query : List Char}
    (h : query = [] ∨ ∃ rest, query = '?' :: rest) :
    (Text.cutAt '/' ((text.toList ++ query).takeWhile (· != '?'))).map String.ofList =
      "" :: parts := by
  have path : (text.toList ++ query).takeWhile (· != '?') = text.toList := by
    rw [List.takeWhile_append_of_pos fun c hc => by simpa using (spells.path_chars c hc).2.1]
    rcases h with rfl | ⟨rest, rfl⟩
    · simp
    · simp
  rw [path, Text.cutAt_eq, spells.splitOn]
  simp

end Target

/-! ## The resources of a run -/

/-- One more part. -/
theorem Spells.snoc {text part : String} {parts : List String} (spells : Spells text parts)
    (isPart : IsPart part) : Spells (text ++ "/" ++ part) (parts ++ [part]) where
  isPart p hp := by
    rcases List.mem_append.1 hp with hp | hp
    · exact spells.isPart p hp
    · rw [List.mem_singleton.1 hp]
      exact isPart
  chars := by
    rw [String.toList_append, String.toList_append, spells.chars, pathOf_append]
    simp [pathOf]

theorem spells_namespaces : Spells namespacesPath ["api", "v1", "namespaces"] where
  isPart := by decide
  chars := rfl

variable {ns name : String}

theorem spells_namespace (plain : Names.IsPlain ns) :
    Spells (namespacePath ns) ["api", "v1", "namespaces", ns] :=
  spells_namespaces.snoc (isPart_of_plain plain)

theorem spells_collection (plain : Names.IsPlain ns) (kind : Kind) :
    Spells (collectionPath ns kind) ["api", "v1", "namespaces", ns, kind.plural] :=
  (spells_namespace plain).snoc (by cases kind <;> decide)

theorem spells_object (plain : Names.IsPlain ns) (kind : Kind) (plain' : Names.IsPlain name) :
    Spells (objectPath ⟨ns, kind, name⟩) ["api", "v1", "namespaces", ns, kind.plural, name] :=
  (spells_collection plain kind).snoc (isPart_of_plain plain')

end Request

namespace Server

open Request

/-! ## What a server makes of them -/

theorem writerQuery_eq : ∃ rest, writerQuery.toList = '?' :: rest := ⟨_, rfl⟩

@[simp] theorem kindOf?_plural (kind : Kind) : kindOf? kind.plural = some kind := by
  cases kind <;> decide

variable {ns name : String}

theorem ofTarget?_namespaces :
    Route.ofTarget? (namespacesPath ++ writerQuery) = some .namespaces := by
  rw [Route.ofTarget?, String.toList_append, spells_namespaces.cut (.inr writerQuery_eq)]
  rfl

theorem ofTarget?_namespace (plain : Names.IsPlain ns) :
    Route.ofTarget? (namespacePath ns) = some (.inNamespace ns) := by
  have cut := (spells_namespace plain).cut (.inl rfl)
  rw [List.append_nil] at cut
  rw [Route.ofTarget?, cut]
  simp

theorem ofTarget?_collection (plain : Names.IsPlain ns) (kind : Kind) :
    Route.ofTarget? (collectionPath ns kind ++ writerQuery) = some (.collection ns kind) := by
  rw [Route.ofTarget?, String.toList_append,
    (spells_collection plain kind).cut (.inr writerQuery_eq)]
  simp

theorem ofTarget?_object (plain : Names.IsPlain ns) (kind : Kind) (plain' : Names.IsPlain name) :
    Route.ofTarget? (objectPath ⟨ns, kind, name⟩) = some (.object ⟨ns, kind, name⟩) := by
  have cut := (spells_object plain kind plain').cut (.inl rfl)
  rw [List.append_nil] at cut
  rw [Route.ofTarget?, cut]
  simp

theorem ofTarget?_object_writer (plain : Names.IsPlain ns) (kind : Kind)
    (plain' : Names.IsPlain name) :
    Route.ofTarget? (objectPath ⟨ns, kind, name⟩ ++ writerQuery) =
      some (.object ⟨ns, kind, name⟩) := by
  rw [Route.ofTarget?, String.toList_append,
    (spells_object plain kind plain').cut (.inr writerQuery_eq)]
  simp

end Server

end MountKeys
