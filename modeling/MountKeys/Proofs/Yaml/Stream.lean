import MountKeys.Proofs.Yaml.Printed

/-!
# Streams of documents

What `Tree.toYaml` prints for trees with plain keys is read back as the same values: `read_stream`.

The reader first takes the stream for a list of keys with their columns and then puts them together
from the last one to the first, and the proof goes the same way.  `Tree.entryItems` says which keys
a tree is taken for (`walk_entries`, by induction on the tree), and `assemble_entries` that they are
put together as that tree.
-/

namespace MountKeys

namespace Yaml

/-! ## Lines -/

/-- Blanks before a line are its column. -/
theorem takeWhile_blanks {c : Char} (space : c ≠ ' ') (n : Nat) (cs : List Char) :
    (blanks n ++ c :: cs).takeWhile (· == ' ') = blanks n ∧
      (blanks n ++ c :: cs).dropWhile (· == ' ') = c :: cs := by
  induction n with
  | zero => simp [blanks, space]
  | succ n ih => simpa [blanks, List.replicate_succ] using ih

theorem ne_space_of_isBlank {c : Char} (blank : isBlank c = false) : c ≠ ' ' := by
  rintro rfl
  exact nomatch blank

/-- A key that does not start with a mark of three characters does not do so before its colon. -/
theorem startsMark_key {mark : Char} (notColon : mark ≠ ':') {cs : List Char}
    (h : [mark, mark, mark].isPrefixOf cs = false) (after : List Char) :
    startsMark mark (cs ++ ':' :: after) = false := by
  match cs with
  | [] => simp [startsMark, notColon]
  | [a] => simp [startsMark, notColon]
  | [a, b] => simp [startsMark, notColon]
  | a :: b :: c :: rest =>
    rw [startsMark, Bool.and_eq_false_iff]
    exact .inl h

namespace PlainKey

variable {name : String} (key : PlainKey name)
include key

/-- A key is read up to its colon. -/
theorem scanEntry_eq (column : Nat) {after : List Char} (gap : spaceNext after = true) :
    scanEntry column (name.toList ++ ':' :: after) =
      (scanAfterKey column after).map fun (value, rest) => (.entry column name value, rest) := by
  have ends : endsPlain (':' :: after) = true := by simpa [endsPlain] using .inr gap
  have read := key.safe.plainText_append ends
  have start := key.safe.startsPlain_append (':' :: after)
  have resolved : resolve name.toList = .text name := by
    rw [key.safe.resolve_eq, String.ofList_toList]
  simp [scanEntry, read, start, key.short, resolved]

/-- A key does not mark the beginning or the end of a document. -/
theorem startsMark_eq (after : List Char) :
    startsMark '-' (name.toList ++ ':' :: after) = false ∧
      startsMark '.' (name.toList ++ ':' :: after) = false := by
  have indicator := key.safe.noIndicator
  obtain ⟨c, cs, spelled, -⟩ := key.safe.eq_cons
  rw [spelled] at indicator ⊢
  simp only [hasIndicator, Bool.or_eq_false_iff] at indicator
  exact ⟨startsMark_key (by decide) indicator.1.2 after,
    startsMark_key (by decide) indicator.2 after⟩

/-- A line with a key is read as that key with what stands after it. -/
theorem lineStep_eq (column : Nat) (items : List Item) {after : List Char}
    (gap : spaceNext after = true) :
    lineStep items (blanks column ++ (name.toList ++ ':' :: after)) =
      (scanAfterKey column after).map fun (value, rest) =>
        (.next (items ++ [.entry column name value]), rest) := by
  have entry := key.scanEntry_eq column gap
  obtain ⟨dashes, dots⟩ := key.startsMark_eq after
  obtain ⟨c, cs, spelled, blank, newline, lead⟩ := key.safe.eq_cons
  rw [spelled, List.cons_append] at dashes dots entry
  have space : c ≠ ' ' := ne_space_of_isBlank blank
  have comment : c ≠ '#' := by
    rintro rfl
    cases lead
  obtain ⟨column_eq, line_eq⟩ := takeWhile_blanks space column (cs ++ ':' :: after)
  have width : (blanks column).length = column := List.length_replicate
  rw [spelled, List.cons_append, lineStep, column_eq, line_eq, width]
  simp only [newline, comment, dashes, dots, entry, Bool.false_eq_true, and_false, if_false]
  cases scanAfterKey column after <;> rfl

/-- A line with a key is one step of the reader. -/
theorem walk_line {column : Nat} (items : List Item) {value : Option Json}
    {after rest : List Char} (gap : spaceNext (after ++ rest) = true)
    (read : scanAfterKey column (after ++ rest) = some (value, rest)) :
    Text.walk lineStep items (blanks column ++ (name.toList ++ ':' :: (after ++ rest))) =
      Text.walk lineStep (items ++ [.entry column name value]) rest := by
  have line : blanks column ++ (name.toList ++ ':' :: (after ++ rest)) =
      (blanks column ++ (name.toList ++ ':' :: after)) ++ rest := by
    simp
  have step := key.lineStep_eq column items gap
  rw [read, line] at step
  rw [line]
  exact Text.walk_next step (by simp)

/-- A line with a key is not indented further than the key. -/
theorem outdented (column : Nat) (rest : List Char) :
    Outdented column (blanks column ++ (name.toList ++ rest)) := by
  obtain ⟨c, cs, spelled, blank, newline, -⟩ := key.safe.eq_cons
  refine .inr ⟨column, c, cs ++ rest, le_rfl, ne_space_of_isBlank blank, newline, ?_⟩
  rw [spelled, List.cons_append]

end PlainKey

/-- A value after a key is on the same line. -/
theorem scanAfterKey_printValue (column : Nat) (s : String) {rest : List Char}
    (out : Outdented column rest) :
    scanAfterKey column (' ' :: printValue (column + 2) s.toList ++ rest) =
      some (some (.text s), rest) := by
  have read := scanValue_printValue s.toList out
  obtain ⟨c, cs, printed, blank, newline, comment⟩ := printValue_head (column + 2) s.toList
  rw [printed, List.cons_append] at read
  have skipped : (' ' :: c :: (cs ++ rest)).dropWhile isBlank = c :: (cs ++ rest) := by
    rw [List.dropWhile_cons_of_pos rfl, List.dropWhile_cons_of_neg (by simp [blank])]
  have more : endLine (' ' :: c :: (cs ++ rest)) = none := by
    rw [endLine, skipped]
    simp [newline, comment]
  rw [printed, List.cons_append, List.cons_append, scanAfterKey, more, skipped]
  simp only [read, String.ofList_toList, Option.map_some]

theorem Outdented.mono {column column' : Nat} (le : column ≤ column') {cs : List Char}
    (h : Outdented column cs) : Outdented column' cs :=
  h.imp_right fun ⟨n, c, rest, hn, h⟩ => ⟨n, c, rest, hn.trans le, h⟩

end Yaml

/-! ## Keys -/

namespace Tree

open Yaml

mutual

/-- What a reader takes a key at a depth for, together with what stands under it. -/
def keyItems (depth : Nat) (name : String) : Tree → List Item
  | .text s => [.entry (2 * depth) name (some (.text s))]
  | .map [] => [.entry (2 * depth) name (some (.object []))]
  | .map (e :: rest) => .entry (2 * depth) name none :: entryItems (depth + 1) (e :: rest)

/-- What a reader takes keys at a depth for, together with what stands under them. -/
def entryItems (depth : Nat) : List (String × Tree) → List Item
  | [] => []
  | (name, t) :: rest => keyItems depth name t ++ entryItems depth rest

end

/-- The next entries are not indented further than their depth. -/
theorem printEntries_outdented {entries : List (String × Tree)}
    (plain : havePlainKeys entries = true) (depth : Nat) {rest : List Char}
    (out : Outdented (2 * depth) rest) :
    Outdented (2 * depth) (printEntries depth entries ++ rest) := by
  cases entries with
  | nil => exact out
  | cons e others =>
    obtain ⟨name, t⟩ := e
    simp only [havePlainKeys, Bool.and_eq_true] at plain
    have key := PlainKey.of_isPlainKey plain.1.1.1
    have first := key.outdented (2 * depth)
      (':' :: printAfterKey depth t ++ printEntries depth others ++ rest)
    rw [printEntries, key.printed]
    simpa using first

mutual

/-- A key with what stands under it is taken for its items. -/
theorem walk_key {name : String} (key : PlainKey name) : ∀ {t : Tree}, t.hasPlainKeys = true →
    ∀ (depth : Nat) (items : List Item) {rest : List Char}, Outdented (2 * depth) rest →
    Text.walk lineStep items
        (blanks (2 * depth) ++ (name.toList ++ ':' :: (printAfterKey depth t ++ rest))) =
      Text.walk lineStep (items ++ keyItems depth name t) rest
  | .text s, _, depth, items, _, out =>
    key.walk_line items rfl (scanAfterKey_printValue (2 * depth) s out)
  | .map [], _, depth, items, _, _ => by
    rw [printAfterKey]
    exact key.walk_line items rfl rfl
  | .map (e :: entries), plain, depth, items, rest, out => by
    have wider : Outdented (2 * (depth + 1)) rest := out.mono (by omega)
    have line (cs : List Char) :
        Text.walk lineStep items (blanks (2 * depth) ++ (name.toList ++ ':' :: '\n' :: cs)) =
          Text.walk lineStep (items ++ [.entry (2 * depth) name none]) cs :=
      @PlainKey.walk_line name key (2 * depth) items none ['\n'] cs rfl rfl
    rw [printAfterKey, keyItems, List.cons_append, line, walk_entries plain (depth + 1) _ wider,
      List.append_assoc]
    rfl

/-- Keys with what stands under them are taken for their items. -/
theorem walk_entries : ∀ {entries : List (String × Tree)}, havePlainKeys entries = true →
    ∀ (depth : Nat) (items : List Item) {rest : List Char}, Outdented (2 * depth) rest →
    Text.walk lineStep items (printEntries depth entries ++ rest) =
      Text.walk lineStep (items ++ entryItems depth entries) rest
  | [], _, _, items, _, _ => by rw [entryItems, List.append_nil]; rfl
  | (name, t) :: others, plain, depth, items, rest, out => by
    simp only [havePlainKeys, Bool.and_eq_true] at plain
    obtain ⟨⟨⟨key, -⟩, under⟩, plain⟩ := plain
    have key := PlainKey.of_isPlainKey key
    have first := walk_key key under depth items (printEntries_outdented plain depth out)
    rw [printEntries, key.printed, entryItems, ← List.append_assoc items,
      ← walk_entries plain depth _ out, ← first]
    simp

end

end Tree

namespace Yaml

/-! ## Putting keys together -/

/-- Fields of one map before maps that are still open. -/
def openMap (column : Nat) : List (String × Json) → List OpenMap → List OpenMap
  | [], maps => maps
  | f :: fields, maps => (column, f :: fields) :: maps

/-- Whether the map that was opened last is to the left of a column. -/
def LeftOf (column : Nat) (maps : List OpenMap) : Prop :=
  ∀ m ∈ maps.head?, m.1 < column

theorem LeftOf.openMap {column : Nat} {maps : List OpenMap} (left : LeftOf column maps)
    (fields : List (String × Json)) : LeftOf (column + 2) (openMap column fields maps) := by
  cases fields with
  | nil => exact fun m h => (left m h).trans (by omega)
  | cons f fields =>
    intro m h
    obtain rfl : (column, f :: fields) = m := by simpa [Yaml.openMap] using h
    exact Nat.lt_add_of_pos_right (by decide)

/-- A new key goes before the fields at its column. -/
theorem addField_openMap {column : Nat} {maps : List OpenMap} (left : LeftOf column maps)
    {key : String} {fields : List (String × Json)}
    (new : (fields.map Prod.fst).contains key = false) (value : Json) :
    addField column key value (openMap column fields maps) =
      some (openMap column ((key, value) :: fields) maps) := by
  cases fields with
  | cons f fields => simp only [openMap, addField, if_true, new, Bool.false_eq_true, if_false]
  | nil =>
    cases maps with
    | nil => rfl
    | cons m maps =>
      have less : m.1 < column := left m rfl
      rw [openMap, addField, if_neg less.ne', if_pos less]
      rfl

/-- The map at the next greater column is the value of a new key that has none on its line. -/
theorem addEntry_openMap {column : Nat} {maps : List OpenMap} (left : LeftOf column maps)
    {key : String} {fields : List (String × Json)}
    (new : (fields.map Prod.fst).contains key = false) (f : String × Json)
    (under : List (String × Json)) :
    addEntry column key none (openMap (column + 2) (f :: under) (openMap column fields maps)) =
      some (openMap column ((key, .object (f :: under)) :: fields) maps) := by
  rw [openMap, addEntry, if_pos (Nat.lt_add_of_pos_right (by decide))]
  exact addField_openMap left new _

theorem addItem_entry {column : Nat} {key : String} {value : Option Json}
    {maps maps' : List OpenMap} (h : addEntry column key value maps = some maps')
    (documents : List Json) :
    addItem (.entry column key value) (maps, documents) = some (maps', documents) := by
  rw [addItem, h]
  rfl

theorem assemble_append (items items' : List Item) (state : Option (List OpenMap × List Json)) :
    assemble (items ++ items') state = assemble items (assemble items' state) :=
  List.foldr_append

theorem assemble_cons (item : Item) (items : List Item)
    (state : Option (List OpenMap × List Json)) :
    assemble (item :: items) state = (assemble items state).bind (addItem item) := rfl

end Yaml

namespace Tree

open Yaml

theorem map_fst_entriesToJson (entries : List (String × Tree)) :
    (entriesToJson entries).map Prod.fst = entries.map Prod.fst := by
  induction entries with
  | nil => rfl
  | cons e rest ih =>
    obtain ⟨name, t⟩ := e
    rw [entriesToJson, List.map_cons, List.map_cons, ih]

mutual

/-- A key with what stands under it is put together as a field. -/
theorem assemble_key {name : String} : ∀ {t : Tree}, t.hasPlainKeys = true →
    ∀ (depth : Nat) {maps : List OpenMap}, LeftOf (2 * depth) maps →
    ∀ {fields : List (String × Json)}, (fields.map Prod.fst).contains name = false →
    ∀ documents : List Json,
    assemble (keyItems depth name t) (some (openMap (2 * depth) fields maps, documents)) =
      some (openMap (2 * depth) ((name, t.toJson) :: fields) maps, documents)
  | .text s, _, _, _, left, _, new, documents => by
    refine addItem_entry ?_ documents
    exact addField_openMap left new (.text s)
  | .map [], _, _, _, left, _, new, documents => by
    refine addItem_entry ?_ documents
    exact addField_openMap left new (.object [])
  | .map ((name', t) :: rest), plain, depth, _, left, fields, new, documents => by
    rw [keyItems, assemble_cons,
      assemble_entries plain (depth + 1) (left.openMap fields) documents]
    exact addItem_entry (addEntry_openMap left new (name', t.toJson) (entriesToJson rest))
      documents

/-- Keys with what stands under them are put together as the fields of one map. -/
theorem assemble_entries : ∀ {entries : List (String × Tree)}, havePlainKeys entries = true →
    ∀ (depth : Nat) {maps : List OpenMap}, LeftOf (2 * depth) maps → ∀ documents : List Json,
    assemble (entryItems depth entries) (some (maps, documents)) =
      some (openMap (2 * depth) (entriesToJson entries) maps, documents)
  | [], _, _, _, _, _ => rfl
  | (name, t) :: rest, plain, depth, maps, left, documents => by
    simp only [havePlainKeys, Bool.and_eq_true, Bool.not_eq_true'] at plain
    obtain ⟨⟨⟨-, new⟩, under⟩, plain⟩ := plain
    rw [← map_fst_entriesToJson] at new
    rw [entryItems, assemble_append, assemble_entries plain depth left documents,
      assemble_key under depth left new documents]
    rfl

end

end Tree

namespace Yaml

/-! ## Documents -/

variable {documents : List (List (String × Tree))}

/-- Maps as documents, with the marker before each of them. -/
def printStream (documents : List (List (String × Tree))) : List Char :=
  documents.flatMap fun entries => "---\n".toList ++ (Tree.map entries).toYaml

/-- What a reader takes such a stream for. -/
def streamItems (documents : List (List (String × Tree))) : List Item :=
  documents.flatMap fun entries => .marker :: Tree.entryItems 0 entries

/-- What is so of maps that are printed as documents: they have keys, and all keys are plain. -/
def ArePlain (documents : List (List (String × Tree))) : Prop :=
  ∀ entries ∈ documents, entries ≠ [] ∧ Tree.havePlainKeys entries = true

/-- A document is printed as its keys. -/
theorem toYaml_map {entries : List (String × Tree)} (nonempty : entries ≠ []) :
    (Tree.map entries).toYaml = Tree.printEntries 0 entries := by
  cases entries with
  | nil => exact absurd rfl nonempty
  | cons e rest => rfl

theorem printStream_cons {entries : List (String × Tree)} (nonempty : entries ≠ [])
    (rest : List (List (String × Tree))) :
    printStream (entries :: rest) =
      "---\n".toList ++ (Tree.printEntries 0 entries ++ printStream rest) := by
  rw [printStream, List.flatMap_cons, toYaml_map nonempty, List.append_assoc]
  rfl

theorem streamItems_cons (entries : List (String × Tree)) (rest : List (List (String × Tree))) :
    streamItems (entries :: rest) =
      .marker :: (Tree.entryItems 0 entries ++ streamItems rest) := by
  rw [streamItems, List.flatMap_cons]
  rfl

/-- Nothing before the next document belongs to a map. -/
theorem printStream_outdented (documents : List (List (String × Tree))) :
    Outdented 0 (printStream documents) := by
  cases documents with
  | nil => exact .inl rfl
  | cons entries rest => exact .inr ⟨0, '-', _, le_rfl, by decide, rfl, rfl⟩

theorem printStream_shown (plain : ArePlain documents) :
    ∀ c ∈ printStream documents, isShown c = true := by
  intro c hc
  obtain ⟨entries, hmem, hc⟩ := List.mem_flatMap.1 hc
  obtain ⟨nonempty, keys⟩ := plain entries hmem
  rw [toYaml_map nonempty] at hc
  have marker : ∀ c ∈ "---\n".toList, isShown c = true := shown_of_all rfl
  exact List.forall_mem_append.2 ⟨marker, Tree.printEntries_shown keys 0⟩ c hc

/-- A marker is one step of the reader. -/
theorem walk_marker (items : List Item) (cs : List Char) :
    Text.walk lineStep items ("---\n".toList ++ cs) =
      Text.walk lineStep (items ++ [.marker]) cs :=
  Text.walk_next rfl (by decide)

theorem walk_stream (plain : ArePlain documents) (items : List Item) :
    Text.walk lineStep items (printStream documents) =
      some (items ++ streamItems documents, []) := by
  induction documents generalizing items with
  | nil =>
    rw [streamItems, List.flatMap_nil, List.append_nil]
    exact Text.walk_done rfl
  | cons entries rest ih =>
    obtain ⟨⟨nonempty, keys⟩, plain⟩ := List.forall_mem_cons.1 plain
    have next := ih plain (items ++ [.marker] ++ Tree.entryItems 0 entries)
    have document := Tree.walk_entries keys 0 (items ++ [.marker]) (printStream_outdented rest)
    rw [printStream_cons nonempty, walk_marker, document, next, streamItems_cons]
    simp

theorem assemble_stream (plain : ArePlain documents) :
    assemble (streamItems documents) (some ([], [])) =
      some ([], documents.map fun entries => (Tree.map entries).toJson) := by
  induction documents with
  | nil => rfl
  | cons entries rest ih =>
    obtain ⟨⟨nonempty, keys⟩, plain⟩ := List.forall_mem_cons.1 plain
    have left : LeftOf (2 * 0) [] := fun _ h => nomatch h
    rw [streamItems_cons, assemble_cons, assemble_append, ih plain,
      Tree.assemble_entries keys 0 left]
    cases entries with
    | nil => exact absurd rfl nonempty
    | cons e rest => rfl

/-- What is printed for some documents is read back as their values. -/
theorem read_printStream (plain : ArePlain documents) :
    read (printStream documents) =
      some (documents.map fun entries => (Tree.map entries).toJson) := by
  have shown := printStream_shown plain
  have readable : (printStream documents).all isReadable = true :=
    List.all_eq_true.2 fun c hc => isReadable_of_isShown (shown c hc)
  rw [read, readable, normalize_of_shown shown, walk_stream plain, List.nil_append]
  simp [assemble_stream plain]

end Yaml

end MountKeys
