import MountKeys.SortedMap

/-!
# What sorted maps hold

`SortedMap.get?` is the view of a map that all other modules reason with.  This module says what
each operation does to that view, and `SortedMap.ext` says that the view is all there is to a map.

There are three groups.

* The view of each operation: `get?_insert`, `get?_filter`, and of a map built from a list.
* Extensionality.  A map is sorted by its keys, so the first entries of two maps with the same view
  have the same key, and `ext` follows by induction on both lists.
* What follows from both: an insertion that changes nothing (`insert_get?`), a map put together
  again from its entries (`ofList_entries`), and one map over another (`get?_overlay`).
-/

namespace MountKeys.SortedMap

variable {κ ν : Type} [Ord κ]

/-! ## The view of each operation -/

@[simp] theorem lookup_nil (k : κ) : lookup k ([] : List (κ × ν)) = none := rfl

@[simp] theorem get?_empty (k : κ) : (∅ : SortedMap κ ν).get? k = none := rfl

/-- A lookup finds an entry of the list. -/
theorem mem_of_lookup [Std.LawfulEqOrd κ] {k : κ} {v : ν} {l : List (κ × ν)}
    (h : lookup k l = some v) : (k, v) ∈ l := by
  induction l with
  | nil => simp at h
  | cons e rest ih =>
    rw [lookup] at h
    split at h
    next hk =>
      have hk := Std.LawfulEqCmp.eq_of_compare hk
      simp only [Option.some.injEq] at h
      subst hk h
      exact List.mem_cons_self
    next => exact List.mem_cons_of_mem _ (ih h)

/-- Without an entry for a key there is nothing to find. -/
theorem lookup_eq_none [Std.LawfulEqOrd κ] {k : κ} {l : List (κ × ν)}
    (h : ∀ e ∈ l, e.1 ≠ k) : lookup k l = none := by
  induction l with
  | nil => rfl
  | cons e rest ih =>
    have hne : compare k e.1 ≠ .eq := fun hk =>
      h e List.mem_cons_self (Std.LawfulEqCmp.eq_of_compare hk).symm
    rw [lookup, if_neg hne]
    exact ih fun d hd => h d (List.mem_cons_of_mem _ hd)

/-- A lookup in two lists looks at the first one first. -/
theorem lookup_append (k : κ) (l l' : List (κ × ν)) :
    lookup k (l ++ l') = (lookup k l).or (lookup k l') := by
  induction l with
  | nil => rfl
  | cons e rest ih =>
    rw [List.cons_append, lookup, lookup]
    split
    · rfl
    · exact ih

section Lawful

variable [Std.LawfulEqOrd κ]

/-- A lookup looks at one entry after the other. -/
theorem lookup_cons [DecidableEq κ] (k : κ) (e : κ × ν) (rest : List (κ × ν)) :
    lookup k (e :: rest) = if k = e.1 then some e.2 else lookup k rest := by
  rw [lookup]
  by_cases h : k = e.1
  · rw [if_pos h, if_pos (h ▸ Std.ReflCmp.compare_self)]
  · rw [if_neg h, if_neg fun hk => h (Std.LawfulEqCmp.eq_of_compare hk)]

/-- The placed entry is found, and every other key keeps its value. -/
theorem lookup_place [DecidableEq κ] (k k' : κ) (v : ν) (l : List (κ × ν)) :
    lookup k' (place k v l) = if k' = k then some v else lookup k' l := by
  induction l with
  | nil => simp only [place, lookup_cons, lookup_nil]
  | cons e rest ih =>
    rw [place]
    split
    next => rw [lookup_cons]
    next hk =>
      have hke := Std.LawfulEqCmp.eq_of_compare hk
      simp only [lookup_cons, ← hke]
      split <;> rfl
    next hk =>
      have hne : k ≠ e.1 := by
        rintro rfl
        simp [Std.ReflCmp.compare_self] at hk
      rw [lookup_cons, lookup_cons, ih]
      by_cases h : k' = k
      · rw [if_neg (h ▸ hne), if_pos h, if_pos h]
      · rw [if_neg h, if_neg h]

/-- The first entry of a map holds its least key. -/
private theorem head_le {e : κ × ν} {rest : List (κ × ν)}
    (h : (e :: rest).Pairwise fun a b => compare a.1 b.1 = .lt) {k : κ} {v : ν}
    (hk : lookup k (e :: rest) = some v) : k = e.1 ∨ compare e.1 k = .lt := by
  rcases List.mem_cons.1 (mem_of_lookup hk) with rfl | hmem
  · exact .inl rfl
  · exact .inr ((List.pairwise_cons.1 h).1 _ hmem)

variable [Std.TransOrd κ]

/-- The value of a key after an insertion. -/
theorem get?_insert [DecidableEq κ] (m : SortedMap κ ν) (k k' : κ) (v : ν) :
    (m.insert k v).get? k' = if k' = k then some v else m.get? k' :=
  lookup_place k k' v m.entries

@[simp] theorem get?_insert_self (m : SortedMap κ ν) (k : κ) (v : ν) :
    (m.insert k v).get? k = some v := by
  classical
  rw [get?_insert, if_pos rfl]

@[simp] theorem get?_insert_of_ne (m : SortedMap κ ν) {k k' : κ} (v : ν) (h : k' ≠ k) :
    (m.insert k v).get? k' = m.get? k' := by
  classical
  rw [get?_insert, if_neg h]

/-- The keys of a map are its entries' keys, each once. -/
theorem get?_eq_some_iff {m : SortedMap κ ν} {k : κ} {v : ν} :
    m.get? k = some v ↔ (k, v) ∈ m.entries := by
  refine ⟨mem_of_lookup, fun h => ?_⟩
  obtain ⟨l, sorted⟩ := m
  rw [get?]
  induction l with
  | nil => simp at h
  | cons e rest ih =>
    have ⟨hlt, hrest⟩ := List.pairwise_cons.1 sorted
    rcases List.mem_cons.1 h with rfl | h
    · simp [lookup, Std.ReflCmp.compare_self]
    · have hne : compare k e.1 ≠ .eq := by
        have := Std.OrientedCmp.gt_of_lt (hlt _ h)
        simp [this]
      rw [lookup, if_neg hne]
      exact ih hrest h

/-- What a filtered map holds was held before and passes the test. -/
theorem get?_filter {m : SortedMap κ ν} {p : κ → ν → Bool} {k : κ} {v : ν} :
    (m.filter p).get? k = some v ↔ m.get? k = some v ∧ p k v = true := by
  simp only [get?_eq_some_iff, filter, List.mem_filter]

/-- The value of a key after one was taken away. -/
theorem get?_erase [DecidableEq κ] (m : SortedMap κ ν) (k k' : κ) :
    (m.erase k).get? k' = if k' = k then none else m.get? k' := by
  refine Option.ext fun v => ?_
  rw [erase, get?_filter]
  by_cases h : k' = k
  · simp [h, Std.ReflCmp.compare_self]
  · have other : compare k k' ≠ .eq := fun hk => h (Std.LawfulEqCmp.eq_of_compare hk).symm
    simp [h, other]

private theorem entries_ext : ∀ (l l' : List (κ × ν)),
    l.Pairwise (fun a b => compare a.1 b.1 = .lt) →
    l'.Pairwise (fun a b => compare a.1 b.1 = .lt) →
    (∀ k, lookup k l = lookup k l') → l = l'
  | [], [], _, _, _ => rfl
  | [], e :: rest, _, _, h => by
    have := h e.1
    simp [lookup, Std.ReflCmp.compare_self] at this
  | e :: rest, [], _, _, h => by
    have := h e.1
    simp [lookup, Std.ReflCmp.compare_self] at this
  | e :: rest, e' :: rest', hl, hl', h => by
    have hfirst : lookup e.1 (e :: rest) = some e.2 := by
      simp [lookup, Std.ReflCmp.compare_self]
    have hfirst' : lookup e'.1 (e' :: rest') = some e'.2 := by
      simp [lookup, Std.ReflCmp.compare_self]
    -- Each of the two least keys is a key of the other map, so neither is below the other.
    have hkey : e.1 = e'.1 := by
      rcases head_le hl' (h _ ▸ hfirst) with heq | hlt
      · exact heq
      · rcases head_le hl ((h _).symm ▸ hfirst') with heq | hlt'
        · exact heq.symm
        · have := Std.OrientedCmp.gt_of_lt hlt
          simp [hlt'] at this
    have hvalue : e.2 = e'.2 := by
      have := h e.1
      rw [hfirst, hkey, hfirst'] at this
      exact Option.some.inj this
    have hrest : rest = rest' := by
      refine entries_ext rest rest' (List.pairwise_cons.1 hl).2 (List.pairwise_cons.1 hl').2
        fun k => ?_
      by_cases hk : compare k e.1 = .eq
      · have hk := Std.LawfulEqCmp.eq_of_compare hk
        have absent : ∀ (d : κ × ν) (ds : List (κ × ν)),
            (d :: ds).Pairwise (fun a b => compare a.1 b.1 = .lt) → k = d.1 →
            lookup k ds = none := by
          intro d ds hd heq
          refine lookup_eq_none fun x hx hxk => ?_
          have := (List.pairwise_cons.1 hd).1 x hx
          simp [hxk, heq, Std.ReflCmp.compare_self] at this
        rw [absent e rest hl hk, absent e' rest' hl' (hk.trans hkey)]
      · have := h k
        rwa [lookup, lookup, if_neg hk, if_neg (hkey ▸ hk)] at this
    rw [hrest, Prod.ext hkey hvalue]

/-! ## Extensionality -/

/-- Two maps with the same values for all keys are equal. -/
theorem ext {m m' : SortedMap κ ν} (h : ∀ k, m.get? k = m'.get? k) : m = m' := by
  obtain ⟨l, hl⟩ := m
  obtain ⟨l', hl'⟩ := m'
  have : l = l' := entries_ext l l' hl hl' h
  subst this
  rfl

/-- Inserting what is there changes nothing. -/
theorem insert_get? {m : SortedMap κ ν} {k : κ} {v : ν} (h : m.get? k = some v) :
    m.insert k v = m := by
  classical
  refine ext fun k' => ?_
  rw [get?_insert]
  split
  next hk => rw [hk, h]
  next => rfl

/-- To insert a key into a set that has it changes nothing. -/
theorem insert_contains {m : SortedMap κ Unit} {k : κ} (h : m.contains k = true) :
    m.insert k () = m := by
  obtain ⟨u, hu⟩ := Option.isSome_iff_exists.1 h
  exact insert_get? hu

/-- Two insertions can be made in either order, unless they give one key two values. -/
theorem insert_comm (m : SortedMap κ ν) {k k' : κ} {v v' : ν} (h : k = k' → v = v') :
    (m.insert k v).insert k' v' = (m.insert k' v').insert k v := by
  classical
  refine ext fun i => ?_
  simp only [get?_insert]
  split
  next hk' =>
    split
    next hk => rw [h (hk.symm.trans hk')]
    next => rfl
  next => rfl

/-! ## Maps put together from entries -/

/-- The value of a key after many insertions: the last one for it counts. -/
theorem get?_foldl_insert (l : List (κ × ν)) (m : SortedMap κ ν) (k : κ) :
    (l.foldl (fun m e => m.insert e.1 e.2) m).get? k = (lookup k l.reverse).or (m.get? k) := by
  classical
  induction l generalizing m with
  | nil => rfl
  | cons e rest ih =>
    rw [List.foldl_cons, ih, get?_insert, List.reverse_cons, lookup_append, lookup_cons,
      Option.or_assoc]
    congr 1
    split <;> rfl

/-- The order of entries with different keys does not matter to a lookup. -/
theorem lookup_reverse (m : SortedMap κ ν) (k : κ) :
    lookup k m.entries.reverse = m.get? k := by
  refine Option.ext fun v => ⟨fun h => ?_, fun h => ?_⟩
  · exact get?_eq_some_iff.2 (List.mem_reverse.1 (mem_of_lookup h))
  · cases hl : lookup k m.entries.reverse with
    | none =>
      exfalso
      have hmem := List.mem_reverse.2 (mem_of_lookup h)
      generalize m.entries.reverse = l at hl hmem
      induction l with
      | nil => simp at hmem
      | cons e rest ih =>
        rw [lookup] at hl
        split at hl
        · simp at hl
        next hne =>
          rcases List.mem_cons.1 hmem with rfl | hmem
          · exact hne Std.ReflCmp.compare_self
          · exact ih hl hmem
    | some w =>
      have hw := get?_eq_some_iff.2 (List.mem_reverse.1 (mem_of_lookup hl))
      rw [← h, hw]

/-- A map is the map of its entries. -/
theorem ofList_entries (m : SortedMap κ ν) : ofList m.entries = m := by
  refine ext fun k => ?_
  rw [ofList, get?_foldl_insert, lookup_reverse, get?_empty, Option.or_none]

/-- The value of a key in one map over another: the one of the upper map counts. -/
theorem get?_overlay (m upper : SortedMap κ ν) (k : κ) :
    (m.overlay upper).get? k = (upper.get? k).or (m.get? k) := by
  rw [overlay, get?_foldl_insert, lookup_reverse]

@[simp] theorem overlay_empty (m : SortedMap κ ν) : m.overlay ∅ = m := rfl

@[simp] theorem empty_overlay (m : SortedMap κ ν) : (∅ : SortedMap κ ν).overlay m = m :=
  ofList_entries m

end Lawful

theorem lookup_map {μ : Type} (k : κ) (f : ν → μ) (l : List (κ × ν)) :
    lookup k (l.map fun e => (e.1, f e.2)) = (lookup k l).map f := by
  induction l with
  | nil => rfl
  | cons e rest ih =>
    rw [List.map_cons, lookup, lookup]
    split
    · rfl
    · exact ih

/-- The value of a key once all values are changed. -/
theorem get?_mapValues {μ : Type} (m : SortedMap κ ν) (f : ν → μ) (k : κ) :
    (m.mapValues f).get? k = (m.get? k).map f :=
  lookup_map k f m.entries

@[simp] theorem mapValues_id (m : SortedMap κ ν) : m.mapValues id = m := by
  obtain ⟨l, sorted⟩ := m
  simp [mapValues]

end MountKeys.SortedMap
