/-!
# Maps with sorted keys

A finite map as the list of its entries in the order of their keys, each key once.  A map has one
such list, so two maps with the same entries are equal, and printing a map needs no further order.
-/

namespace MountKeys

/-- A finite map from `κ` to `ν`. -/
structure SortedMap (κ ν : Type) [Ord κ] where
  /-- Keys with their values. -/
  entries : List (κ × ν)
  /-- Each key comes before the keys after it. -/
  sorted : entries.Pairwise fun a b => compare a.1 b.1 = .lt

namespace SortedMap

variable {κ ν : Type} [Ord κ]

instance [DecidableEq κ] [DecidableEq ν] : DecidableEq (SortedMap κ ν) := fun a b =>
  decidable_of_iff (a.entries = b.entries) <| by cases a; cases b; simp

/-- The map without entries. -/
def empty : SortedMap κ ν :=
  ⟨[], .nil⟩

instance : EmptyCollection (SortedMap κ ν) := ⟨empty⟩

instance : Inhabited (SortedMap κ ν) := ⟨empty⟩

/-- The value of a key in a list of entries. -/
def lookup (k : κ) : List (κ × ν) → Option ν
  | [] => none
  | e :: rest => if compare k e.1 = .eq then some e.2 else lookup k rest

/-- The value of a key. -/
def get? (m : SortedMap κ ν) (k : κ) : Option ν :=
  lookup k m.entries

/-- Whether a key has a value. -/
def contains (m : SortedMap κ ν) (k : κ) : Bool :=
  (m.get? k).isSome

/-- The keys in order. -/
def keys (m : SortedMap κ ν) : List κ :=
  m.entries.map Prod.fst

/-- The entries with a value for a key put at its place. -/
def place (k : κ) (v : ν) : List (κ × ν) → List (κ × ν)
  | [] => [(k, v)]
  | e :: rest =>
    match compare k e.1 with
    | .lt => (k, v) :: e :: rest
    | .eq => (k, v) :: rest
    | .gt => e :: place k v rest

/-- The key of a placed entry is the new one or an old one. -/
theorem mem_place {k : κ} {v : ν} {l : List (κ × ν)} {e : κ × ν} (h : e ∈ place k v l) :
    e = (k, v) ∨ e ∈ l := by
  induction l with
  | nil => simpa [place] using h
  | cons d rest ih =>
    rw [place] at h
    split at h
    · simpa using h
    · rcases List.mem_cons.1 h with h | h
      · exact .inl h
      · exact .inr (List.mem_cons_of_mem _ h)
    · rcases List.mem_cons.1 h with h | h
      · exact .inr (h ▸ List.mem_cons_self)
      · exact (ih h).imp_right (List.mem_cons_of_mem _)

section Lawful

variable [Std.TransOrd κ] [Std.LawfulEqOrd κ]

theorem place_sorted (k : κ) (v : ν) {l : List (κ × ν)}
    (h : l.Pairwise fun a b => compare a.1 b.1 = .lt) :
    (place k v l).Pairwise fun a b => compare a.1 b.1 = .lt := by
  induction l with
  | nil => simp [place]
  | cons e rest ih =>
    have ⟨he, hrest⟩ := List.pairwise_cons.1 h
    rw [place]
    split
    next hk =>
      refine List.pairwise_cons.2 ⟨fun d hd => ?_, h⟩
      rcases List.mem_cons.1 hd with hd | hd
      · exact hd ▸ hk
      · exact Std.TransCmp.lt_trans hk (he d hd)
    next hk =>
      have hk := Std.LawfulEqCmp.eq_of_compare hk
      exact List.pairwise_cons.2 ⟨fun d hd => hk ▸ he d hd, hrest⟩
    next hk =>
      refine List.pairwise_cons.2 ⟨fun d hd => ?_, ih hrest⟩
      rcases mem_place hd with hd | hd
      · exact hd ▸ Std.OrientedCmp.lt_of_gt hk
      · exact he d hd

/-- The map with a value for a key, in place of the value that it had. -/
def insert (m : SortedMap κ ν) (k : κ) (v : ν) : SortedMap κ ν :=
  ⟨place k v m.entries, place_sorted k v m.sorted⟩

/-- The map of a list of entries; of several for one key the last counts. -/
def ofList (l : List (κ × ν)) : SortedMap κ ν :=
  l.foldl (fun m e => m.insert e.1 e.2) ∅

/-- The entries of both maps, those of the second over those of the first. -/
def overlay (m upper : SortedMap κ ν) : SortedMap κ ν :=
  upper.entries.foldl (fun m e => m.insert e.1 e.2) m

end Lawful

/-- The map with the entries that pass a test. -/
def filter (m : SortedMap κ ν) (p : κ → ν → Bool) : SortedMap κ ν :=
  ⟨m.entries.filter fun e => p e.1 e.2, m.sorted.filter _⟩

/-- The map without a key. -/
def erase (m : SortedMap κ ν) (k : κ) : SortedMap κ ν :=
  m.filter fun k' _ => compare k k' != .eq

/-- The map with each value changed. -/
def mapValues {μ : Type} (m : SortedMap κ ν) (f : ν → μ) : SortedMap κ μ :=
  ⟨m.entries.map fun e => (e.1, f e.2), m.sorted.map _ fun _ _ h => h⟩

end SortedMap

end MountKeys
