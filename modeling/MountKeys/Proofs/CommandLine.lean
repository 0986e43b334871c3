import MountKeys.CommandLine
import MountKeys.Proofs.Utf8
import Mathlib.Data.List.Basic

/-!
# The flags of a command line

What reading a command line gives, and that it can give any flags.

* Each value that is read is one that its flag can have (`read_fit`).  All reading of values goes
  through `Progress.assign`, of which `assign_eq_ok_iff` says everything, and the other readers hand
  on what they were given.
* Any flags with values that they can have are read from the command line that spells them out
  (`read_spelled`).
-/

namespace MountKeys

/-- The values that a flag can have: text, and any bytes but none for a flag that takes bytes. -/
def Flag.Takes (f : Flag) (value : Bytes) : Prop :=
  if f.takesBytes then value ≠ [] else (Utf8.decode? value).isSome = true

instance (f : Flag) (value : Bytes) : Decidable (f.Takes value) :=
  inferInstanceAs (Decidable (if f.takesBytes then value ≠ [] else _))

namespace Flags

/-- Each flag has a value that it can have. -/
def Fit (flags : Flags) : Prop :=
  ∀ g ∈ flags, g.1.Takes g.2

instance (flags : Flags) : Decidable flags.Fit :=
  inferInstanceAs (Decidable (∀ g ∈ flags, g.1.Takes g.2))

/-- A set of flags: each is given once at most, with a value that it can have. -/
structure Proper (flags : Flags) : Prop where
  fit : flags.Fit
  once : (flags.map Prod.fst).Nodup

theorem Fit.append {flags flags' : Flags} (h : flags.Fit) (h' : flags'.Fit) :
    Fit (flags ++ flags') :=
  List.forall_mem_append.2 ⟨h, h'⟩

/-- The value of a flag is one that was given. -/
theorem mem_of_bytes? {flags : Flags} {f : Flag} {value : Bytes}
    (h : flags.bytes? f = some value) : (f, value) ∈ flags := by
  obtain ⟨⟨f', value'⟩, found, rfl⟩ := Option.map_eq_some_iff.1 h
  have same : f' = f := by simpa using List.find?_some found
  exact same ▸ List.mem_of_find?_eq_some found

/-- A flag has no value exactly if it was not given. -/
theorem bytes?_eq_none_iff {flags : Flags} {f : Flag} :
    flags.bytes? f = none ↔ f ∉ flags.map Prod.fst := by
  simp only [bytes?, Option.map_eq_none_iff, List.find?_eq_none, List.mem_map, beq_iff_eq,
    not_exists, not_and]

end Flags

namespace CommandLine

/-! ## Values that are read -/

namespace Progress

variable {p q : Progress} {f : Flag} {value : Bytes}

/-- A flag gets a value exactly if it has none yet and can have that one. -/
theorem assign_eq_ok_iff :
    p.assign f value = .ok q ↔
      p.given.bytes? f = none ∧ f.Takes value ∧
        q = { p with given := p.given ++ [(f, value)] } := by
  rw [assign, Flag.Takes]
  split
  next given => simp [Option.isSome_iff_ne_none.1 given]
  next free =>
    rw [Bool.not_eq_true, Option.isSome_eq_false_iff, Option.isNone_iff_eq_none] at free
    split
    next bytes => cases value <;> simp [free, eq_comm]
    next text => cases Utf8.decode? value <;> simp [free, eq_comm]

theorem assign_fit (fit : p.given.Fit) (h : p.assign f value = .ok q) : q.given.Fit := by
  obtain ⟨-, takes, rfl⟩ := assign_eq_ok_iff.1 h
  exact fit.append (List.forall_mem_singleton.2 takes)

theorem settle_fit (fit : p.given.Fit) (h : p.settle = .ok q) : q.given.Fit := by
  rw [settle] at h
  split at h
  next => exact Except.ok.inj h ▸ fit
  next => cases h
  next => exact assign_fit (p := { p with pending := none }) fit h

theorem take_fit {value : Option Bytes} (fit : p.given.Fit) (h : p.take f value = .ok q) :
    q.given.Fit := by
  rw [take] at h
  split at h
  next => cases h
  next settled =>
    have fit := settle_fit fit settled
    split at h
    next => exact assign_fit fit h
    next => exact Except.ok.inj h ▸ fit

/-- Nothing is read once the reading stops. -/
theorem stopWith_ne_ok {stop : Stop} : p.stopWith stop ≠ .ok q := by
  rw [stopWith]
  split <;> simp

end Progress

section Reading

variable {part : Part} {p q : Progress} {arg : Bytes}

theorem readLong_fit (fit : p.given.Fit) (h : readLong part p arg = .ok q) : q.given.Fit := by
  rw [readLong] at h
  dsimp only at h
  split at h
  next => exact Progress.take_fit fit h
  next =>
    split at h
    · exact absurd h Progress.stopWith_ne_ok
    · cases h
    · cases h

theorem readShort_fit (fit : p.given.Fit) (h : readShort part p arg = .ok q) : q.given.Fit := by
  rw [readShort] at h
  split at h
  next =>
    split at h
    next =>
      split at h
      · exact Progress.take_fit fit h
      · exact Progress.take_fit fit h
    next =>
      split at h
      · exact absurd h Progress.stopWith_ne_ok
      split at h
      · exact absurd h Progress.stopWith_ne_ok
      · cases h
  next => cases h

/-- What stands behind two hyphens is no flag. -/
theorem afterEscape_fit {args : List Bytes} {more : Option (Command × List Bytes)}
    (fit : p.given.Fit) (h : afterEscape part p args = .ok (q, more)) : q.given.Fit := by
  cases args with
  | nil => cases h; exact fit
  | cons arg rest =>
    rw [afterEscape] at h
    split at h <;> cases h

/-- The value of the flag before it is looked at later, and the flags given so far stay. -/
theorem scan_fit {args : List Bytes} {more : Option (Command × List Bytes)}
    (fit : p.given.Fit) (h : scan part p args = .ok (q, more)) : q.given.Fit := by
  induction args generalizing p with
  | nil =>
    rw [scan] at h
    cases h
    exact fit
  | cons arg rest ih =>
    have value (h : scan.scanValue part p arg rest = .ok (q, more)) : q.given.Fit := by
      rw [scan.scanValue] at h
      split at h
      next f _ => exact ih (p := { p with pending := some (f, some arg) }) fit h
      next => cases h
    rw [scan.eq_def] at h
    dsimp only at h
    split at h
    · cases h
    · cases h
      exact fit
    split at h
    next a b long =>
      split at h
      · split at h
        · exact afterEscape_fit fit h
        split at h
        · cases h
        next read => exact ih (readLong_fit fit read) h
      split at h
      · split at h
        · cases h
        next read => exact ih (readShort_fit fit read) h
      · exact value h
    next => exact value h

/-- What was read before the last value is settled is read as it is settled. -/
theorem settle_of_map {α : Type} {g : Progress → α} {a : α} (h : p.settle.map g = .ok a) :
    ∃ q, p.settle = .ok q ∧ g q = a := by
  cases settled : p.settle with
  | error =>
    rw [settled] at h
    cases h
  | ok q =>
    rw [settled] at h
    exact ⟨q, rfl, Except.ok.inj h⟩

/-- Every flag that is read has a value that it can have. -/
theorem read_fit {args : List Bytes} {invocation : Invocation}
    (h : read args = .ok invocation) : invocation.flags.Fit := by
  have start : Progress.start.given.Fit := fun _ h => nomatch h
  rw [read] at h
  split at h
  next => cases h
  next p scanned =>
    obtain ⟨p', settled, rfl⟩ := settle_of_map h
    exact Progress.settle_fit (scan_fit start scanned) settled
  next p c rest scanned =>
    split at h
    next => cases h
    next q _ further =>
      split at h
      next => cases h
      next q settled =>
        obtain ⟨p', settled', rfl⟩ := settle_of_map h
        exact (Progress.settle_fit (scan_fit start further) settled).append
          (Progress.settle_fit (scan_fit start scanned) settled')

end Reading

/-! ## Command lines that spell out flags -/

/-- The argument that gives a flag a value. -/
def assignment (f : Flag) (value : Bytes) : Bytes :=
  hyphen :: hyphen :: (textBytes f.long ++ equals :: value)

/-- The command line that gives flags to a command. -/
def spelled (c : Command) (flags : Flags) : List Bytes :=
  textBytes c.word :: flags.map fun g => assignment g.1 g.2

/-- The name of a flag ends before the equals sign, and the value begins after it. -/
theorem split_long (f : Flag) (value : Bytes) :
    (textBytes f.long ++ equals :: value).takeWhile (· != equals) = textBytes f.long ∧
      attached (textBytes f.long ++ equals :: value) = some value := by
  have plain : ∀ b ∈ textBytes f.long, (b != equals) = true :=
    List.all_eq_true.1 (by cases f <;> rfl)
  refine ⟨?_, ?_⟩
  · rw [List.takeWhile_append_of_pos plain]
    simp
  · rw [attached, List.dropWhile_append_of_pos plain]
    simp

/-- A flag is known by its name. -/
theorem find?_long (f : Flag) :
    (Flag.all.find? fun f' => textBytes f'.long == textBytes f.long) = some f := by
  cases f <;> decide

/-- Reading an argument that gives a flag a value does so. -/
theorem readLong_assignment (part : Part) (p : Progress) (f : Flag) (value : Bytes) :
    readLong part p (textBytes f.long ++ equals :: value) = p.take f (some value) := by
  obtain ⟨name, behind⟩ := split_long f value
  rw [readLong]
  simp only [name, behind, find?_long]

/-- After a command, an argument that gives a flag a value is taken for that. -/
theorem scan_assignment (c : Command) {p q : Progress} {f : Flag} {value : Bytes}
    (taken : p.take f (some value) = .ok q) (rest : List Bytes) :
    scan (.command c) p (assignment f value :: rest) = scan (.command c) q rest := by
  have noWord : (if p.awaiting.isNone then word? (.command c) (assignment f value) else none) =
      none := by
    split <;> rfl
  have nonempty : (textBytes f.long ++ equals :: value).isEmpty = false := by simp
  rw [scan.eq_def]
  simp only [noWord]
  simp only [assignment, nonempty, readLong_assignment, taken, and_self, if_true,
    Bool.false_eq_true, if_false]

/-- Flags are read one after the other. -/
theorem scan_assignments (c : Command) {flags : Flags} (fit : flags.Fit) (given : Flags)
    (once : ((given ++ flags).map Prod.fst).Nodup) :
    scan (.command c) ⟨given, none⟩ (flags.map fun g => assignment g.1 g.2) =
      .ok (⟨given ++ flags, none⟩, none) := by
  induction flags generalizing given with
  | nil =>
    rw [List.append_nil, List.map_nil, scan]
  | cons g rest ih =>
    obtain ⟨f, value⟩ := g
    obtain ⟨takes, fit⟩ := List.forall_mem_cons.1 fit
    have free : Flags.bytes? given f = none := by
      rw [Flags.bytes?_eq_none_iff]
      rw [List.map_append, List.nodup_append] at once
      exact fun h => once.2.2 f h f (by simp) rfl
    have taken : (⟨given, none⟩ : Progress).take f (some value) =
        .ok ⟨given ++ [(f, value)], none⟩ := by
      rw [Progress.take, Progress.settle]
      exact Progress.assign_eq_ok_iff.2 ⟨free, takes, rfl⟩
    have further := ih fit (given ++ [(f, value)]) (by simpa using once)
    rw [List.map_cons, scan_assignment c taken, further, List.append_assoc]
    rfl

/-- Any set of flags is read from the command line that gives it to a command. -/
theorem read_spelled (c : Command) {flags : Flags} (proper : flags.Proper) :
    read (spelled c flags) = .ok ⟨c, flags⟩ := by
  have word : word? .program (textBytes c.word) = some (.command c) := by cases c <;> rfl
  have scanned : scan .program .start (spelled c flags) =
      .ok (.start, some (c, flags.map fun g => assignment g.1 g.2)) := by
    rw [spelled, scan.eq_def]
    simp [Progress.start, Progress.awaiting, word]
  have further : scan (.command c) .start (flags.map fun g => assignment g.1 g.2) =
      .ok (⟨flags, none⟩, none) :=
    scan_assignments c proper.fit [] proper.once
  rw [read, scanned]
  simp only [further, Progress.settle]
  simp [Except.map, Progress.start]

end CommandLine

end MountKeys
