import MountKeys.Proofs.Reconcile.Converge
import MountKeys.Proofs.Reconcile.Frame

/-!
# Runs in either order

Two runs that write different objects can be held in either order: `order_free`.  The namespace may
be the same, and the Secret of one run may have the name of the ConfigMap of the other.  What is
left is the same but for versions and times, and so is what each run reports; if the namespace is
the same one, the run that comes first creates it.

* `ClusterView` is what such a comparison takes of a cluster, and leaves out.
* `Acts` says what a run does by nothing but what it finds at its own places.  It fails at an object
  that it cannot read, so what it finds there counts.
* Two runs that act so leave each other's places alone and read only their own (`Acts.orderFree`).
* A cluster in memory can always be read (`Store.acts`).  An API server may hold anything, and a
  run stops before the first object that it cannot read (`Server.acts`).
-/

namespace MountKeys

open Reconcile (written)

/-! ## What is left out -/

/-- An object without the time at which it was first stored. -/
def Stored.untimed (o : Stored) : Stored :=
  { o with created := none }

/-- The metadata of an object without what an API server sets anew. -/
def Json.unstampedMetadata : Json → Json
  | .object fs =>
    .object (fs.filter fun f => f.1 != "resourceVersion" && f.1 != "creationTimestamp")
  | j => j

/-- An object without its version and the time at which it was first stored. -/
def Json.unstamped : Json → Json
  | .object fs =>
    .object (fs.map fun f => if f.1 = "metadata" then (f.1, f.2.unstampedMetadata) else f)
  | j => j

/-- A report without times. -/
def Report.untimed (r : Report) : Report :=
  { r with secretCreated := none, configMapCreated := none }

/-- A report without times and, if another run shares the namespace, without who created it. -/
def Report.besides (shared : Bool) (r : Report) : Report :=
  { r.untimed with namespaceCreated := r.namespaceCreated && !shared }

/-- Without its version and its time the object that is held for a manifest is the manifest. -/
theorem Manifest.unstamped_held {m : Manifest} {ns name : String}
    {labels : SortedMap String String}
    (metadata : m.metadata = ⟨some name, some ns, labels, none⟩) (version : Nat)
    (created : String) : (m.held version created).unstamped = m.tree.toJson := by
  cases m with
  | secret s =>
    obtain ⟨md, type, data⟩ := s
    cases metadata
    cases data <;> rfl
  | configMap c =>
    obtain ⟨md, data, binaryData⟩ := c
    cases metadata
    cases data <;> cases binaryData <;> rfl

/-! ## Clusters as runs compare them -/

/-- What there is to see of a cluster when two runs over it are compared. -/
structure ClusterView (σ ν μ : Type) where
  /-- What a state of the cluster holds. -/
  holdings : σ → Holdings ν
  /-- Whether a client can read an object as one of a kind. -/
  reads : Kind → ν → Bool
  /-- An object without versions and times. -/
  bare : ν → μ

/-- A cluster in memory. -/
def Store.view : ClusterView Store Stored Stored :=
  ⟨Store.holdings, fun _ _ => true, Stored.untimed⟩

/-- An API server. -/
def Server.view : ClusterView Server Json Json :=
  ⟨Server.holdings, fun kind j => (Received.read? kind j.print).isSome, Json.unstamped⟩

namespace ClusterView

variable {σ ν μ : Type} (c : ClusterView σ ν μ)

/-- What is at a place. -/
def at? (s : σ) (p : Place) : Option ν :=
  (c.holdings s).objects.get? p

/-- Whether a client can read what is at a place, if anything is. -/
def legible (s : σ) (p : Place) : Bool :=
  (c.at? s p).all (c.reads p.kind)

/-- Whether a run comes to write its object of a kind: it can read what that takes the place of,
and came so far. -/
def writes (s : σ) (names : Names) : Kind → Bool
  | .secret => c.legible s (names.place .secret)
  | .configMap => c.legible s (names.place .secret) && c.legible s (names.place .configMap)

/-- What a run ends with, times aside. -/
def outcome (s : σ) (keys : KeyPair) (names : Names) : Except RunError Report :=
  let unreadable := ClusterError.transport "Error deserializing response"
  if !c.legible s (names.place .secret) then
    .error (.applyFailed .secret (names.place .secret).name [] unreadable)
  else if !c.legible s (names.place .configMap) then
    .error (.applyFailed .configMap (names.place .configMap).name [written names .secret]
      unreadable)
  else
    .ok ⟨names, !(c.holdings s).namespaces.contains names.ns, none, none, keys.fingerprint?⟩

section Legible

variable {c} {s : σ} {names : Names} (all : ∀ kind, c.legible s (names.place kind) = true)
include all

theorem outcome_of_legible (keys : KeyPair) :
    c.outcome s keys names =
      .ok ⟨names, !(c.holdings s).namespaces.contains names.ns, none, none, keys.fingerprint?⟩ := by
  rw [outcome, all, all]
  rfl

theorem writes_of_legible (kind : Kind) : c.writes s names kind = true := by
  cases kind <;> simp only [writes, all, Bool.and_self]

end Legible

end ClusterView

namespace Reconcile

variable {Ask σ ν μ : Type} {c : ClusterView σ ν μ}

/-! ## What a run does -/

/-- What a run ended with and left, by what it found at its own places. -/
structure Effect (c : ClusterView σ ν μ) (keys : KeyPair) (names : Names) (object : Kind → μ)
    (s : σ) (value : Except RunError Report) (s' : σ) : Prop where
  value : value.map Report.untimed = c.outcome s keys names
  namespaces : (c.holdings s').namespaces = (c.holdings s).namespaces.insert names.ns ()
  own (kind : Kind) : (c.at? s' (names.place kind)).map c.bare =
    if c.writes s names kind then some (object kind)
    else (c.at? s (names.place kind)).map c.bare
  others (p : Place) (other : ∀ kind, p ≠ names.place kind) : c.at? s' p = c.at? s p

/-- A run has such an effect on every cluster of some kind, and leaves one of that kind. -/
def Acts (c : ClusterView σ ν μ) (good : σ → Prop) (keys : KeyPair) (names : Names)
    (object : Kind → μ) (run : σ → Run Ask (Except RunError Report) σ) : Prop :=
  ∀ s, good s → Effect c keys names object s (run s).value (run s).state ∧ good (run s).state

/-- The order of two runs makes no difference: the namespaces are the same in the end, the objects
are so but for versions and times, and each run ends with the same error or with the same report,
but for times and for who created a namespace that they share. -/
structure OrderFree (c : ClusterView σ ν μ) (names names' : Names)
    (run run' : σ → Run Ask (Except RunError Report) σ) (s : σ) : Prop where
  namespaces : (c.holdings (run' (run s).state).state).namespaces =
    (c.holdings (run (run' s).state).state).namespaces
  objects (p : Place) : (c.at? (run' (run s).state).state p).map c.bare =
    (c.at? (run (run' s).state).state p).map c.bare
  value : (run s).value.map (Report.besides (names.ns == names'.ns)) =
    (run (run' s).state).value.map (Report.besides (names.ns == names'.ns))
  value' : (run' s).value.map (Report.besides (names.ns == names'.ns)) =
    (run' (run s).state).value.map (Report.besides (names.ns == names'.ns))
  /-- A run fails only where it cannot read what it is to replace. -/
  ends : (∀ kind, c.legible s (names.place kind) = true) → ∃ report, (run s).value = .ok report
  ends' : (∀ kind, c.legible s (names'.place kind) = true) → ∃ report, (run' s).value = .ok report

/-! ## Runs at different places -/

/-- If names stand for no object that others stand for, they have no place in common with them. -/
theorem place_ne {names names' : Names} (apart : ∀ kind, names.place kind ≠ names'.place kind)
    (kind kind' : Kind) : names.place kind ≠ names'.place kind' := by
  intro same
  have kinds := congrArg Place.kind same
  rw [Names.place_kind, Names.place_kind] at kinds
  subst kinds
  exact apart kind same

section SamePlaces

variable {keys : KeyPair} {names : Names} {s t : σ}
  (same : ∀ kind, c.at? t (names.place kind) = c.at? s (names.place kind))
include same

theorem legible_congr (kind : Kind) :
    c.legible t (names.place kind) = c.legible s (names.place kind) := by
  rw [ClusterView.legible, same, ClusterView.legible]

/-- Whether a run comes to write an object depends on its own places only. -/
theorem writes_congr (kind : Kind) : c.writes t names kind = c.writes s names kind := by
  cases kind <;> simp only [ClusterView.writes, legible_congr same]

/-- What a run ends with depends on its own places and its own namespace only. -/
theorem outcome_congr {shared : Bool}
    (found : shared = false → (c.holdings t).namespaces.contains names.ns =
      (c.holdings s).namespaces.contains names.ns) :
    (c.outcome t keys names).map (Report.besides shared) =
      (c.outcome s keys names).map (Report.besides shared) := by
  rw [ClusterView.outcome, ClusterView.outcome]
  simp only [legible_congr same]
  split
  · rfl
  split
  · rfl
  cases shared with
  | true => simp [Except.map, Report.besides, Report.untimed]
  | false => rw [found rfl]

end SamePlaces

/-- To leave out more than times. -/
theorem map_besides (shared : Bool) (v : Except RunError Report) :
    v.map (Report.besides shared) = (v.map Report.untimed).map (Report.besides shared) := by
  cases v <;> rfl

namespace Effect

variable {keys keys' : KeyPair} {names names' : Names} {object object' : Kind → μ}
  {s s₁ s₂ s₁₂ s₂₁ : σ} {v v' w w' : Except RunError Report}

/-- A run that finds all that it can read ends with a report. -/
theorem ends (effect : Effect c keys names object s v s₁)
    (legible : ∀ kind, c.legible s (names.place kind) = true) : ∃ report, v = .ok report := by
  have value := effect.value
  rw [ClusterView.outcome, legible, legible] at value
  cases v with
  | error e => exact nomatch value
  | ok report => exact ⟨report, rfl⟩

section InOrder

variable (apart : ∀ kind, names.place kind ≠ names'.place kind)
include apart

/-- A run leaves what is at the places of another one. -/
theorem keeps (effect : Effect c keys names object s v s₁) (kind : Kind) :
    c.at? s₁ (names'.place kind) = c.at? s (names'.place kind) :=
  effect.others _ fun kind' same => place_ne apart kind' kind same.symm

/-- A run ends as it does after another one. -/
theorem value_after (first : Effect c keys names object s v s₁)
    (second : Effect c keys' names' object' s w s₂)
    (later : Effect c keys' names' object' s₁ w' s₁₂) :
    w.map (Report.besides (names.ns == names'.ns)) =
      w'.map (Report.besides (names.ns == names'.ns)) := by
  rw [map_besides, second.value, map_besides _ w', later.value]
  refine (outcome_congr (first.keeps apart) fun unshared => ?_).symm
  have other : names'.ns ≠ names.ns := fun same => by simp [same] at unshared
  rw [first.namespaces, SortedMap.contains, SortedMap.get?_insert_of_ne _ _ other,
    SortedMap.contains]

/-- The objects of a run are in the end as they would be if it came second. -/
theorem own_after (first : Effect c keys names object s v s₁)
    (later : Effect c keys' names' object' s₁ w' s₁₂)
    (second : Effect c keys' names' object' s w s₂)
    (last : Effect c keys names object s₂ v' s₂₁) (kind : Kind) :
    (c.at? s₁₂ (names.place kind)).map c.bare = (c.at? s₂₁ (names.place kind)).map c.bare := by
  have apart' (kind : Kind) := (apart kind).symm
  rw [later.keeps apart', first.own, last.own, writes_congr (second.keeps apart'),
    second.keeps apart']

end InOrder

end Effect

/-- Two runs that do what their own places say can be held in either order. -/
theorem Acts.orderFree {good : σ → Prop} {keys keys' : KeyPair} {names names' : Names}
    {object object' : Kind → μ} {run run' : σ → Run Ask (Except RunError Report) σ}
    (acts : Acts c good keys names object run) (acts' : Acts c good keys' names' object' run')
    (apart : ∀ kind, names.place kind ≠ names'.place kind) {s : σ} (h : good s) :
    OrderFree c names names' run run' s := by
  obtain ⟨first, good₁⟩ := acts s h
  obtain ⟨second, good₂⟩ := acts' s h
  have later := (acts' _ good₁).1
  have last := (acts _ good₂).1
  have apart' (kind : Kind) := (apart kind).symm
  refine ⟨?_, fun p => ?_, ?_, first.value_after apart second later, first.ends, second.ends⟩
  · rw [later.namespaces, first.namespaces, last.namespaces, second.namespaces,
      SortedMap.insert_comm _ fun _ => rfl]
  · by_cases own : ∃ kind, p = names.place kind
    · obtain ⟨kind, rfl⟩ := own
      exact first.own_after apart later second last kind
    by_cases own' : ∃ kind, p = names'.place kind
    · obtain ⟨kind, rfl⟩ := own'
      exact (second.own_after apart' last first later kind).symm
    have other (kind : Kind) : p ≠ names.place kind := fun here => own ⟨kind, here⟩
    have other' (kind : Kind) : p ≠ names'.place kind := fun here => own' ⟨kind, here⟩
    rw [later.others p other', first.others p other, last.others p other, second.others p other']
  · rw [Bool.beq_comm]
    exact second.value_after apart' first last

end Reconcile

open Reconcile

/-! ## In memory -/

namespace Store

theorem withNamespace_namespaces (s : Store) (ns : String) :
    (s.withNamespace ns).namespaces = s.namespaces.insert ns () := by
  rw [withNamespace]
  split
  next present => exact (SortedMap.insert_contains present).symm
  next => rfl

theorem withNamespace_objects (s : Store) (ns : String) :
    (s.withNamespace ns).objects = s.objects := by
  rw [withNamespace]
  split <;> rfl

/-- All that a cluster in memory holds can be read. -/
theorem view_legible (s : Store) (p : Place) : view.legible s p = true := by
  cases view.at? s p <;> simp [ClusterView.legible, view]

/-- A run over a cluster in memory. -/
theorem acts {keys : KeyPair} {names : Names} (valid : names.check = .ok ()) :
    Acts view (fun _ => True) keys names (Desired.storedAt keys names fun _ => none)
      ((run keys names).run answer) := by
  intro s _
  have settled := settled_spec keys (s.withNamespace_contains names.ns)
  obtain ⟨between, serves⟩ := s.serves keys names settled
  obtain ⟨ends, state⟩ := serves.run valid
  have legible (kind : Kind) := s.view_legible (names.place kind)
  refine ⟨?_, trivial⟩
  rw [ends.value, state]
  constructor
  case value =>
    rw [ClusterView.outcome_of_legible legible]
    rfl
  case namespaces => exact s.withNamespace_namespaces names.ns
  case own =>
    intro kind
    rw [ClusterView.writes_of_legible legible, if_pos rfl]
    exact congrArg (Option.map Stored.untimed) (settled.object kind)
  case others =>
    intro p other
    show ((s.withNamespace names.ns).settled keys names).objects.get? p = s.objects.get? p
    rw [Store.settled, put_get?, put_get?, if_neg (other _), if_neg (other _),
      withNamespace_objects]

end Store

/-! ## At an API server -/

namespace Server

variable {s : Server} {keys : KeyPair} {names : Names}

theorem withNamespace_namespaces (s : Server) (ns : String) :
    (s.withNamespace ns).namespaces = s.namespaces.insert ns () := by
  rw [withNamespace]
  split
  next present => exact (SortedMap.insert_contains present).symm
  next => rfl

theorem withNamespace_objects (s : Server) (ns : String) :
    (s.withNamespace ns).objects = s.objects := by
  rw [withNamespace]
  split <;> rfl

theorem Proper.withNamespace (proper : s.Proper) (ns : String) : (s.withNamespace ns).Proper := by
  rw [Server.withNamespace]
  split
  · exact proper
  · exact proper

theorem view_legible (s : Server) (p : Place) :
    view.legible s p =
      (s.objects.get? p).all fun j => (Received.read? p.kind j.print).isSome := rfl

/-- What a client can read is an object of its kind. -/
theorem readable_of_legible (proper : s.Proper) {p : Place} (legible : view.legible s p = true) :
    s.Readable p := by
  intro j hj
  have reads : (Received.read? p.kind j.print).isSome = true := by
    rwa [view_legible, hj] at legible
  obtain ⟨received, read⟩ := Option.isSome_iff_exists.1 reads
  exact .of_read? (proper p j hj) read

/-- Where a client cannot read, something is. -/
theorem exists_of_not_legible {p : Place} (h : view.legible s p = false) :
    ∃ j, s.objects.get? p = some j ∧ Received.read? p.kind j.print = none := by
  rw [view_legible] at h
  cases there : s.objects.get? p with
  | none => simp [there] at h
  | some j => exact ⟨j, rfl, by simpa [there] using h⟩

/-- What an API server holds of what is rendered, but for versions and times. -/
def rendered (keys : KeyPair) (names : Names) (kind : Kind) : Json :=
  ((Desired.render keys names).object kind).tree.toJson

theorem unstamped_rendered (kind : Kind) (version : Nat) (created : String) :
    (((Desired.render keys names).object kind).held version created).unstamped =
      rendered keys names kind :=
  Manifest.unstamped_held (Desired.render_ofName keys names kind) version created

/-- What is at a place once a rendered object was written. -/
theorem applied_render_get? (s : Server) (kind : Kind) (p : Place) :
    (s.applied ((Desired.render keys names).object kind)).objects.get? p =
      if p = names.place kind then
        some (((Desired.render keys names).object kind).held (s.version + 1)
          (s.createdAt (names.place kind) none).1)
      else s.objects.get? p := by
  rw [applied_get?, Desired.render_place]

/-- A server that writes a rendered object where one can read holds JSON values. -/
theorem Proper.applied_render (proper : s.Proper) {kind : Kind}
    (readable : s.Readable (names.place kind)) :
    (s.applied ((Desired.render keys names).object kind)).Proper :=
  proper.applied (Desired.render_ofName keys names kind) (by rwa [Desired.render_place])

section Effects

variable (valid : names.check = .ok ()) (proper : s.Proper)
include valid

/-- A server does not take an object where the client cannot read what is there. -/
theorem call_apply_refused {kind : Kind} (keys : KeyPair)
    (present : s.namespaces.contains names.ns = true)
    (illegible : view.legible s (names.place kind) = false) :
    answer.through Client.call (.apply ((Desired.render keys names).object kind)) s =
      (.error (.transport "Error deserializing response"), s) := by
  obtain ⟨j, there, unreadable⟩ := exists_of_not_legible illegible
  exact Client.call_apply_unreadable (Names.check_plain valid).1
    (Desired.render_ofName keys names kind) (Names.place_plain valid kind) present
    (by rwa [Desired.render_place]) (by rwa [Desired.object_kind, ← Names.place_kind names kind])

include proper

/-- A run over a server where both places can be read. -/
theorem effect_of_legible (legible : ∀ kind, view.legible s (names.place kind) = true) :
    let r := (run keys names).run (answer.through Client.call) s
    Effect view keys names (rendered keys names) s r.value r.state ∧ r.state.Proper := by
  intro r
  have readable (kind : Kind) := readable_of_legible proper (legible kind)
  have settled := settled_spec keys (s.withNamespace_contains names.ns)
  obtain ⟨between, serves⟩ := Server.serves valid readable keys settled
  obtain ⟨ends, state⟩ := serves.run valid
  rw [ends.value, state]
  refine ⟨?_, ?_⟩
  · constructor
    case value =>
      rw [ClusterView.outcome_of_legible legible]
      rfl
    case namespaces => exact s.withNamespace_namespaces names.ns
    case own =>
      intro kind
      rw [ClusterView.writes_of_legible legible, if_pos rfl, ← unstamped_rendered kind]
      exact congrArg (Option.map Json.unstamped) (settled.object kind)
    case others =>
      intro p other
      show ((s.withNamespace names.ns).settled keys names).objects.get? p = s.objects.get? p
      rw [Server.settled, applied_render_get?, applied_render_get?, if_neg (other _),
        if_neg (other _), withNamespace_objects]
  · have first (kind : Kind) := (readable kind).withNamespace names.ns
    have between := (first .configMap).applied (Desired.render_ofName keys names .secret)
      (by rw [Desired.render_place]; exact first .secret)
    exact ((proper.withNamespace names.ns).applied_render (first .secret)).applied_render between

/-- A run over a server where the place of the Secret cannot be read. -/
theorem effect_of_illegible_secret (illegible : view.legible s (names.place .secret) = false) :
    let r := (run keys names).run (answer.through Client.call) s
    Effect view keys names (rendered keys names) s r.value r.state ∧ r.state.Proper := by
  intro r
  have present := s.withNamespace_contains names.ns
  have objects (p : Place) : view.at? (s.withNamespace names.ns) p = view.at? s p :=
    congrArg (SortedMap.get? · p) (s.withNamespace_objects names.ns)
  have refused := call_apply_refused valid keys present
    (by rwa [ClusterView.legible, objects] : _ = false)
  obtain ⟨value, state⟩ := run_refused_secret valid (houses valid s) refused
  rw [value, state]
  refine ⟨?_, proper.withNamespace names.ns⟩
  constructor
  case value =>
    rw [ClusterView.outcome, illegible]
    rfl
  case namespaces => exact s.withNamespace_namespaces names.ns
  case own =>
    intro kind
    have unwritten : view.writes s names kind = false := by
      cases kind <;> simp [ClusterView.writes, illegible]
    rw [unwritten, objects]
    rfl
  case others => exact fun p _ => objects p

/-- A run over a server where the place of the ConfigMap cannot be read, but that of the Secret
can. -/
theorem effect_of_illegible_configMap (legible : view.legible s (names.place .secret) = true)
    (illegible : view.legible s (names.place .configMap) = false) :
    let r := (run keys names).run (answer.through Client.call) s
    Effect view keys names (rendered keys names) s r.value r.state ∧ r.state.Proper := by
  intro r
  have present := s.withNamespace_contains names.ns
  have readable := (readable_of_legible proper legible).withNamespace names.ns
  have secret := call_apply_render valid readable keys present
  obtain ⟨between, written⟩ : ∃ t, t =
      (s.withNamespace names.ns).applied ((Desired.render keys names).object .secret) := ⟨_, rfl⟩
  rw [← written] at secret
  have objects (p : Place) (other : p ≠ names.place .secret) :
      view.at? between p = view.at? s p := by
    show between.objects.get? p = s.objects.get? p
    rw [written, applied_render_get?, if_neg other, withNamespace_objects]
  have apart : names.place .configMap ≠ names.place .secret := by simp [Names.place_inj]
  have refused := call_apply_refused valid keys (s := between) (by rw [written]; exact present)
    (by rwa [ClusterView.legible, objects _ apart])
  obtain ⟨value, state⟩ := run_refused_configMap valid (houses valid s) secret refused
  rw [value, state]
  refine ⟨?_, written ▸ (proper.withNamespace names.ns).applied_render readable⟩
  constructor
  case value =>
    rw [ClusterView.outcome, legible, illegible]
    rfl
  case namespaces => exact written ▸ s.withNamespace_namespaces names.ns
  case own =>
    intro kind
    cases kind with
    | secret =>
      show (between.objects.get? (names.place .secret)).map Json.unstamped = _
      rw [ClusterView.writes, legible, if_pos rfl, written, applied_render_get?, if_pos rfl,
        Option.map_some, unstamped_rendered]
    | configMap =>
      rw [ClusterView.writes, illegible, Bool.and_false, objects _ apart]
      rfl
  case others => exact fun p other => objects p (other .secret)

end Effects

/-- A run over an API server. -/
theorem acts (valid : names.check = .ok ()) (keys : KeyPair) :
    Acts view Proper keys names (rendered keys names)
      ((Client.session (run keys names)).run answer) := by
  intro s proper
  obtain ⟨value, state⟩ := Dialogue.expand_run Client.call answer (run keys names) s
  rw [Client.session, value, state]
  cases secret : view.legible s (names.place .secret) with
  | false => exact effect_of_illegible_secret valid proper secret
  | true =>
    cases configMap : view.legible s (names.place .configMap) with
    | false => exact effect_of_illegible_configMap valid proper secret configMap
    | true =>
      refine effect_of_legible valid proper fun kind => ?_
      cases kind with
      | secret => exact secret
      | configMap => exact configMap

end Server

namespace Reconcile

/-! ## Both clusters -/

/-- Two runs for valid names that stand for different objects can be held in either order, over any
cluster in memory and over any API server, whatever it holds. -/
theorem order_free {names names' : Names} (valid : names.check = .ok ())
    (valid' : names'.check = .ok ()) (apart : ∀ kind, names.place kind ≠ names'.place kind)
    (keys keys' : KeyPair) :
    (∀ s : Store, OrderFree Store.view names names' ((run keys names).run Store.answer)
      ((run keys' names').run Store.answer) s) ∧
    ∀ s : Server, s.Proper →
      OrderFree Server.view names names' ((Client.session (run keys names)).run Server.answer)
        ((Client.session (run keys' names')).run Server.answer) s :=
  ⟨fun _ => (Store.acts valid).orderFree (Store.acts valid') apart trivial,
    fun _ proper => (Server.acts valid keys).orderFree (Server.acts valid' keys') apart proper⟩

/-! ## Two runs whose names cross -/

/-- A server with a ConfigMap whose time of creation is none, so that it cannot be read. -/
def undatedServer : Server :=
  Server.empty.hold ⟨"n", .configMap, "c"⟩ ∅ ∅ (some "yesterday")

theorem undatedServer_proper : undatedServer.Proper := by
  intro p j h
  rw [undatedServer, Server.hold, Server.write_eq, SortedMap.get?_insert] at h
  split at h
  · rw [← Option.some.inj h]
    decide +kernel
  · exact nomatch h

/-- Of two runs in one namespace the Secret of each has the name of the ConfigMap of the other.  At
the server the first run cannot read what is there for its ConfigMap, and it fails in either
order. -/
theorem order_free_crossed :
    let names : Names := ⟨"n", "s", "c"⟩
    let names' : Names := ⟨"n", "c", "s"⟩
    let keys : KeyPair := ⟨[1], [2]⟩
    let keys' : KeyPair := ⟨[3], [255]⟩
    names.check = .ok () ∧ names'.check = .ok () ∧
      (∀ kind, names.place kind ≠ names'.place kind) ∧
      OrderFree Store.view names names' ((run keys names).run Store.answer)
        ((run keys' names').run Store.answer) .empty ∧
      undatedServer.Proper ∧
      Server.view.legible undatedServer (names.place .configMap) = false ∧
      OrderFree Server.view names names' ((Client.session (run keys names)).run Server.answer)
        ((Client.session (run keys' names')).run Server.answer) undatedServer := by
  intro names names' keys keys'
  have valid : Names.check ⟨"n", "s", "c"⟩ = .ok () := rfl
  have valid' : Names.check ⟨"n", "c", "s"⟩ = .ok () := rfl
  have apart (kind : Kind) : names.place kind ≠ names'.place kind := by cases kind <;> decide
  have ⟨memory, server⟩ := order_free valid valid' apart keys keys'
  exact ⟨valid, valid', apart, memory .empty, undatedServer_proper, by decide +kernel,
    server undatedServer undatedServer_proper⟩

end Reconcile

end MountKeys
