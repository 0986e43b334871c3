import MountKeys.Proofs.Api.RoundTrip
import MountKeys.Proofs.Reconcile.Undisturbed

/-!
# When a run warns

Once both objects are written, a run reads them back and compares each with what it should hold.  A
difference is told and nothing else comes of it.  `drift_is_exact` says when there is one, for any
two objects that are there and any two that should be.

What an object should hold is put together from its fields in one place, and what it does hold is
read out of an answer of the server in another.  `IsExpected` ties the two: the map that a run
compares with has the values of the fields, and a client that reads the object as it was sent is
given that map.  So a public key that is no text makes no difference, although it is sent in another
field.
-/

namespace MountKeys.Reconcile

/-- The map is what an object should hold: by its fields, by the keys if it was rendered for a key
pair, and by what a client makes of its text. -/
structure IsExpected (desired : Desired) (kind : Kind) (expected : ByteMap) : Prop where
  fields : ∀ k, expected.get? k = (desired.object kind).valueAt k
  rendered : ∀ keys names, desired = .render keys names → expected = keys.valuesOf kind
  readBack : ∀ (τ : Type) (server : Handler Request (fun _ => Reply) τ) (t : τ) (p : Place),
    Client.HoldsText server t p (desired.object kind) →
      ∃ stored, ((Client.call (.get p)).run server t).value = .ok (some stored) ∧
        stored.data = expected

theorem isExpected_contents (desired : Desired) (kind : Kind) :
    IsExpected desired kind (desired.object kind).contents where
  fields := (desired.object kind).get?_contents
  rendered := by
    rintro keys names rfl
    exact Desired.render_contents keys names kind
  readBack _ _ _ _ holds := ⟨_, Client.call_get_held holds, rfl⟩

/-- The warning about an object of one kind is none about the other. -/
theorem filter_driftNotices (kind kind' : Kind) (stored : Stored) (expected : ByteMap) :
    (driftNotices kind' stored expected).filter (Notice.warnsOfDrift kind) =
      if kind' = kind then driftNotices kind' stored expected else [] := by
  rw [driftNotices]
  split
  · rw [List.filter_nil, ite_self]
  · by_cases same : kind' = kind <;> simp [Notice.warnsOfDrift, same]

variable {σ : Type}

/-- Objects that are there are returned as they are.  There is a warning about one of them, and
one only, exactly if it does not hold what it should. -/
theorem drift_is_exact {h : Handler Call Call.Answer σ} {s s' s'' : σ} {names : Names}
    {found : Kind → Stored}
    (secret : h (.get (names.place .secret)) s = (.ok (some (found .secret)), s'))
    (configMap : h (.get (names.place .configMap)) s' = (.ok (some (found .configMap)), s''))
    (desired : Desired) (applied : List Applied) :
    let r := (verify names desired applied).run h s
    r.value = .ok (found .secret, found .configMap) ∧
      r.asked = [.get (names.place .secret), .get (names.place .configMap)] ∧ r.state = s'' ∧
      ∀ kind, ∃ expected, IsExpected desired kind expected ∧
        r.notices.filter (Notice.warnsOfDrift kind) =
          if (found kind).data = expected then []
          else [.drifted kind (found kind).ns (found kind).name (found kind).data.keys] := by
  intro r
  have ran : r = _ := verify_run secret configMap desired applied
  rw [ran]
  refine ⟨rfl, rfl, rfl, fun kind => ⟨_, isExpected_contents desired kind, ?_⟩⟩
  rw [← driftNotices]
  cases kind <;> simp [filter_driftNotices, Notice.warnsOfDrift]

/-! ## A Secret that was replaced, and a public key that is no text -/

/-- A cluster that agrees to everything and gives every reader the same objects. -/
def showing (found : Kind → Stored) : Handler Call Call.Answer Unit
  | .namespaceExists _, s => (.ok true, s)
  | .createNamespace _, s => (.ok (), s)
  | .apply _, s => (.ok (), s)
  | .get p, s => (.ok (some (found p.kind)), s)

/-- Two objects of which only the ConfigMap is as it should be for the public key `FF`. -/
def replacedSecret : Kind → Stored
  | .secret => ⟨"backend-ssh-key", "swlabpods", .ofList [("other", [0x00])], none⟩
  | .configMap => ⟨"backend-public-key", "swlabpods", .ofList [("id_rsa.pub", [0xFF])], none⟩

theorem drift_is_exact_binary :
    let desired := Desired.render ⟨[0x01], [0xFF]⟩ .standard
    let r := (verify .standard desired []).run (showing replacedSecret) ()
    desired.configMap.data = none ∧
      r.value = .ok (replacedSecret .secret, replacedSecret .configMap) ∧
      r.notices.filter (Notice.warnsOfDrift .secret) =
        [.drifted .secret "swlabpods" "backend-ssh-key" ["other"]] ∧
      r.notices.filter (Notice.warnsOfDrift .configMap) = [] := by
  intro desired r
  obtain ⟨value, -, -, warns⟩ :=
    @drift_is_exact Unit (showing replacedSecret) () () () .standard replacedSecret rfl rfl desired []
  obtain ⟨_, expected, secret⟩ := warns .secret
  obtain ⟨_, expected', configMap⟩ := warns .configMap
  rw [expected.rendered ⟨[0x01], [0xFF]⟩ .standard rfl, if_neg (by decide)] at secret
  rw [expected'.rendered ⟨[0x01], [0xFF]⟩ .standard rfl, if_pos (by decide)] at configMap
  exact ⟨rfl, value, secret, configMap⟩

end MountKeys.Reconcile
