import MountKeys.Proofs.Api.CreateOrReplace

/-!
# What is sent comes back

An object goes to a server as JSON: its byte strings in base64, the texts of a ConfigMap escaped.
If a server holds that text as it was sent and answers with it, a client that reads the object is
given each of its values, byte for byte.

* `HoldsText` says of a server, whichever it is, that it holds the text of an object at a place.
* `call_get_held` is what a client is given then, as one value.
* `reads_back_exactly` says what the value is by the fields of the object, and for the objects of a
  key pair by the keys.  It does not matter there in which field the public key was put.
-/

namespace MountKeys

/-- A manifest at the version that it names is itself. -/
theorem Manifest.replacing_self (m : Manifest) : m.replacing m.metadata.version = m := by
  cases m <;> rfl

namespace Client

variable {σ : Type}

/-- The server behind `h` holds at `p` the text of `m`: it answers a request to read what is there
with a body that was sent to write `m`, unchanged. -/
structure HoldsText (h : Handler Request (fun _ => Reply) σ) (s : σ) (p : Place) (m : Manifest) :
    Prop where
  kind : p.kind = m.kind
  /-- The place can be asked for. -/
  named : p.name ≠ ""
  held : ∃ ns name version, ∃ q ∈ submission m ns name version, ∃ body status target,
    q.body = some body ∧ Request.target? (Request.objectPath p) = .ok target ∧
      isRefusal status = false ∧ (h ⟨.get, target, none⟩ s).1 = .answered status body

/-- Whichever request writes an object, its body is the text of it at some version. -/
theorem submission_body {m : Manifest} {ns name : String} {version : Option String} {q : Request}
    (sent : q ∈ submission m ns name version) {body : Bytes} (carried : q.body = some body) :
    ∃ version', body = bodyOf (m.replacing version').tree := by
  simp only [submission, List.mem_cons, List.not_mem_nil, or_false] at sent
  rcases sent with rfl | rfl | rfl
  · refine ⟨m.metadata.version, ?_⟩
    rw [Manifest.replacing_self]
    exact (Option.some.inj carried).symm
  · cases carried
  · exact ⟨version, (Option.some.inj carried).symm⟩

/-- What a client makes of the text of an object. -/
theorem receive_bodyOf (m : Manifest) {status : Nat} (fine : isRefusal status = false) :
    receive (Received.read? m.kind) (.answered status (bodyOf m.tree)) =
      .ok ⟨m.metadata.name.getD "", m.metadata.ns.getD "", m.metadata.version, none,
        m.contents⟩ := by
  rw [← Received.ofJson_tree]
  exact receive_reply fine m.storable_tree.read?

/-- What a client is given where the text of an object is held. -/
theorem call_get_held {h : Handler Request (fun _ => Reply) σ} {s : σ} {p : Place} {m : Manifest}
    (holds : HoldsText h s p m) :
    ((call (.get p)).run h s).value =
      .ok (some ⟨m.metadata.name.getD "", m.metadata.ns.getD "", m.contents, none⟩) := by
  obtain ⟨kind, named, ns, name, version, q, sent, body, status, target, carried, spelled, fine,
    answered⟩ := holds
  obtain ⟨version', rfl⟩ := submission_body sent carried
  have received := receive_bodyOf (m.replacing version') fine
  rw [call, read, exchangeNamed, if_neg (by simpa using named), exchange, spelled]
  simp only [Dialogue.bind_eq, Dialogue.pure_eq, Dialogue.send_bind, Dialogue.ask_bind,
    Dialogue.done_bind, Dialogue.run_ask, Dialogue.run_done, answered, kind]
  rw [← Manifest.replacing_kind m version', received, Manifest.replacing_metadata,
    Manifest.replacing_contents]
  rfl

/-- A client that reads an object whose text is held as it was sent is given its values: those of
the fields, and for an object of a key pair the keys. -/
theorem reads_back_exactly {h : Handler Request (fun _ => Reply) σ} {s : σ} {p : Place}
    {m : Manifest} (holds : HoldsText h s p m) :
    ∃ data : ByteMap,
      ((call (.get p)).run h s).value =
          .ok (some ⟨m.metadata.name.getD "", m.metadata.ns.getD "", data, none⟩) ∧
        (∀ k, data.get? k = m.valueAt k) ∧
        ∀ (keys : KeyPair) (names : Names),
          ((((Desired.render keys names).configMap.data.bind
                (·.get? publicKeyEntry)).isSome = true ↔
              keys.publicKey.toByteArray.IsValidUTF8) ∧
            (((Desired.render keys names).configMap.binaryData.bind
                (·.get? publicKeyEntry)).isSome = true ↔
              ¬keys.publicKey.toByteArray.IsValidUTF8)) ∧
            ∀ kind, m = (Desired.render keys names).object kind → data = keys.valuesOf kind := by
  refine ⟨m.contents, call_get_held holds, m.get?_contents, fun keys names => ⟨?_, ?_⟩⟩
  · exact Desired.render_configMap_fields keys names
  · rintro kind rfl
    exact Desired.render_contents keys names kind

/-! ## A text that needs escapes, and a key in both fields -/

/-- A server that answers every request with the text of an object. -/
def alwaysText (m : Manifest) : Handler Request (fun _ => Reply) Unit :=
  fun _ s => (.answered 200 (bodyOf m.tree), s)

theorem alwaysText_holdsText {m : Manifest} {p : Place} (kind : p.kind = m.kind)
    (named : p.name ≠ "") {target : String}
    (spelled : Request.target? (Request.objectPath p) = .ok target) :
    HoldsText (alwaysText m) () p m where
  kind := kind
  named := named
  held := ⟨"", "", none, _, List.mem_cons_self, _, 200, target, rfl, spelled, rfl, rfl⟩

/-- A ConfigMap with a text that has to be escaped and a key that stands in both fields. -/
def crowdedConfigMap : Manifest :=
  .configMap ⟨⟨some "keys", some "default", ∅, none⟩,
    some (.ofList [("both", "text"), ("text", "\"\\\n\u0001é")]),
    some (.ofList [("both", [0xFF, 0x00]), ("bytes", [])])⟩

theorem reads_back_exactly_crowded :
    HoldsText (alwaysText crowdedConfigMap) () ⟨"default", .configMap, "keys"⟩ crowdedConfigMap ∧
      ∃ data : ByteMap,
        ((call (.get ⟨"default", .configMap, "keys"⟩)).run (alwaysText crowdedConfigMap) ()).value =
            .ok (some ⟨"keys", "default", data, none⟩) ∧
          data.get? "both" = some [0xFF, 0x00] ∧ data.get? "bytes" = some [] ∧
          data.get? "text" = some [0x22, 0x5C, 0x0A, 0x01, 0xC3, 0xA9] := by
  have holds : HoldsText (alwaysText crowdedConfigMap) () ⟨"default", .configMap, "keys"⟩
      crowdedConfigMap :=
    alwaysText_holdsText rfl (by decide)
      (rfl : _ = Except.ok "/api/v1/namespaces/default/configmaps/keys")
  obtain ⟨data, read, values, -⟩ := reads_back_exactly holds
  refine ⟨holds, data, read, ?_, ?_, ?_⟩
  · rw [values]; rfl
  · rw [values]; rfl
  · rw [values]; rfl

end Client

end MountKeys
