import MountKeys.Api.Client
import MountKeys.Proofs.Api.Request
import MountKeys.Proofs.Api.Server

/-!
# What a server answers to a client

A client puts the writing of an object as three requests: to create it, to read the one that is
there, and to replace that one.  This module says what the server answers to each of them and what
it holds then, by one equation for each (`answer_create`, `answer_read`, `answer_replace`), and what
the client makes of such an answer (`receive_reply`, `receive_refuse`).

The manifest may name a version when it is sent.  The server sets its own, so it makes no difference
to what is held.
-/

namespace MountKeys

namespace Client

/-! ## The requests -/

/-- The request to create an object. -/
def createRequest (m : Manifest) (ns : String) : Request :=
  ⟨.post, Request.collectionPath ns m.kind ++ Request.writerQuery, some (bodyOf m.tree)⟩

/-- The request to read an object. -/
def readRequest (p : Place) : Request :=
  ⟨.get, Request.objectPath p, none⟩

/-- The request to replace an object. -/
def replaceRequest (m : Manifest) (p : Place) : Request :=
  ⟨.put, Request.objectPath p ++ Request.writerQuery, some (bodyOf m.tree)⟩

/-- A server reads the value that a client sends. -/
theorem bodyOf_tree (method : Method) (target : String) (t : Tree) :
    Server.bodyOf ⟨method, target, some (bodyOf t)⟩ = t.toJson := by
  rw [Server.bodyOf, bodyOf, Option.bind_some, Utf8.decode_encode]
  simp [Except.toOption, Json.parse_print t.toJson_isProper]

/-! ## What a client makes of an answer -/

end Client

/-- Whether the answer says that the request was carried out. -/
def Reply.isAccepted : Reply → Bool
  | .failed _ => false
  | .answered status _ => !Client.isRefusal status

namespace Client

section Receive

variable {α : Type} {read? : List Char → Option α} {j : Json}

/-- What a client makes of a value that is no refusal. -/
theorem receive_reply {status : Nat} (fine : isRefusal status = false) {a : α}
    (h : read? j.print = some a) : receive read? (Server.reply status j) = .ok a := by
  rw [Server.reply, receive, textOf, Utf8.decode_encode]
  simp only [fine, h]
  rfl

/-- What a client makes of a value that it cannot read. -/
theorem receive_unreadable {status : Nat} (fine : isRefusal status = false)
    (h : read? j.print = none) :
    receive read? (Server.reply status j) =
      .error (.transport "Error deserializing response") := by
  rw [Server.reply, receive, textOf, Utf8.decode_encode]
  simp only [fine, h]
  rfl

/-- A client that makes something of a value can read it. -/
theorem read?_of_receive {status : Nat} (fine : isRefusal status = false) {a : α}
    (h : receive read? (Server.reply status j) = .ok a) : read? j.print = some a := by
  cases hread : read? j.print with
  | none => exact nomatch (receive_unreadable fine hread).symm.trans h
  | some b => rw [Except.ok.inj ((receive_reply fine hread).symm.trans h)]

/-- What a client makes of a refusal. -/
theorem receive_refuse {code : Nat} (refused : isRefusal code = true)
    (known : code = 404 ∨ code = 409) (reason message : String) :
    receive read? (Server.refuse code reason message) =
      .error (.rejected code reason message) := by
  have proper : (Server.statusBody code reason message).isProper = true := by
    rcases known with rfl | rfl <;> rfl
  have error : errorBody? (Server.statusBody code reason message) =
      some (.rejected code reason message) := by
    rcases known with rfl | rfl <;> rfl
  rw [Server.refuse, Server.reply, receive, textOf, Utf8.decode_encode]
  simp only [refused, if_true]
  rw [refusal, Json.parse_print proper, Option.bind_some, error]

/-- A client makes an error of whatever says that the request was not carried out. -/
theorem receive_of_not_accepted (read? : List Char → Option α) {answer : Reply}
    (h : answer.isAccepted = false) :
    ∃ cause, receive read? answer = .error cause := by
  cases answer with
  | failed reason => exact ⟨_, rfl⟩
  | answered status body =>
    have refused : isRefusal status = true := by simpa [Reply.isAccepted] using h
    rw [receive]
    cases textOf body with
    | error e => exact ⟨e, rfl⟩
    | ok text => exact ⟨refusal status text, if_pos refused⟩

theorem receive_notFound (read? : List Char → Option α) (resource name : String) :
    ∃ message, receive read? (Server.notFound resource name) =
      .error (.rejected 404 "NotFound" message) :=
  ⟨_, receive_refuse rfl (.inl rfl) _ _⟩

theorem receive_alreadyExists (read? : List Char → Option α) (resource name : String) :
    ∃ message, receive read? (Server.alreadyExists resource name) =
      .error (.rejected 409 "AlreadyExists" message) :=
  ⟨_, receive_refuse rfl (.inr rfl) _ _⟩

end Receive

end Client

/-! ## What a server answers -/

/-- A manifest that says where it belongs stands at that place. -/
theorem Manifest.place_eq {m : Manifest} {ns name : String} {labels : SortedMap String String}
    (metadata : m.metadata = ⟨some name, some ns, labels, none⟩) :
    m.place = ⟨ns, m.kind, name⟩ := by
  rw [Manifest.place, metadata]
  rfl

namespace Server

variable {s : Server} {ns name : String} (plain : Names.IsPlain ns)
include plain

/-- An object is read as it is held. -/
theorem answer_read (s : Server) (kind : Kind) (plain' : Names.IsPlain name) :
    answer (Client.readRequest ⟨ns, kind, name⟩) s =
      match s.objects.get? ⟨ns, kind, name⟩ with
      | some j => (reply 200 j, s)
      | none => (notFound kind.plural name, s) := by
  cases there : s.objects.get? ⟨ns, kind, name⟩ <;>
    simp only [answer, Client.readRequest, ofTarget?_object plain kind plain', there]

variable {m : Manifest} {labels : SortedMap String String}
  (metadata : m.metadata = ⟨some name, some ns, labels, none⟩)
include metadata

/-- An object is created where its namespace is there and nothing stands at its place. -/
theorem answer_create (s : Server) (sent : Option String) :
    answer (Client.createRequest (m.replacing sent) ns) s =
      if s.namespaces.contains ns = false then (notFound "namespaces" ns, s)
      else if s.objects.contains m.place = true then (alreadyExists m.kind.plural name, s)
      else (reply 201 (m.held (s.version + 1) (s.createdAt m.place none).1), s.applied m) := by
  have written := write_manifest (s := s) metadata sent
  rw [Manifest.place_eq metadata] at written ⊢
  simp only [answer, Client.createRequest, Manifest.replacing_kind, ofTarget?_collection plain,
    postObject, Client.bodyOf_tree, metadataText_name, Manifest.replacing_metadata, metadata,
    Option.getD_some, written, Bool.not_eq_true']

/-- An object is replaced where there is one, and at the version that is named if one is. -/
theorem answer_replace (s : Server) (plain' : Names.IsPlain name) (sent : Option String) :
    answer (Client.replaceRequest (m.replacing sent) m.place) s =
      match s.objects.get? m.place with
      | none => (notFound m.kind.plural name, s)
      | some current =>
        if sent.isSome = true ∧ sent ≠ metadataText "resourceVersion" current then
          (refuse 409 "Conflict" "the object has been modified", s)
        else (reply 200 (m.held (s.version + 1) (s.createdAt m.place none).1), s.applied m) := by
  have written := write_manifest (s := s) metadata sent
  rw [Manifest.place_eq metadata] at written ⊢
  cases there : s.objects.get? ⟨ns, m.kind, name⟩ <;>
    simp only [answer, Client.replaceRequest, ofTarget?_object_writer plain m.kind plain',
      putObject, Client.bodyOf_tree, metadataText_version, Manifest.replacing_metadata, written,
      there, Bool.and_eq_true, bne_iff_ne]

/-! ## What comes of a request -/

/-- What comes of the request to create an object: it is created if its namespace is there and
nothing stands at its place. -/
theorem create_cases (s : Server) (sent : Option String) :
    let a := answer (Client.createRequest (m.replacing sent) ns) s
    let received := Client.receive (Received.read? m.kind) a.1
    (s.namespaces.contains ns = false ∧ a.1.isAccepted = false ∧ a.2 = s ∧
        ∃ message, received = .error (.rejected 404 "NotFound" message)) ∨
      (s.namespaces.contains ns = true ∧ (∃ j, s.objects.get? m.place = some j) ∧
        a.1.isAccepted = false ∧ a.2 = s ∧
        ∃ message, received = .error (.rejected 409 "AlreadyExists" message)) ∨
      (s.namespaces.contains ns = true ∧ s.objects.get? m.place = none ∧
        a.1.isAccepted = true ∧ a.2 = s.applied m ∧ ∃ r, received = .ok r) := by
  intro a received
  have hanswer : a = _ := answer_create plain metadata s sent
  cases present : s.namespaces.contains ns with
  | false =>
    rw [if_pos present] at hanswer
    refine .inl ⟨rfl, by rw [hanswer]; rfl, by rw [hanswer], ?_⟩
    show ∃ message, Client.receive _ a.1 = _
    rw [hanswer]
    exact Client.receive_notFound _ _ _
  | true =>
    rw [if_neg (by simp [present])] at hanswer
    cases there : s.objects.get? m.place with
    | some j =>
      rw [if_pos (by rw [SortedMap.contains, there]; rfl)] at hanswer
      refine .inr (.inl ⟨rfl, ⟨j, rfl⟩, by rw [hanswer]; rfl, by rw [hanswer], ?_⟩)
      show ∃ message, Client.receive _ a.1 = _
      rw [hanswer]
      exact Client.receive_alreadyExists _ _ _
    | none =>
      rw [if_neg (by rw [SortedMap.contains, there]; exact Bool.false_ne_true)] at hanswer
      have readable : s.Readable m.place := fun j hj => nomatch there.symm.trans hj
      have storable := held_storable metadata (s.version + 1) readable.createdAt
      refine .inr (.inr ⟨rfl, rfl, by rw [hanswer]; rfl, by rw [hanswer], ?_⟩)
      show ∃ r, Client.receive _ a.1 = _
      rw [hanswer]
      exact ⟨_, Client.receive_reply rfl storable.read?⟩

/-- What comes of the request to replace an object: it is replaced if it is there, and at the
version that is named if one is. -/
theorem replace_cases (s : Server) (plain' : Names.IsPlain name) (sent : Option String) :
    let a := answer (Client.replaceRequest (m.replacing sent) m.place) s
    let received := Client.receive (Received.read? m.kind) a.1
    (s.objects.get? m.place = none ∧ a.1.isAccepted = false ∧ a.2 = s ∧
        ∃ message, received = .error (.rejected 404 "NotFound" message)) ∨
      (∃ j, s.objects.get? m.place = some j ∧ sent ≠ metadataText "resourceVersion" j ∧
        a.1.isAccepted = false ∧ a.2 = s ∧
        ∃ message, received = .error (.rejected 409 "Conflict" message)) ∨
      ((∃ j, s.objects.get? m.place = some j) ∧ a.1.isAccepted = true ∧ a.2 = s.applied m ∧
        (s.Readable m.place → ∃ r, received = .ok r)) := by
  intro a received
  have hanswer : a = _ := answer_replace plain metadata s plain' sent
  cases there : s.objects.get? m.place with
  | none =>
    rw [there] at hanswer
    refine .inl ⟨rfl, by rw [hanswer]; rfl, by rw [hanswer], ?_⟩
    show ∃ message, Client.receive _ a.1 = _
    rw [hanswer]
    exact Client.receive_notFound _ _ _
  | some j =>
    simp only [there] at hanswer
    by_cases outdated : sent.isSome = true ∧ sent ≠ metadataText "resourceVersion" j
    · rw [if_pos outdated] at hanswer
      refine .inr (.inl ⟨j, rfl, outdated.2, by rw [hanswer]; rfl, by rw [hanswer], ?_⟩)
      show ∃ message, Client.receive _ a.1 = _
      rw [hanswer]
      exact ⟨_, Client.receive_refuse rfl (.inr rfl) _ _⟩
    · rw [if_neg outdated] at hanswer
      refine .inr (.inr ⟨⟨j, rfl⟩, by rw [hanswer]; rfl, by rw [hanswer], fun readable => ?_⟩)
      have storable := held_storable metadata (s.version + 1) readable.createdAt
      show ∃ r, Client.receive _ a.1 = _
      rw [hanswer]
      exact ⟨_, Client.receive_reply rfl storable.read?⟩

end Server

end MountKeys
