import Mathlib.Data.List.TakeWhile
import MountKeys.Proofs.Api.Writes

/-!
# Creating or replacing an object

What a client sends to apply an object, whatever the object says about itself and whatever is
answered: a request to create it, one to read the object that is there already, and one to replace
that at the version which was read.  `SubmitLaw` states when each of them is sent, what it carries
and what comes of it; `creates_or_replaces` shows that every client obeys it.

* `Request.wire` is what is sent of a request: a target ends before a number sign.
* `Client.Unsendable` says which requests are not sent at all.
* `Client.SubmitCourse` lists what applying an object can do.  The law is read off the list.
-/

namespace MountKeys

/-! ## What is sent of a request -/

namespace Request

/-- The request as it is sent: a number sign and what follows it stay behind. -/
def wire (q : Request) : Request :=
  { q with target := String.ofList (q.target.toList.takeWhile (· != '#')) }

/-- A target without a number sign is sent as it is. -/
theorem wire_eq_self {q : Request} (h : '#' ∉ q.target.toList) : q.wire = q := by
  have whole : q.target.toList.takeWhile (· != '#') = q.target.toList :=
    List.takeWhile_eq_self_iff.2 fun c hc => bne_iff_ne.2 fun same => h (same ▸ hc)
  rw [wire, whole, String.ofList_toList]

theorem query?_eq {cs ds : List Char} (h : query? cs = some ds) :
    ds = cs.takeWhile (· != '#') := by
  induction cs generalizing ds with
  | nil => exact (Option.some.inj h).symm
  | cons c rest ih =>
    rw [query?] at h
    split at h
    next mark => simp [mark, ← Option.some.inj h]
    next other =>
      split at h
      next =>
        obtain ⟨ds', read, rfl⟩ := Option.map_eq_some_iff.1 h
        simp [other, ← ih read]
      next => cases h

theorem pathAndQuery?_eq {cs ds : List Char} (h : pathAndQuery? cs = some ds) :
    ds = cs.takeWhile (· != '#') := by
  induction cs generalizing ds with
  | nil => exact (Option.some.inj h).symm
  | cons c rest ih =>
    rw [pathAndQuery?] at h
    split at h
    next mark => simp [mark, ← Option.some.inj h]
    next other =>
      split at h
      next =>
        obtain ⟨ds', read, rfl⟩ := Option.map_eq_some_iff.1 h
        simp [other, ← query?_eq read]
      next =>
        split at h
        next =>
          obtain ⟨ds', read, rfl⟩ := Option.map_eq_some_iff.1 h
          simp [other, ← ih read]
        next => cases h

/-- A target that can be sent is sent up to a number sign. -/
theorem target?_eq {text target : String} (h : target? text = .ok target) :
    target = String.ofList (text.toList.takeWhile (· != '#')) := by
  rw [target?] at h
  split at h
  next => cases h
  next =>
    split at h
    next cs read => rw [← Except.ok.inj h, pathAndQuery?_eq read]
    next => cases h

end Request

/-! ## What answers carry -/

/-- An object is there already if the code and the reason both say so. -/
theorem ClusterError.eq_alreadyExists {e : ClusterError} (h : e.isAlreadyExists = true) :
    ∃ message, e = .rejected 409 "AlreadyExists" message := by
  cases e with
  | rejected code reason message =>
    obtain ⟨rfl, rfl⟩ : code = 409 ∧ reason = "AlreadyExists" := by
      simpa [isAlreadyExists] using h
    exact ⟨message, rfl⟩
  | transport text => exact nomatch h
  | invalidObject text => exact nomatch h

/-- The answer is no refusal and carries an object of the kind. -/
def Reply.Carries (kind : Kind) (answer : Reply) (j : Json) : Prop :=
  ∃ status text, answer = .answered status (Utf8.encode text) ∧
    Client.isRefusal status = false ∧ Json.parse text = some j ∧
      Json.fits (Schema.keyObject kind) j = true

/-- What is taken out of a text, and out of which. -/
theorem Received.read?_eq_some_iff {kind : Kind} {text : List Char} {r : Received} :
    Received.read? kind text = some r ↔
      ∃ j, Json.parse text = some j ∧ Json.fits (Schema.keyObject kind) j = true ∧
        r = .ofJson kind j := by
  rw [Received.read?]
  cases Json.parse text with
  | none => simp
  | some j =>
    simp only [Option.some.injEq, exists_eq_left']
    split
    next fits => simp [fits, eq_comm]
    next misfit => simp [misfit]

namespace Client

/-- A client makes something of an answer that is no refusal and whose text it can read, and of no
other. -/
theorem receive_eq_ok_iff {α : Type} {read? : List Char → Option α} {answer : Reply} {a : α} :
    receive read? answer = .ok a ↔
      ∃ status text, answer = .answered status (Utf8.encode text) ∧ isRefusal status = false ∧
        read? text = some a := by
  constructor
  · intro h
    cases answer with
    | failed reason => cases h
    | answered status body =>
      rw [receive, textOf] at h
      cases decoded : Utf8.decode body with
      | error fault =>
        rw [decoded] at h
        cases h
      | ok text =>
        rw [decoded] at h
        dsimp only at h
        split at h
        next => cases h
        next fine =>
          cases read : read? text with
          | none =>
            rw [read] at h
            cases h
          | some b =>
            rw [read] at h
            obtain rfl := Except.ok.inj h
            exact ⟨status, text, by rw [Utf8.decode_eq_ok_iff.1 decoded], by simpa using fine, read⟩
  · rintro ⟨status, text, rfl, fine, read⟩
    simp [receive, textOf, fine, read]

/-- A client takes an object out of an answer that carries it, and out of no other. -/
theorem receive_carried_iff {kind : Kind} {answer : Reply} {r : Received} :
    receive (Received.read? kind) answer = .ok r ↔
      ∃ j, answer.Carries kind j ∧ r = .ofJson kind j := by
  rw [receive_eq_ok_iff]
  constructor
  · rintro ⟨status, text, sent, fine, read⟩
    obtain ⟨j, parsed, fits, rfl⟩ := Received.read?_eq_some_iff.1 read
    exact ⟨j, ⟨status, text, sent, fine, parsed, fits⟩, rfl⟩
  · rintro ⟨j, ⟨status, text, sent, fine, parsed, fits⟩, rfl⟩
    exact ⟨status, text, sent, fine, Received.read?_eq_some_iff.2 ⟨j, parsed, fits, rfl⟩⟩

/-- An answer that is an error carries nothing. -/
theorem not_carries {kind : Kind} {answer : Reply} {e : ClusterError}
    (refused : receive (Received.read? kind) answer = .error e) (j : Json) :
    ¬answer.Carries kind j := fun carries =>
  nomatch refused.symm.trans (receive_carried_iff.2 ⟨j, carries, rfl⟩)

section Result

variable {α β : Type} {v : Except ClusterError α} {f : α → β} {e : ClusterError}

theorem map_eq_error_iff : v.map f = .error e ↔ v = .error e := by
  cases v <;> simp [Except.map]

theorem map_eq_ok_iff : v.map (fun _ => ()) = .ok () ↔ ∃ a, v = .ok a := by
  cases v <;> simp [Except.map]

end Result

/-! ## One request -/

/-- Why a request about an object of that name is not sent: the name is empty where it would stand
in the path, or the target is none. -/
inductive Unsendable (name : String) (q : Request) : Request.BadTarget → Prop
  | nameless (inner : q.method ≠ .post) (empty : name = "") : Unsendable name q .emptyName
  | misspelled {fault : Request.BadTarget} (named : q.method = .post ∨ name ≠ "")
    (bad : Request.target? q.target = .error fault) : Unsendable name q fault

/-- The turns and the result of one request about an object of that name. -/
inductive Puts {α : Type} (name : String) (q : Request) (read? : List Char → Option α) :
    List RequestTurn → Except ClusterError α → Prop
  | unsent {fault : Request.BadTarget} (unsendable : Unsendable name q fault) :
    Puts name q read? [] (.error (.transport fault.message))
  | sent (answer : Reply) : Puts name q read? [⟨q.wire, answer⟩] (receive read? answer)

namespace Puts

variable {α : Type} {name : String} {q : Request} {read? : List Char → Option α}
  {ts : List RequestTurn} {v : Except ClusterError α}

theorem asks (h : Puts name q read? ts v) : ts.map Sigma.fst <+: [q.wire] := by
  cases h with
  | unsent => exact List.nil_prefix
  | sent answer => exact List.prefix_rfl

theorem eq_wire (h : Puts name q read? ts v) {t : RequestTurn} (ht : t ∈ ts) : t.1 = q.wire :=
  List.mem_singleton.1 (h.asks.subset (List.mem_map_of_mem ht))

theorem length_le (h : Puts name q read? ts v) : ts.length ≤ 1 := by
  simpa using h.asks.length_le

/-- An answer that is an error is the last one, and the result. -/
theorem stops (h : Puts name q read? ts v) {init rest : List RequestTurn} {t : RequestTurn}
    (split : ts = init ++ t :: rest) {e : ClusterError} (refused : receive read? t.2 = .error e) :
    init = [] ∧ rest = [] ∧ v = .error e := by
  cases h with
  | unsent => exact absurd split.symm (by simp)
  | sent answer =>
    obtain ⟨rfl, rfl, rfl⟩ : init = [] ∧ t = ⟨q.wire, answer⟩ ∧ rest = [] := by
      simpa [List.append_eq_singleton_iff, and_assoc, eq_comm] using split.symm
    exact ⟨rfl, rfl, refused⟩

/-- What is not an error is an answer. -/
theorem succeeds (h : Puts name q read? ts v) {a : α} (done : v = .ok a) :
    ∃ answer, ts = [⟨q.wire, answer⟩] ∧ receive read? answer = .ok a := by
  cases h with
  | unsent => exact nomatch done
  | sent answer => exact ⟨answer, rfl, done⟩

/-- An error is an answer, or says why there is none. -/
theorem blames (h : Puts name q read? ts v) {e : ClusterError} (failed : v = .error e) :
    (∃ answer, ts = [⟨q.wire, answer⟩] ∧ receive read? answer = .error e) ∨
      (ts = [] ∧ ∃ fault, Unsendable name q fault ∧ e = .transport fault.message) := by
  cases h with
  | unsent unsendable => exact .inr ⟨rfl, _, unsendable, (Except.error.inj failed).symm⟩
  | sent answer => exact .inl ⟨answer, rfl, failed⟩

/-- A request that writes succeeds if its answer carries the object. -/
theorem ok_iff {kind : Kind} {v : Except ClusterError Received}
    (h : Puts name q (Received.read? kind) ts v) (writes : q.method ≠ .get) :
    (∃ r, v = .ok r) ↔ ∃ t ∈ ts, t.1.method ≠ .get ∧ ∃ j, t.2.Carries kind j := by
  cases h with
  | unsent => simp
  | sent answer =>
    simp only [receive_carried_iff, List.mem_singleton, exists_eq_left, Request.wire, writes, ne_eq,
      not_false_eq_true, true_and]
    exact ⟨fun ⟨_, j, carries, _⟩ => ⟨j, carries⟩, fun ⟨j, carries⟩ => ⟨_, j, carries, rfl⟩⟩

end Puts

section Puts

variable {α : Type} {method : Method} {path name : String} {body : Option Bytes}
  {read? : List Char → Option α} {ts : List RequestTurn} {notes : List Notice}
  {v : Except ClusterError α}

theorem exchange_puts (named : method = .post ∨ name ≠ "")
    (h : (exchange method path body read?).Ends ts notes v) :
    Puts name ⟨method, path, body⟩ read? ts v := by
  rw [exchange] at h
  split at h
  next fault bad =>
    obtain ⟨rfl, -, rfl⟩ := Dialogue.done_ends.1 h
    exact .unsent (.misspelled named bad)
  next target spelled =>
    obtain ⟨answer, rest, rfl, received⟩ := Dialogue.ask_ends.1 h
    obtain ⟨rfl, -, rfl⟩ := Dialogue.done_ends.1 received
    rw [Request.target?_eq spelled]
    exact .sent answer

theorem exchangeNamed_puts (inner : method ≠ .post)
    (h : (exchangeNamed method path name body read?).Ends ts notes v) :
    Puts name ⟨method, path, body⟩ read? ts v := by
  rw [exchangeNamed] at h
  split at h
  next empty =>
    obtain ⟨rfl, -, rfl⟩ := Dialogue.done_ends.1 h
    exact .unsent (.nameless inner (by simpa using empty))
  next named => exact exchange_puts (.inr (by simpa using named)) h

end Puts

/-! ## Applying an object -/

/-- The requests by which an object is applied, the last one at a version. -/
def submission (m : Manifest) (ns name : String) (version : Option String) : List Request :=
  [createRequest m ns, readRequest ⟨ns, m.kind, name⟩,
    replaceRequest (m.replacing version) ⟨ns, m.kind, name⟩]

/-- What a client can do to apply an object: one request comes after the other, and the last one
that it gets to decides. -/
inductive SubmitCourse (m : Manifest) (ns name : String) :
    List RequestTurn → Except ClusterError Unit → Prop
  | creating {ts : List RequestTurn} {v : Except ClusterError Received}
    (put : Puts name (createRequest m ns) (Received.read? m.kind) ts v)
    (last : ∀ e, v = .error e → e.isAlreadyExists = false) :
    SubmitCourse m ns name ts (v.map fun _ => ())
  | reading {made : Reply} {taken e : ClusterError} {ts : List RequestTurn}
    (refused : receive (Received.read? m.kind) made = .error taken)
    (exists_ : taken.isAlreadyExists = true)
    (put : Puts name (readRequest ⟨ns, m.kind, name⟩) (Received.read? m.kind) ts (.error e)) :
    SubmitCourse m ns name (⟨(createRequest m ns).wire, made⟩ :: ts) (.error e)
  | replacing {made found : Reply} {taken : ClusterError} {current : Received}
    {ts : List RequestTurn} {v : Except ClusterError Received}
    (refused : receive (Received.read? m.kind) made = .error taken)
    (exists_ : taken.isAlreadyExists = true)
    (read : receive (Received.read? m.kind) found = .ok current)
    (put : Puts name (replaceRequest (m.replacing current.version) ⟨ns, m.kind, name⟩)
      (Received.read? m.kind) ts v) :
    SubmitCourse m ns name
      (⟨(createRequest m ns).wire, made⟩ :: ⟨(readRequest ⟨ns, m.kind, name⟩).wire, found⟩ :: ts)
      (v.map fun _ => ())

section Course

variable {m : Manifest} {ns name : String} {ts : List RequestTurn} {notes : List Notice}
  {v : Except ClusterError Unit}

/-- The turns in which a client replaces the object that is there, and what comes of it. -/
theorem replaceCurrent_course {made : Reply} {taken : ClusterError}
    (refused : receive (Received.read? m.kind) made = .error taken)
    (exists_ : taken.isAlreadyExists = true)
    (h : (replaceCurrent m ⟨ns, m.kind, name⟩).Ends ts notes v) :
    SubmitCourse m ns name (⟨(createRequest m ns).wire, made⟩ :: ts) v := by
  obtain ⟨ts₁, notes₁, found, ts₂, notes₂, hread, hrest, rfl, rfl⟩ := Dialogue.bind_ends.1 h
  have put : Puts name (readRequest ⟨ns, m.kind, name⟩) (Received.read? m.kind) ts₁ found :=
    exchangeNamed_puts (by decide) hread
  cases found with
  | error e =>
    obtain ⟨rfl, -, rfl⟩ := Dialogue.done_ends.1 hrest
    rw [List.append_nil]
    exact .reading refused exists_ put
  | ok current =>
    obtain ⟨ts₃, notes₃, replaced, ts₄, notes₄, hreplace, hdone, rfl, rfl⟩ :=
      Dialogue.bind_ends.1 hrest
    have put' : Puts name (replaceRequest (m.replacing current.version) ⟨ns, m.kind, name⟩)
        (Received.read? m.kind) ts₃ replaced := by
      have replacing := exchangeNamed_puts (by decide) hreplace
      rwa [Manifest.replacing_kind] at replacing
    obtain ⟨answer, rfl, read⟩ := put.succeeds rfl
    have last : ts₄ = [] ∧ replaced.map (fun _ => ()) = v := by
      cases replaced <;> exact ⟨(Dialogue.done_ends.1 hdone).1, (Dialogue.done_ends.1 hdone).2.2⟩
    obtain ⟨rfl, rfl⟩ := last
    rw [List.append_nil]
    exact .replacing refused exists_ read put'

/-- The turns in which a client applies an object that says where it belongs, and what comes of
it. -/
theorem submit_course (hns : m.metadata.ns = some ns) (hname : m.metadata.name = some name)
    (h : (apply m).Ends ts notes v) : SubmitCourse m ns name ts v := by
  simp only [apply, hns, hname, Dialogue.bind_eq, Dialogue.log_bind, Dialogue.note_ends] at h
  obtain ⟨notes, rfl, h⟩ := h
  obtain ⟨ts₁, notes₁, made, ts₂, notes₂, hcreate, hrest, rfl, rfl⟩ := Dialogue.bind_ends.1 h
  have put : Puts name (createRequest m ns) (Received.read? m.kind) ts₁ made :=
    exchange_puts (.inl rfl) hcreate
  cases made with
  | ok r =>
    obtain ⟨rfl, -, rfl⟩ := Dialogue.done_ends.1 hrest
    rw [List.append_nil]
    exact .creating put nofun
  | error taken =>
    dsimp only at hrest
    split at hrest
    next exists_ =>
      obtain ⟨notes₃, rfl, hreplace⟩ := Dialogue.note_ends.1 hrest
      rcases put.blames rfl with ⟨answer, rfl, refused⟩ | ⟨rfl, fault, -, rfl⟩
      · exact replaceCurrent_course refused exists_ hreplace
      · exact nomatch exists_
    next other =>
      obtain ⟨rfl, -, rfl⟩ := Dialogue.done_ends.1 hrest
      rw [List.append_nil]
      exact .creating put fun e same => by simpa [← Except.error.inj same] using other

end Course

end Client

/-! ## At another version -/

/-- The object at a version, or at none; nothing else of it is changed. -/
def Json.withVersion (version : Option String) (j : Json) : Json :=
  j.setField "metadata" (.object (((metadataFields j).filter fun f => f.1 != "resourceVersion") ++
    field "resourceVersion" (version.map .text)))

/-- What is sent to replace a version is what is sent otherwise, at that version. -/
theorem Manifest.replacing_toJson (m : Manifest) (version : Option String) :
    (m.replacing version).tree.toJson = m.tree.toJson.withVersion version := by
  cases m with
  | secret s =>
    obtain ⟨⟨name, ns, labels, sent⟩, type, data⟩ := s
    cases data <;> cases name <;> cases ns <;> cases sent <;> cases version <;> rfl
  | configMap c =>
    obtain ⟨⟨name, ns, labels, sent⟩, data, binaryData⟩ := c
    cases data <;> cases binaryData <;> cases name <;> cases ns <;> cases sent <;>
      cases version <;> rfl

namespace Client

/-- What is sent to replace an object is what was sent to create it, at another version. -/
theorem bodyOf_replaceRequest (m : Manifest) (ns : String) (version : Option String) (p : Place) :
    Server.bodyOf (replaceRequest (m.replacing version) p).wire =
      (Server.bodyOf (createRequest m ns).wire).withVersion version := by
  have replaced : Server.bodyOf (replaceRequest (m.replacing version) p).wire =
      (m.replacing version).tree.toJson := bodyOf_tree _ _ _
  have created : Server.bodyOf (createRequest m ns).wire = m.tree.toJson := bodyOf_tree _ _ _
  rw [replaced, created, Manifest.replacing_toJson]

/-! ## What applying an object obeys -/

/-- The requests about names without a number sign are sent as they are. -/
theorem submission_wire {ns name : String} (hns : '#' ∉ ns.toList) (hname : '#' ∉ name.toList)
    (m : Manifest) (version : Option String) :
    (submission m ns name version).map Request.wire = submission m ns name version := by
  have api : '#' ∉ Request.namespacesPath.toList := by decide
  have writer : '#' ∉ Request.writerQuery.toList := by decide
  have kind : '#' ∉ m.kind.plural.toList := by cases m.kind <;> decide
  have slash : '#' ∉ "/".toList := by decide
  have create : '#' ∉ (createRequest m ns).target.toList := by
    simp [createRequest, Request.collectionPath, Request.namespacePath, *]
  have read : '#' ∉ (readRequest ⟨ns, m.kind, name⟩).target.toList := by
    simp [readRequest, Request.objectPath, Request.collectionPath, Request.namespacePath, *]
  have replace : '#' ∉
      (replaceRequest (m.replacing version) ⟨ns, m.kind, name⟩).target.toList := by
    simp [replaceRequest, Request.objectPath, Request.collectionPath, Request.namespacePath, *]
  simp only [submission, List.map_cons, List.map_nil, Request.wire_eq_self create,
    Request.wire_eq_self read, Request.wire_eq_self replace]

/-- What the turns in which a client applies an object obey, and the result of it. -/
structure SubmitLaw (m : Manifest) (ns name : String) (ts : List RequestTurn)
    (value : Except ClusterError Unit) : Prop where
  /-- Nothing is sent but the submission, in order, at one version. -/
  planned : ∃ version, ts.map Sigma.fst <+: (submission m ns name version).map Request.wire
  /-- Names without a number sign stand in the targets as they are. -/
  literal : '#' ∉ ns.toList → '#' ∉ name.toList →
    ∃ version, ts.map Sigma.fst <+: submission m ns name version
  /-- The object that is there is read only after the creation was refused because it is. -/
  reads : ∀ made found rest, ts = made :: found :: rest →
    ∃ message, receive (Received.read? m.kind) made.2 =
      .error (.rejected 409 "AlreadyExists" message)
  /-- It is replaced only after it was read, at the version that was read, by what was sent to
  create it. -/
  replaces : ∀ made found replaced rest, ts = made :: found :: replaced :: rest →
    ∃ j, found.2.Carries m.kind j ∧
      let version := Received.metadataText "resourceVersion" j
      replaced.1 = (replaceRequest (m.replacing version) ⟨ns, m.kind, name⟩).wire ∧
        Server.bodyOf replaced.1 = (Server.bodyOf made.1).withVersion version
  /-- The object is applied if it was created or replaced, and otherwise it is not. -/
  ok_iff : value = .ok () ↔ ∃ t ∈ ts, t.1.method ≠ .get ∧ ∃ j, t.2.Carries m.kind j
  /-- Any other error ends it, and is the result. -/
  stops : ∀ init t rest, ts = init ++ t :: rest →
    ∀ e, receive (Received.read? m.kind) t.2 = .error e →
      (init = [] ∧ e.isAlreadyExists = true) ∨ (rest = [] ∧ value = .error e)
  /-- An error that is the result was answered last, and is not the one that is looked into, or it
  says why the next request is not sent. -/
  blames : ∀ e, value = .error e →
    (∃ init t, ts = init ++ [t] ∧ receive (Received.read? m.kind) t.2 = .error e ∧
        (init = [] → e.isAlreadyExists = false)) ∨
      ∃ version q fault, (submission m ns name version)[ts.length]? = some q ∧
        Unsendable name q fault ∧ e = .transport fault.message

namespace SubmitCourse

variable {m : Manifest} {ns name : String} {ts : List RequestTurn}
  {value : Except ClusterError Unit} (course : SubmitCourse m ns name ts value)
include course

theorem planned :
    ∃ version, ts.map Sigma.fst <+: (submission m ns name version).map Request.wire := by
  cases course with
  | creating put _ => exact ⟨none, put.asks.trans ⟨_, rfl⟩⟩
  | reading _ _ put =>
    exact ⟨none, List.cons_prefix_cons.2 ⟨rfl, put.asks.trans ⟨_, rfl⟩⟩⟩
  | replacing _ _ _ put =>
    exact ⟨_, List.cons_prefix_cons.2 ⟨rfl, List.cons_prefix_cons.2 ⟨rfl, put.asks⟩⟩⟩

theorem reads {made found : RequestTurn} {rest : List RequestTurn}
    (sent : ts = made :: found :: rest) :
    ∃ message, receive (Received.read? m.kind) made.2 =
      .error (.rejected 409 "AlreadyExists" message) := by
  cases course with
  | creating put _ => exact absurd (sent ▸ put.length_le) (by simp)
  | reading refused exists_ _ =>
    obtain ⟨rfl, -⟩ := List.cons.inj sent
    obtain ⟨message, rfl⟩ := ClusterError.eq_alreadyExists exists_
    exact ⟨message, refused⟩
  | replacing refused exists_ _ _ =>
    obtain ⟨rfl, -⟩ := List.cons.inj sent
    obtain ⟨message, rfl⟩ := ClusterError.eq_alreadyExists exists_
    exact ⟨message, refused⟩

theorem replaces {made found replaced : RequestTurn} {rest : List RequestTurn}
    (sent : ts = made :: found :: replaced :: rest) :
    ∃ j, found.2.Carries m.kind j ∧
      let version := Received.metadataText "resourceVersion" j
      replaced.1 = (replaceRequest (m.replacing version) ⟨ns, m.kind, name⟩).wire ∧
        Server.bodyOf replaced.1 = (Server.bodyOf made.1).withVersion version := by
  cases course with
  | creating put _ => exact absurd (sent ▸ put.length_le) (by simp)
  | reading refused exists_ put =>
    obtain ⟨-, rfl⟩ := List.cons.inj sent
    exact absurd put.length_le (by simp)
  | replacing refused exists_ read put =>
    simp only [List.cons.injEq] at sent
    obtain ⟨rfl, rfl, rfl⟩ := sent
    obtain ⟨j, carries, rfl⟩ := receive_carried_iff.1 read
    obtain ⟨same, -⟩ := List.cons_prefix_cons.1 put.asks
    refine ⟨j, carries, same, ?_⟩
    rw [same]
    exact bodyOf_replaceRequest m ns _ _

theorem ok_iff : value = .ok () ↔ ∃ t ∈ ts, t.1.method ≠ .get ∧ ∃ j, t.2.Carries m.kind j := by
  cases course with
  | creating put _ => exact map_eq_ok_iff.trans (put.ok_iff Method.noConfusion)
  | reading refused _ put =>
    refine ⟨nofun, ?_⟩
    rintro ⟨t, ht, writes, j, carries⟩
    rcases List.mem_cons.1 ht with rfl | ht
    · exact absurd carries (not_carries refused j)
    · exact absurd (congrArg Request.method (put.eq_wire ht)) writes
  | replacing refused _ _ put =>
    refine (map_eq_ok_iff.trans (put.ok_iff Method.noConfusion)).trans ⟨?_, ?_⟩
    · rintro ⟨t, ht, written⟩
      exact ⟨t, List.mem_cons_of_mem _ (List.mem_cons_of_mem _ ht), written⟩
    · rintro ⟨t, ht, writes, j, carries⟩
      rcases List.mem_cons.1 ht with rfl | ht
      · exact absurd carries (not_carries refused j)
      rcases List.mem_cons.1 ht with rfl | ht
      · exact absurd rfl writes
      · exact ⟨t, ht, writes, j, carries⟩

theorem stops {init rest : List RequestTurn} {t : RequestTurn} (split : ts = init ++ t :: rest)
    {e : ClusterError} (refused : receive (Received.read? m.kind) t.2 = .error e) :
    (init = [] ∧ e.isAlreadyExists = true) ∨ (rest = [] ∧ value = .error e) := by
  cases course with
  | creating put last =>
    obtain ⟨-, rfl, rfl⟩ := put.stops split refused
    exact .inr ⟨rfl, rfl⟩
  | reading taken exists_ put =>
    cases init with
    | nil =>
      obtain ⟨rfl, -⟩ := List.cons.inj split
      obtain rfl := Except.error.inj (taken.symm.trans refused)
      exact .inl ⟨rfl, exists_⟩
    | cons made init =>
      obtain ⟨-, rfl, same⟩ := put.stops (List.cons.inj split).2 refused
      exact .inr ⟨rfl, congrArg _ (Except.error.inj same)⟩
  | replacing taken exists_ read put =>
    match init with
    | [] =>
      obtain ⟨rfl, -⟩ := List.cons.inj split
      obtain rfl := Except.error.inj (taken.symm.trans refused)
      exact .inl ⟨rfl, exists_⟩
    | [made] =>
      simp only [List.cons_append, List.nil_append, List.cons.injEq] at split
      obtain ⟨-, rfl, -⟩ := split
      exact nomatch read.symm.trans refused
    | made :: found :: init =>
      simp only [List.cons_append, List.cons.injEq] at split
      obtain ⟨-, rfl, rfl⟩ := put.stops split.2.2 refused
      exact .inr ⟨rfl, rfl⟩

theorem blames {e : ClusterError} (failed : value = .error e) :
    (∃ init t, ts = init ++ [t] ∧ receive (Received.read? m.kind) t.2 = .error e ∧
        (init = [] → e.isAlreadyExists = false)) ∨
      ∃ version q fault, (submission m ns name version)[ts.length]? = some q ∧
        Unsendable name q fault ∧ e = .transport fault.message := by
  cases course with
  | creating put last =>
    have failed := map_eq_error_iff.1 failed
    rcases put.blames failed with ⟨answer, rfl, refused⟩ | ⟨rfl, fault, unsendable, same⟩
    · exact .inl ⟨[], _, rfl, refused, fun _ => last e failed⟩
    · exact .inr ⟨none, _, fault, rfl, unsendable, same⟩
  | reading _ _ put =>
    obtain rfl := Except.error.inj failed
    rcases put.blames rfl with ⟨answer, rfl, refused⟩ | ⟨rfl, fault, unsendable, same⟩
    · exact .inl ⟨[_], _, rfl, refused, nofun⟩
    · exact .inr ⟨none, _, fault, rfl, unsendable, same⟩
  | @replacing _ _ _ current _ _ _ _ _ put =>
    rcases put.blames (map_eq_error_iff.1 failed) with
      ⟨answer, rfl, refused⟩ | ⟨rfl, fault, unsendable, same⟩
    · exact .inl ⟨[_, _], _, rfl, refused, nofun⟩
    · exact .inr ⟨current.version, _, fault, rfl, unsendable, same⟩

end SubmitCourse

/-- To apply an object that does not say where it belongs is refused, with nothing sent.  To apply
another one creates it, or replaces what is there at its version, whatever is answered. -/
theorem creates_or_replaces {σ : Type} (h : Handler Request (fun _ => Reply) σ) (s : σ)
    (m : Manifest) :
    let r := (call (.apply m)).run h s
    let ts := (call (.apply m)).turns h s
    r.asked = ts.map Sigma.fst ∧ h.Gives s ts r.state ∧
      match m.metadata.ns, m.metadata.name with
      | none, _ =>
        ts = [] ∧ r.value = .error (.invalidObject s!"{m.kind.label} has no metadata.namespace")
      | some _, none =>
        ts = [] ∧ r.value = .error (.invalidObject s!"{m.kind.label} has no metadata.name")
      | some ns, some name => SubmitLaw m ns name ts r.value := by
  intro r ts
  refine ⟨Dialogue.run_asked h _ s, Handler.run_gives h _ s, ?_⟩
  have ends : (apply m).Ends ts r.notices r.value := Dialogue.run_ends h _ s
  cases hns : m.metadata.ns with
  | none =>
    simp only [apply, hns] at ends
    obtain ⟨nothing, -, same⟩ := Dialogue.done_ends.1 ends
    exact ⟨nothing, same.symm⟩
  | some ns =>
    cases hname : m.metadata.name with
    | none =>
      simp only [apply, hns, hname] at ends
      obtain ⟨nothing, -, same⟩ := Dialogue.done_ends.1 ends
      exact ⟨nothing, same.symm⟩
    | some name =>
      have course := submit_course hns hname ends
      obtain ⟨version, planned⟩ := course.planned
      exact {
        planned := ⟨version, planned⟩
        literal := fun hns hname => ⟨version, submission_wire hns hname m version ▸ planned⟩
        reads := fun _ _ _ => course.reads
        replaces := fun _ _ _ _ => course.replaces
        ok_iff := course.ok_iff
        stops := fun _ _ _ split _ => course.stops split
        blames := fun _ => course.blames }

end Client

end MountKeys
