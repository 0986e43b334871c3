import MountKeys.Proofs.Api.Answer
import MountKeys.Proofs.Dialogue

/-!
# A client and the server that it talks to

Each call on the cluster, put as requests to a server, has one outcome: `call_namespaceExists`,
`call_createNamespace`, `call_apply` and `call_get` say what it returns and what the server holds
after it, and the lemmas beside them say what it is where something is missing or taken.  For plain
names the requests reach what they are meant for, what is sent is read by the server as it was, and
what the server answers is read by the client as it was, if it can be read as an object of its kind.

Whoever answers, a client logs only that it sends an object (`call_logs`), and what it asks for is
known from the call (`apply_asks` and the lemmas before it).
-/

namespace MountKeys

namespace Client

/-! ## Requests -/

section Requests

variable {α : Type} {method : Method} {path : String} {body : Option Bytes}
  {read? : List Char → Option α}

/-- To send a request to a path that is its own target is one question. -/
theorem exchange_eq (target : Request.target? path = .ok path) :
    exchange method path body read? =
      .ask ⟨method, path, body⟩ fun answer => .done (receive read? answer) := by
  rw [exchange, target]
  rfl

theorem exchangeNamed_eq (target : Request.target? path = .ok path) {name : String}
    (nonempty : name ≠ "") :
    exchangeNamed method path name body read? =
      .ask ⟨method, path, body⟩ fun answer => .done (receive read? answer) := by
  rw [exchangeNamed, if_neg (by simpa using nonempty), exchange_eq target]

end Requests

/-! ## Calls about the namespace -/

variable {s : Server} {ns name : String}

/-- The server tells whether it has a namespace. -/
theorem call_namespaceExists (plain : Names.IsPlain ns) (s : Server) :
    Server.answer.through call (.namespaceExists ns) s =
      (.ok (s.namespaces.contains ns), s) := by
  have target := (Request.spells_namespace plain).target? (by simp)
  have run : (call (.namespaceExists ns)).run Server.answer s =
      let answer := Server.answer ⟨.get, Request.namespacePath ns, none⟩ s
      ⟨(optional (receive readNamespace? answer.1)).map Option.isSome, [],
        [⟨.get, Request.namespacePath ns, none⟩], answer.2⟩ := by
    rw [call, exchangeNamed_eq target plain.nonempty]
    rfl
  have answer : Server.answer ⟨.get, Request.namespacePath ns, none⟩ s =
      if s.namespaces.contains ns then (Server.reply 200 (Server.namespaceJson ns), s)
      else (Server.notFound "namespaces" ns, s) := by
    simp only [Server.answer, Server.ofTarget?_namespace plain]
  cases present : s.namespaces.contains ns with
  | true =>
    have read : receive readNamespace? (Server.reply 200 (Server.namespaceJson ns)) = .ok () := by
      refine receive_reply rfl ?_
      rw [readNamespace?, isNamespace, Json.parse_print rfl]
      rfl
    rw [present, if_pos rfl] at answer
    rw [Handler.through, run, answer]
    dsimp only
    rw [read]
    rfl
  | false =>
    obtain ⟨message, missing⟩ := receive_notFound readNamespace? "namespaces" ns
    rw [present, if_neg (by decide)] at answer
    rw [Handler.through, run, answer]
    dsimp only
    rw [missing]
    rfl

/-- What the server answers to the creation of a namespace. -/
theorem answer_createNamespace (s : Server) (ns : String) :
    Server.answer ⟨.post, Request.namespacesPath ++ Request.writerQuery,
        some (bodyOf (namespaceTree ns))⟩ s =
      if s.namespaces.contains ns then (Server.alreadyExists "namespaces" ns, s)
      else (.answered 201 (bodyOf (namespaceTree ns)), s.addNamespace ns) := by
  have name : (Server.metadataText "name" (namespaceTree ns).toJson).getD "" = ns := rfl
  simp only [Server.answer, Server.ofTarget?_namespaces, Server.postNamespace, bodyOf_tree, name,
    Option.getD_some]

/-- A server that does not have a namespace takes it. -/
theorem call_createNamespace (absent : s.namespaces.contains ns = false) :
    Server.answer.through call (.createNamespace ns) s = (.ok (), s.addNamespace ns) := by
  have target := Request.spells_namespaces.target?_writer (by decide)
  have answer := answer_createNamespace s ns
  have read : receive readNamespace? (.answered 201 (bodyOf (namespaceTree ns))) = .ok () := by
    refine receive_reply (j := (namespaceTree ns).toJson) (rfl : isRefusal 201 = false) ?_
    rw [readNamespace?, isNamespace, Json.parse_print (Tree.toJson_isProper _)]
    rfl
  rw [absent, if_neg Bool.false_ne_true] at answer
  rw [Handler.through, call, exchange_eq target, Dialogue.run_ask, answer]
  simp only [Dialogue.run_done, read]

/-- A server that has a namespace does not create it once more. -/
theorem call_createNamespace_taken (present : s.namespaces.contains ns = true) :
    ∃ message, Server.answer.through call (.createNamespace ns) s =
      (.error (.rejected 409 "AlreadyExists" message), s) := by
  have target := Request.spells_namespaces.target?_writer (by decide)
  have answer := answer_createNamespace s ns
  obtain ⟨message, refused⟩ := receive_alreadyExists readNamespace? "namespaces" ns
  rw [present, if_pos rfl] at answer
  refine ⟨message, ?_⟩
  rw [Handler.through, call, exchange_eq target, Dialogue.run_ask, answer]
  simp only [Dialogue.run_done, refused]

/-! ## Calls about objects -/

section Objects

variable (plain : Names.IsPlain ns)
include plain

/-- To create an object is one request. -/
theorem create_eq (m : Manifest) :
    create m ns =
      .ask (createRequest m ns) fun answer => .done (receive (Received.read? m.kind) answer) := by
  have target := (Request.spells_collection plain m.kind).target?_writer (by simp)
  exact exchange_eq target

variable (plain' : Names.IsPlain name)
include plain'

/-- To read an object is one request. -/
theorem read_eq (kind : Kind) :
    read ⟨ns, kind, name⟩ =
      .ask (readRequest ⟨ns, kind, name⟩) fun answer =>
        .done (receive (Received.read? kind) answer) := by
  have target := (Request.spells_object plain kind plain').target? (by simp)
  exact exchangeNamed_eq target plain'.nonempty

/-- To replace an object is one request. -/
theorem replace_eq (m : Manifest) :
    replace m ⟨ns, m.kind, name⟩ =
      .ask (replaceRequest m ⟨ns, m.kind, name⟩) fun answer =>
        .done (receive (Received.read? m.kind) answer) := by
  have target := (Request.spells_object plain m.kind plain').target?_writer (by simp)
  exact exchangeNamed_eq target plain'.nonempty

/-- To replace an object at its version is two requests, the second one at the version that the
first one found. -/
theorem replaceCurrent_eq (m : Manifest) :
    replaceCurrent m ⟨ns, m.kind, name⟩ =
      .ask (readRequest ⟨ns, m.kind, name⟩) fun found =>
        match receive (Received.read? m.kind) found with
        | .error e => .done (.error e)
        | .ok current =>
          .ask (replaceRequest (m.replacing current.version) ⟨ns, m.kind, name⟩) fun answer =>
            .done ((receive (Received.read? m.kind) answer).map fun _ => ()) := by
  rw [replaceCurrent, read_eq plain plain', Dialogue.bind_eq, Dialogue.ask_bind]
  congr 1
  funext found
  rw [Dialogue.done_bind]
  cases receive (Received.read? m.kind) found with
  | error e => rfl
  | ok current =>
    have replacing := replace_eq plain plain' (m.replacing current.version)
    rw [Manifest.replacing_kind] at replacing
    simp only [replacing, Dialogue.bind_eq, Dialogue.ask_bind, Dialogue.done_bind]
    congr 1
    funext answer
    cases receive (Received.read? m.kind) answer <;> rfl

/-- To apply an object is to create it, or to replace it if that is refused because it is there. -/
theorem apply_eq {m : Manifest} {labels : SortedMap String String} {sent : Option String}
    (metadata : m.metadata = ⟨some name, some ns, labels, sent⟩) :
    apply m =
      .note (.creating m.kind name) (.ask (createRequest m ns) fun created =>
        match receive (Received.read? m.kind) created with
        | .ok _ => .done (.ok ())
        | .error e =>
          if e.isAlreadyExists then
            .note (.replacing m.kind name) (.ask (readRequest ⟨ns, m.kind, name⟩) fun found =>
              match receive (Received.read? m.kind) found with
              | .error e => .done (.error e)
              | .ok current =>
                .ask (replaceRequest (m.replacing current.version) ⟨ns, m.kind, name⟩)
                  fun answer =>
                    .done ((receive (Received.read? m.kind) answer).map fun _ => ()))
          else .done (.error e)) := by
  rw [apply, metadata]
  simp only [create_eq plain m, replaceCurrent_eq plain plain' m, Dialogue.bind_eq,
    Dialogue.log_bind, Dialogue.ask_bind, Dialogue.done_bind]
  rfl

end Objects

section Reads

/-- What a client makes of what the server holds at a place. -/
def shown (s : Server) (p : Place) : Except ClusterError (Option Stored) :=
  match s.objects.get? p with
  | none => .ok none
  | some j =>
    match Received.read? p.kind j.print with
    | some received => .ok (some received.stored)
    | none => .error (.transport "Error deserializing response")

/-- Only a place that is readable shows something else than an error. -/
theorem readable_of_shown (proper : s.Proper) {p : Place} {found : Option Stored}
    (h : shown s p = .ok found) : s.Readable p := by
  intro j hj
  rw [shown, hj] at h
  dsimp only at h
  cases read : Received.read? p.kind j.print with
  | none =>
    rw [read] at h
    exact nomatch h
  | some received => exact .of_read? (proper p j hj) read

/-- What is at a readable place shows. -/
theorem shown_of_readable {p : Place} (readable : s.Readable p) {j : Json}
    (h : s.objects.get? p = some j) : shown s p = .ok (some (Received.ofJson p.kind j).stored) := by
  simp only [shown, h, (readable j h).read?]

theorem shown_of_absent {p : Place} (h : s.objects.get? p = none) : shown s p = .ok none := by
  rw [shown, h]

/-- The client is given what shows. -/
theorem call_get (plain : Names.IsPlain ns) (kind : Kind) (plain' : Names.IsPlain name)
    (s : Server) :
    Server.answer.through call (.get ⟨ns, kind, name⟩) s = (shown s ⟨ns, kind, name⟩, s) := by
  rw [Handler.through, call, read_eq plain plain' kind, Dialogue.bind_eq, Dialogue.ask_bind,
    Dialogue.run_ask, Server.answer_read plain s kind plain', shown]
  cases there : s.objects.get? ⟨ns, kind, name⟩ with
  | none =>
    obtain ⟨message, missing⟩ := receive_notFound (Received.read? kind) kind.plural name
    dsimp only [Dialogue.done_bind]
    rw [missing]
    rfl
  | some j =>
    dsimp only [Dialogue.done_bind]
    cases read : Received.read? kind j.print with
    | none =>
      rw [receive_unreadable rfl read]
      rfl
    | some received =>
      rw [receive_reply rfl read]
      rfl

end Reads

section Writes

variable {m : Manifest} {labels : SortedMap String String} (plain : Names.IsPlain ns)
  (metadata : m.metadata = ⟨some name, some ns, labels, none⟩) (plain' : Names.IsPlain name)
include plain metadata plain'

/-- A manifest is held after it was applied, whatever was at its place before. -/
theorem call_apply (readable : s.Readable m.place)
    (present : s.namespaces.contains ns = true) :
    Server.answer.through call (.apply m) s = (.ok (), s.applied m) := by
  have here := Manifest.place_eq metadata
  have unsent : m.replacing none = m := Manifest.replacing_none (by rw [metadata])
  have creating := Server.create_cases plain metadata s none
  rw [unsent] at creating
  rw [Handler.through, call, apply_eq plain plain' metadata, Dialogue.run_note, Dialogue.run_ask]
  rcases creating with ⟨absent, -⟩ | ⟨-, ⟨j, there⟩, -, same, message, refused⟩ |
    ⟨-, -, -, state, received, value⟩
  · exact nomatch present.symm.trans absent
  · have found := Server.answer_read plain s m.kind plain'
    have current : receive (Received.read? m.kind) (Server.reply 200 j) =
        .ok (Received.ofJson m.kind j) := receive_reply rfl (readable j there).read?
    have exists_ : (ClusterError.rejected 409 "AlreadyExists" message).isAlreadyExists = true := rfl
    rw [← here, there] at found
    simp only [same, refused, exists_, if_true, Dialogue.run_note, Dialogue.run_ask, ← here, found,
      current]
    rcases Server.replace_cases plain metadata s plain' (Received.ofJson m.kind j).version with
      ⟨absent, -⟩ | ⟨k, hk, outdated, -⟩ | ⟨-, -, state, accepted⟩
    · exact nomatch there.symm.trans absent
    · obtain rfl := Option.some.inj (there.symm.trans hk)
      exact absurd rfl outdated
    · obtain ⟨received, value⟩ := accepted readable
      rw [Dialogue.run_done, value, state]
      rfl
  · rw [state, value]
    rfl

/-- A manifest is not applied where something stands that the client cannot read, for it would
replace that at its version. -/
theorem call_apply_unreadable (present : s.namespaces.contains ns = true) {j : Json}
    (there : s.objects.get? m.place = some j)
    (unreadable : Received.read? m.kind j.print = none) :
    Server.answer.through call (.apply m) s =
      (.error (.transport "Error deserializing response"), s) := by
  have here := Manifest.place_eq metadata
  have unsent : m.replacing none = m := Manifest.replacing_none (by rw [metadata])
  have creating := Server.create_cases plain metadata s none
  rw [unsent] at creating
  rcases creating with ⟨absent, -⟩ | ⟨-, -, -, same, message, refused⟩ | ⟨-, nothing, -⟩
  · exact nomatch present.symm.trans absent
  · have found := Server.answer_read plain s m.kind plain'
    have current := receive_unreadable (rfl : isRefusal 200 = false) unreadable
    have exists_ : (ClusterError.rejected 409 "AlreadyExists" message).isAlreadyExists = true := rfl
    rw [← here, there] at found
    rw [Handler.through, call, apply_eq plain plain' metadata]
    simp only [Dialogue.run_note, Dialogue.run_ask, same, refused, exists_, if_true, ← here, found,
      current]
    rfl
  · exact nomatch there.symm.trans nothing

/-- A manifest is refused where its namespace is not there. -/
theorem call_apply_homeless (absent : s.namespaces.contains ns = false) :
    ∃ message, Server.answer.through call (.apply m) s =
      (.error (.rejected 404 "NotFound" message), s) := by
  have unsent : m.replacing none = m := Manifest.replacing_none (by rw [metadata])
  have creating := Server.create_cases plain metadata s none
  rw [unsent] at creating
  rcases creating with ⟨-, -, same, message, refused⟩ | ⟨present, -⟩ | ⟨present, -⟩
  · refine ⟨message, ?_⟩
    rw [Handler.through, call, apply_eq plain plain' metadata, Dialogue.run_note, Dialogue.run_ask,
      same, refused]
    rfl
  · exact nomatch absent.symm.trans present
  · exact nomatch absent.symm.trans present

end Writes

/-! ## What a client logs and asks -/

/-- That a client sends an object. -/
def Announces (n : Notice) : Prop :=
  ∃ kind name, n = .creating kind name ∨ n = .replacing kind name

section Logs

variable {α : Type} {P : Notice → Prop} {method : Method} {path : String} {body : Option Bytes}
  {read? : List Char → Option α}

theorem exchange_logs : (exchange method path body read?).LogsOnly P := by
  rw [exchange]
  split
  · exact .done _
  · exact .ask fun _ => .done _

theorem exchangeNamed_logs {name : String} :
    (exchangeNamed method path name body read?).LogsOnly P := by
  rw [exchangeNamed]
  split
  · exact .done _
  · exact exchange_logs

theorem replaceCurrent_logs (m : Manifest) (p : Place) : (replaceCurrent m p).LogsOnly P := by
  refine .bind exchangeNamed_logs fun current => ?_
  split
  · exact .done _
  refine .bind exchangeNamed_logs fun replaced => ?_
  split <;> exact .done _

/-- A client logs no more about a call than that it sends an object. -/
theorem call_logs (c : Call) : (call c).LogsOnly Announces := by
  cases c with
  | namespaceExists ns => exact .bind exchangeNamed_logs fun _ => .done _
  | createNamespace ns =>
    rw [call]
    exact exchange_logs
  | get p => exact .bind exchangeNamed_logs fun _ => .done _
  | apply m =>
    rw [call, apply]
    split
    · exact .done _
    split
    · exact .done _
    simp only [Dialogue.bind_eq, Dialogue.log_bind]
    refine .note ⟨_, _, .inl rfl⟩ (.bind exchange_logs fun created => ?_)
    split
    · exact .done _
    split
    · exact .note ⟨_, _, .inr rfl⟩ (replaceCurrent_logs m _)
    · exact .done _

end Logs

/-! ## What a client asks -/

section Asks

variable {α : Type} {P : Request → Prop} {method : Method} {path name : String}
  {body : Option Bytes} {read? : List Char → Option α}

theorem exchange_asks (h : ∀ target, Request.target? path = .ok target → P ⟨method, target, body⟩) :
    (exchange method path body read?).AsksOnly P := by
  rw [exchange]
  split
  · exact .done _
  next target spelled => exact .ask (h target spelled) fun _ => .done _

theorem exchangeNamed_asks
    (h : ∀ target, Request.target? path = .ok target → P ⟨method, target, body⟩) :
    (exchangeNamed method path name body read?).AsksOnly P := by
  rw [exchangeNamed]
  split
  · exact .done _
  · exact exchange_asks h

theorem namespaceExists_asks (reading : ∀ target, P ⟨.get, target, none⟩) (ns : String) :
    (call (.namespaceExists ns)).AsksOnly P := by
  rw [call]
  exact .bind (exchangeNamed_asks fun target _ => reading target) fun _ => .done _

theorem get_asks (reading : ∀ target, P ⟨.get, target, none⟩) (p : Place) :
    (call (.get p)).AsksOnly P := by
  rw [call]
  exact .bind (exchangeNamed_asks fun target _ => reading target) fun _ => .done _

theorem createNamespace_asks {ns : String}
    (creating : P ⟨.post, Request.namespacesPath ++ Request.writerQuery,
      some (bodyOf (namespaceTree ns))⟩) : (call (.createNamespace ns)).AsksOnly P := by
  have spelled := Request.spells_namespaces.target?_writer (by decide)
  rw [call]
  generalize Request.namespacesPath ++ Request.writerQuery = path at spelled creating ⊢
  refine exchange_asks fun target h => ?_
  obtain rfl := Except.ok.inj (spelled.symm.trans h)
  exact creating

/-- To apply an object a client asks to create it, to read it, and to replace it at some version. -/
theorem apply_asks {m : Manifest} {ns : String} {labels : SortedMap String String}
    {sent : Option String} (metadata : m.metadata = ⟨some name, some ns, labels, sent⟩)
    (plain : Names.IsPlain ns) (plain' : Names.IsPlain name) (creating : P (createRequest m ns))
    (reading : P (readRequest ⟨ns, m.kind, name⟩))
    (replacing : ∀ version, P (replaceRequest (m.replacing version) ⟨ns, m.kind, name⟩)) :
    (apply m).AsksOnly P := by
  rw [apply_eq plain plain' metadata]
  refine .note (.ask creating fun created => ?_)
  split
  · exact .done _
  split
  · refine .note (.ask reading fun found => ?_)
    split
    · exact .done _
    · exact .ask (replacing _) fun _ => .done _
  · exact .done _

end Asks

end Client

end MountKeys
