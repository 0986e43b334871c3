import MountKeys.Proofs.Api.Client

/-!
# Which requests write

Requests and answers tell which objects were written: `writesIn` lists them.  For a server that does
what it is asked this is all that changes (`Server.answer_written`, `Server.answer_unwritten`).

A handler that `AnswersOrFails` does what the server does, or gives an answer that says no and does
nothing.  So it may lose any request and forge any refusal.  `apply_writesOrFails` shows that a
client which applies an object through it still knows what it did: the object was written once and
as a whole, or nothing was, and the result says which.

* `Client.ApplyCourse` lists what applying an object can do, whoever answers.
* `Client.create_writesOrFails`, `Client.read_reads` and `Client.replace_writesOrFails` are its
  steps.
-/

namespace MountKeys

/-- A request with the answer that it got. -/
abbrev RequestTurn := Turn Request fun _ => Reply

/-! ## Requests that write -/

/-- The place whose object a request writes if it is carried out. -/
def Request.writes? (q : Request) : Option Place :=
  match q.method, Server.Route.ofTarget? q.target with
  | .post, some (.collection ns kind) =>
    some ⟨ns, kind, (Server.metadataText "name" (Server.bodyOf q)).getD ""⟩
  | .put, some (.object p) => some p
  | _, _ => none

/-- The place whose object was written in a turn, if one was. -/
def writtenIn? (t : RequestTurn) : Option Place :=
  if t.2.isAccepted then t.1.writes? else none

/-- The places whose objects were written in some turns, in order. -/
def writesIn (ts : List RequestTurn) : List Place :=
  ts.filterMap writtenIn?

@[simp] theorem writesIn_nil : writesIn [] = [] := rfl

theorem writesIn_append (ts ts' : List RequestTurn) :
    writesIn (ts ++ ts') = writesIn ts ++ writesIn ts' :=
  List.filterMap_append

theorem writesIn_cons (t : RequestTurn) (ts : List RequestTurn) :
    writesIn (t :: ts) = (writtenIn? t).toList ++ writesIn ts := by
  rw [writesIn, List.filterMap_cons]
  cases writtenIn? t <;> rfl

/-- A refusal writes nothing. -/
theorem writtenIn?_refused (q : Request) {answer : Reply} (h : answer.isAccepted = false) :
    writtenIn? ⟨q, answer⟩ = none := by
  rw [writtenIn?, if_neg (by simp [h])]

theorem writtenIn?_accepted (q : Request) {answer : Reply} (h : answer.isAccepted = true) :
    writtenIn? ⟨q, answer⟩ = q.writes? :=
  if_pos h

/-- A request that is not there to write does not. -/
theorem writtenIn?_idle {q : Request} (h : q.writes? = none) (answer : Reply) :
    writtenIn? ⟨q, answer⟩ = none := by
  rw [writtenIn?, h, ite_self]

/-- A request that reads is not there to write. -/
theorem Request.writes?_get (target : String) (body : Option Bytes) :
    Request.writes? ⟨.get, target, body⟩ = none := by
  rw [writes?]

namespace Server

/-- What a request does to the objects of a server: one of them is written, and there was one more
write, or nothing is. -/
theorem answer_effect {q : Request} {s s' : Server} {a : Reply} (h : answer q s = (a, s')) :
    (writtenIn? ⟨q, a⟩ = none ∧ s'.objects = s.objects ∧ s'.version = s.version) ∨
      ∃ p j, writtenIn? ⟨q, a⟩ = some p ∧ s'.objects = s.objects.insert p j ∧
        s'.version = s.version + 1 := by
  rw [answer] at h
  split at h
  next method route =>
    have idle : q.writes? = none := by rw [Request.writes?, method, route]
    rw [postNamespace] at h
    split at h <;> cases h <;> exact .inl ⟨writtenIn?_idle idle _, rfl, rfl⟩
  next ns kind method route =>
    rw [postObject] at h
    split at h
    · cases h
      exact .inl ⟨writtenIn?_refused _ rfl, rfl, rfl⟩
    split at h
    · cases h
      exact .inl ⟨writtenIn?_refused _ rfl, rfl, rfl⟩
    · cases h
      refine .inr ⟨_, _, ?_, rfl, rfl⟩
      rw [writtenIn?_accepted _ rfl, Request.writes?, method, route]
  next ns method route =>
    have idle : q.writes? = none := by rw [Request.writes?, method, route]
    split at h <;> cases h <;> exact .inl ⟨writtenIn?_idle idle _, rfl, rfl⟩
  next p method route =>
    have idle : q.writes? = none := by rw [Request.writes?, method, route]
    split at h <;> cases h <;> exact .inl ⟨writtenIn?_idle idle _, rfl, rfl⟩
  next p method route =>
    rw [putObject] at h
    split at h
    next =>
      cases h
      exact .inl ⟨writtenIn?_refused _ rfl, rfl, rfl⟩
    next current there =>
      dsimp only at h
      split at h
      · cases h
        exact .inl ⟨writtenIn?_refused _ rfl, rfl, rfl⟩
      · cases h
        refine .inr ⟨_, _, ?_, rfl, rfl⟩
        rw [writtenIn?_accepted _ rfl, Request.writes?, method, route]
  next =>
    cases h
    exact .inl ⟨writtenIn?_refused _ rfl, rfl, rfl⟩

end Server

/-! ## Servers behind faults -/

/-- The handler answers as the server `view` of what it remembers does, or with an answer that says
that the request was not carried out, and then it was not. -/
def Handler.AnswersOrFails {σ : Type} (h : Handler Request (fun _ => Reply) σ)
    (view : σ → Server) : Prop :=
  ∀ q s, ((h q s).1, view (h q s).2) = Server.answer q (view s) ∨
    ((h q s).1.isAccepted = false ∧ view (h q s).2 = view s)

/-- A server without faults answers. -/
theorem Server.answer_answersOrFails : Server.answer.AnswersOrFails id :=
  fun _ _ => .inl rfl

section Faults

variable {σ : Type} {h : Handler Request (fun _ => Reply) σ} {view : σ → Server}
  (good : h.AnswersOrFails view)
include good

/-- A turn in which nothing was written left all objects as they were. -/
theorem Handler.AnswersOrFails.of_unwritten {q : Request} {s : σ}
    (unwritten : writtenIn? ⟨q, (h q s).1⟩ = none) :
    (view (h q s).2).objects = (view s).objects := by
  rcases good q s with answered | ⟨-, same⟩
  · rcases Server.answer_effect answered.symm with ⟨-, objects, -⟩ | ⟨p, j, written, -⟩
    · exact objects
    · exact nomatch unwritten.symm.trans written
  · rw [same]

/-- A dialogue with no requests that write leaves all objects as they were. -/
theorem Dialogue.AsksOnly.unwritten {α : Type} {d : Exchange α}
    (hd : d.AsksOnly fun q => q.writes? = none) (s : σ) :
    writesIn (d.turns h s) = [] ∧ (view (d.run h s).state).objects = (view s).objects := by
  induction hd generalizing s with
  | done a => exact ⟨rfl, rfl⟩
  | note _ ih => exact ih s
  | @ask q next idle _ ih =>
    have unwritten := writtenIn?_idle idle (h q s).1
    have ⟨nothing, objects⟩ := ih (h q s).1 (h q s).2
    refine ⟨?_, objects.trans (good.of_unwritten unwritten)⟩
    rw [Dialogue.turns, writesIn_cons, unwritten]
    exact nothing

end Faults

namespace Client

/-! ## What applying an object can do -/

/-- The turns in which a client applies a manifest, sent with some version, and the result. -/
inductive ApplyCourse (m : Manifest) (ns : String) (sent : Option String) :
    List RequestTurn → Except ClusterError Unit → Prop
  | created {made : Reply} {r : Received}
    (created : receive (Received.read? m.kind) made = .ok r) :
    ApplyCourse m ns sent [⟨createRequest (m.replacing sent) ns, made⟩] (.ok ())
  | refused {made : Reply} {e : ClusterError}
    (refused : receive (Received.read? m.kind) made = .error e)
    (other : e.isAlreadyExists = false) :
    ApplyCourse m ns sent [⟨createRequest (m.replacing sent) ns, made⟩] (.error e)
  | unread {made found : Reply} {e e' : ClusterError}
    (refused : receive (Received.read? m.kind) made = .error e)
    (exists_ : e.isAlreadyExists = true)
    (unread : receive (Received.read? m.kind) found = .error e') :
    ApplyCourse m ns sent
      [⟨createRequest (m.replacing sent) ns, made⟩, ⟨readRequest m.place, found⟩] (.error e')
  | replacing {made found answer : Reply} {e : ClusterError} {current : Received}
    (refused : receive (Received.read? m.kind) made = .error e)
    (exists_ : e.isAlreadyExists = true)
    (read : receive (Received.read? m.kind) found = .ok current) :
    ApplyCourse m ns sent
      [⟨createRequest (m.replacing sent) ns, made⟩, ⟨readRequest m.place, found⟩,
        ⟨replaceRequest (m.replacing current.version) m.place, answer⟩]
      ((receive (Received.read? m.kind) answer).map fun _ => ())

theorem apply_course {m : Manifest} {ns name : String} {labels : SortedMap String String}
    (plain : Names.IsPlain ns) (metadata : m.metadata = ⟨some name, some ns, labels, none⟩)
    (plain' : Names.IsPlain name) {sent : Option String} {ts : List RequestTurn}
    {notes : List Notice} {v : Except ClusterError Unit}
    (h : (apply (m.replacing sent)).Ends ts notes v) : ApplyCourse m ns sent ts v := by
  have sends : (m.replacing sent).metadata = ⟨some name, some ns, labels, sent⟩ := by
    rw [Manifest.replacing_metadata, metadata]
  simp only [apply_eq plain plain' sends, Manifest.replacing_kind, Manifest.replacing_replacing,
    ← Manifest.place_eq metadata, Dialogue.note_ends] at h
  obtain ⟨notes, rfl, hcreate⟩ := h
  obtain ⟨made, ts, rfl, hmade⟩ := Dialogue.ask_ends.1 hcreate
  cases created : receive (Received.read? m.kind) made with
  | ok r =>
    rw [created] at hmade
    obtain ⟨rfl, rfl, rfl⟩ := Dialogue.done_ends.1 hmade
    exact .created created
  | error e =>
    rw [created] at hmade
    dsimp only at hmade
    split at hmade
    next exists_ =>
      obtain ⟨notes, rfl, hread⟩ := Dialogue.note_ends.1 hmade
      obtain ⟨found, ts, rfl, hfound⟩ := Dialogue.ask_ends.1 hread
      cases read : receive (Received.read? m.kind) found with
      | error e' =>
        rw [read] at hfound
        obtain ⟨rfl, rfl, rfl⟩ := Dialogue.done_ends.1 hfound
        exact .unread created exists_ read
      | ok current =>
        rw [read] at hfound
        obtain ⟨answer, ts, rfl, hanswer⟩ := Dialogue.ask_ends.1 hfound
        obtain ⟨rfl, rfl, rfl⟩ := Dialogue.done_ends.1 hanswer
        exact .replacing created exists_ read
    next other =>
      obtain ⟨rfl, rfl, rfl⟩ := Dialogue.done_ends.1 hmade
      exact .refused created (by simpa using other)

/-! ## Whether an object was written -/

/-- A result that says what was done.  Where it is no error, the manifest was written, once, at a
place where whatever stood could be read; otherwise nothing was. -/
def WritesOrFails {σ α : Type} (view : σ → Server) (m : Manifest) (s s' : σ)
    (ts : List RequestTurn) (result : Except ClusterError α) : Prop :=
  match result with
  | .ok _ =>
    writesIn ts = [m.place] ∧ view s' = (view s).applied m ∧ (view s).Readable m.place
  | .error _ => writesIn ts = [] ∧ view s' = view s

/-- A request to read an object is not there to write. -/
theorem readRequest_writes? (p : Place) : (readRequest p).writes? = none :=
  Request.writes?_get _ _

section Places

variable {m : Manifest} {ns name : String} {labels : SortedMap String String}
  (plain : Names.IsPlain ns) (metadata : m.metadata = ⟨some name, some ns, labels, none⟩)
include plain metadata

/-- A request to create an object writes where the manifest belongs. -/
theorem createRequest_writes? (sent : Option String) :
    (createRequest (m.replacing sent) ns).writes? = some m.place := by
  simp only [Request.writes?, createRequest, Server.ofTarget?_collection plain, bodyOf_tree,
    metadataText_name, Manifest.replacing_kind, Manifest.replacing_metadata, metadata,
    Manifest.place, Option.getD_some]

/-- A request to replace an object writes where it belongs. -/
theorem replaceRequest_writes? (plain' : Names.IsPlain name) (version : Option String) :
    (replaceRequest (m.replacing version) m.place).writes? = some m.place := by
  rw [Manifest.place_eq metadata]
  simp only [Request.writes?, replaceRequest, Server.ofTarget?_object_writer plain m.kind plain']

end Places

section Steps

variable {σ : Type} {h : Handler Request (fun _ => Reply) σ} {view : σ → Server}

/-- A request that was refused fails. -/
theorem WritesOrFails.of_refused {α : Type} {read? : List Char → Option α} {m : Manifest}
    {s s' : σ} (q : Request) {answer : Reply} (refused : answer.isAccepted = false)
    (same : view s' = view s) :
    WritesOrFails view m s s' [⟨q, answer⟩] (receive read? answer) := by
  obtain ⟨e, failed⟩ := receive_of_not_accepted read? refused
  rw [failed, WritesOrFails, writesIn_cons, writtenIn?_refused q refused]
  exact ⟨rfl, same⟩

/-- What a result carries along says nothing about what was done. -/
theorem WritesOrFails.map {α β : Type} {m : Manifest} {s s' : σ} {ts : List RequestTurn}
    {result : Except ClusterError α} (f : α → β) (h : WritesOrFails view m s s' ts result) :
    WritesOrFails view m s s' ts (result.map f) := by
  cases result <;> exact h

/-- What comes after turns that wrote nothing decides. -/
theorem WritesOrFails.after {α : Type} {m : Manifest} {s s₁ s' : σ} {ts ts' : List RequestTurn}
    {result : Except ClusterError α} (rest : WritesOrFails view m s₁ s' ts' result)
    (nothing : writesIn ts = []) (same : view s₁ = view s) :
    WritesOrFails view m s s' (ts ++ ts') result := by
  cases result <;> simpa only [WritesOrFails, writesIn_append, nothing, same, List.nil_append]
    using rest

variable (good : h.AnswersOrFails view) {m : Manifest} {ns name : String}
  {labels : SortedMap String String} (plain : Names.IsPlain ns)
  (metadata : m.metadata = ⟨some name, some ns, labels, none⟩) {s s' : σ} {answer : Reply}
include good plain metadata

/-- A request to create an object writes it or fails. -/
theorem create_writesOrFails {sent : Option String}
    (asked : h (createRequest (m.replacing sent) ns) s = (answer, s')) :
    WritesOrFails view m s s' [⟨createRequest (m.replacing sent) ns, answer⟩]
      (receive (Received.read? m.kind) answer) := by
  rcases good (createRequest (m.replacing sent) ns) s with answered | ⟨refused, same⟩
  · have creating := Server.create_cases plain metadata (view s) sent
    rw [← answered, asked] at creating
    rcases creating with ⟨-, refused, same, -⟩ | ⟨-, -, refused, same, -⟩ |
      ⟨-, absent, accepted, state, r, received⟩
    · exact .of_refused _ refused same
    · exact .of_refused _ refused same
    · have writes := createRequest_writes? plain metadata sent
      have readable : (view s).Readable m.place := fun j hj => nomatch absent.symm.trans hj
      rw [received, WritesOrFails, writesIn_cons, writtenIn?_accepted _ accepted, writes]
      exact ⟨rfl, state, readable⟩
  · rw [asked] at refused same
    exact .of_refused _ refused same

variable (plain' : Names.IsPlain name)
include plain'

/-- A request to read an object writes nothing.  If the client can read the answer, it can read what
stands there. -/
theorem read_reads (asked : h (readRequest m.place) s = (answer, s')) :
    writesIn [⟨readRequest m.place, answer⟩] = [] ∧ view s' = view s ∧
      ((view s).Proper → (∃ r, receive (Received.read? m.kind) answer = .ok r) →
        (view s).Readable m.place) := by
  refine ⟨by rw [writesIn_cons, writtenIn?_idle (readRequest_writes? _)]; rfl, ?_⟩
  rcases good (readRequest m.place) s with answered | ⟨refused, same⟩
  · have reading := Server.answer_read plain (view s) m.kind plain'
    rw [← Manifest.place_eq metadata, ← answered, asked] at reading
    cases there : (view s).objects.get? m.place with
    | none =>
      rw [there] at reading
      refine ⟨congrArg Prod.snd reading, fun _ _ j hj => ?_⟩
      exact nomatch there.symm.trans hj
    | some j =>
      rw [there] at reading
      refine ⟨congrArg Prod.snd reading, fun proper ⟨r, received⟩ k hk => ?_⟩
      obtain rfl := Option.some.inj (there.symm.trans hk)
      obtain rfl : answer = Server.reply 200 j := congrArg Prod.fst reading
      exact .of_read? (proper _ j there) (read?_of_receive rfl received)
  · rw [asked] at refused same
    refine ⟨same, fun _ ⟨r, received⟩ => ?_⟩
    obtain ⟨e, failed⟩ := receive_of_not_accepted (Received.read? m.kind) refused
    exact nomatch failed.symm.trans received

/-- A request to replace an object that can be read writes it or fails. -/
theorem replace_writesOrFails {sent : Option String} (readable : (view s).Readable m.place)
    (asked : h (replaceRequest (m.replacing sent) m.place) s = (answer, s')) :
    WritesOrFails view m s s' [⟨replaceRequest (m.replacing sent) m.place, answer⟩]
      (receive (Received.read? m.kind) answer) := by
  rcases good (replaceRequest (m.replacing sent) m.place) s with answered | ⟨refused, same⟩
  · have replacing := Server.replace_cases plain metadata (view s) plain' sent
    rw [← answered, asked] at replacing
    rcases replacing with ⟨-, refused, same, -⟩ | ⟨j, -, -, refused, same, -⟩ |
      ⟨-, accepted, state, received⟩
    · exact .of_refused _ refused same
    · exact .of_refused _ refused same
    · have writes := replaceRequest_writes? plain metadata plain' sent
      obtain ⟨r, received⟩ := received readable
      rw [received, WritesOrFails, writesIn_cons, writtenIn?_accepted _ accepted, writes]
      exact ⟨rfl, state, readable⟩
  · rw [asked] at refused same
    exact .of_refused _ refused same

/-- However it went to apply an object, it was written, once, or nothing was. -/
theorem ApplyCourse.writesOrFails {sent : Option String} {ts : List RequestTurn}
    {v : Except ClusterError Unit} (course : ApplyCourse m ns sent ts v)
    (proper : (view s).Proper) (gives : h.Gives s ts s') : WritesOrFails view m s s' ts v := by
  cases course with
  | created created =>
    obtain ⟨_, asked, rfl⟩ := Handler.gives_cons.1 gives
    have creating := create_writesOrFails good plain metadata asked
    rw [created] at creating
    exact creating
  | refused refused other =>
    obtain ⟨_, asked, rfl⟩ := Handler.gives_cons.1 gives
    have creating := create_writesOrFails good plain metadata asked
    rw [refused] at creating
    exact creating
  | @unread _ _ _ e' refused exists_ unread =>
    obtain ⟨s₁, asked, gives⟩ := Handler.gives_cons.1 gives
    obtain ⟨_, asked', rfl⟩ := Handler.gives_cons.1 gives
    have creating := create_writesOrFails good plain metadata asked
    rw [refused] at creating
    obtain ⟨nothing, same, -⟩ := read_reads good plain metadata plain' asked'
    have reading : WritesOrFails view m s₁ _ _ (.error e' : Except ClusterError Unit) :=
      ⟨nothing, same⟩
    exact reading.after creating.1 creating.2
  | @replacing _ _ _ _ current refused exists_ read =>
    obtain ⟨s₁, asked, gives⟩ := Handler.gives_cons.1 gives
    obtain ⟨s₂, asked', gives⟩ := Handler.gives_cons.1 gives
    obtain ⟨_, asked'', rfl⟩ := Handler.gives_cons.1 gives
    have creating := create_writesOrFails good plain metadata asked
    rw [refused] at creating
    obtain ⟨nothing, same, readable⟩ := read_reads good plain metadata plain' asked'
    -- What stood there was read, so its time of creation is one that can be read again.
    have kept : (view s₂).Readable m.place := by
      rw [creating.2] at same readable
      rw [same]
      exact readable proper ⟨current, read⟩
    have replacing := replace_writesOrFails good plain metadata plain' kept asked''
    exact ((replacing.map fun _ => ()).after nothing same).after creating.1 creating.2

/-- To apply an object writes it, once, or fails and writes nothing, whatever is lost or refused on
the way. -/
theorem apply_writesOrFails (sent : Option String) (proper : (view s).Proper) :
    let r := (apply (m.replacing sent)).run h s
    WritesOrFails view m s r.state ((apply (m.replacing sent)).turns h s) r.value := by
  have course := apply_course plain metadata plain'
    (Dialogue.run_ends h (apply (m.replacing sent)) s)
  have gives := Handler.run_gives h (apply (m.replacing sent)) s
  exact course.writesOrFails good plain metadata plain' proper gives

end Steps

end Client

end MountKeys
