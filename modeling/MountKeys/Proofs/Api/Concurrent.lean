import MountKeys.Proofs.Api.Writes
import MountKeys.Proofs.Pool

/-!
# Clients side by side

Several clients apply objects at one place at the same time, in requests that follow each other in
any order.  `applies_are_serial` says what comes of it: each of them writes its object once, or is
told that another one was faster, and the server is as if the writes had been made one after the
other.

* `Pool.writers` lists who wrote, in the order of the writes.  `Served.state` shows that these
  writes are all that the server remembers; it rests on what a single request can do
  (`Server.answer_applies`).
* `Served.own_turn` cuts the turns of all clients at a turn of one of them, and says what the server
  is there.  With it a client is followed through its requests, one after the other.
* A client can fail only at its last request, and only if what it had read is no longer there
  (`Served.replaced_or_overtaken`).
-/

namespace MountKeys

namespace Client

/-- The requests by which a client applies a manifest. -/
def Applies (m : Manifest) (ns : String) (q : Request) : Prop :=
  (∃ sent, q = createRequest (m.replacing sent) ns) ∨ q = readRequest m.place ∨
    ∃ version, q = replaceRequest (m.replacing version) m.place

section Requests

variable {m : Manifest} {ns name : String} {labels : SortedMap String String}
  (plain : Names.IsPlain ns) (metadata : m.metadata = ⟨some name, some ns, labels, none⟩)
  (plain' : Names.IsPlain name)
include plain metadata plain'

/-- To apply a manifest a client asks nothing else. -/
theorem apply_applies (sent : Option String) :
    (apply (m.replacing sent)).AsksOnly (Applies m ns) := by
  have sends : (m.replacing sent).metadata = ⟨some name, some ns, labels, sent⟩ := by
    rw [Manifest.replacing_metadata, metadata]
  refine apply_asks sends plain plain' (.inl ⟨sent, rfl⟩) (.inr (.inl ?_)) fun version => ?_
  · rw [Manifest.replacing_kind, Manifest.place_eq metadata]
  · refine .inr (.inr ⟨version, ?_⟩)
    rw [Manifest.replacing_kind, Manifest.replacing_replacing, Manifest.place_eq metadata]

/-- To apply a manifest takes three requests and two notices at most. -/
theorem apply_endsWithin (sent : Option String) : (apply (m.replacing sent)).EndsWithin 5 := by
  have sends : (m.replacing sent).metadata = ⟨some name, some ns, labels, sent⟩ := by
    rw [Manifest.replacing_metadata, metadata]
  rw [apply_eq plain plain' sends]
  refine .note (.ask fun created => ?_)
  split
  · exact .done _ _
  split
  · refine .note (.ask fun found => ?_)
    split
    · exact .done _ _
    · exact .ask fun answer => .done _ _
  · exact .done _ _

/-- Such a request writes where the manifest belongs, or it is not there to write. -/
theorem Applies.writes? {q : Request} (applies : Applies m ns q) :
    q.writes? = none ∨ q.writes? = some m.place := by
  rcases applies with ⟨sent, rfl⟩ | rfl | ⟨version, rfl⟩
  · exact .inr (createRequest_writes? plain metadata sent)
  · exact .inl (readRequest_writes? _)
  · exact .inr (replaceRequest_writes? plain metadata plain' version)

end Requests

end Client

/-- Such a request writes the manifest, or it changes nothing. -/
theorem Server.answer_applies {m : Manifest} {ns name : String} {labels : SortedMap String String}
    (plain : Names.IsPlain ns) (metadata : m.metadata = ⟨some name, some ns, labels, none⟩)
    (plain' : Names.IsPlain name) {q : Request} (applies : Client.Applies m ns q)
    {s s' : Server} {a : Reply} (asked : answer q s = (a, s')) :
    (writtenIn? ⟨q, a⟩ = none ∧ s' = s) ∨
      (writtenIn? ⟨q, a⟩ = some m.place ∧ s' = s.applied m) := by
  rcases applies with ⟨sent, rfl⟩ | rfl | ⟨version, rfl⟩
  · have creating := create_cases plain metadata s sent
    rw [asked] at creating
    rcases creating with ⟨-, refused, same, -⟩ | ⟨-, -, refused, same, -⟩ |
      ⟨-, -, accepted, state, -⟩
    · exact .inl ⟨writtenIn?_refused _ refused, same⟩
    · exact .inl ⟨writtenIn?_refused _ refused, same⟩
    · refine .inr ⟨?_, state⟩
      rw [writtenIn?_accepted _ accepted, Client.createRequest_writes? plain metadata]
  · have reading := answer_read plain s m.kind plain'
    rw [← Manifest.place_eq metadata, asked] at reading
    refine .inl ⟨writtenIn?_idle (Client.readRequest_writes? _) _, ?_⟩
    cases there : s.objects.get? m.place with
    | none | some j =>
      rw [there] at reading
      exact congrArg Prod.snd reading
  · have replacing := replace_cases plain metadata s plain' version
    rw [asked] at replacing
    rcases replacing with ⟨-, refused, same, -⟩ | ⟨j, -, -, refused, same, -⟩ |
      ⟨-, accepted, state, -⟩
    · exact .inl ⟨writtenIn?_refused _ refused, same⟩
    · exact .inl ⟨writtenIn?_refused _ refused, same⟩
    · refine .inr ⟨?_, state⟩
      rw [writtenIn?_accepted _ accepted, Client.replaceRequest_writes? plain metadata plain']

/-! ## Who wrote -/

namespace Pool

variable {ι : Type}

/-- Those who wrote an object in some turns, in the order of the writes. -/
def writers (ts : List (ι × RequestTurn)) : List ι :=
  ts.filterMap fun t => (writtenIn? t.2).map fun _ => t.1

theorem writers_append (ts ts' : List (ι × RequestTurn)) :
    writers (ts ++ ts') = writers ts ++ writers ts' :=
  List.filterMap_append

/-- A client wrote as often as its own turns say. -/
theorem count_writers [DecidableEq ι] (i : ι) (ts : List (ι × RequestTurn)) :
    (writers ts).count i = (writesIn (ownTurns i ts)).length := by
  induction ts with
  | nil => rfl
  | cons t rest ih =>
    obtain ⟨j, t⟩ := t
    rw [← List.singleton_append, writers_append, ownTurns_append, writesIn_append,
      List.count_append, List.length_append, ih]
    congr 1
    by_cases hj : j = i
    · subst hj
      cases written : writtenIn? t <;> simp [writers, ownTurns, writesIn, written]
    · cases written : writtenIn? t <;> simp [writers, ownTurns, writesIn, written, hj]

/-- Who wrote in one of the turns is among those who wrote. -/
theorem mem_writers {t : ι × RequestTurn} {ts : List (ι × RequestTurn)} (ht : t ∈ ts) {p : Place}
    (written : writtenIn? t.2 = some p) : t.1 ∈ writers ts :=
  List.mem_filterMap.2 ⟨t, ht, by rw [written]; rfl⟩

/-- A client was overtaken: after it had read an object and before it wanted to replace it, another
one wrote the object. -/
def Overtaken (i : ι) (p : Place) (ts : List (ι × RequestTurn)) : Prop :=
  ∃ before found between refused after,
    ts = before ++ (i, found) :: between ++ (i, refused) :: after ∧
      found.1.method = .get ∧ refused.1.method = .put ∧
      ∃ t ∈ between, t.1 ≠ i ∧ writtenIn? t.2 = some p

/-- If a client was overtaken, someone wrote. -/
theorem Overtaken.writers_ne_nil {i : ι} {p : Place} {ts : List (ι × RequestTurn)}
    (overtaken : Overtaken i p ts) : writers ts ≠ [] := by
  obtain ⟨before, found, between, refused, after, rfl, -, -, t, ht, -, written⟩ := overtaken
  refine List.ne_nil_of_mem (mem_writers (t := t) ?_ written)
  simp [ht]

end Pool

open Pool

/-! ## What the server is after some turns -/

/-- The turns of clients that apply manifests with a server, which they take from `s` to `s'`. -/
structure Served {ι : Type} (desired : ι → Manifest) (ns : String) (s : Server)
    (ts : List (ι × RequestTurn)) (s' : Server) : Prop where
  applies : ∀ t ∈ ts, Client.Applies (desired t.1) ns t.2.1
  gives : Server.answer.Gives s (ts.map Prod.snd) s'

/-- The server after some clients have written, one after the other. -/
def Server.appliedBy {ι : Type} (desired : ι → Manifest) (s : Server) (is : List ι) : Server :=
  is.foldl (fun s i => s.applied (desired i)) s

section Served

variable {ι : Type} {desired : ι → Manifest} {ns name : String} {kind : Kind}
  {labels : ι → SortedMap String String} {s s' : Server} {ts : List (ι × RequestTurn)}

theorem Server.appliedBy_version (desired : ι → Manifest) (s : Server) (is : List ι) :
    (s.appliedBy desired is).version = s.version + is.length := by
  induction is generalizing s with
  | nil => rfl
  | cons i rest ih =>
    rw [appliedBy, List.foldl_cons, ← appliedBy, ih, applied_version, List.length_cons]
    omega

theorem Server.appliedBy_concat (desired : ι → Manifest) (s : Server) (is : List ι) (i : ι) :
    s.appliedBy desired (is ++ [i]) = (s.appliedBy desired is).applied (desired i) :=
  List.foldl_append

/-- Turns can be cut at any of them. -/
theorem Served.cut {i : ι} {q : Request} {a : Reply} (before : List (ι × RequestTurn))
    {after : List (ι × RequestTurn)}
    (served : Served desired ns s (before ++ (i, ⟨q, a⟩) :: after) s') :
    ∃ s₁ s₂, Served desired ns s before s₁ ∧ Client.Applies (desired i) ns q ∧
      Server.answer q s₁ = (a, s₂) ∧ Served desired ns s₂ after s' := by
  have gives := served.gives
  rw [List.map_append, List.map_cons] at gives
  obtain ⟨s₁, earlier, gives⟩ := Handler.gives_append.1 gives
  obtain ⟨s₂, asked, later⟩ := Handler.gives_cons.1 gives
  refine ⟨s₁, s₂, ⟨fun u hu => ?_, earlier⟩, ?_, asked, ⟨fun u hu => ?_, later⟩⟩
  · exact served.applies u (List.mem_append_left _ hu)
  · exact served.applies _ (List.mem_append_right _ List.mem_cons_self)
  · exact served.applies u (List.mem_append_right _ (List.mem_cons_of_mem _ hu))

variable (plain : Names.IsPlain ns)
  (metadata : ∀ i, (desired i).metadata = ⟨some name, some ns, labels i, none⟩)
  (plain' : Names.IsPlain name)
include plain metadata plain'

/-- The server remembers the writes, in their order, and nothing else. -/
theorem Served.state (served : Served desired ns s ts s') :
    s' = s.appliedBy desired (writers ts) := by
  induction ts generalizing s with
  | nil => exact served.gives.symm
  | cons t rest ih =>
    obtain ⟨i, q, a⟩ := t
    obtain ⟨s₁, s₂, start, applies, asked, later⟩ := served.cut []
    obtain rfl : s = s₁ := start.gives
    rw [← List.singleton_append, writers_append, Server.appliedBy, List.foldl_append]
    rcases Server.answer_applies plain (metadata i) plain' applies asked with
      ⟨unwritten, rfl⟩ | ⟨written, rfl⟩
    · simpa [writers, unwritten, Server.appliedBy] using ih later
    · simpa [writers, written, Server.appliedBy] using ih later

/-- A property that each of the writes keeps is kept by all turns. -/
theorem Served.keeps (served : Served desired ns s ts s') {P : Server → Prop}
    (step : ∀ i s, P s → P (s.applied (desired i))) (init : P s) : P s' := by
  rw [served.state plain metadata plain', Server.appliedBy]
  exact List.foldlRecOn _ _ init fun s hs i _ => step i s hs

/-- Where the object at the place is another one than before, someone wrote it. -/
theorem Served.written_of_ne (served : Served desired ns s ts s') {p : Place}
    (places : ∀ i, (desired i).place = p) (changed : s'.objects.get? p ≠ s.objects.get? p) :
    ∃ t ∈ ts, writtenIn? t.2 = some p := by
  by_contra unwritten
  have nobody : writers ts = [] := by
    rw [writers, List.filterMap_eq_nil_iff]
    rintro ⟨i, q, a⟩ ht
    rcases (served.applies _ ht).writes? plain (metadata i) plain' with idle | writes
    · rw [writtenIn?_idle idle]
      rfl
    cases accepted : a.isAccepted with
    | true =>
      refine absurd ⟨_, ht, ?_⟩ unwritten
      rw [writtenIn?_accepted _ accepted, writes, places]
    | false =>
      rw [writtenIn?_refused _ accepted]
      rfl
  have same := served.state plain metadata plain'
  rw [nobody] at same
  exact changed (by rw [same]; rfl)

end Served

/-! ## A client among others -/

/-- What a client needs to apply an object: there is the namespace, and an object that can be read
or none. -/
structure Server.Ready (s : Server) (p : Place) : Prop where
  hasNamespace : s.namespaces.contains p.ns = true
  readable : s.Readable p

section Requests

variable {m : Manifest} {ns name : String} {labels : SortedMap String String}
  (plain : Names.IsPlain ns) (metadata : m.metadata = ⟨some name, some ns, labels, none⟩)
  {s s' : Server} (ready : s.Ready m.place) {a : Reply}
include metadata ready

/-- A server that writes a manifest stays ready. -/
theorem Server.Ready.applied : (s.applied m).Ready m.place where
  hasNamespace := ready.hasNamespace
  readable := ready.readable.applied metadata ready.readable

include plain

/-- A server that is ready takes a new object, or says that there is one. -/
theorem Server.Ready.create {sent : Option String}
    (asked : answer (Client.createRequest (m.replacing sent) ns) s = (a, s')) :
    (∃ r, Client.receive (Received.read? m.kind) a = .ok r) ∨
      ((∃ message, Client.receive (Received.read? m.kind) a =
          .error (.rejected 409 "AlreadyExists" message)) ∧
        s' = s ∧ ∃ j, s.objects.get? m.place = some j) := by
  have creating := create_cases plain metadata s sent
  have present := ready.hasNamespace
  rw [Manifest.place_eq metadata] at present
  rw [asked] at creating
  rcases creating with ⟨absent, -⟩ | ⟨-, there, -, same, taken⟩ | ⟨-, -, -, -, created⟩
  · exact nomatch present.symm.trans absent
  · exact .inr ⟨taken, same, there⟩
  · exact .inl created

variable (plain' : Names.IsPlain name) {j : Json} (there : s.objects.get? m.place = some j)
include plain' there

/-- It gives the object that is there. -/
theorem Server.Ready.read (asked : answer (Client.readRequest m.place) s = (a, s')) :
    Client.receive (Received.read? m.kind) a = .ok (Received.ofJson m.kind j) ∧ s' = s := by
  have reading := answer_read plain s m.kind plain'
  rw [← Manifest.place_eq metadata, asked, there] at reading
  obtain ⟨rfl, rfl⟩ := Prod.mk.inj reading
  exact ⟨Client.receive_reply rfl (ready.readable j there).read?, rfl⟩

/-- It replaces the object, or says that it is not the one that was read. -/
theorem Server.Ready.replace {version : Option String}
    (asked : answer (Client.replaceRequest (m.replacing version) m.place) s = (a, s')) :
    (∃ r, Client.receive (Received.read? m.kind) a = .ok r) ∨
      ((∃ message, Client.receive (Received.read? m.kind) a =
          .error (.rejected 409 "Conflict" message)) ∧
        version ≠ metadataText "resourceVersion" j) := by
  have replacing := replace_cases plain metadata s plain' version
  rw [asked] at replacing
  rcases replacing with ⟨absent, -⟩ | ⟨k, hk, outdated, -, -, refused⟩ | ⟨-, -, -, received⟩
  · exact nomatch there.symm.trans absent
  · obtain rfl := Option.some.inj (there.symm.trans hk)
    exact .inr ⟨refused, outdated⟩
  · exact .inl (received ready.readable)

end Requests

section Clients

variable {ι : Type} {desired : ι → Manifest} {ns name : String}
  {labels : ι → SortedMap String String} {s s' : Server} {ts : List (ι × RequestTurn)}
  (served : Served desired ns s ts s') (plain : Names.IsPlain ns)
  (metadata : ∀ i, (desired i).metadata = ⟨some name, some ns, labels i, none⟩)
  (plain' : Names.IsPlain name) {p : Place} (places : ∀ i, (desired i).place = p)
include served plain metadata plain' places

/-- A server stays ready while clients apply objects. -/
theorem Served.ready (ready : s.Ready p) : s'.Ready p := by
  refine served.keeps plain metadata plain' (P := fun s => s.Ready p) (fun i s hs => ?_) ready
  rw [← places i] at hs ⊢
  exact hs.applied (metadata i)

/-- An object that is there stays there, if not as it is. -/
theorem Served.present (there : ∃ j, s.objects.get? p = some j) :
    ∃ j, s'.objects.get? p = some j := by
  refine served.keeps plain metadata plain' (P := fun s => ∃ j, s.objects.get? p = some j)
    (fun i s _ => ?_) there
  rw [Server.applied_get?, places, if_pos rfl]
  exact ⟨_, rfl⟩

variable [DecidableEq ι]

omit plain metadata plain' places in
/-- The turns of all clients up to the first turn of one of them, that turn, and what comes
after it. -/
theorem Served.own_turn {i : ι} {q : Request} {a : Reply} {rest : List RequestTurn}
    (own : ownTurns i ts = ⟨q, a⟩ :: rest) :
    ∃ before after s₁ s₂, ts = before ++ (i, ⟨q, a⟩) :: after ∧ ownTurns i before = [] ∧
      ownTurns i after = rest ∧ Served desired ns s before s₁ ∧
      Server.answer q s₁ = (a, s₂) ∧ Served desired ns s₂ after s' := by
  obtain ⟨before, after, rfl, none, later⟩ := ownTurns_eq_cons own
  obtain ⟨s₁, s₂, start, -, asked, rest⟩ := served.cut _
  exact ⟨before, after, s₁, s₂, rfl, none, later, start, asked, rest⟩

variable (ready : s.Ready p) {i : ι} {answer : Reply} {rest : List RequestTurn}
include ready

/-- A client that is told no when it creates its object is told that there is one, and there is. -/
theorem Served.taken {sent : Option String} {e : ClusterError}
    (own : ownTurns i ts = ⟨Client.createRequest ((desired i).replacing sent) ns, answer⟩ :: rest)
    (refused : Client.receive (Received.read? (desired i).kind) answer = .error e) :
    (∃ message, e = .rejected 409 "AlreadyExists" message) ∧
      writesIn [⟨Client.createRequest ((desired i).replacing sent) ns, answer⟩] = [] ∧
      ∃ before after s₁, ts = before ++ after ∧ ownTurns i after = rest ∧
        Served desired ns s₁ after s' ∧ s₁.Ready p ∧ ∃ j, s₁.objects.get? p = some j := by
  obtain rfl := places i
  obtain ⟨before, after, s₁, s₂, rfl, -, later, start, asked, served⟩ := served.own_turn own
  have ready₁ := start.ready plain metadata plain' places ready
  have wrote := Client.create_writesOrFails Server.answer_answersOrFails plain (metadata i) asked
  rw [refused] at wrote
  rcases ready₁.create plain (metadata i) asked with ⟨r, created⟩ | ⟨⟨message, taken⟩, rfl, there⟩
  · exact nomatch refused.symm.trans created
  · cases refused.symm.trans taken
    exact ⟨⟨message, rfl⟩, wrote.1, _, after, s₂, List.append_cons _ _ _, later, served, ready₁,
      there⟩

/-- A client that reads an object that is there gets it. -/
theorem Served.found (there : ∃ j, s.objects.get? p = some j)
    (own : ownTurns i ts = ⟨Client.readRequest (desired i).place, answer⟩ :: rest) :
    ∃ before after s₁ j,
      ts = before ++ (i, ⟨Client.readRequest (desired i).place, answer⟩) :: after ∧
      ownTurns i after = rest ∧ Served desired ns s₁ after s' ∧ s₁.Ready p ∧
      s₁.objects.get? p = some j ∧
      Client.receive (Received.read? (desired i).kind) answer =
        .ok (Received.ofJson (desired i).kind j) := by
  obtain rfl := places i
  obtain ⟨before, after, s₁, s₂, rfl, -, later, start, asked, served⟩ := served.own_turn own
  have ready₁ := start.ready plain metadata plain' places ready
  obtain ⟨j, there₁⟩ := start.present plain metadata plain' places there
  obtain ⟨received, rfl⟩ := ready₁.read plain (metadata i) plain' there₁ asked
  exact ⟨before, after, s₂, j, rfl, later, served, ready₁, there₁, received⟩

/-- A client that replaces the object that was there writes its own, or someone else has written
one since. -/
theorem Served.replaced_or_overtaken {j : Json} (there : s.objects.get? p = some j)
    {version : Option String} (current : version = Server.metadataText "resourceVersion" j)
    (own : ownTurns i ts =
      [⟨Client.replaceRequest ((desired i).replacing version) (desired i).place, answer⟩]) :
    let t : RequestTurn :=
      ⟨Client.replaceRequest ((desired i).replacing version) (desired i).place, answer⟩
    let received := Client.receive (Received.read? (desired i).kind) answer
    ((∃ r, received = .ok r) ∧ writesIn [t] = [p]) ∨
      ((∃ message, received = .error (.rejected 409 "Conflict" message)) ∧ writesIn [t] = [] ∧
        ∃ between after, ts = between ++ (i, t) :: after ∧
          ∃ u ∈ between, u.1 ≠ i ∧ writtenIn? u.2 = some p) := by
  intro t received
  obtain rfl := places i
  obtain ⟨between, after, s₁, s₂, rfl, others, later, start, asked, served⟩ := served.own_turn own
  have ready₁ := start.ready plain metadata plain' places ready
  obtain ⟨k, there₁⟩ := start.present plain metadata plain' places ⟨j, there⟩
  have wrote := Client.replace_writesOrFails Server.answer_answersOrFails plain (metadata i) plain'
    ready₁.readable asked
  rcases ready₁.replace plain (metadata i) plain' there₁ asked with
    ⟨r, replaced⟩ | ⟨⟨message, refused⟩, outdated⟩
  · rw [replaced] at wrote
    exact .inl ⟨⟨r, replaced⟩, wrote.1⟩
  · rw [refused] at wrote
    refine .inr ⟨⟨message, refused⟩, wrote.1, between, after, rfl, ?_⟩
    -- The version is not the one that was read, so the object is not.
    have changed :
        s₁.objects.get? (desired i).place ≠ s.objects.get? (desired i).place := by
      rw [there₁, there]
      rintro ⟨⟩
      exact outdated current
    obtain ⟨u, hu, written⟩ := start.written_of_ne plain metadata plain' places changed
    refine ⟨u, hu, fun own => ?_, written⟩
    have : u.2 ∈ ownTurns i between := mem_ownTurns.2 (own ▸ hu)
    rw [others] at this
    exact nomatch this

/-- A client that has returned wrote its object, once, or was overtaken and wrote nothing. -/
theorem Served.outcome {sent : Option String} {v : Except ClusterError Unit}
    (course : Client.ApplyCourse (desired i) ns sent (ownTurns i ts) v) :
    (v = .ok () ∧ (writers ts).count i = 1) ∨
      ∃ message, v = .error (.rejected 409 "Conflict" message) ∧ (writers ts).count i = 0 ∧
        Overtaken i p ts := by
  rw [count_writers]
  generalize own : ownTurns i ts = turns at course ⊢
  cases course with
  | created created =>
    obtain ⟨before, after, s₁, s₂, -, -, -, start, asked, -⟩ := served.own_turn own
    have wrote := Client.create_writesOrFails Server.answer_answersOrFails plain (metadata i) asked
    rw [created] at wrote
    exact .inl ⟨rfl, by rw [wrote.1]; rfl⟩
  | refused refused other =>
    obtain ⟨⟨message, rfl⟩, -⟩ := served.taken plain metadata plain' places ready own refused
    exact nomatch other
  | unread refused exists_ unread =>
    obtain ⟨-, -, before, after, s₁, -, own, served, ready, there⟩ :=
      served.taken plain metadata plain' places ready own refused
    obtain ⟨_, _, _, j, -, -, -, -, -, found⟩ :=
      served.found plain metadata plain' places ready there own
    exact nomatch unread.symm.trans found
  | replacing refused exists_ read =>
    obtain ⟨-, nothing, before, after, s₁, rfl, own, served, ready, there⟩ :=
      served.taken plain metadata plain' places ready own refused
    obtain ⟨before', after, s₂, j, rfl, own, served, ready, there, found⟩ :=
      served.found plain metadata plain' places ready there own
    obtain rfl := Except.ok.inj (read.symm.trans found)
    rw [← List.singleton_append, writesIn_append, nothing, List.nil_append, writesIn_cons,
      writtenIn?_idle (Client.readRequest_writes? _), Option.toList_none, List.nil_append]
    have current : (Received.ofJson (desired i).kind j).version =
        Server.metadataText "resourceVersion" j := rfl
    rcases served.replaced_or_overtaken plain metadata plain' places ready there current own with
      ⟨⟨r, replaced⟩, wrote⟩ | ⟨⟨message, refused⟩, wrote, between, after, rfl, overtaken⟩
    · rw [replaced, wrote]
      exact .inl ⟨rfl, rfl⟩
    · rw [refused, wrote]
      have split {a b : ι × RequestTurn} : before ++ (before' ++ a :: (between ++ b :: after)) =
          (before ++ before') ++ a :: between ++ b :: after := by simp
      exact .inr ⟨message, rfl, rfl, _, _, _, _, _, split, rfl, rfl, overtaken⟩

end Clients

/-! ## Clients that all return -/

/-- Any number of clients apply objects of one kind, namespace and name at the same time, in any
order of their requests, at a server that has the namespace and holds an object there that can be
read, or none.  Each of them writes its object, once, or is refused and writes nothing, and then
another one wrote between its reading and its replacing.  The server is as if the objects had been
written one after the other.  So the last one that was written is there, as it was sent, with the
version and the time that the server sets, and the client that wrote it was told so. -/
theorem applies_are_serial {ι : Type} [DecidableEq ι] [Nonempty ι] {ns name : String} {kind : Kind}
    (plain : Names.IsPlain ns) (plain' : Names.IsPlain name) {desired : ι → Manifest}
    {labels : ι → SortedMap String String}
    (metadata : ∀ i, (desired i).metadata = ⟨some name, some ns, labels i, none⟩)
    (kinds : ∀ i, (desired i).kind = kind) (sent : ι → Option String) {s : Server}
    (ready : s.Ready ⟨ns, kind, name⟩) {schedule : List ι}
    (enough : ∀ i, 5 ≤ schedule.count i) :
    let p := (Pool.start (fun i => Client.apply ((desired i).replacing (sent i))) s).hold
      Server.answer schedule
    (∀ i, (p.rest i = .done (.ok ()) ∧ (writers p.turns).count i = 1) ∨
        ∃ message, p.rest i = .done (.error (.rejected 409 "Conflict" message)) ∧
          (writers p.turns).count i = 0 ∧ Overtaken i ⟨ns, kind, name⟩ p.turns) ∧
      p.state = s.appliedBy desired (writers p.turns) ∧
      ∃ earlier last created, writers p.turns = earlier ++ [last] ∧
        p.rest last = .done (.ok ()) ∧
        p.state.objects.get? ⟨ns, kind, name⟩ =
          some ((desired last).held (s.version + (writers p.turns).length) created) := by
  intro p
  have places (i : ι) : (desired i).place = ⟨ns, kind, name⟩ := by
    rw [Manifest.place_eq (metadata i), kinds]
  have sound : p.Sound Server.answer (fun i => Client.apply ((desired i).replacing (sent i))) s :=
    (sound_start _ _ _).hold schedule
  have served : Served desired ns s p.turns p.state := by
    refine ⟨fun ⟨i, t⟩ ht => ?_, sound.gives⟩
    have applies := Client.apply_applies plain (metadata i) plain' (sent i)
    exact applies.of_leads (sound.leads i) t (mem_ownTurns.2 ht)
  have outcome (i : ι) : (p.rest i = .done (.ok ()) ∧ (writers p.turns).count i = 1) ∨
      ∃ message, p.rest i = .done (.error (.rejected 409 "Conflict" message)) ∧
        (writers p.turns).count i = 0 ∧ Overtaken i ⟨ns, kind, name⟩ p.turns := by
    have bound := Client.apply_endsWithin plain (metadata i) plain' (sent i)
    obtain ⟨v, done⟩ : ∃ v, p.rest i = .done v := hold_done bound (enough i)
    have course := Client.apply_course plain (metadata i) plain' (sound.ends done)
    rcases served.outcome plain metadata plain' places ready course with
      ⟨rfl, once⟩ | ⟨message, rfl, never, overtaken⟩
    · exact .inl ⟨done, once⟩
    · exact .inr ⟨message, done, never, overtaken⟩
  have state := served.state plain metadata plain'
  refine ⟨outcome, state, ?_⟩
  -- A client that did not write was overtaken by one that did, so there is a last write.
  have someone : writers p.turns ≠ [] := by
    obtain ⟨i⟩ := ‹Nonempty ι›
    rcases outcome i with ⟨-, once⟩ | ⟨-, -, -, overtaken⟩
    · intro nobody
      rw [nobody] at once
      exact nomatch once
    · exact overtaken.writers_ne_nil
  obtain ⟨earlier, last, order⟩ : ∃ earlier last, writers p.turns = earlier ++ [last] :=
    ⟨_, _, (List.dropLast_concat_getLast someone).symm⟩
  have wrote : 0 < (writers p.turns).count last := by simp [order]
  rcases outcome last with ⟨done, -⟩ | ⟨-, -, never, -⟩
  · let before := s.appliedBy desired earlier
    refine ⟨earlier, last, (before.createdAt ⟨ns, kind, name⟩ none).1, order, done, ?_⟩
    rw [state, order, Server.appliedBy_concat, Server.applied_get?, places, if_pos rfl,
      Server.appliedBy_version, List.length_append, List.length_singleton, Nat.add_assoc]
  · exact absurd never (by omega)

/-- What each of three clients wants the same Secret to be. -/
def rivals (i : Fin 3) : Manifest :=
  (Desired.render ⟨[.ofNat i.val], [7]⟩ ⟨"n", "s", "c"⟩).object .secret

/-- None of them names a version. -/
def unsent (_ : Fin 3) : Option String := none

/-- An order in which the last client creates the Secret, and the first one reads it before the
second one replaces it. -/
def rivalry : List (Fin 3) :=
  List.replicate 5 2 ++ List.replicate 4 0 ++ List.replicate 5 1 ++ [0]

/-- The three clients after that, at a server that had the namespace and no object. -/
def rivalsDone : Pool (Fin 3) Request (fun _ => Reply) (Except ClusterError Unit) Server :=
  (Pool.start (fun i => Client.apply ((rivals i).replacing (unsent i)))
    (Server.empty.addNamespace "n")).hold Server.answer rivalry

theorem applies_are_serial_rivals :
    Names.IsPlain "n" ∧ Names.IsPlain "s" ∧
      (∀ i, (rivals i).metadata = ⟨some "s", some "n", managedLabels, none⟩) ∧
      (∀ i, (rivals i).kind = .secret) ∧
      (Server.empty.addNamespace "n").Ready ⟨"n", .secret, "s"⟩ ∧
      (∀ i, 5 ≤ rivalry.count i) ∧
      (∃ message, rivalsDone.rest 0 = .done (.error (.rejected 409 "Conflict" message)) ∧
        Overtaken 0 ⟨"n", .secret, "s"⟩ rivalsDone.turns) ∧
      rivalsDone.rest 1 = .done (.ok ()) ∧
      ∃ created, rivalsDone.state.objects.get? ⟨"n", .secret, "s"⟩ =
        some ((rivals 1).held 2 created) := by
  have valid : Names.check ⟨"n", "s", "c"⟩ = .ok () := rfl
  have plain := (Names.check_plain valid).1
  have plain' := (Names.check_plain valid).2.1
  have metadata (i : Fin 3) : (rivals i).metadata = ⟨some "s", some "n", managedLabels, none⟩ :=
    Desired.render_ofName _ _ _
  have kinds (i : Fin 3) : (rivals i).kind = .secret := rfl
  have ready : (Server.empty.addNamespace "n").Ready ⟨"n", .secret, "s"⟩ :=
    ⟨by decide, fun j hj => nomatch hj⟩
  have enough : ∀ i, 5 ≤ rivalry.count i := by decide
  have order : writers rivalsDone.turns = [2, 1] := by decide +kernel
  have key := applies_are_serial plain plain' metadata kinds unsent ready enough
  dsimp only at key
  rw [rivalsDone] at order ⊢
  refine ⟨plain, plain', metadata, kinds, ready, enough, ?_⟩
  generalize (Pool.start _ _).hold Server.answer rivalry = p at key order ⊢
  obtain ⟨outcome, -, earlier, last, created, split, done, stands⟩ := key
  rw [order] at outcome split stands
  obtain rfl : 1 = last := by simpa using congrArg List.getLast? split
  refine ⟨?_, done, created, stands⟩
  rcases outcome 0 with ⟨-, once⟩ | ⟨message, conflict, -, overtaken⟩
  · exact nomatch once
  · exact ⟨message, conflict, overtaken⟩

end MountKeys
