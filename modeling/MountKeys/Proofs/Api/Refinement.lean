import Mathlib.Data.List.Forall2
import MountKeys.Cluster.Memory
import MountKeys.Manifest.Render
import MountKeys.Proofs.Api.Client

/-!
# A server is a cluster in memory

A cluster in memory keeps the values of an object and nothing else.  An API server keeps JSON, and a
client puts each call as up to three requests.  This module shows that a client cannot tell them
apart: `serves_as_memory` puts the same calls to both, one after the other, and compares what they
answer.

* `Server.Shows` relates a server to the cluster in memory that holds what a client reads from it.
* `CallTurn.Agrees` says when two answers to a call are the same but for times and wording.
* `shows_step` is the step: one call to both gives answers that agree, and they stay related.
  There is one case for each call, and for an object one for each thing that it may lack.
* `Handler.serve_related` carries a step over to any number of calls.
-/

namespace MountKeys

/-! ## Questions one after the other -/

namespace Handler

variable {Ask : Type} {Answer : Ask → Type} {σ τ : Type}

/-- Put questions one after the other: each with its answer, and what the handler remembers after
the last one. -/
def serve (h : Handler Ask Answer σ) : List Ask → σ → List (Turn Ask Answer) × σ
  | [], s => ([], s)
  | q :: rest, s =>
    let (ts, last) := h.serve rest (h q s).2
    (⟨q, (h q s).1⟩ :: ts, last)

/-- Two handlers that agree on each question, and stay related, agree on any number of them. -/
theorem serve_related {h : Handler Ask Answer σ} {h' : Handler Ask Answer τ} {P : Ask → Prop}
    {Related : σ → τ → Prop} {Agree : Turn Ask Answer → Turn Ask Answer → Prop}
    (step : ∀ q s t, P q → Related s t →
      Agree ⟨q, (h q s).1⟩ ⟨q, (h' q t).1⟩ ∧ Related (h q s).2 (h' q t).2)
    {qs : List Ask} (asked : ∀ q ∈ qs, P q) {s : σ} {t : τ} (start : Related s t) :
    List.Forall₂ Agree (h.serve qs s).1 (h'.serve qs t).1 ∧
      Related (h.serve qs s).2 (h'.serve qs t).2 := by
  induction qs generalizing s t with
  | nil => exact ⟨.nil, start⟩
  | cons q rest ih =>
    have ⟨agree, related⟩ := step q s t (asked q List.mem_cons_self) start
    have ⟨agrees, last⟩ := ih (fun q hq => asked q (List.mem_cons_of_mem _ hq)) related
    exact ⟨.cons agree agrees, last⟩

end Handler

/-! ## Answers that agree -/

/-- The same object as it is read back, but for the time when it was first stored. -/
structure Stored.SameButTime (a b : Stored) : Prop where
  name : a.name = b.name
  ns : a.ns = b.ns
  data : a.data = b.data

/-- The same error, but for its wording. -/
inductive ClusterError.SameButText : ClusterError → ClusterError → Prop
  | rejected (code : Nat) (reason message message' : String) :
    SameButText (.rejected code reason message) (.rejected code reason message')
  | transport (text text' : String) : SameButText (.transport text) (.transport text')
  | invalidObject (text text' : String) : SameButText (.invalidObject text) (.invalidObject text')

/-- The same result of a call; objects may differ in their times. -/
def Call.SameResult : (c : Call) → c.Result → c.Result → Prop
  | .namespaceExists _, found, found' => found = found'
  | .createNamespace _, _, _ => True
  | .apply _, _, _ => True
  | .get _, stored, stored' => Option.Rel Stored.SameButTime stored stored'

/-- The same call with answers that are the same but for times and wording. -/
inductive CallTurn.Agrees : Turn Call Call.Answer → Turn Call Call.Answer → Prop
  | ok {c : Call} {r r' : c.Result} : c.SameResult r r' → Agrees ⟨c, .ok r⟩ ⟨c, .ok r'⟩
  | error (c : Call) {e e' : ClusterError} :
    e.SameButText e' → Agrees ⟨c, .error e⟩ ⟨c, .error e'⟩

/-! ## The calls -/

/-- The manifest, with its name and its namespace removed unless they are kept. -/
def Manifest.keeping (name ns : Bool) : Manifest → Manifest
  | .secret s => .secret { s with metadata := keep s.metadata }
  | .configMap c => .configMap { c with metadata := keep c.metadata }
where
  /-- The metadata with what is kept. -/
  keep (m : Metadata) : Metadata :=
    { m with name := m.name.filter fun _ => name, ns := m.ns.filter fun _ => ns }

theorem Manifest.keeping_metadata (name ns : Bool) (m : Manifest) :
    (m.keeping name ns).metadata =
      { m.metadata with
        name := m.metadata.name.filter fun _ => name
        ns := m.metadata.ns.filter fun _ => ns } := by
  cases m <;> rfl

/-- A call on names that pass the check; an object that it applies is rendered from some keys, and
may have lost its name or its namespace. -/
inductive Call.Ordinary : Call → Prop
  | namespaceExists {names : Names} (valid : names.check = .ok ()) :
    Ordinary (.namespaceExists names.ns)
  | createNamespace {names : Names} (valid : names.check = .ok ()) :
    Ordinary (.createNamespace names.ns)
  | apply {names : Names} (valid : names.check = .ok ()) (keys : KeyPair) (kind : Kind)
    (name ns : Bool) : Ordinary (.apply (((Desired.render keys names).object kind).keeping name ns))
  | get {names : Names} (valid : names.check = .ok ()) (kind : Kind) :
    Ordinary (.get (names.place kind))

/-! ## States that are related -/

/-- The cluster in memory has the namespaces of the server and holds what a client reads of its
objects. -/
structure Server.Shows (s : Server) (t : Store) : Prop where
  namespaces : s.namespaces = t.namespaces
  objects (p : Place) : Option.Rel
    (fun j stored => Storable p.kind j ∧ (Received.ofJson p.kind j).stored.SameButTime stored)
    (s.objects.get? p) (t.objects.get? p)

theorem Server.shows_empty : Server.empty.Shows .empty :=
  ⟨rfl, fun _ => .none⟩

namespace Server.Shows

variable {s : Server} {t : Store}

/-- A client can read all that the server holds. -/
theorem sound (shows_ : s.Shows t) : s.Sound := by
  intro p j hj
  have related := shows_.objects p
  rw [hj] at related
  cases related' : t.objects.get? p with
  | none =>
    rw [related'] at related
    exact nomatch related
  | some stored =>
    rw [related'] at related
    cases related with
    | some both => exact both.1

/-- To have one more namespace keeps them related. -/
theorem addNamespace (shows_ : s.Shows t) (ns : String) :
    (s.addNamespace ns).Shows (t.addNamespace ns) where
  namespaces := congrArg (·.insert ns ()) shows_.namespaces
  objects := shows_.objects

/-- To hold one more object, and what a client reads of it, keeps them related. -/
theorem insert (shows_ : s.Shows t) {p : Place} {j : Json} {stored : Stored}
    (storable : Storable p.kind j) (same : (Received.ofJson p.kind j).stored.SameButTime stored)
    (version clock clock' : Nat) :
    Server.Shows { s with objects := s.objects.insert p j, version, clock }
      { t with objects := t.objects.insert p stored, clock := clock' } where
  namespaces := shows_.namespaces
  objects q := by
    rw [SortedMap.get?_insert, SortedMap.get?_insert]
    by_cases here : q = p
    · rw [if_pos here, if_pos here, here]
      exact .some ⟨storable, same⟩
    · rw [if_neg here, if_neg here]
      exact shows_.objects q

/-- To write an object keeps them related. -/
theorem applied (shows_ : s.Shows t) {m : Manifest} {ns name : String}
    {labels : SortedMap String String}
    (metadata : m.metadata = ⟨some name, some ns, labels, none⟩) :
    (s.applied m).Shows (t.put m.place m.contents none) := by
  have time := (shows_.sound.readable m.place).createdAt
  have stored := stored_held metadata (s.version + 1) (s.createdAt m.place none).1
  refine shows_.insert (held_storable metadata _ time) ?_ _ _ _
  show (Received.ofJson m.kind _).stored.SameButTime _
  rw [stored, Manifest.place_eq metadata]
  exact ⟨rfl, rfl, rfl⟩

end Server.Shows

/-! ## One call -/

/-- The answers to a call agree, and the states after it are related. -/
def AgreeOn (s : Server) (t : Store) (c : Call) : Prop :=
  let server := Server.answer.through Client.call c s
  let memory := Store.answer c t
  CallTurn.Agrees ⟨c, server.1⟩ ⟨c, memory.1⟩ ∧ server.2.Shows memory.2

section Step

variable {s : Server} {t : Store} (shows_ : s.Shows t)
include shows_

theorem agreeOn_namespaceExists {ns : String} (plain : Names.IsPlain ns) :
    AgreeOn s t (.namespaceExists ns) := by
  rw [AgreeOn, Client.call_namespaceExists plain]
  refine ⟨.ok ?_, shows_⟩
  show s.namespaces.contains ns = t.namespaces.contains ns
  rw [shows_.namespaces]

theorem agreeOn_createNamespace (ns : String) : AgreeOn s t (.createNamespace ns) := by
  cases present : s.namespaces.contains ns with
  | true =>
    obtain ⟨message, taken⟩ := Client.call_createNamespace_taken present
    have memory : Store.answer (.createNamespace ns) t =
        (.error (.usual 409 s!"namespaces \"{ns}\" already exists"), t) := by
      rw [Store.answer, ← shows_.namespaces, if_pos present]
    rw [AgreeOn, taken, memory]
    exact ⟨.error _ (.rejected ..), shows_⟩
  | false =>
    have memory : Store.answer (.createNamespace ns) t = (.ok (), t.addNamespace ns) := by
      rw [Store.answer, ← shows_.namespaces, if_neg (by simp [present])]
    rw [AgreeOn, Client.call_createNamespace present, memory]
    exact ⟨.ok trivial, shows_.addNamespace ns⟩

/-- An object that does not say where it belongs is refused before anything is done. -/
theorem agreeOn_apply_of_missing {m : Manifest}
    (missing : m.metadata.ns = none ∨ m.metadata.name = none) : AgreeOn s t (.apply m) := by
  have server : ∃ text, Server.answer.through Client.call (.apply m) s =
      (.error (.invalidObject text), s) := by
    rw [Handler.through, Client.call, Client.apply]
    cases hns : m.metadata.ns with
    | none => exact ⟨_, rfl⟩
    | some ns =>
      have hname := missing.resolve_left (by simp [hns])
      rw [hname]
      exact ⟨_, rfl⟩
  have memory : ∃ text, Store.answer (.apply m) t = (.error (.invalidObject text), t) := by
    rw [Store.answer, Store.apply]
    cases hns : m.metadata.ns with
    | none => exact ⟨_, rfl⟩
    | some ns =>
      have hname := missing.resolve_left (by simp [hns])
      rw [hname]
      exact ⟨_, rfl⟩
  obtain ⟨text, server⟩ := server
  obtain ⟨text', memory⟩ := memory
  rw [AgreeOn, server, memory]
  exact ⟨.error _ (.invalidObject ..), shows_⟩

/-- An object that says where it belongs is written if its namespace is there. -/
theorem agreeOn_apply {m : Manifest} {ns name : String} {labels : SortedMap String String}
    (metadata : m.metadata = ⟨some name, some ns, labels, none⟩) (plain : Names.IsPlain ns)
    (plain' : Names.IsPlain name) : AgreeOn s t (.apply m) := by
  have here := Manifest.place_eq metadata
  cases present : s.namespaces.contains ns with
  | true =>
    have memory : Store.answer (.apply m) t = (.ok (), t.put m.place m.contents none) := by
      rw [here]
      simp only [Store.answer, Store.apply, metadata, ← shows_.namespaces, present, if_true]
    rw [AgreeOn, Client.call_apply plain metadata plain' (shows_.sound.readable _) present, memory]
    exact ⟨.ok trivial, shows_.applied metadata⟩
  | false =>
    obtain ⟨message, homeless⟩ := Client.call_apply_homeless plain metadata plain' present
    have memory : Store.answer (.apply m) t =
        (.error (.usual 404 s!"namespaces \"{ns}\" not found"), t) := by
      simp only [Store.answer, Store.apply, metadata, ← shows_.namespaces, present,
        Bool.false_eq_true, if_false]
    rw [AgreeOn, homeless, memory]
    exact ⟨.error _ (.rejected ..), shows_⟩

theorem agreeOn_get {ns name : String} (plain : Names.IsPlain ns) (kind : Kind)
    (plain' : Names.IsPlain name) : AgreeOn s t (.get ⟨ns, kind, name⟩) := by
  have memory : Store.answer (.get ⟨ns, kind, name⟩) t =
      (.ok (t.objects.get? ⟨ns, kind, name⟩), t) := rfl
  have related := shows_.objects ⟨ns, kind, name⟩
  rw [AgreeOn, Client.call_get plain kind plain', memory]
  cases there : s.objects.get? ⟨ns, kind, name⟩ with
  | none =>
    rw [Client.shown_of_absent there]
    rw [there] at related
    refine ⟨.ok ?_, shows_⟩
    cases related' : t.objects.get? ⟨ns, kind, name⟩ with
    | none => exact .none
    | some stored =>
      rw [related'] at related
      exact nomatch related
  | some j =>
    rw [Client.shown_of_readable (shows_.sound.readable _) there]
    rw [there] at related
    refine ⟨.ok ?_, shows_⟩
    cases related' : t.objects.get? ⟨ns, kind, name⟩ with
    | none =>
      rw [related'] at related
      exact nomatch related
    | some stored =>
      rw [related'] at related
      cases related with
      | some both => exact .some both.2

/-- One call keeps a server and a cluster in memory related. -/
theorem shows_step {c : Call} (ordinary : c.Ordinary) : AgreeOn s t c := by
  cases ordinary with
  | namespaceExists valid => exact agreeOn_namespaceExists shows_ (Names.check_plain valid).1
  | createNamespace valid => exact agreeOn_createNamespace shows_ _
  | @apply names valid keys kind name ns =>
    have kept := Manifest.keeping_metadata name ns ((Desired.render keys names).object kind)
    rw [Desired.render_ofName] at kept
    cases ns with
    | false => exact agreeOn_apply_of_missing shows_ (.inl (by rw [kept]; rfl))
    | true =>
      cases name with
      | false => exact agreeOn_apply_of_missing shows_ (.inr (by rw [kept]; rfl))
      | true =>
        exact agreeOn_apply shows_ kept (Names.check_plain valid).1 (Names.place_plain valid kind)
  | @get names valid kind =>
    have here : names.place kind = ⟨names.ns, kind, (names.place kind).name⟩ := by
      cases kind <;> rfl
    rw [here]
    exact agreeOn_get shows_ (Names.check_plain valid).1 kind (Names.place_plain valid kind)

end Step

/-! ## Any number of calls -/

/-- Whatever calls are put to a server and to the cluster in memory that it shows, each of them is
answered in the same way, but for times and the wording of errors, and the server still shows the
cluster in memory after the last one. -/
theorem serves_as_memory {s : Server} {t : Store} (shows_ : s.Shows t) {calls : List Call}
    (ordinary : ∀ c ∈ calls, c.Ordinary) :
    let server := (Server.answer.through Client.call).serve calls s
    let memory := Store.answer.serve calls t
    List.Forall₂ CallTurn.Agrees server.1 memory.1 ∧ server.2.Shows memory.2 :=
  have step (c : Call) (s : Server) (t : Store) (ordinary : c.Ordinary) (shows_ : s.Shows t) :
      CallTurn.Agrees ⟨c, (Server.answer.through Client.call c s).1⟩ ⟨c, (Store.answer c t).1⟩ ∧
        (Server.answer.through Client.call c s).2.Shows (Store.answer c t).2 :=
    shows_step shows_ ordinary
  Handler.serve_related step ordinary shows_

/-- A Secret that another client filled. -/
def foreignSecret : Json :=
  .object [("apiVersion", .text "v1"), ("kind", .text "Secret"),
    ("data", .object [("extra", .text "AAEC")]), ("immutable", .null),
    ("metadata", .object [("name", .text "s"), ("namespace", .text "n")])]

/-- What a client reads of it. -/
def foreignStored : Stored :=
  ⟨"s", "n", .ofList [("extra", [0, 1, 2])], none⟩

theorem shows_foreign :
    Server.Shows
      { Server.empty.addNamespace "n" with
        objects := SortedMap.insert ∅ ⟨"n", .secret, "s"⟩ foreignSecret
        version := 1 }
      { Store.empty.addNamespace "n" with
        objects := SortedMap.insert ∅ ⟨"n", .secret, "s"⟩ foreignStored
        clock := 1 } := by
  have storable : Storable .secret foreignSecret := ⟨by decide +kernel, by decide +kernel⟩
  have data : (Received.ofJson .secret foreignSecret).data = foreignStored.data := by
    decide +kernel
  exact (Server.shows_empty.addNamespace "n").insert (p := ⟨"n", .secret, "s"⟩) storable
    ⟨rfl, rfl, data⟩ 1 0 1

/-- Calls over what another client left: the namespace is taken, one object lacks its name, one
replaces the foreign Secret, and one is not there. -/
def mixedCalls : List Call :=
  let names : Names := ⟨"n", "s", "c"⟩
  let desired := Desired.render ⟨[1], [255]⟩ names
  [.namespaceExists "n", .createNamespace "n",
    .apply ((desired.object .configMap).keeping false true),
    .apply ((desired.object .secret).keeping true true), .get (names.place .secret),
    .get (names.place .configMap)]

theorem mixedCalls_ordinary : ∀ c ∈ mixedCalls, c.Ordinary := by
  have valid : Names.check ⟨"n", "s", "c"⟩ = .ok () := rfl
  simp only [mixedCalls, List.forall_mem_cons, List.not_mem_nil, false_imp_iff, implies_true,
    and_true]
  exact ⟨.namespaceExists valid, .createNamespace valid, .apply valid _ .configMap false true,
    .apply valid _ .secret true true, .get valid .secret, .get valid .configMap⟩

theorem serves_as_memory_foreign :
    ∃ s t, Server.Shows s t ∧ s.objects.contains ⟨"n", .secret, "s"⟩ = true ∧
      (∀ c ∈ mixedCalls, c.Ordinary) ∧
      List.Forall₂ CallTurn.Agrees ((Server.answer.through Client.call).serve mixedCalls s).1
        (Store.answer.serve mixedCalls t).1 :=
  ⟨_, _, shows_foreign, by decide +kernel, mixedCalls_ordinary,
    (serves_as_memory shows_foreign mixedCalls_ordinary).1⟩

end MountKeys
