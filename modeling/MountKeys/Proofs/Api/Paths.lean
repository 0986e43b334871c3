import Mathlib.Data.List.TakeWhile
import MountKeys.Proofs.Names.Grammar
import MountKeys.Proofs.Reconcile.Calls
import MountKeys.Proofs.Status

/-!
# Where requests go

Names go into the path of a request as they are, so it is the check of the names alone that keeps a
request where it belongs.  `names_cannot_redirect` says that this is enough.  Whatever is answered,
a run and an inspection send requests to six paths only, a name is one step of such a path and
nothing else, and the path of an object tells its namespace, its kind and its name.

* `Names.paths` are the six paths, written out; `Request.StaysOn` says that a request goes to one of
  them.
* `IsStep` says what a text must not be to be one step of a path.  `Names.isStep_of_checkOne` draws
  it from the check, and `Names.steps_of_mem_paths` carries it to whole paths.
* `Client.call_staysOn` goes through the calls of a run and of an inspection.
-/

namespace MountKeys

/-! ## Paths -/

/-- The path of a request: its target without the query. -/
def Request.path (q : Request) : String :=
  String.ofList (q.target.toList.takeWhile (· != '?'))

/-- The paths that the names stand for. -/
def Names.paths (names : Names) : List String :=
  ["/api/v1/namespaces",
    "/api/v1/namespaces/" ++ names.ns,
    "/api/v1/namespaces/" ++ names.ns ++ "/secrets",
    "/api/v1/namespaces/" ++ names.ns ++ "/secrets/" ++ names.secret,
    "/api/v1/namespaces/" ++ names.ns ++ "/configmaps",
    "/api/v1/namespaces/" ++ names.ns ++ "/configmaps/" ++ names.configMap]

/-- A request goes to a path that the names stand for, with the query of a writer or with none. -/
structure Request.StaysOn (names : Names) (q : Request) : Prop where
  path : q.path ∈ names.paths
  query : q.target = q.path ∨ q.target = q.path ++ "?&fieldManager=sshfs-keysync"

namespace Request

/-- A request to a path, with the query of a writer or with none. -/
theorem Spells.staysOn {names : Names} {text : String} {parts : List String}
    (spells : Spells text parts) (mem : text ∈ names.paths) (method : Method)
    (body : Option Bytes) :
    StaysOn names ⟨method, text, body⟩ ∧ StaysOn names ⟨method, text ++ writerQuery, body⟩ := by
  have free (c : Char) (hc : c ∈ text.toList) : (c != '?') = true :=
    bne_iff_ne.2 (spells.path_chars c hc).2.1
  have bare : (⟨method, text, body⟩ : Request).path = text := by
    rw [path, List.takeWhile_eq_self_iff.2 free, String.ofList_toList]
  have queried : (⟨method, text ++ writerQuery, body⟩ : Request).path = text := by
    have query : writerQuery.toList.takeWhile (· != '?') = [] := rfl
    rw [path, String.toList_append, List.takeWhile_append_of_pos free, query, List.append_nil,
      String.ofList_toList]
  exact ⟨⟨bare.symm ▸ mem, .inl bare.symm⟩, ⟨queried.symm ▸ mem, .inr (queried.symm ▸ rfl)⟩⟩

/-- A text spells one list of parts. -/
theorem Spells.unique {text : String} {parts parts' : List String} (spells : Spells text parts)
    (spells' : Spells text parts') : parts = parts' := by
  have same := (List.cons.inj (spells.splitOn.symm.trans spells'.splitOn)).2
  exact List.map_injective_iff.2 (fun _ _ => String.toList_inj.1) same

end Request

/-! ## Names as steps -/

/-- A text that is one step of a path and nothing else: it ends neither the step nor the path, it
stands for no other text, and it does not lead back. -/
structure IsStep (text : String) : Prop where
  nonempty : text ≠ ""
  ordinary : ∀ c ∈ text.toList, c ≠ '/' ∧ c ≠ '?' ∧ c ≠ '#' ∧ c ≠ '%'
  notHere : text ≠ "."
  notBack : text ≠ ".."

instance (text : String) : Decidable (IsStep text) :=
  decidable_of_iff
    (text ≠ "" ∧ text.toList.all (fun c => c ≠ '/' ∧ c ≠ '?' ∧ c ≠ '#' ∧ c ≠ '%') = true ∧
      text ≠ "." ∧ text ≠ "..")
    ⟨fun h => ⟨h.1, by simpa using h.2.1, h.2.2.1, h.2.2.2⟩,
      fun h => ⟨h.1, by simpa using h.2, h.3, h.4⟩⟩

namespace Names

/-- A name that passes the check is a step. -/
theorem isStep_of_checkOne {role : Role} {value : String} (h : checkOne role value = .ok ()) :
    IsStep value := by
  have plain := checkOne_plain h
  have not_dot (text : String) (dots : completes role.allowsDots .boundary text.toList = false) :
      value ≠ text := by
    rintro rfl
    have complete := (role.completes_iff _).2 (checkOne_ok_iff.1 h).2.2
    exact nomatch dots.symm.trans complete
  refine ⟨plain.nonempty, fun c hc => ?_, not_dot "." ?_, not_dot ".." ?_⟩
  · have ordinary (d : Char) (hd : isPlainChar d = false) : c ≠ d := by
      rintro rfl
      exact nomatch hd.symm.trans (plain.chars c hc)
    exact ⟨ordinary _ rfl, ordinary _ rfl, ordinary _ rfl, ordinary _ rfl⟩
  · cases role <;> rfl
  · cases role <;> rfl

/-- The six paths are the collection of the namespaces, the namespace, and for each kind the
collection and the object. -/
theorem mem_paths_iff {names : Names} {path : String} :
    path ∈ names.paths ↔ path = Request.namespacesPath ∨ path = Request.namespacePath names.ns ∨
      ∃ kind, path = Request.collectionPath names.ns kind ∨
        path = Request.objectPath (names.place kind) := by
  have collection (kind : Kind) : Request.collectionPath names.ns kind =
      "/api/v1/namespaces/" ++ names.ns ++ ("/" ++ kind.plural) := by
    simp [Request.collectionPath, Request.namespacePath, Request.namespacesPath,
      String.append_assoc]
  have object (kind : Kind) : Request.objectPath (names.place kind) =
      "/api/v1/namespaces/" ++ names.ns ++ ("/" ++ kind.plural ++ "/") ++
        (names.place kind).name := by
    simp [Request.objectPath, Request.collectionPath, Request.namespacePath,
      Request.namespacesPath, String.append_assoc]
  simp only [paths, Kind.exists_iff, collection, object, List.mem_cons, List.not_mem_nil, or_false]
  simp [Kind.plural, place, Request.namespacesPath, Request.namespacePath, or_assoc,
    String.append_assoc]

variable {names : Names} (valid : names.check = .ok ())
include valid

theorem spells_place (kind : Kind) :
    Request.Spells (Request.objectPath (names.place kind))
      ["api", "v1", "namespaces", names.ns, kind.plural, (names.place kind).name] := by
  have spells := Request.spells_object (check_plain valid).1 kind (place_plain valid kind)
  cases kind <;> exact spells

/-- The path of an object tells which one it is. -/
theorem objectPath_inj {names' : Names} (valid' : names'.check = .ok ()) {kind kind' : Kind} :
    Request.objectPath (names.place kind) = Request.objectPath (names'.place kind') ↔
      names.place kind = names'.place kind' := by
  refine ⟨fun same => ?_, congrArg _⟩
  have parts := (spells_place valid kind).unique (same ▸ spells_place valid' kind')
  obtain ⟨ns, plural, name⟩ : names.ns = names'.ns ∧ kind.plural = kind'.plural ∧
      (names.place kind).name = (names'.place kind').name := by simpa using parts
  have kinds : kind = kind' := by
    simpa using congrArg Server.kindOf? plural
  subst kinds
  cases kind <;> simp_all [place]

/-- A path that the names stand for is spelled by steps. -/
theorem steps_of_mem_paths {path : String} (mem : path ∈ names.paths) :
    ∃ steps, Request.Spells path steps ∧ ∀ step ∈ steps, IsStep step := by
  have checked (role : Role) : IsStep (names.value role) :=
    isStep_of_checkOne (check_ok_iff.1 valid role)
  have api : ∀ step ∈ ["api", "v1", "namespaces"], IsStep step := by decide
  have ns : ∀ step ∈ ["api", "v1", "namespaces", names.ns], IsStep step :=
    List.forall_mem_append.2 ⟨api, List.forall_mem_singleton.2 (checked .ns)⟩
  have collection (kind : Kind) :
      ∀ step ∈ ["api", "v1", "namespaces", names.ns, kind.plural], IsStep step := by
    refine List.forall_mem_append.2 ⟨ns, List.forall_mem_singleton.2 ?_⟩
    cases kind <;> decide
  have name (kind : Kind) : IsStep (names.place kind).name := by
    cases kind with
    | secret => exact checked .secret
    | configMap => exact checked .configMap
  have plain := (check_plain valid).1
  rcases mem_paths_iff.1 mem with rfl | rfl | ⟨kind, rfl | rfl⟩
  · exact ⟨_, Request.spells_namespaces, api⟩
  · exact ⟨_, Request.spells_namespace plain, ns⟩
  · exact ⟨_, Request.spells_collection plain kind, collection kind⟩
  · exact ⟨_, spells_place valid kind,
      List.forall_mem_append.2 ⟨collection kind, List.forall_mem_singleton.2 (name kind)⟩⟩

end Names

/-! ## Requests -/

namespace Client

variable {names : Names} (valid : names.check = .ok ())
include valid

/-- To look for the namespace is to send a request to its path. -/
theorem lookup_staysOn : (call (.namespaceExists names.ns)).AsksOnly (Request.StaysOn names) := by
  have spells := Request.spells_namespace (Names.check_plain valid).1
  have mem : Request.namespacePath names.ns ∈ names.paths :=
    Names.mem_paths_iff.2 (.inr (.inl rfl))
  rw [call, exchangeNamed_eq (spells.target? (by simp)) (Names.check_plain valid).1.nonempty]
  exact .ask (spells.staysOn mem .get none).1 fun _ => .done _

/-- To read an object of the names is to send a request to its path. -/
theorem get_staysOn (kind : Kind) :
    (call (.get (names.place kind))).AsksOnly (Request.StaysOn names) := by
  have spells := Names.spells_place valid kind
  have mem : Request.objectPath (names.place kind) ∈ names.paths :=
    Names.mem_paths_iff.2 (.inr (.inr ⟨kind, .inr rfl⟩))
  rw [call, read,
    exchangeNamed_eq (spells.target? (by simp)) (Names.place_plain valid kind).nonempty]
  exact .ask (spells.staysOn mem .get none).1 fun _ => .done _

/-- A call of a run is put as requests that stay on the paths. -/
theorem call_staysOn {keys : KeyPair} {missing : Bool} {c : Call}
    (planned : c ∈ Reconcile.plan keys names missing) :
    (call c).AsksOnly (Request.StaysOn names) := by
  have plain := (Names.check_plain valid).1
  have mem {path : String} := @Names.mem_paths_iff names path
  rcases Reconcile.mem_plan planned with rfl | rfl | ⟨kind, rfl⟩ | ⟨kind, rfl⟩
  · exact lookup_staysOn valid
  · exact createNamespace_asks
      (Request.spells_namespaces.staysOn (mem.2 (.inl rfl)) .post _).2
  · have here : (⟨names.ns, ((Desired.render keys names).object kind).kind,
        (names.place kind).name⟩ : Place) = names.place kind := by
      rw [Desired.object_kind]
      cases kind <;> rfl
    have spells := Names.spells_place valid kind
    have object := mem.2 (.inr (.inr ⟨kind, .inr rfl⟩))
    have collection := (Request.spells_collection plain kind).staysOn
      (mem.2 (.inr (.inr ⟨kind, .inl rfl⟩))) .post
    refine apply_asks (Desired.render_ofName keys names kind) plain (Names.place_plain valid kind)
      ?_ ?_ ?_
    · rw [createRequest, Desired.object_kind]
      exact (collection _).2
    · rw [here]
      exact (spells.staysOn object .get _).1
    · intro version
      rw [here]
      exact (spells.staysOn object .put _).2
  · exact get_staysOn valid kind

end Client

/-- Names that pass the check cannot redirect a request, whatever is answered.  A run and an
inspection send requests to the paths that the names stand for and to no others; each name is one
step, and so is all else between the slashes of such a path; and the path of an object tells its
kind, its namespace and its name. -/
theorem names_cannot_redirect {names : Names} (valid : names.check = .ok ()) :
    (∀ (σ : Type) (h : Handler Request (fun _ => Reply) σ) (s : σ),
      (∀ keys : KeyPair, ∀ q ∈ ((Client.session (Reconcile.run keys names)).run h s).asked,
        q.StaysOn names) ∧
      ∀ own : Option KeyPair, ∀ q ∈ ((Client.session (Inspection.run names own)).run h s).asked,
        q.StaysOn names) ∧
    (∀ role, IsStep (names.value role)) ∧
    (∀ path ∈ names.paths, ∃ steps : List String,
      path.toList.splitOn '/' = [] :: steps.map String.toList ∧ ∀ step ∈ steps, IsStep step) ∧
    ∀ names' : Names, names'.check = .ok () → ∀ kind kind',
      Request.objectPath (names.place kind) = Request.objectPath (names'.place kind') →
        names.place kind = names'.place kind' := by
  refine ⟨fun σ h s => ⟨fun keys q hq => ?_, fun own q hq => ?_⟩, fun role => ?_,
    fun path mem => ?_, fun names' valid' kind kind' => (Names.objectPath_inj valid valid').1⟩
  · have course := Reconcile.run_course
      (Dialogue.run_ends (h.through Client.call) (Reconcile.run keys names) s)
    refine Dialogue.AsksOnly.of_mem_expand (fun t ht => ?_) hq
    exact Client.call_staysOn valid
      ((course.law valid).planned.subset (List.mem_map_of_mem ht))
  · refine ((Inspection.run_asks names own).expand ?_).of_mem hq
    rintro c (rfl | ⟨kind, rfl⟩)
    · exact Client.lookup_staysOn valid
    · exact Client.get_staysOn valid kind
  · exact Names.isStep_of_checkOne (Names.check_ok_iff.1 valid role)
  · obtain ⟨steps, spells, all⟩ := Names.steps_of_mem_paths valid mem
    exact ⟨steps, spells.splitOn, all⟩

/-- One dotted name for both objects, and a server that has neither of them. -/
theorem names_cannot_redirect_dotted :
    let names : Names := ⟨"n", "a.b", "a.b"⟩
    let r := (Client.session (Inspection.run names none)).run Server.answer
      (Server.empty.addNamespace "n")
    names.check = .ok () ∧ (∀ q ∈ r.asked, q.StaysOn names) ∧
      "/api/v1/namespaces/n/secrets/a.b" ∈ r.asked.map Request.path ∧ IsStep "a.b" ∧
      Request.objectPath (names.place .secret) ≠ Request.objectPath (names.place .configMap) := by
  intro names r
  have valid : names.check = .ok () := by decide +kernel
  obtain ⟨stay, steps, -, tells⟩ := names_cannot_redirect valid
  refine ⟨valid, (stay _ _ _).2 none, by decide +kernel, steps .secret, fun same => ?_⟩
  exact nomatch Names.place_inj.1 (tells names valid .secret .configMap same)

end MountKeys
