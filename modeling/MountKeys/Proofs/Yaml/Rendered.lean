import MountKeys.Command
import MountKeys.Proofs.Api.Client
import MountKeys.Proofs.Base64
import MountKeys.Proofs.Dialogue
import MountKeys.Proofs.Reconcile.Calls
import MountKeys.Proofs.Yaml.Stream

/-!
# What is printed is what is sent

The objects of a key pair leave the program in two ways: they are printed as YAML, and a run posts
them to an API server as JSON.  `yaml_denotes_posted` says that a reader of the YAML gets the very
values that are posted, with all names and the public key as the texts that they are.

Both come from one tree, so what is to be shown is that its YAML is read back (`read_printStream`)
and that its JSON is (`Json.parse_print`).  For the YAML the keys of the tree have to be plain,
which is seen from the two trees: `secret_tree` and `configMap_tree`.
-/

namespace MountKeys

/-! ## The trees of a key pair -/

/-- Bytes as they stand in a tree. -/
def Tree.ofBytes (bytes : Bytes) : Tree :=
  .text (String.ofList (Base64.encode bytes))

theorem ByteMap.tree_eq (m : ByteMap) :
    ByteMap.tree m = .map (m.entries.map fun e => (e.1, Tree.ofBytes e.2)) := by
  rw [ByteMap.tree, Tree.ofMap, SortedMap.mapValues, List.map_map]
  rfl

namespace Desired

/-- The metadata of an object as a tree. -/
def metadataTree (ns name : String) : Tree :=
  .map [("labels", .map [("app.kubernetes.io/managed-by", .text "sshfs-keysync")]),
    ("name", .text name), ("namespace", .text ns)]

/-- The entries of the Secret. -/
def secretEntries (keys : KeyPair) (names : Names) : List (String × Tree) :=
  [("apiVersion", .text apiVersion), ("kind", .text Kind.secret.label),
    ("data", .map [(privateKeyEntry, .ofBytes keys.privateKey),
      (publicKeyEntry, .ofBytes keys.publicKey)]),
    ("metadata", metadataTree names.ns names.secret), ("type", .text "Opaque")]

/-- The field of the ConfigMap with the public key. -/
def publicKeyField (bytes : Bytes) : String × Tree :=
  match Utf8.decode? bytes with
  | some text => ("data", .map [(publicKeyEntry, .text text)])
  | none => ("binaryData", .map [(publicKeyEntry, .ofBytes bytes)])

/-- The entries of the ConfigMap. -/
def configMapEntries (keys : KeyPair) (names : Names) : List (String × Tree) :=
  [("apiVersion", .text apiVersion), ("kind", .text Kind.configMap.label),
    publicKeyField keys.publicKey, ("metadata", metadataTree names.ns names.configMap)]

variable (keys : KeyPair) (names : Names)

theorem secret_tree : (render keys names).secret.tree = .map (secretEntries keys names) := by
  have order : compare publicKeyEntry privateKeyEntry = .gt := by decide +kernel
  have entries : (SortedMap.ofList [(privateKeyEntry, keys.privateKey),
      (publicKeyEntry, keys.publicKey)]).entries =
      [(privateKeyEntry, keys.privateKey), (publicKeyEntry, keys.publicKey)] := by
    change SortedMap.place publicKeyEntry keys.publicKey [(privateKeyEntry, keys.privateKey)] = _
    rw [SortedMap.place, order]
    rfl
  have data := ByteMap.tree_eq (.ofList [(privateKeyEntry, keys.privateKey),
    (publicKeyEntry, keys.publicKey)])
  rw [entries] at data
  rw [Secret.tree, render, secretOf, Option.map_some, data]
  rfl

theorem configMap_tree :
    (render keys names).configMap.tree = .map (configMapEntries keys names) := by
  rw [ConfigMap.tree, render, configMapOf, configMapEntries, publicKeyField]
  cases Utf8.decode? keys.publicKey <;> rfl

/-- All keys of both objects are plain. -/
theorem arePlain :
    Yaml.ArePlain [secretEntries keys names, configMapEntries keys names] := by
  have configMap : Tree.havePlainKeys (configMapEntries keys names) = true := by
    rw [configMapEntries, publicKeyField]
    cases Utf8.decode? keys.publicKey <;> rfl
  intro entries h
  simp only [List.mem_cons, List.not_mem_nil, or_false] at h
  rcases h with rfl | rfl
  · exact ⟨List.cons_ne_nil _ _, rfl⟩
  · exact ⟨List.cons_ne_nil _ _, configMap⟩

/-- The value of an object. -/
def document (kind : Kind) : Json :=
  ((render keys names).object kind).tree.toJson

/-- Two objects are printed as a stream. -/
theorem toYaml_toList {d : Desired} {secret configMap : List (String × Tree)}
    (hsecret : d.secret.tree = .map secret) (hconfigMap : d.configMap.tree = .map configMap) :
    d.toYaml.toList = Yaml.printStream [secret, configMap] := by
  unfold toYaml Yaml.printStream
  simp only [String.toList_ofList, hsecret, hconfigMap, List.flatMap_cons, List.flatMap_nil,
    List.append_nil, List.append_assoc]

/-- A reader of the YAML gets the values of both objects. -/
theorem read_toYaml :
    Yaml.read (render keys names).toYaml.toList =
      some [document keys names .secret, document keys names .configMap] := by
  have secret := secret_tree keys names
  have configMap := configMap_tree keys names
  rw [toYaml_toList secret configMap, Yaml.read_printStream (arePlain keys names), document,
    document, object, object, Manifest.tree, Manifest.tree, secret, configMap]
  rfl

end Desired

/-! ## What the values say -/

/-- The value at the end of a path of names. -/
def Json.at? (path : List String) (j : Json) : Option Json :=
  path.foldlM (fun j name => j.field? name) j

/-- Whether a value has bytes at the end of a path, in base64. -/
def Json.HoldsBytes (j : Json) (path : List String) (bytes : Bytes) : Prop :=
  ∃ text, j.at? path = some (.text text) ∧ Base64.decode? text.toList = some bytes

/-- What two values say about a key pair and its names. -/
structure Tells (keys : KeyPair) (names : Names) (document : Kind → Json) : Prop where
  /-- Names are texts, whatever they look like. -/
  name : ∀ kind, (document kind).at? ["metadata", "name"] = some (.text (names.place kind).name)
  ns : ∀ kind, (document kind).at? ["metadata", "namespace"] = some (.text names.ns)
  privateKey : (document .secret).HoldsBytes ["data", privateKeyEntry] keys.privateKey
  publicKey : (document .secret).HoldsBytes ["data", publicKeyEntry] keys.publicKey
  /-- A public key that is a text is that text in the ConfigMap. -/
  text : ∀ text, Utf8.decode? keys.publicKey = some text →
    (document .configMap).at? ["data", publicKeyEntry] = some (.text text) ∧
      textBytes text = keys.publicKey
  /-- A public key that is no text is there as bytes. -/
  binary : Utf8.decode? keys.publicKey = none →
    (document .configMap).HoldsBytes ["binaryData", publicKeyEntry] keys.publicKey

namespace Desired

variable (keys : KeyPair) (names : Names)

theorem document_secret : document keys names .secret =
    .object (Tree.entriesToJson (secretEntries keys names)) := by
  rw [document, object, Manifest.tree, secret_tree]
  rfl

theorem document_configMap : document keys names .configMap =
    .object (Tree.entriesToJson (configMapEntries keys names)) := by
  rw [document, object, Manifest.tree, configMap_tree]
  rfl

/-- The values of the two objects say what they are to say. -/
theorem document_tells : Tells keys names (document keys names) where
  name kind := by
    cases kind with
    | secret => rw [document_secret]; rfl
    | configMap => rw [document_configMap]; rfl
  ns kind := by
    cases kind with
    | secret => rw [document_secret]; rfl
    | configMap => rw [document_configMap]; rfl
  privateKey := ⟨_, by rw [document_secret]; rfl, by simp⟩
  publicKey := ⟨_, by rw [document_secret]; rfl, by simp⟩
  text text h := by
    rw [document_configMap, configMapEntries, publicKeyField, h]
    exact ⟨rfl, Utf8.textBytes_of_decode? h⟩
  binary h := by
    rw [document_configMap, configMapEntries, publicKeyField, h]
    exact ⟨_, rfl, by simp⟩

end Desired

/-! ## What a client posts -/

/-- Whether a request posts a value as an object of a kind. -/
structure Request.Posts (names : Names) (kind : Kind) (j : Json) (q : Request) : Prop where
  method : q.method = .post
  target : q.target = Request.collectionPath names.ns kind ++ Request.writerQuery
  /-- The body is a text that is read as the value. -/
  body : ∃ bytes text, q.body = some bytes ∧ Utf8.decode bytes = .ok text ∧
    Json.parse text = some j

namespace Client

/-- Whether a request that posts something posts one of two values, or the namespace. -/
def PostsOnly (document : Kind → Json) (names : Names) (q : Request) : Prop :=
  q.method = .post →
    q = ⟨.post, Request.namespacesPath ++ Request.writerQuery,
      some (bodyOf (namespaceTree names.ns))⟩ ∨
    ∃ kind, q.Posts names kind (document kind)

/-- The request to create an object posts its value. -/
theorem createRequest_posts (names : Names) (m : Manifest) :
    (createRequest m names.ns).Posts names m.kind m.tree.toJson where
  method := rfl
  target := rfl
  body := ⟨bodyOf m.tree, _, rfl, Utf8.decode_encode _, Json.parse_print m.tree.toJson_isProper⟩

/-- The request to create an object of a key pair posts its value. -/
theorem createRequest_document (keys : KeyPair) (names : Names) (kind : Kind) :
    (createRequest ((Desired.render keys names).object kind) names.ns).Posts names kind
      (Desired.document keys names kind) := by
  have posts := createRequest_posts names ((Desired.render keys names).object kind)
  rwa [Desired.object_kind] at posts

variable {names : Names} (valid : names.check = .ok ()) (keys : KeyPair)
include valid

/-- To apply an object of a key pair is to post it first. -/
theorem apply_posts (kind : Kind) {σ : Type} (h : Handler Request (fun _ => Reply) σ) (s : σ) :
    ((call (.apply ((Desired.render keys names).object kind))).run h s).asked.head? =
      some (createRequest ((Desired.render keys names).object kind) names.ns) := by
  rw [call, apply_eq (Names.check_plain valid).1 (Names.place_plain valid kind)
    (Desired.render_ofName keys names kind)]
  rfl

/-- The requests for a call of the plan post nothing else. -/
theorem call_postsOnly {c : Call} {missing : Bool}
    (planned : c ∈ Reconcile.plan keys names missing) :
    (call c).AsksOnly (PostsOnly (Desired.document keys names) names) := by
  have reading (target : String) :
      PostsOnly (Desired.document keys names) names ⟨.get, target, none⟩ :=
    fun h => nomatch h
  rcases Reconcile.mem_plan planned with rfl | rfl | ⟨kind, rfl⟩ | ⟨kind, rfl⟩
  · exact namespaceExists_asks reading names.ns
  · exact createNamespace_asks fun _ => .inl rfl
  · exact apply_asks (Desired.render_ofName keys names kind) (Names.check_plain valid).1
      (Names.place_plain valid kind) (fun _ => .inr ⟨kind, createRequest_document keys names kind⟩)
      (reading _) fun _ h => nomatch h
  · exact get_asks reading _

end Client

/-! ## A run -/

section Run

variable {names : Names} (valid : names.check = .ok ()) (keys : KeyPair) {σ : Type}
  (h : Handler Request (fun _ => Reply) σ) (s : σ)
include valid

/-- The calls behind the requests of a run follow its plan. -/
theorem run_law :
    Reconcile.CallLaw keys names ((Reconcile.run keys names).turns (h.through Client.call) s)
      ((Reconcile.run keys names).run (h.through Client.call) s).value :=
  (Reconcile.run_course (Dialogue.run_ends (h.through Client.call) _ s)).law valid

/-- A run posts nothing but the values of its two objects, and the namespace. -/
theorem run_postsOnly :
    ∀ q ∈ ((Client.session (Reconcile.run keys names)).run h s).asked,
      Client.PostsOnly (Desired.document keys names) names q := by
  have planned := (run_law valid keys h s).planned
  exact fun q => Dialogue.AsksOnly.of_mem_expand fun t ht =>
    Client.call_postsOnly valid keys (planned.subset (List.mem_map_of_mem ht))

/-- A run that succeeds has posted the values of both objects. -/
theorem run_posts (done : ∃ report,
    ((Client.session (Reconcile.run keys names)).run h s).value = .ok report) (kind : Kind) :
    ∃ q ∈ ((Client.session (Reconcile.run keys names)).run h s).asked,
      q.Posts names kind (Desired.document keys names kind) := by
  have law := run_law valid keys h s
  rw [Client.session, (Dialogue.expand_run Client.call h _ s).1] at done
  have all := law.finishes (law.ok_iff.1 done)
  have called : (Call.apply ((Desired.render keys names).object kind)) ∈
      ((Reconcile.run keys names).turns (h.through Client.call) s).map Sigma.fst := by
    rw [all]
    cases kind <;> simp [Reconcile.plan, Reconcile.objectPlan]
  obtain ⟨⟨c, answer⟩, ht, rfl⟩ := List.mem_map.1 called
  obtain ⟨s', held⟩ := Dialogue.inner_of_mem Client.call h ht s
  have first := List.mem_of_head? (Client.apply_posts valid keys kind h s')
  rw [Dialogue.run_asked] at first
  obtain ⟨u, hu, posts⟩ := List.mem_map.1 first
  refine ⟨_, ?_, Client.createRequest_document keys names kind⟩
  rw [Dialogue.run_asked, Client.session, Dialogue.expand_turns, ← posts]
  exact List.mem_map_of_mem (held u hu)

end Run

/-- What is printed when the objects of a key pair are to be printed. -/
theorem runRender_prints {task : Task} {files : Files} {keys : KeyPair} {notices : List Notice}
    (prepared : Command.prepare task files = .ok (keys, notices)) {σ : Type}
    (h : Handler Call Call.Answer σ) (s : σ) :
    ((Command.runRender task files).run h s).value =
      .success (Desired.render keys task.names).toYaml := by
  rw [Command.runRender, prepared]
  simp only [Dialogue.bind_eq, Dialogue.run_bind, Dialogue.run_logAll]
  rfl

/-! ## Both ways -/

/-- What is printed for a key pair denotes what is posted for it: two values. -/
structure Denotes (keys : KeyPair) (names : Names) (document : Kind → Json) : Prop where
  /-- The YAML is what the command prints for these names where it finds these keys. -/
  printed : ∀ (task : Task) (files : Files) (notices : List Notice), task.names = names →
    Command.prepare task files = .ok (keys, notices) →
    ∀ (σ : Type) (h : Handler Call Call.Answer σ) (s : σ),
      ((Command.runRender task files).run h s).value =
        .success (Desired.render keys names).toYaml
  /-- A reader of the YAML gets the two values. -/
  read : Yaml.read (Desired.render keys names).toYaml.toList =
    some [document .secret, document .configMap]
  /-- A client that applies an object first posts its value. -/
  first : ∀ (kind : Kind) (σ : Type) (h : Handler Request (fun _ => Reply) σ) (s : σ), ∃ q,
    ((Client.call (.apply ((Desired.render keys names).object kind))).run h s).asked.head? =
      some q ∧ q.Posts names kind (document kind)
  /-- A run that succeeds has posted both values. -/
  posted : ∀ (σ : Type) (h : Handler Request (fun _ => Reply) σ) (s : σ),
    let r := (Client.session (Reconcile.run keys names)).run h s
    (∃ report, r.value = .ok report) →
      ∀ kind, ∃ q ∈ r.asked, q.Posts names kind (document kind)
  /-- No run posts anything else, but for the namespace. -/
  only : ∀ (σ : Type) (h : Handler Request (fun _ => Reply) σ) (s : σ),
    ∀ q ∈ ((Client.session (Reconcile.run keys names)).run h s).asked,
      Client.PostsOnly document names q

/-- A reader of the YAML that is printed for a key pair gets the values that are posted for it, in
which the names and the public key are the texts that they are. -/
theorem yaml_denotes_posted (keys : KeyPair) {names : Names} (valid : names.check = .ok ()) :
    ∃ document, Denotes keys names document ∧ Tells keys names document := by
  refine ⟨Desired.document keys names, ?_, Desired.document_tells keys names⟩
  refine ⟨?_, Desired.read_toYaml keys names, ?_, ?_, ?_⟩
  · rintro task files notices rfl prepared σ h s
    exact runRender_prints prepared h s
  · intro kind σ h s
    exact ⟨_, Client.apply_posts valid keys kind h s, Client.createRequest_document keys names kind⟩
  · intro σ h s r done kind
    exact run_posts valid keys h s done kind
  · exact fun σ h s => run_postsOnly valid keys h s

/-- Names that look like numbers and like nothing, and a key that starts with a space and ends with
two line breaks. -/
theorem yaml_denotes_posted_lookalikes :
    let names : Names := ⟨"123", "1e3", "null"⟩
    let keys : KeyPair := ⟨[0xFF, 0x00], [0x20, 0x78, 0x0A, 0x0A]⟩
    names.check = .ok () ∧ ∃ document, Denotes keys names document ∧
      (document .secret).at? ["metadata", "namespace"] = some (.text "123") ∧
      (document .secret).at? ["metadata", "name"] = some (.text "1e3") ∧
      (document .configMap).at? ["metadata", "name"] = some (.text "null") ∧
      (document .configMap).at? ["data", "id_rsa.pub"] = some (.text " x\n\n") := by
  intro names keys
  have valid : names.check = .ok () := by decide +kernel
  obtain ⟨document, denotes, tells⟩ := yaml_denotes_posted keys valid
  have text : Utf8.decode? keys.publicKey = some " x\n\n" := by decide +kernel
  exact ⟨valid, document, denotes, tells.ns .secret, tells.name .secret, tells.name .configMap,
    (tells.text _ text).1⟩

end MountKeys
