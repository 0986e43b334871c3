import MountKeys.Proofs.Api.Client
import MountKeys.Proofs.Reconcile.Calls

/-!
# What an API server can come to hold

`Server.Reached` lists what happens to a server: other clients make and lose namespaces, write
objects that can be read and delete them, and runs of any key pairs and names are held over
connections that lose requests and answers.  `Server.Reached.sound` says that every server that
comes of it is sound, so that a client can work with it.

* `Request.Harmless` requests keep each server sound, and `call_asks` shows that a client sends no
  others for the calls of a run.
* `run_keeps_sound` is the step for a whole run.  It knows from the plan of a run which calls there
  are (`CallLaw.planned`), so it does not look into the run.
-/

namespace MountKeys

/-- A request after which each sound server is sound. -/
def Request.Harmless (q : Request) : Prop :=
  ∀ s : Server, s.Sound → (Server.answer q s).2.Sound

namespace Server

variable {s : Server}

/-- A server that takes a namespace stays sound. -/
theorem Sound.addNamespace (sound : s.Sound) (ns : String) : (s.addNamespace ns).Sound :=
  sound

theorem Sound.dropNamespace (sound : s.Sound) (ns : String) : (s.dropNamespace ns).Sound :=
  sound.of_objects fun _ _ h => (SortedMap.get?_filter.1 h).1

theorem Sound.drop (sound : s.Sound) (p : Place) : (s.drop p).Sound :=
  sound.of_objects fun _ _ h => (SortedMap.get?_filter.1 h).1

/-- To read changes nothing. -/
theorem harmless_get (target : String) (body : Option Bytes) :
    Request.Harmless ⟨.get, target, body⟩ := by
  intro s sound
  have same : (answer ⟨.get, target, body⟩ s).2 = s := by
    cases hr : Route.ofTarget? target with
    | none => simp [answer, hr]
    | some route =>
      cases route with
      | namespaces | collection => simp [answer, hr]
      | inNamespace ns =>
        simp only [answer, hr]
        split <;> rfl
      | object p =>
        simp only [answer, hr]
        split <;> rfl
  rw [same]
  exact sound

/-- Any namespace may be created. -/
theorem harmless_postNamespace (body : Option Bytes) :
    Request.Harmless ⟨.post, Request.namespacesPath ++ Request.writerQuery, body⟩ := by
  intro s sound
  simp only [answer, ofTarget?_namespaces, postNamespace]
  split
  · exact sound
  · exact sound.addNamespace _

variable {m : Manifest} {ns name : String}

/-- A manifest may be created where its kind belongs. -/
theorem harmless_postObject (plain : Names.IsPlain ns) :
    (Client.createRequest m ns).Harmless := by
  intro s sound
  simp only [answer, Client.createRequest, ofTarget?_collection plain, postObject,
    Client.bodyOf_tree]
  split
  · exact sound
  split
  · exact sound
  · exact sound.write m.storable_tree

/-- An object may be replaced by a manifest of its kind. -/
theorem harmless_putObject (plain : Names.IsPlain ns) (plain' : Names.IsPlain name) :
    (Client.replaceRequest m ⟨ns, m.kind, name⟩).Harmless := by
  intro s sound
  simp only [answer, Client.replaceRequest, ofTarget?_object_writer plain m.kind plain', putObject,
    Client.bodyOf_tree]
  split
  · exact sound
  split
  · exact sound
  · exact sound.write m.storable_tree

end Server

namespace Reconcile

/-! ## A run over a connection -/

/-- A connection to a server that may lose requests and answers, and give any others: each request
is carried out or has no effect. -/
def Unreliable {τ : Type} (h : Handler Request (fun _ => Reply) (τ × Server)) : Prop :=
  ∀ q t s, (h q (t, s)).2.2 = s ∨ (h q (t, s)).2.2 = (Server.answer q s).2

/-- Each call of a run is put as requests that keep a server sound. -/
theorem call_asks {keys : KeyPair} {names : Names} (valid : names.check = .ok ()) {c : Call}
    {missing : Bool} (planned : c ∈ plan keys names missing) :
    (Client.call c).AsksOnly Request.Harmless := by
  have reading (target : String) : Request.Harmless ⟨.get, target, none⟩ :=
    Server.harmless_get target none
  rcases mem_plan planned with rfl | rfl | ⟨kind, rfl⟩ | ⟨kind, rfl⟩
  · exact Client.namespaceExists_asks reading names.ns
  · exact Client.createNamespace_asks (Server.harmless_postNamespace _)
  · have plain := (Names.check_plain valid).1
    have plain' := Names.place_plain valid kind
    refine Client.apply_asks (Desired.render_ofName keys names kind) plain plain'
      (Server.harmless_postObject plain) (reading _) fun version => ?_
    have harmless := Server.harmless_putObject plain plain'
      (m := ((Desired.render keys names).object kind).replacing version)
    rw [Manifest.replacing_kind] at harmless
    exact harmless
  · exact Client.get_asks reading _

/-- A run leaves a sound server sound, whatever is lost on the way. -/
theorem run_keeps_sound {τ : Type} {h : Handler Request (fun _ => Reply) (τ × Server)}
    (unreliable : Unreliable h) (keys : KeyPair) (names : Names) {t : τ} {s : Server}
    (sound : s.Sound) : ((Client.session (run keys names)).run h (t, s)).state.2.Sound := by
  have step : ∀ q (ts : τ × Server), q.Harmless → ts.2.Sound → (h q ts).2.2.Sound := by
    intro q ⟨t, s⟩ harmless sound
    rcases unreliable q t s with same | done
    · rw [same]
      exact sound
    · rw [done]
      exact harmless s sound
  rw [Client.session, (Dialogue.expand_run Client.call h (run keys names) (t, s)).2]
  have course := run_course (Dialogue.run_ends (h.through Client.call) (run keys names) (t, s))
  have gives := Handler.run_gives (h.through Client.call) (run keys names) (t, s)
  cases valid : names.check with
  | error cause =>
    rw [(course.of_bad valid).2] at gives
    exact gives ▸ sound
  | ok u =>
    refine gives.keeps (P := fun ts => ts.2.Sound) (fun t ht ts sound _ => ?_) sound
    have planned := (course.law valid).planned.subset (List.mem_map_of_mem ht)
    exact (call_asks valid planned).keeps step sound

end Reconcile

/-! ## What happens to a server -/

/-- What a server may be after other clients and earlier runs. -/
inductive Server.Reached : Server → Prop
  | empty : Reached .empty
  | addNamespace {s : Server} (ns : String) : Reached s → Reached (s.addNamespace ns)
  | dropNamespace {s : Server} (ns : String) : Reached s → Reached (s.dropNamespace ns)
  /-- Another client creates or replaces an object, by one that can be read. -/
  | write {s : Server} (p : Place) (j : Json) (told : Option String)
    (decodes : Storable p.kind (s.write p j told).1) : Reached s → Reached (s.write p j told).2
  | drop {s : Server} (p : Place) : Reached s → Reached (s.drop p)
  /-- An earlier run, which may have failed at any call. -/
  | reconciled {s : Server} {τ : Type} {h : Handler Request (fun _ => Reply) (τ × Server)}
    (unreliable : Reconcile.Unreliable h) (keys : KeyPair) (names : Names) (t : τ) :
    Reached s → Reached ((Client.session (Reconcile.run keys names)).run h (t, s)).state.2

/-- Whatever has happened, a client can read all that is there. -/
theorem Server.Reached.sound {s : Server} (h : s.Reached) : s.Sound := by
  induction h with
  | empty => exact sound_empty
  | addNamespace ns _ ih => exact ih.addNamespace ns
  | dropNamespace ns _ ih => exact ih.dropNamespace ns
  | write p j told decodes _ ih => exact ih.insert decodes _ _
  | drop p _ ih => exact ih.drop p
  | reconciled unreliable keys names t _ ih =>
    exact Reconcile.run_keeps_sound unreliable keys names ih

end MountKeys
