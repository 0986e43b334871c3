import MountKeys.Cluster.Memory
import MountKeys.Command
import MountKeys.Proofs.Dialogue

/-!
# What is looked at before the first call

A run for two key files has three preconditions: the names are good, and both files can be read.
`FirstFault` is the one that is to be told of.  The commands look at them in this order
(`prepare_error_iff`); `Reconcile.runFiles` leaves the names to the run itself and so reads the
files first.  As long as the names are good or the files can be read the order makes no difference
(`agree_of`), and `agree_iff` says that otherwise it always makes one.
-/

namespace MountKeys

/-! ## Preconditions -/

/-- The first precondition of a task that fails: the names, the private key, the public key. -/
inductive FirstFault (task : Task) (files : Files) : RunError → Prop
  | names {cause} (bad : task.names.check = .error cause) :
    FirstFault task files (.invalidNames cause)
  | privateKey {fault} (good : task.names.check = .ok ())
    (missing : task.keyFiles.read files .privateKey = .error fault) :
    FirstFault task files (.missingKey fault)
  | publicKey {file fault} (good : task.names.check = .ok ())
    (found : task.keyFiles.read files .privateKey = .ok file)
    (missing : task.keyFiles.read files .publicKey = .error fault) :
    FirstFault task files (.missingKey fault)

namespace KeyFiles

variable {paths : KeyFiles} {files : Files} {fault : KeyFault}

theorem load_of_privateKey (missing : paths.read files .privateKey = .error fault) :
    paths.load files = .error fault := by
  rw [load, missing]

theorem load_of_publicKey {file : File} (found : paths.read files .privateKey = .ok file)
    (missing : paths.read files .publicKey = .error fault) :
    paths.load files = .error fault := by
  rw [load, found]
  simp only [missing]

/-- Files that cannot be loaded are the first fault of a task with good names. -/
theorem firstFault_of_load {task : Task} (good : task.names.check = .ok ())
    (missing : task.keyFiles.load files = .error fault) :
    FirstFault task files (.missingKey fault) := by
  rw [load] at missing
  split at missing
  next h =>
    cases missing
    exact .privateKey good h
  next found =>
    split at missing
    next h =>
      cases missing
      exact .publicKey good found h
    next => exact nomatch missing

end KeyFiles

/-! ## The commands -/

namespace Command

variable {task : Task} {files : Files} {e : RunError}

/-- The commands tell of the first fault. -/
theorem prepare_error_iff : prepare task files = .error e ↔ FirstFault task files e := by
  constructor
  · intro failed
    rw [prepare] at failed
    split at failed
    next bad =>
      cases failed
      exact .names bad
    next good =>
      split at failed
      next missing =>
        cases failed
        exact KeyFiles.firstFault_of_load good missing
      next => exact nomatch failed
  · intro fault
    rw [prepare]
    cases fault with
    | names bad => rw [bad]
    | privateKey good missing => simp only [good, KeyFiles.load_of_privateKey missing]
    | publicKey good found missing => simp only [good, KeyFiles.load_of_publicKey found missing]

theorem prepare_of_loaded {loaded : KeyPair × List Notice} (good : task.names.check = .ok ())
    (h : task.keyFiles.load files = .ok loaded) : prepare task files = .ok loaded := by
  rw [prepare, good]
  simp only [h]

/-- The first fault is all that `apply` comes to, before it connects to a cluster. -/
theorem runApply_of_fault (fault : FirstFault task files e) (config : Kubeconfig) :
    runApply task files config = .done (.failure "" (.ofRun e)) := by
  rw [runApply, prepare_error_iff.2 fault]
  rfl

/-- The first fault is all that `render` comes to. -/
theorem runRender_of_fault (fault : FirstFault task files e) :
    runRender task files = .done (.failure "" (.ofRun e)) := by
  rw [runRender, prepare_error_iff.2 fault]
  rfl

end Command

/-! ## The run for two files -/

namespace Reconcile

variable {paths : KeyFiles} {files : Files} {names : Names}

/-- Names that are refused end a run before it begins. -/
theorem run_of_invalid {cause : Names.Invalid} (bad : names.check = .error cause)
    (keys : KeyPair) : run keys names = .done (.error (.invalidNames cause)) := by
  rw [run, bad]
  rfl

theorem runFiles_of_missing {fault : KeyFault} (missing : paths.load files = .error fault) :
    runFiles paths files names = .done (.error (.missingKey fault)) := by
  rw [runFiles, missing]
  rfl

theorem runFiles_of_loaded {keys : KeyPair} {notices : List Notice}
    (loaded : paths.load files = .ok (keys, notices)) :
    runFiles paths files names = (Dialogue.logAll notices).bind fun () => run keys names := by
  rw [runFiles, loaded]
  rfl

end Reconcile

/-! ## All three entries -/

/-- What is so where the run for two files and the commands agree on a task. -/
structure Agree (task : Task) (files : Files) : Prop where
  /-- All of them end in the first fault, before any call. -/
  refused : ∀ e, FirstFault task files e →
    ∀ (σ : Type) (h : Handler Call Call.Answer σ) (s : σ),
      (∃ notices, (Reconcile.runFiles task.keyFiles files task.names).run h s =
        ⟨.error e, notices, [], s⟩) ∧
      (∀ config, (Command.runApply task files config).run h s =
        ⟨.failure "" (.ofRun e), [], [], s⟩) ∧
      (Command.runRender task files).run h s = ⟨.failure "" (.ofRun e), [], [], s⟩
  /-- Without a fault, the run for the files is the one that `apply` makes and tells of. -/
  made : ∀ keys notices, task.names.check = .ok () →
    task.keyFiles.load files = .ok (keys, notices) →
    let session := Reconcile.runFiles task.keyFiles files task.names
    session = ((Dialogue.logAll notices).bind fun () => Reconcile.run keys task.names) ∧
      ∀ config : Kubeconfig, config.connect task.context = .ok () →
        Command.runApply task files config =
          session.bind fun result => .done (Command.applyOutcome task.names result)

variable {task : Task} {files : Files}

/-- Without a fault, `apply` tells of the run for the files. -/
theorem Command.runApply_eq_runFiles {loaded : KeyPair × List Notice}
    (good : task.names.check = .ok ()) (h : task.keyFiles.load files = .ok loaded)
    {config : Kubeconfig} (connected : config.connect task.context = .ok ()) :
    Command.runApply task files config =
      (Reconcile.runFiles task.keyFiles files task.names).bind fun result =>
        .done (Command.applyOutcome task.names result) := by
  rw [Reconcile.runFiles_of_loaded h, Command.runApply, Command.prepare_of_loaded good h,
    Dialogue.bind_assoc]
  simp only [connected]
  rfl

/-- The order of the checks makes no difference where the names and the files do not fail both. -/
theorem agree_of
    (h : task.names.check = .ok () ∨ ∃ loaded, task.keyFiles.load files = .ok loaded) :
    Agree task files where
  refused e fault σ handler s := by
    rw [Command.runRender_of_fault fault]
    refine ⟨?_, fun config => by rw [Command.runApply_of_fault fault]; rfl, rfl⟩
    cases fault with
    | names bad =>
      obtain good | ⟨⟨keys, notices⟩, loaded⟩ := h
      · exact nomatch good.symm.trans bad
      · rw [Reconcile.runFiles_of_loaded loaded, Dialogue.run_bind, Dialogue.run_logAll,
          Reconcile.run_of_invalid bad]
        exact ⟨notices ++ [], rfl⟩
    | privateKey _ missing =>
      rw [Reconcile.runFiles_of_missing (KeyFiles.load_of_privateKey missing)]
      exact ⟨[], rfl⟩
    | publicKey _ found missing =>
      rw [Reconcile.runFiles_of_missing (KeyFiles.load_of_publicKey found missing)]
      exact ⟨[], rfl⟩
  made keys notices good loaded :=
    ⟨Reconcile.runFiles_of_loaded loaded,
      fun _ connected => Command.runApply_eq_runFiles good loaded connected⟩

/-- The entries agree on a task unless the names are bad and a file cannot be read.  Then the
commands tell of the names, and the run for the files tells of the file. -/
theorem agree_iff (task : Task) (files : Files) :
    (Agree task files ↔
      task.names.check = .ok () ∨ ∃ loaded, task.keyFiles.load files = .ok loaded) ∧
    ∀ cause fault, task.names.check = .error cause → task.keyFiles.load files = .error fault →
      (∀ config, Command.runApply task files config =
        .done (.failure "" (.ofRun (.invalidNames cause)))) ∧
      Command.runRender task files = .done (.failure "" (.ofRun (.invalidNames cause))) ∧
      Reconcile.runFiles task.keyFiles files task.names = .done (.error (.missingKey fault)) := by
  refine ⟨⟨fun agree => ?_, agree_of⟩, fun cause fault bad missing =>
    ⟨Command.runApply_of_fault (.names bad), Command.runRender_of_fault (.names bad),
      Reconcile.runFiles_of_missing missing⟩⟩
  cases bad : task.names.check with
  | ok => exact .inl rfl
  | error cause =>
    cases missing : task.keyFiles.load files with
    | ok loaded => exact .inr ⟨loaded, rfl⟩
    | error fault =>
      obtain ⟨⟨notices, run⟩, -⟩ := agree.refused _ (.names bad) Store Store.answer .empty
      rw [Reconcile.runFiles_of_missing missing] at run
      exact nomatch run

/-- Without files, a namespace that is no name is told of by the commands alone. -/
theorem no_agreement_without_files :
    let task : Task := ⟨⟨"Bad", "backend-ssh-key", "backend-public-key"⟩,
      ⟨.ofText "k", .ofText "k.pub"⟩, none⟩
    let files : Files := fun _ => .error .notFound
    ¬Agree task files ∧ FirstFault task files (.invalidNames ⟨.ns, "Bad", .malformed⟩) ∧
      (Reconcile.runFiles task.keyFiles files task.names).run Store.answer .empty =
        ⟨.error (.missingKey ⟨.privateKey, .ofText "k", .notFound⟩), [], [], .empty⟩ := by
  intro task files
  have bad : task.names.check = .error ⟨.ns, "Bad", .malformed⟩ := by
    change Names.check ⟨"Bad", "backend-ssh-key", "backend-public-key"⟩ = _
    rfl
  refine ⟨fun agree => ?_, .names bad, rfl⟩
  obtain ⟨⟨notices, run⟩, -⟩ := agree.refused _ (.names bad) Store Store.answer .empty
  exact nomatch run

end MountKeys
