import MountKeys.Inspect
import MountKeys.Kubeconfig
import MountKeys.Reconcile

/-!
# Commands

What each command does and prints.  A command is a session with the cluster that ends in an
`Outcome`; names and keys are looked at before there is a cluster to talk to, so that bad input
needs none.
-/

namespace MountKeys

/-- How a process ends. -/
structure Outcome where
  exitCode : Nat
  stdout : String
  stderr : String
  deriving DecidableEq, Repr

/-- What a command fails with: a message, and what lies behind it. -/
structure Failure where
  message : String
  causes : List String
  deriving DecidableEq, Repr

namespace Failure

/-- A failure that nothing lies behind. -/
def plain (message : String) : Failure :=
  ⟨message, []⟩

/-- The failure of a run. -/
def ofRun (e : RunError) : Failure :=
  ⟨e.message, e.causes⟩

/-- A text with each of its lines indented. -/
def indent (s : String) : String :=
  String.intercalate "\n" ((s.splitOn "\n").map ("    " ++ ·))

/-- The failure as it is printed. -/
def text (f : Failure) : String :=
  "Error: " ++ f.message ++
    (if f.causes.isEmpty then ""
      else "\n\nCaused by:\n" ++ "\n".intercalate (f.causes.map indent)) ++
    "\n"

end Failure

namespace Outcome

/-- The outcome of a command that did what it was to do. -/
def success (stdout : String) : Outcome :=
  ⟨0, stdout, ""⟩

/-- The outcome of a command that failed. -/
def failure (stdout : String) (f : Failure) : Outcome :=
  ⟨1, stdout, f.text⟩

end Outcome

/-- What a command needs to know. -/
structure Task where
  names : Names
  keyFiles : KeyFiles
  context : Option String
  deriving DecidableEq, Repr

/-- Lines, each with its end. -/
def printed (ls : List String) : String :=
  String.join (ls.map (· ++ "\n"))

/-- A time that may not be known. -/
def timeText (created : Option String) : String :=
  created.getD "unknown"

namespace Command

/-! ## What is looked at first -/

/-- The keys of a task whose names are good, and what is to be said about them. -/
def prepare (task : Task) (files : Files) : Except RunError (KeyPair × List Notice) :=
  match task.names.check with
  | .error e => .error (.invalidNames e)
  | .ok () =>
    match task.keyFiles.load files with
    | .error e => .error (.missingKey e)
    | .ok loaded => .ok loaded

/-! ## Apply -/

/-- What is printed before a run. -/
def startLines (names : Names) : List String :=
  [s!"🔄 Reconciling SSH keys into namespace '{names.ns}'..."]

/-- What is printed about a run that succeeded. -/
def reportLines (r : Report) : List String :=
  let done := if r.namespaceCreated then "created" else "exists"
  ["",
    s!"✅ Namespace '{r.names.ns}' {done}",
    s!"✅ Secret '{r.names.ns}/{r.names.secret}' (created {timeText r.secretCreated})",
    s!"✅ ConfigMap '{r.names.ns}/{r.names.configMap}' (created {timeText r.configMapCreated})"] ++
  (r.fingerprint.map fun f => s!"   Public key: {f}").toList ++
  ["",
    s!"Pods in '{r.names.ns}' can now mount:",
    s!"   Secret '{r.names.secret}' (id_rsa, id_rsa.pub) for the SSH client",
    s!"   ConfigMap '{r.names.configMap}' (id_rsa.pub) for authorized_keys"]

/-- What is printed about a run that failed. -/
def failureLines (e : RunError) : List String :=
  ["", "✗ Reconciliation failed"] ++
    if e.isPartial then
      "   Already applied:" :: e.applied.map (fun a => s!"   ✅ {a.label}") ++
        ["   Re-run the command to finish; every step is idempotent."]
    else []

/-- The outcome of a run. -/
def applyOutcome (names : Names) : Except RunError Report → Outcome
  | .ok r => .success (printed (startLines names ++ reportLines r))
  | .error e => .failure (printed (startLines names ++ failureLines e)) (.ofRun e)

/-- Bring the cluster to hold the local keys. -/
def runApply (task : Task) (files : Files) (config : Kubeconfig) : Session Outcome := do
  match prepare task files with
  | .error e => return .failure "" (.ofRun e)
  | .ok (keys, notices) =>
    Dialogue.logAll notices
    match config.connect task.context with
    | .error e => return .failure "" (.plain e.message)
    | .ok () => return applyOutcome task.names (← Reconcile.run keys task.names)

/-! ## Render -/

/-- Print the objects without talking to a cluster. -/
def runRender (task : Task) (files : Files) : Session Outcome := do
  match prepare task files with
  | .error e => return .failure "" (.ofRun e)
  | .ok (keys, notices) =>
    Dialogue.logAll notices
    return .success (Desired.render keys task.names).toYaml

/-! ## Status -/

/-- How the line of an object begins. -/
def marker (s : ObjectStatus) : String :=
  if s.isInSync then "✅" else if s.hasUnchecked then "⚠️ " else "✗"

/-- What is printed about an object. -/
def objectLines (s : ObjectStatus) : List String :=
  if s.found then
    s!"{marker s} {s.kind.label} '{s.name}' (created {timeText s.created})" ::
      s.keys.map fun k => s!"   {k.1}: {k.2.label}"
  else [s!"✗ {s.kind.label} '{s.name}' not found"]

/-- The last line of a status. -/
def verdictLine (i : Inspection) : String :=
  if i.isInSync then "✅ In sync"
  else if i.isExistenceOnly then
    "⚠️  Existence only: local key files not found, contents not compared"
  else "✗ Out of sync"

/-- What is printed about the cluster. -/
def statusLines (i : Inspection) : List String :=
  (if i.namespaceFound then s!"✅ Namespace '{i.ns}'"
    else s!"✗ Namespace '{i.ns}' does not exist") ::
  objectLines i.secret ++ objectLines i.configMap ++ ["", verdictLine i]

/-- The outcome of looking at the cluster: a success only where everything is in sync. -/
def statusOutcome (i : Inspection) : Outcome :=
  let out := printed (statusLines i)
  if i.isExistenceOnly then
    .failure out (.plain <| "Local key files not found; could not compare the cluster contents " ++
      s!"in namespace '{i.ns}'")
  else if !i.isInSync then
    .failure out (.plain <| s!"SSH key resources in namespace '{i.ns}' are missing or out of " ++
      "date. Run 'sshfs-keysync apply' to fix.")
  else .success out

/-- Look at the cluster with the local keys, if there are any. -/
def runStatus (task : Task) (files : Files) (config : Kubeconfig) : Session Outcome := do
  match task.names.check with
  | .error e => return .failure "" (.plain e.message)
  | .ok () =>
    let loaded := task.keyFiles.load files
    match loaded with
    | .ok (_, notices) => Dialogue.logAll notices
    | .error e => Dialogue.log (.comparisonSkipped e)
    match config.connect task.context with
    | .error e => return .failure "" (.plain e.message)
    | .ok () =>
      match ← Inspection.run task.names (loaded.toOption.map Prod.fst) with
      | .error e => return .failure "" (.plain e.message)
      | .ok i => return statusOutcome i

end Command

end MountKeys
