import MountKeys.Cluster
import MountKeys.FileFault
import MountKeys.Keys
import MountKeys.Log.Filter
import MountKeys.Names
import MountKeys.Path
import MountKeys.Text.Quoted

/-!
# What is logged

Every event that the program logs, as what happened.  Its level, the path of the part that logs it
and its words are functions of that.
-/

namespace MountKeys

/-- A key file that cannot be read. -/
structure KeyFault where
  half : KeyHalf
  path : Path
  fault : FileFault
  deriving DecidableEq, Repr

/-- What is wrong, in words. -/
def KeyFault.message (e : KeyFault) : String :=
  s!"{e.half.label} not found or unreadable at '{e.path.display}': {e.fault.message}"

/-- Something that is worth a line in the log. -/
inductive Notice
  /-- Others than the owner may use the private key file. -/
  | exposedKey (path : Path) (mode : Nat)
  | keysLoaded (privatePath : Path) (privateSize : Nat) (publicPath : Path) (publicSize : Nat)
  | fingerprint (text : String)
  /-- The public key file holds no key that could be recognised. -/
  | noFingerprint
  | namespaceExists (ns : String)
  | namespaceCreated (ns : String)
  /-- Another client created the namespace first. -/
  | namespaceCreatedElsewhere (ns : String)
  | namespaceFailed (ns : String) (cause : ClusterError)
  | creating (kind : Kind) (name : String)
  | replacing (kind : Kind) (name : String)
  | applied (kind : Kind) (ns name : String)
  | applyFailed (kind : Kind) (ns name : String) (cause : ClusterError)
  | verified (kind : Kind) (ns name : String) (created : Option String)
  /-- An object was not there after it was applied. -/
  | lost (kind : Kind) (ns name : String)
  | readFailed (kind : Kind) (ns name : String) (cause : ClusterError)
  /-- An object holds something other than what was applied. -/
  | drifted (kind : Kind) (ns name : String) (keys : List String)
  | reconciled (names : Names)
  /-- There is no namespace to look for objects in. -/
  | readsSkipped (ns : String)
  /-- There are no local keys to compare with. -/
  | comparisonSkipped (cause : KeyFault)
  /-- A request goes to the server. -/
  | requesting
  /-- The server cannot be reached. -/
  | unreachable (reason : String)
  deriving DecidableEq

namespace Notice

/-- How much it matters. -/
def level : Notice → Level
  | .exposedKey .. | .noFingerprint | .drifted .. | .comparisonSkipped .. => .warn
  | .keysLoaded .. | .creating .. | .replacing .. | .readsSkipped .. | .requesting => .debug
  | .fingerprint .. | .namespaceExists .. | .namespaceCreated .. | .namespaceCreatedElsewhere ..
  | .applied .. | .verified .. | .reconciled .. => .info
  | .namespaceFailed .. | .applyFailed .. | .lost .. | .readFailed .. | .unreachable .. => .error

/-- The path of the part that sends requests. -/
def requestScope : String :=
  "kube_client::client::builder"

/-- The path of the part that logs it, by which filters know it. -/
def scope : Notice → String
  | .exposedKey .. | .keysLoaded .. => "sshfs_keysync::keys"
  | .creating .. | .replacing .. => "sshfs_keysync::platform::kubernetes"
  | .fingerprint .. | .noFingerprint | .reconciled .. => "sshfs_keysync::reconciler"
  | .namespaceExists .. | .namespaceCreated .. | .namespaceCreatedElsewhere ..
  | .namespaceFailed .. | .applied .. | .applyFailed .. | .verified .. | .lost ..
  | .readFailed .. | .drifted .. => "sshfs_keysync::reconciler::apply"
  | .readsSkipped .. => "sshfs_keysync::reconciler::inspect"
  | .comparisonSkipped .. => "sshfs_keysync::status"
  | .requesting | .unreachable .. => requestScope

/-- The span of a request to the server. -/
def requestSpan : Span where
  name := "HTTP"
  scope := requestScope
  fields :=
    ["http.method", "http.url", "http.status_code", "otel.name", "otel.kind", "otel.status_code"]

/-- The span that it happens in. -/
def span : Notice → Option Span
  | .requesting | .unreachable .. => some requestSpan
  | _ => none

/-- The permission bits of a file in octal. -/
def octal (mode : Nat) : String :=
  String.ofList (Nat.toDigits 8 (mode % 512))

/-- What an error that stopped a run half-way says about the first half. -/
def afterFirst : Kind → String
  | .secret => ""
  | .configMap => " (Secret was already applied)"

/-- The line. -/
def message : Notice → String
  | .exposedKey path mode =>
    s!"⚠️  Private key '{path.display}' is accessible by group/other (mode {octal mode}); " ++
      "consider chmod 600"
  | .keysLoaded privatePath privateSize publicPath publicSize =>
    s!"Loaded key pair: private={privatePath.display} ({privateSize} bytes), " ++
      s!"public={publicPath.display} ({publicSize} bytes)"
  | .fingerprint text => s!"🔑 Public key fingerprint: {text}"
  | .noFingerprint =>
    "⚠️  Public key is not an OpenSSH public key line; reconciling its bytes as-is"
  | .namespaceExists ns => s!"✅ Namespace '{ns}' exists"
  | .namespaceCreated ns => s!"✅ Namespace '{ns}' created"
  | .namespaceCreatedElsewhere ns => s!"✅ Namespace '{ns}' was created concurrently"
  | .namespaceFailed ns cause => s!"❌ Failed to create namespace '{ns}': {cause.message}"
  | .creating kind name => s!"Creating {kind.label} '{name}'"
  | .replacing kind name => s!"{kind.label} '{name}' already exists, replacing"
  | .applied kind ns name => s!"✅ {kind.label} '{ns}/{name}' applied"
  | .applyFailed kind ns name cause =>
    s!"❌ Failed to apply {kind.label} '{ns}/{name}': {cause.message}{afterFirst kind}"
  | .verified kind ns name created =>
    let time := created.getD "unknown"
    s!"✅ {kind.label} '{ns}/{name}' verified (created {time})"
  | .lost kind ns name => s!"❌ {kind.label} '{ns}/{name}' not found after apply"
  | .readFailed kind ns name cause =>
    s!"❌ Failed to read back {kind.label} '{ns}/{name}': {cause.message}"
  | .drifted kind ns name keys =>
    let list := Text.quotedList keys
    s!"⚠️  {kind.label} '{ns}/{name}' differs from the rendered state after apply " ++
      s!"(stored keys: {list}); another writer may have replaced it"
  | .reconciled names =>
    s!"✅ Reconciled Secret '{names.secret}' and ConfigMap '{names.configMap}' " ++
      s!"in namespace '{names.ns}'"
  | .readsSkipped ns => s!"Namespace '{ns}' does not exist, skipping object reads"
  | .comparisonSkipped cause => s!"⚠️  {cause.message}; skipping content comparison"
  | .requesting => "requesting"
  | .unreachable reason => s!"failed with error {reason}"

end Notice

end MountKeys
