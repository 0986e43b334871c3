/-!
# Kubeconfig

What is known of the clusters that may be connected to: the contexts of the kubeconfig file, if
there is one.
-/

namespace MountKeys

/-- The contexts that may be connected to. -/
inductive Kubeconfig
  | missing
  | contexts (names : List String)
  deriving DecidableEq, Repr

/-- Why there is no cluster to talk to. -/
inductive ConnectError
  /-- Nothing says which cluster. -/
  | noCluster
  /-- A context was asked for, but there is no file. -/
  | noKubeconfig
  | noContext (name : String)
  deriving DecidableEq, Repr

/-- What is wrong, in words. -/
def ConnectError.message : ConnectError → String
  | .noCluster => "Failed to create Kubernetes client. Ensure kubeconfig is configured."
  | .noKubeconfig => "Failed to read kubeconfig"
  | .noContext name => s!"Failed to load kubeconfig context '{name}'"

namespace Kubeconfig

/-- Connect to the cluster of a context, or to the current one. -/
def connect (k : Kubeconfig) (context : Option String) : Except ConnectError Unit :=
  match k, context with
  | .missing, none => .error .noCluster
  | .missing, some _ => .error .noKubeconfig
  | .contexts _, none => .ok ()
  | .contexts names, some name => if names.contains name then .ok () else .error (.noContext name)

end Kubeconfig

end MountKeys
