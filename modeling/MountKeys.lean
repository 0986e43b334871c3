import MountKeys.Api.Canned
import MountKeys.Cluster.Memory
import MountKeys.FileTree
import MountKeys.Main
import MountKeys.Proofs.Reconcile.Concurrent
import MountKeys.Proofs.Reconcile.Converge
import MountKeys.Proofs.Api.Refinement
import MountKeys.Proofs.Api.Concurrent
import MountKeys.Proofs.Inspect
import MountKeys.Proofs.Reconcile.Faults
import MountKeys.Proofs.Reconcile.Frame
import MountKeys.Proofs.Status
import MountKeys.Proofs.Reconcile.Secrecy
import MountKeys.Proofs.Yaml.Rendered
import MountKeys.Proofs.Preconditions
import MountKeys.Proofs.Yaml.Documents
import MountKeys.Proofs.Reconcile.Race
import MountKeys.Proofs.Reconcile.Commute
import MountKeys.Proofs.Names.Grammar
import MountKeys.Proofs.Api.CreateOrReplace
import MountKeys.Proofs.Api.RoundTrip
import MountKeys.Proofs.Reconcile.Drift
import MountKeys.Proofs.Api.Paths
import MountKeys.Proofs.Keys.KeyText
import MountKeys.Proofs.Keys.Comment
import MountKeys.Proofs.Reconcile.Failures
import MountKeys.Proofs.CommandLine
import MountKeys.Proofs.Settings
