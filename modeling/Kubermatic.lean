import Kubermatic.Finalizer
import Kubermatic.Cluster
import Kubermatic.ClusterDeletion.Pass
import Kubermatic.ClusterDeletion.Ordering
import Kubermatic.ClusterDeletion.Resume
import Kubermatic.ClusterController.Reconciler
import Kubermatic.ClusterController.Invariants
import Kubermatic.ClusterController.Deletion
import Kubermatic.Addon.Manifest
import Kubermatic.Addon.Reconciler
import Kubermatic.Addon.Runs
import Kubermatic.Addon.Lifecycle
import Kubermatic.Mla.OrgUser
import Kubermatic.Mla.Guard
import Kubermatic.Azure.Provider
import Kubermatic.Azure.Cleanup
import Kubermatic.Azure.Initialize
import Kubermatic.VMwareCloudDirector.VApp
import Kubermatic.RBAC.Bindings
import Kubermatic.RBAC.Controller
import Kubermatic.RBAC.ProjectCleanup
import Kubermatic.RBAC.ProjectSync
import Kubermatic.Validation.ClusterUpdate
import Kubermatic.Validation.UpdateRuns
import Kubermatic.Azure.Admission
import Kubermatic.Validation.Network
import Kubermatic.Validation.CloudSpec
import Kubermatic.Validation.ClusterSpec
import Kubermatic.Reconciling.Ensure
import Kubermatic.Kubevirt.Storage
import Kubermatic.Provider.Credentials
import Kubermatic.Azure.Validate
import Kubermatic.OperatingSystemManager.Flags
