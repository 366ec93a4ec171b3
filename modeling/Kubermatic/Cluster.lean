import Kubermatic.Finalizer

/-!
# The `Cluster` resource

The part of `kubermaticv1.Cluster` that the modelled functions read or write: its
metadata (name, labels, finalizers, deletion timestamp), the fields of its spec that
validation, the cloud providers and the deletion pipeline consult, and the fields of its
status that the cluster controller and validation read and write.
The Go types live in `pkg/apis`, which is not among the sources; field names follow
the Go ones in lower camel case, and each structure keeps only the fields some
modelled function uses.

Go maps (`Spec.Features`, `Labels`) are association lists read with `List.lookup`, so
that a missing key reads as Go's zero value and `_, ok := m[k]` is `isSome`. Pointer
fields are `Option`s. Slices are lists; `equality.Semantic.DeepEqual`, which
treats a nil slice and an empty one alike, is list equality.

A Go call that dereferences a nil pointer panics rather than returning; `GoResult`
keeps the two apart wherever the code can do it.

A `ClusterUpdater` is the callback through which a cloud provider writes the stored
cluster. It carries as a field the one thing every caller relies on: a call that
succeeds has applied the modification to the stored cluster and returns the result.
-/

namespace Kubermatic

/-- The providers a `CloudSpec` can carry a sub-spec for, in the order of the fields
of `kubermaticv1.CloudSpec`. -/
inductive ProviderType
  | aws | alibaba | anexia | azure | bringYourOwn | digitalocean | fake | gcp
  | hetzner | kubevirt | nutanix | openstack | packet | vsphere | vmwareCloudDirector
  deriving DecidableEq, Repr

/-- `kubermaticv1.NetworkRanges`. -/
structure NetworkRanges where
  cidrBlocks : List String := []
  deriving DecidableEq, Repr

/-- `providerconfig.GlobalSecretKeySelector`, the reference to the secret holding a
provider's credentials. `objectNamespace` is its `Namespace`, a word Lean reserves. -/
structure GlobalSecretKeySelector where
  name : String := ""
  objectNamespace : String := ""
  deriving DecidableEq, Repr

/-- `kubermaticv1.AWSCloudSpec`. -/
structure AWSCloudSpec where
  credentialsReference : Option GlobalSecretKeySelector := none
  accessKeyID : String := ""
  secretAccessKey : String := ""
  nodePortsAllowedIPRange : String := ""
  nodePortsAllowedIPRanges : Option NetworkRanges := none
  deriving DecidableEq, Repr

/-- `kubermaticv1.AlibabaCloudSpec`. -/
structure AlibabaCloudSpec where
  credentialsReference : Option GlobalSecretKeySelector := none
  accessKeyID : String := ""
  accessKeySecret : String := ""
  deriving DecidableEq, Repr

/-- `kubermaticv1.AnexiaCloudSpec`. -/
structure AnexiaCloudSpec where
  credentialsReference : Option GlobalSecretKeySelector := none
  token : String := ""
  deriving DecidableEq, Repr

/-- `kubermaticv1.AzureCloudSpec`: the credentials, and the identifiers of the Azure
resources the cluster uses; an empty identifier is left for the provider to create and
fill in. -/
structure AzureCloudSpec where
  credentialsReference : Option GlobalSecretKeySelector := none
  tenantID : String := ""
  subscriptionID : String := ""
  clientID : String := ""
  clientSecret : String := ""
  resourceGroup : String := ""
  vnetResourceGroup : String := ""
  vnetName : String := ""
  subnetName : String := ""
  routeTableName : String := ""
  securityGroup : String := ""
  nodePortsAllowedIPRange : String := ""
  nodePortsAllowedIPRanges : Option NetworkRanges := none
  availabilitySet : String := ""
  assignAvailabilitySet : Option Bool := none
  loadBalancerSKU : String := ""
  deriving DecidableEq, Repr

/-- `kubermaticv1.DigitaloceanCloudSpec`. -/
structure DigitaloceanCloudSpec where
  credentialsReference : Option GlobalSecretKeySelector := none
  token : String := ""
  deriving DecidableEq, Repr

/-- `kubermaticv1.FakeCloudSpec`. -/
structure FakeCloudSpec where
  token : String := ""
  deriving DecidableEq, Repr

/-- `kubermaticv1.GCPCloudSpec`. -/
structure GCPCloudSpec where
  credentialsReference : Option GlobalSecretKeySelector := none
  serviceAccount : String := ""
  nodePortsAllowedIPRange : String := ""
  nodePortsAllowedIPRanges : Option NetworkRanges := none
  deriving DecidableEq, Repr

/-- `kubermaticv1.HetznerCloudSpec`. -/
structure HetznerCloudSpec where
  credentialsReference : Option GlobalSecretKeySelector := none
  token : String := ""
  deriving DecidableEq, Repr

/-- `kubermaticv1.PreAllocatedDataVolume`: a DataVolume the cluster's namespace gets
before any machine, imported from the URL into a claim of the size and storage class. -/
structure PreAllocatedDataVolume where
  name : String
  url : String
  size : String
  storageClass : String
  deriving DecidableEq, Repr

/-- `kubermaticv1.KubevirtCloudSpec`. -/
structure KubevirtCloudSpec where
  credentialsReference : Option GlobalSecretKeySelector := none
  kubeconfig : String := ""
  preAllocatedDataVolumes : List PreAllocatedDataVolume := []
  deriving DecidableEq, Repr

/-- `kubermaticv1.NutanixCSIConfig`; the port is a Go `*int32`. -/
structure NutanixCSIConfig where
  username : String := ""
  password : String := ""
  endpoint : String := ""
  port : Option Int := none
  deriving DecidableEq, Repr

/-- `kubermaticv1.NutanixCloudSpec`. -/
structure NutanixCloudSpec where
  credentialsReference : Option GlobalSecretKeySelector := none
  clusterName : String := ""
  username : String := ""
  password : String := ""
  csi : Option NutanixCSIConfig := none
  deriving DecidableEq, Repr

/-- `kubermaticv1.OpenstackCloudSpec`. -/
structure OpenstackCloudSpec where
  credentialsReference : Option GlobalSecretKeySelector := none
  domain : String := ""
  applicationCredentialID : String := ""
  applicationCredentialSecret : String := ""
  username : String := ""
  password : String := ""
  project : String := ""
  projectID : String := ""
  floatingIPPool : String := ""
  nodePortsAllowedIPRange : String := ""
  nodePortsAllowedIPRanges : Option NetworkRanges := none
  deriving DecidableEq, Repr

/-- `kubermaticv1.PacketCloudSpec`. -/
structure PacketCloudSpec where
  credentialsReference : Option GlobalSecretKeySelector := none
  apiKey : String := ""
  projectID : String := ""
  billingCycle : String := ""
  deriving DecidableEq, Repr

/-- `kubermaticv1.VSphereCloudSpec`. -/
structure VSphereCloudSpec where
  credentialsReference : Option GlobalSecretKeySelector := none
  username : String := ""
  password : String := ""
  deriving DecidableEq, Repr

/-- `kubermaticv1.VMwareCloudDirectorCloudSpec`: the credentials, the vApp holding the
cluster's VMs and the organization VDC network attached to it. -/
structure VMwareCloudDirectorCloudSpec where
  credentialsReference : Option GlobalSecretKeySelector := none
  username : String := ""
  password : String := ""
  organization : String := ""
  vdc : String := ""
  vapp : String := ""
  ovdcNetwork : String := ""
  deriving DecidableEq, Repr

/-- `kubermaticv1.CloudSpec`: the datacenter, the provider name, and one sub-spec per
provider, of which a valid spec sets exactly one. `BringYourOwn`, whose sub-spec has no
field any modelled function reads, is whether it is set. -/
structure CloudSpec where
  datacenterName : String := ""
  providerName : String := ""
  aws : Option AWSCloudSpec := none
  alibaba : Option AlibabaCloudSpec := none
  anexia : Option AnexiaCloudSpec := none
  azure : Option AzureCloudSpec := none
  bringYourOwn : Bool := false
  digitalocean : Option DigitaloceanCloudSpec := none
  fake : Option FakeCloudSpec := none
  gcp : Option GCPCloudSpec := none
  hetzner : Option HetznerCloudSpec := none
  kubevirt : Option KubevirtCloudSpec := none
  nutanix : Option NutanixCloudSpec := none
  openstack : Option OpenstackCloudSpec := none
  packet : Option PacketCloudSpec := none
  vsphere : Option VSphereCloudSpec := none
  vmwareCloudDirector : Option VMwareCloudDirectorCloudSpec := none
  deriving DecidableEq, Repr

/-- `kubermaticv1.ClusterNetworkingConfig`: the fields that are immutable once set, and
those `ValidateClusterNetworkConfig` reads besides. The node CIDR mask sizes are Go
`*int32`s. -/
structure ClusterNetworkingConfig where
  ipFamily : String := ""
  pods : NetworkRanges := {}
  services : NetworkRanges := {}
  nodeCIDRMaskSizeIPv4 : Option Int := none
  nodeCIDRMaskSizeIPv6 : Option Int := none
  proxyMode : String := ""
  dnsDomain : String := ""
  nodeLocalDNSCacheEnabled : Option Bool := none
  konnectivityEnabled : Option Bool := none
  deriving DecidableEq, Repr

/-- `kubermaticv1.CNIPluginSettings`. -/
structure CNIPluginSettings where
  type : String
  version : String
  deriving DecidableEq, Repr

/-- `kubermaticv1.SecretboxKey`. -/
structure SecretboxKey where
  name : String := ""
  value : String := ""
  secretRef : Option String := none
  deriving DecidableEq, Repr, Inhabited

/-- `kubermaticv1.EncryptionConfiguration`. -/
structure EncryptionConfiguration where
  enabled : Bool := false
  resources : List String := []
  secretbox : Option (List SecretboxKey) := none
  deriving DecidableEq, Repr

/-- `kubermaticv1.MachineNetworkingConfig`. -/
structure MachineNetworkingConfig where
  cidr : String := ""
  gateway : String := ""
  dnsServers : List String := []
  deriving DecidableEq, Repr, Inhabited

/-- `kubermaticv1.LeaderElectionSettings`; the durations are Go `*int32`s. -/
structure LeaderElectionSettings where
  leaseDurationSeconds : Option Int := none
  renewDeadlineSeconds : Option Int := none
  retryPeriodSeconds : Option Int := none
  deriving DecidableEq, Repr

/-- `kubermaticv1.ClusterSpec`. `version` is the text of `Version`;
`apiserverNodePortRange` is `ComponentsOverride.Apiserver.NodePortRange`, and the two
leader-election settings are those of `ComponentsOverride.ControllerManager` and
`ComponentsOverride.Scheduler`. -/
structure ClusterSpec where
  humanReadableName : String := ""
  version : String := ""
  cloud : CloudSpec := {}
  clusterNetwork : ClusterNetworkingConfig := {}
  machineNetworks : List MachineNetworkingConfig := []
  features : List (String × Bool) := []
  exposeStrategy : String := ""
  apiserverNodePortRange : String := ""
  controllerManagerLeaderElection : LeaderElectionSettings := {}
  schedulerLeaderElection : LeaderElectionSettings := {}
  enableUserSSHKeyAgent : Option Bool := none
  enableOperatingSystemManager : Bool := false
  cniPlugin : Option CNIPluginSettings := none
  encryptionConfiguration : Option EncryptionConfiguration := none
  deriving DecidableEq, Repr

/-- `kubermaticv1.ClusterEncryptionStatus`. -/
structure ClusterEncryptionStatus where
  phase : String := ""
  deriving DecidableEq, Repr

/-- `kubermaticv1.HealthStatus`: `HealthStatusDown`, `HealthStatusUp`,
`HealthStatusProvisioning`, or Go's zero value, the empty string. -/
inductive HealthStatus
  | unset | down | up | provisioning
  deriving DecidableEq, Repr

/-- `kubermaticv1.ClusterStatus`. `controlPlaneVersion` is `Versions.ControlPlane`,
`apiserverHealth` is `ExtendedHealth.Apiserver`, and
`reconcilingSuccess` the status of the cluster controller's condition
`ClusterConditionClusterControllerReconcilingSuccess`, `none` while the cluster does not
carry it. -/
structure ClusterStatus where
  namespaceName : String := ""
  controlPlaneVersion : String := ""
  errorReason : Option String := none
  errorMessage : Option String := none
  reconcilingSuccess : Option Bool := none
  encryption : Option ClusterEncryptionStatus := none
  apiserverHealth : HealthStatus := .unset
  deriving DecidableEq, Repr

/-- `metav1.TypeMeta`. -/
structure TypeMeta where
  kind : String := "Cluster"
  apiVersion : String := "kubermatic.k8c.io/v1"
  deriving DecidableEq, Repr

/-- `kubermaticv1.Cluster`. `adminToken` is `Address.AdminToken`, and
`deletionTimestamp` is `DeletionTimestamp != nil`. -/
structure Cluster where
  typeMeta : TypeMeta := {}
  name : String := ""
  labels : List (String × String) := []
  finalizers : List String := []
  deletionTimestamp : Bool := false
  adminToken : String := ""
  spec : ClusterSpec := {}
  status : ClusterStatus := {}
  deriving DecidableEq, Repr

/-- How a call of Go code ends: it returns, or it panics on a nil pointer. -/
inductive GoResult (α : Type) where
  | returned (a : α)
  | nilDereference
  deriving DecidableEq, Repr

/-- `m[k]` for a Go `map[string]bool`: the zero value `false` when the key is missing. -/
def boolAt (m : List (String × Bool)) (k : String) : Bool :=
  (m.lookup k).getD false

/-- `_, ok := m[k]` for a Go map: whether the key is present. -/
def hasKey (m : List (String × β)) (k : String) : Bool :=
  (m.lookup k).isSome

/-- `%q`'s escape of one character (`strconv.Quote`), for the double quote, the backslash,
newline, carriage return and tab; the model keeps every other character as it is. -/
def quoteChar (c : Char) : String :=
  match c.toNat with
  | 34 => "\\\""
  | 92 => "\\\\"
  | 10 => "\\n"
  | 13 => "\\r"
  | 9 => "\\t"
  | _ => c.toString

/-- `%q` of a string. -/
def goQuote (s : String) : String :=
  "\"" ++ String.join (s.toList.map quoteChar) ++ "\""

/-- `reconcile.Result` of controller-runtime, with the delay in seconds. -/
structure Result where
  requeueAfter : Nat := 0
  deriving DecidableEq, Repr

/-- What a controller's `r.Get` of the object it reconciles answered. -/
inductive Fetched
  | found
  | notFound
  | failed (err : String)
  deriving DecidableEq, Repr

/-- The cluster with its finalizer list replaced, which is all a finalizer update
writes. -/
def Cluster.withFinalizers (c : Cluster) (fs : List String) : Cluster :=
  { c with finalizers := fs }

@[simp] theorem Cluster.withFinalizers_finalizers (c : Cluster) (fs : List String) :
    (c.withFinalizers fs).finalizers = fs := rfl

@[simp] theorem Cluster.withFinalizers_spec (c : Cluster) (fs : List String) :
    (c.withFinalizers fs).spec = c.spec := rfl

@[simp] theorem Cluster.withFinalizers_name (c : Cluster) (fs : List String) :
    (c.withFinalizers fs).name = c.name := rfl

@[simp] theorem Cluster.withFinalizers_withFinalizers (c : Cluster) (fs gs : List String) :
    (c.withFinalizers fs).withFinalizers gs = c.withFinalizers gs := rfl

@[simp] theorem Cluster.withFinalizers_self (c : Cluster) : c.withFinalizers c.finalizers = c :=
  rfl

/-- `kuberneteshelper.RemoveFinalizer` applied to the cluster: the modification a
finalizer update sends. -/
def Cluster.removeFinalizers (c : Cluster) (names : List String) : Cluster :=
  c.withFinalizers (removeFinalizer c.finalizers names)

@[simp] theorem Cluster.removeFinalizers_finalizers (c : Cluster) (names : List String) :
    (c.removeFinalizers names).finalizers = removeFinalizer c.finalizers names := rfl

@[simp] theorem Cluster.removeFinalizers_spec (c : Cluster) (names : List String) :
    (c.removeFinalizers names).spec = c.spec := rfl

/-- `kuberneteshelper.AddFinalizer` applied to the cluster. -/
def Cluster.addFinalizer (c : Cluster) (name : String) : Cluster :=
  c.withFinalizers (Kubermatic.addFinalizer c.finalizers name)

@[simp] theorem Cluster.addFinalizer_finalizers (c : Cluster) (name : String) :
    (c.addFinalizer name).finalizers = Kubermatic.addFinalizer c.finalizers name := rfl

@[simp] theorem Cluster.addFinalizer_spec (c : Cluster) (name : String) :
    (c.addFinalizer name).spec = c.spec := rfl

@[simp] theorem Cluster.addFinalizer_name (c : Cluster) (name : String) :
    (c.addFinalizer name).name = c.name := rfl

/-- Two removals are one removal of both. -/
@[simp] theorem Cluster.removeFinalizers_removeFinalizers (c : Cluster) (a b : List String) :
    (c.removeFinalizers a).removeFinalizers b = c.removeFinalizers (a ++ b) := by
  simp [Cluster.removeFinalizers, Cluster.withFinalizers]

@[simp] theorem Cluster.removeFinalizers_nil (c : Cluster) : c.removeFinalizers [] = c := by
  simp [Cluster.removeFinalizers]

/-- **A `provider.ClusterUpdater`**: a call applies the modification to the stored
cluster and returns the stored result, or fails and stores nothing. Which calls fail
is up to the seed API; the field says what a successful one did. -/
structure ClusterUpdater where
  /-- The call, on the modification and the stored cluster it is applied to. -/
  update : (Cluster → Cluster) → Cluster → Except String Cluster
  /-- A successful call returns the modified cluster. -/
  update_ok : ∀ {m c c'}, update m c = .ok c' → c' = m c

/-- The updater of a seed API that refuses every write, or of a process that stops before
it writes. -/
def ClusterUpdater.failing (msg : String) : ClusterUpdater where
  update _ _ := .error msg
  update_ok h := by cases h

/-- The updater of a seed API that accepts every write. -/
def ClusterUpdater.accepting : ClusterUpdater where
  update m c := .ok (m c)
  update_ok h := (Except.ok.inj h).symm

end Kubermatic
