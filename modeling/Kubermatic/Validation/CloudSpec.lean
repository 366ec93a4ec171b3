import Kubermatic.Validation.Network

/-!
# Validating a cluster's cloud spec

`ValidateCloudSpec(spec, dc, parentFieldPath)` (`pkg/validation`) checks the cloud part of
a cluster's spec: a datacenter is named, the provider the spec's sub-specs designate agrees
with the provider name it states and with the datacenter's provider, and the sub-spec of
the first provider set, in the order of the code's `switch`, passes that provider's
validator.

The provider validators are one family. Most are a sequence of the same check, one per
credential: a credential the spec leaves empty must be named by the credentials reference,
which `kuberneteshelper.ValidateSecretKeySelector` decides (`credentialError`). The
DigitalOcean, Anexia and Nutanix validators test for a missing reference themselves first,
with their own message (`credentialOrReferenceError`); they differ from the others in that
message only (`credentialOrReferenceError_eq`). Some add checks of their own: Azure its
load-balancer SKU, four of them their node-port ranges, Nutanix its cluster name and CSI
settings. OpenStack's has a body of its own: an application credential returns before any
other check, and it asks for a project only when a credentials reference names a secret
without a namespace (`validateOpenStackCloudSpec_eq_none_of_inline_credentials`).

What the checks call from outside the sources is a `CloudHelpers`, besides the
`NetHelpers` of the network checks and the `Helpers` of the update checks.
-/

namespace Kubermatic.Validation

/-- The `resources` constants naming the keys of a provider's credentials secret. Their
values are declared outside the sources; the validators pass them on to
`ValidateSecretKeySelector` and read nothing else of them. -/
inductive SecretKey
  | awsAccessKeyID | awsSecretAccessKey | alibabaAccessKeyID | alibabaAccessKeySecret
  | anexiaToken | azureTenantID | azureSubscriptionID | azureClientID | azureClientSecret
  | digitaloceanToken | gcpServiceAccount | hetznerToken | kubevirtKubeConfig
  | nutanixUsername | nutanixPassword | nutanixCSIUsername | nutanixCSIPassword
  | openstackDomain | openstackUsername | openstackPassword | packetAPIKey | packetProjectID
  | vsphereUsername | vspherePassword | vmwareCloudDirectorUsername
  | vmwareCloudDirectorPassword | vmwareCloudDirectorOrganization | vmwareCloudDirectorVDC
  deriving DecidableEq, Repr

/-- `kubermaticv1.DatacenterSpecOpenstack`, the field the validation reads. -/
structure DatacenterSpecOpenstack where
  enforceFloatingIP : Bool := false
  deriving DecidableEq, Repr

/-- `kubermaticv1.Datacenter`: of its spec, the OpenStack settings. -/
structure Datacenter where
  openstack : Option DatacenterSpecOpenstack := none
  deriving DecidableEq, Repr

/-- The functions the cloud checks call that are declared outside the sources. -/
structure CloudHelpers where
  /-- `kuberneteshelper.ValidateSecretKeySelector`: the error, if any. -/
  validateSecretKeySelector : Option GlobalSecretKeySelector → SecretKey → Option String
  /-- `NetworkRanges.Validate` of a `*NetworkRanges`: the error, if any. -/
  validateNetworkRanges : Option NetworkRanges → Option String
  /-- `provider.DatacenterCloudProviderName`. -/
  datacenterCloudProviderName : Datacenter → Except String String

/-- `kubermaticv1.AzureStandardLBSKU` and `AzureBasicLBSKU`. -/
def AzureStandardLBSKU : String := "standard"
def AzureBasicLBSKU : String := "basic"

/-- `azureLoadBalancerSKUTypes.List()`: the set's items, sorted. -/
def azureLoadBalancerSKUTypes : List String := ["", AzureBasicLBSKU, AzureStandardLBSKU]

/-- The first error of a sequence of checks, each of which the code returns as soon as it
is met. -/
def firstError : List (Option String) → Option String
  | [] => none
  | some err :: _ => some err
  | none :: checks => firstError checks

@[simp] theorem firstError_eq_none_iff {checks : List (Option String)} :
    firstError checks = none ↔ ∀ c ∈ checks, c = none := by
  induction checks with
  | nil => simp [firstError]
  | cons c checks ih => cases c <;> simp [firstError, ih]

section Checks

variable (ch : CloudHelpers) (nh : NetHelpers)

/-! ## The provider validators -/

/-- **The credential check of the provider validators**: a credential the spec leaves
empty must be named by the credentials reference. -/
def credentialError (value : String) (ref : Option GlobalSecretKeySelector) (key : SecretKey) :
    Option String :=
  if value = "" then ch.validateSecretKeySelector ref key else none

/-- The credential check of the DigitalOcean, Anexia and Nutanix validators, which first
test for a missing reference themselves, with a message of their own. -/
def credentialOrReferenceError (value : String) (ref : Option GlobalSecretKeySelector)
    (key : SecretKey) (missing : String) : Option String :=
  if value = "" then
    match ref with
    | none => some missing
    | some _ => ch.validateSecretKeySelector ref key
  else none

/-- The check of `NodePortsAllowedIPRange` four validators make: when it is set, it parses. -/
def nodePortsAllowedIPRangeError (nodePortsAllowedIPRange : String) : Option String :=
  if nodePortsAllowedIPRange = "" then none
  else match nh.parseCIDR nodePortsAllowedIPRange with
    | .error err => some err
    | .ok _ => none

/-- `validateAWSCloudSpec`. -/
def validateAWSCloudSpec (spec : AWSCloudSpec) : Option String :=
  firstError [
    credentialError ch spec.accessKeyID spec.credentialsReference .awsAccessKeyID,
    credentialError ch spec.secretAccessKey spec.credentialsReference .awsSecretAccessKey,
    nodePortsAllowedIPRangeError nh spec.nodePortsAllowedIPRange,
    ch.validateNetworkRanges spec.nodePortsAllowedIPRanges]

/-- `validateGCPCloudSpec`. -/
def validateGCPCloudSpec (spec : GCPCloudSpec) : Option String :=
  firstError [
    credentialError ch spec.serviceAccount spec.credentialsReference .gcpServiceAccount,
    nodePortsAllowedIPRangeError nh spec.nodePortsAllowedIPRange,
    ch.validateNetworkRanges spec.nodePortsAllowedIPRanges]

/-- `validateHetznerCloudSpec`. -/
def validateHetznerCloudSpec (spec : HetznerCloudSpec) : Option String :=
  credentialError ch spec.token spec.credentialsReference .hetznerToken

/-- `validatePacketCloudSpec`. -/
def validatePacketCloudSpec (spec : PacketCloudSpec) : Option String :=
  firstError [
    credentialError ch spec.apiKey spec.credentialsReference .packetAPIKey,
    credentialError ch spec.projectID spec.credentialsReference .packetProjectID]

/-- `validateVSphereCloudSpec`. -/
def validateVSphereCloudSpec (spec : VSphereCloudSpec) : Option String :=
  firstError [
    credentialError ch spec.username spec.credentialsReference .vsphereUsername,
    credentialError ch spec.password spec.credentialsReference .vspherePassword]

/-- `validateVMwareCloudDirectorCloudSpec`. -/
def validateVMwareCloudDirectorCloudSpec (spec : VMwareCloudDirectorCloudSpec) : Option String :=
  firstError [
    credentialError ch spec.username spec.credentialsReference .vmwareCloudDirectorUsername,
    credentialError ch spec.password spec.credentialsReference .vmwareCloudDirectorPassword,
    credentialError ch spec.organization spec.credentialsReference
      .vmwareCloudDirectorOrganization,
    credentialError ch spec.vdc spec.credentialsReference .vmwareCloudDirectorVDC]

/-- `validateAzureCloudSpec`. `%v` of the SKU list prints its items between brackets,
separated by blanks. -/
def validateAzureCloudSpec (spec : AzureCloudSpec) : Option String :=
  firstError [
    credentialError ch spec.tenantID spec.credentialsReference .azureTenantID,
    credentialError ch spec.subscriptionID spec.credentialsReference .azureSubscriptionID,
    credentialError ch spec.clientID spec.credentialsReference .azureClientID,
    credentialError ch spec.clientSecret spec.credentialsReference .azureClientSecret,
    if spec.loadBalancerSKU ∉ azureLoadBalancerSKUTypes then
      some ("azure LB SKU cannot be " ++ goQuote spec.loadBalancerSKU ++
        ", allowed values are [" ++ " ".intercalate azureLoadBalancerSKUTypes ++ "]")
    else none,
    nodePortsAllowedIPRangeError nh spec.nodePortsAllowedIPRange,
    ch.validateNetworkRanges spec.nodePortsAllowedIPRanges]

/-- `validateDigitaloceanCloudSpec`. -/
def validateDigitaloceanCloudSpec (spec : DigitaloceanCloudSpec) : Option String :=
  credentialOrReferenceError ch spec.token spec.credentialsReference .digitaloceanToken
    "no token or credentials reference specified"

/-- `validateFakeCloudSpec`. -/
def validateFakeCloudSpec (spec : FakeCloudSpec) : Option String :=
  if spec.token = "" then some "no token specified" else none

/-- `validateKubevirtCloudSpec`. -/
def validateKubevirtCloudSpec (spec : KubevirtCloudSpec) : Option String :=
  credentialError ch spec.kubeconfig spec.credentialsReference .kubevirtKubeConfig

/-- `validateAlibabaCloudSpec`. -/
def validateAlibabaCloudSpec (spec : AlibabaCloudSpec) : Option String :=
  firstError [
    credentialError ch spec.accessKeyID spec.credentialsReference .alibabaAccessKeyID,
    credentialError ch spec.accessKeySecret spec.credentialsReference .alibabaAccessKeySecret]

/-- `validateAnexiaCloudSpec`. -/
def validateAnexiaCloudSpec (spec : AnexiaCloudSpec) : Option String :=
  credentialOrReferenceError ch spec.token spec.credentialsReference .anexiaToken
    "no token or credentials reference specified"

/-- `validateNutanixCloudSpec`: the credentials, the cluster name, and when CSI is
configured its credentials, endpoint and port. -/
def validateNutanixCloudSpec (spec : NutanixCloudSpec) : Option String :=
  firstError [
    credentialOrReferenceError ch spec.username spec.credentialsReference .nutanixUsername
      "no username or credentials reference specified",
    credentialOrReferenceError ch spec.password spec.credentialsReference .nutanixPassword
      "no password or credentials reference specified",
    if spec.clusterName = "" then some "no cluster name specified" else none,
    match spec.csi with
    | none => none
    | some csi => firstError [
        credentialOrReferenceError ch csi.username spec.credentialsReference
          .nutanixCSIUsername "no CSI username or credentials reference specified",
        credentialOrReferenceError ch csi.password spec.credentialsReference
          .nutanixCSIPassword "no CSI password or credentials reference specified",
        if csi.endpoint = "" then some "CSI Endpoint mut not be empty" else none,
        if csi.port = none then some "CSI Port mut not be empty" else none]]

/-- The reference names a secret but no namespace, the one case in which
`validateOpenStackCloudSpec` asks for a project. -/
def namedWithoutNamespace : Option GlobalSecretKeySelector → Bool
  | some ref => ref.name != "" && ref.objectNamespace == ""
  | none => false

/-- `validateOpenStackCloudSpec`. The two errors about the project and the tenant are
collected and dropped for one message; the floating-IP pool is needed when the
datacenter enforces floating IPs. -/
def validateOpenStackCloudSpec (spec : OpenstackCloudSpec) (dc : Option Datacenter) :
    Option String :=
  if spec.applicationCredentialID ≠ "" ∧ spec.applicationCredentialSecret = "" then
    some "no applicationCredentialSecret specified"
  else if spec.applicationCredentialID ≠ "" ∧ spec.applicationCredentialSecret ≠ "" then none
  else firstError [
    credentialError ch spec.domain spec.credentialsReference .openstackDomain,
    credentialError ch spec.username spec.credentialsReference .openstackUsername,
    credentialError ch spec.password spec.credentialsReference .openstackPassword,
    nodePortsAllowedIPRangeError nh spec.nodePortsAllowedIPRange,
    ch.validateNetworkRanges spec.nodePortsAllowedIPRanges,
    if (spec.project = "" ∨ spec.projectID = "") ∧
        namedWithoutNamespace spec.credentialsReference = true then
      some "no tenant name or ID specified"
    else none,
    if spec.floatingIPPool = "" ∧ (dc.bind (·.openstack)).any (·.enforceFloatingIP) then
      some "no floating ip pool specified"
    else none]

/-- The `switch` of `ValidateCloudSpec`: the validator of the first provider whose sub-spec
is set, in the order of its cases. -/
def validateProviderSpec (spec : CloudSpec) (dc : Option Datacenter) : Option String :=
  if let some s := spec.aws then validateAWSCloudSpec ch nh s
  else if let some s := spec.alibaba then validateAlibabaCloudSpec ch s
  else if let some s := spec.anexia then validateAnexiaCloudSpec ch s
  else if let some s := spec.azure then validateAzureCloudSpec ch nh s
  else if spec.bringYourOwn then none
  else if let some s := spec.digitalocean then validateDigitaloceanCloudSpec ch s
  else if let some s := spec.fake then validateFakeCloudSpec s
  else if let some s := spec.gcp then validateGCPCloudSpec ch nh s
  else if let some s := spec.hetzner then validateHetznerCloudSpec ch s
  else if let some s := spec.kubevirt then validateKubevirtCloudSpec ch s
  else if let some s := spec.openstack then validateOpenStackCloudSpec ch nh s dc
  else if let some s := spec.packet then validatePacketCloudSpec ch s
  else if let some s := spec.vsphere then validateVSphereCloudSpec ch s
  else if let some s := spec.nutanix then validateNutanixCloudSpec ch s
  else if let some s := spec.vmwareCloudDirector then validateVMwareCloudDirectorCloudSpec ch s
  else some "no cloud provider specified"

/-! ## `ValidateCloudSpec` -/

/-- The name a Go call returning `(string, error)` gives back: empty with an error. -/
def nameOrEmpty : Except String String → String
  | .ok name => name
  | .error _ => ""

variable (h : Helpers)

/-- The checks of `ValidateCloudSpec` against a datacenter, when one is passed. -/
def datacenterErrors (spec : CloudSpec) (dc : Datacenter) (parentFieldPath : String) :
    List FieldError :=
  let clusterCloudProvider := h.clusterCloudProviderName spec
  let dcCloudProvider := ch.datacenterCloudProviderName dc
  (match clusterCloudProvider with
    | .error err =>
      [invalid parentFieldPath ("could not determine cluster cloud provider: " ++ err)]
    | .ok _ => []) ++
  (match dcCloudProvider with
    | .error err =>
      [invalid parentFieldPath ("could not determine datacenter cloud provider: " ++ err)]
    | .ok _ => []) ++
  if nameOrEmpty clusterCloudProvider ≠ nameOrEmpty dcCloudProvider then
    [invalid parentFieldPath ("expected datacenter provider to be " ++
      goQuote (nameOrEmpty clusterCloudProvider) ++ ", but got " ++
      goQuote (nameOrEmpty dcCloudProvider))]
  else []

/-- **`ValidateCloudSpec`**. -/
def ValidateCloudSpec (spec : CloudSpec) (dc : Option Datacenter) (parentFieldPath : String) :
    List FieldError :=
  let providerName := h.clusterCloudProviderName spec
  (if spec.datacenterName = "" then
    [required (parentFieldPath ++ ".dc") "no node datacenter specified"] else []) ++
  (match providerName with
    | .error err => [invalid parentFieldPath err]
    | .ok _ => []) ++
  (if spec.providerName ≠ "" ∧ spec.providerName ≠ nameOrEmpty providerName then
    [invalid (parentFieldPath ++ ".providerName")
      ("expected providerName to be " ++ goQuote (nameOrEmpty providerName))]
  else []) ++
  (match dc with
    | some dc => datacenterErrors ch h spec dc parentFieldPath
    | none => []) ++
  (validateProviderSpec ch nh spec dc).toList.map (invalid parentFieldPath)

/-! ## What the family checks -/

variable {ch nh h}

theorem credentialError_eq_none_iff {value : String} {ref : Option GlobalSecretKeySelector}
    {key : SecretKey} :
    credentialError ch value ref key = none ↔
      value ≠ "" ∨ ch.validateSecretKeySelector ref key = none := by
  by_cases hv : value = "" <;> simp [credentialError, hv]

/-- **The three validators that test the reference themselves differ from the others in
one message**: when the credential is empty and no reference is given they report their
own, and otherwise they make the family's check. -/
theorem credentialOrReferenceError_eq {value : String} {ref : Option GlobalSecretKeySelector}
    {key : SecretKey} {missing : String} :
    credentialOrReferenceError ch value ref key missing =
      if value = "" ∧ ref = none then some missing else credentialError ch value ref key := by
  by_cases hv : value = "" <;> rcases ref with _ | r <;>
    simp [credentialOrReferenceError, credentialError, hv]

/-- The datacenter checks pass exactly when both providers are known and are the same. -/
theorem datacenterErrors_eq_nil_iff {spec : CloudSpec} {dc : Datacenter}
    {parentFieldPath : String} :
    datacenterErrors ch h spec dc parentFieldPath = [] ↔
      ∃ p, h.clusterCloudProviderName spec = .ok p ∧ ch.datacenterCloudProviderName dc = .ok p := by
  unfold datacenterErrors
  rcases h.clusterCloudProviderName spec with e | p <;>
    rcases ch.datacenterCloudProviderName dc with e' | p' <;> simp [nameOrEmpty]
  exact eq_comm

variable (ch nh h) in
/-- **A valid cloud spec**: a named datacenter, a provider designated by the sub-specs that
agrees with the stated provider name when there is one and with the datacenter's provider
when a datacenter is passed, and a sub-spec that passes its provider's validator. -/
def CloudSpecValid (spec : CloudSpec) (dc : Option Datacenter) : Prop :=
  spec.datacenterName ≠ "" ∧
    (∃ p, h.clusterCloudProviderName spec = .ok p ∧
      (spec.providerName = "" ∨ spec.providerName = p) ∧
      ∀ d, dc = some d → ch.datacenterCloudProviderName d = .ok p) ∧
    validateProviderSpec ch nh spec dc = none

/-- **`ValidateCloudSpec` accepts exactly the valid cloud specs**, whatever field path the
caller passes. -/
theorem ValidateCloudSpec_eq_nil_iff {spec : CloudSpec} {dc : Option Datacenter}
    {parentFieldPath : String} :
    ValidateCloudSpec ch nh h spec dc parentFieldPath = [] ↔ CloudSpecValid ch nh h spec dc := by
  unfold ValidateCloudSpec CloudSpecValid
  rcases hp : h.clusterCloudProviderName spec with e | p <;> rcases dc with _ | d <;>
    simp [hp, datacenterErrors_eq_nil_iff, nameOrEmpty, or_iff_not_imp_left, and_assoc]

/-! ## OpenStack -/

/-- Without a credentials reference, `validateOpenStackCloudSpec` asks for no project: a
spec with its domain, user name and password inline and neither project nor project ID
passes, when its node-port ranges do and the datacenter enforces no floating IP. -/
theorem validateOpenStackCloudSpec_eq_none_of_inline_credentials {spec : OpenstackCloudSpec}
    {dc : Option Datacenter} (hid : spec.applicationCredentialID = "")
    (hdomain : spec.domain ≠ "") (husername : spec.username ≠ "") (hpassword : spec.password ≠ "")
    (hnoref : spec.credentialsReference = none)
    (hrange : nodePortsAllowedIPRangeError nh spec.nodePortsAllowedIPRange = none)
    (hranges : ch.validateNetworkRanges spec.nodePortsAllowedIPRanges = none)
    (hfloating : dc.bind (·.openstack) = none) :
    validateOpenStackCloudSpec ch nh spec dc = none := by
  simp [validateOpenStackCloudSpec, credentialError, namedWithoutNamespace, hid, hdomain,
    husername, hpassword, hnoref, hrange, hranges, hfloating]

end Checks

end Kubermatic.Validation
