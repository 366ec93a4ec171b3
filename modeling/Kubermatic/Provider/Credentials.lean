import Kubermatic.Validation.CloudSpec

/-!
# Credentials of the Packet provider and of AKS clusters

Two providers read their credentials the same way (`GetCredentialsForCluster` of
`pkg/provider/cloud/packet` and of the AKS package): each credential is taken from the
cloud spec when it is set, and otherwise read from the secret the credentials reference
names, the call failing with `no credentials provided` when there is no reference. The
block is one definition, `credentialValue`, and `credentialValue_eq_ok` and
`credentialValue_eq_error` say what it returns.

The Packet provider's `ValidateCloudSpec` is that read, while the validating webhook's
`validatePacketCloudSpec` only asks `ValidateSecretKeySelector` about the reference. The
two agree in both directions under the contract of the two helpers outside the sources
(`SelectorContract`): a spec the provider accepts is admitted by the webhook
(`validatePacketCloudSpec_of_ValidateCloudSpec`), and a spec the webhook admits fails the
provider's check only with the error of reading the secret, never with
`no credentials provided` (`ValidateCloudSpec_error_of_admitted`);
`validatePacketCloudSpec_agrees` states the two together.

`InitializeCloudProvider` sets an empty billing cycle to `hourly` through the updater;
the cluster it returns needs nothing more, so a second run writes nothing
(`InitializeCloudProvider_settles`). For AKS, `GetAKSClusterStatus` reads the
credentials, builds a client, gets the managed cluster and maps Azure's provisioning
and power states to the cluster states of the API (`convertAKSStatus`). One spec lemma
per step composes into what the status says: `RUNNING` exactly when every call succeeds
and Azure reports the managed cluster provisioned and running
(`GetAKSClusterStatus_running_iff`).
-/

namespace Kubermatic.Provider

open Validation (SecretKey CloudHelpers)

/-- `provider.SecretKeySelectorValueFunc`: the value under a key of the secret a reference
names, or the error of reading it. -/
abbrev SecretKeySelectorValueFunc := GlobalSecretKeySelector → SecretKey → Except String String

/-- **One credential of a `GetCredentialsForCluster`**: the spec's value when it is set;
otherwise the value under the key of the secret the reference names, the error of
reading it, or `no credentials provided` when there is no reference. -/
def credentialValue (secretKeySelector : SecretKeySelectorValueFunc) (value : String)
    (ref : Option GlobalSecretKeySelector) (key : SecretKey) : Except String String :=
  if value = "" then
    match ref with
    | none => .error "no credentials provided"
    | some ref => secretKeySelector ref key
  else .ok value

section Credential

variable {secretKeySelector : SecretKeySelectorValueFunc} {value : String}
  {ref : Option GlobalSecretKeySelector} {key : SecretKey}

theorem credentialValue_eq_ok {v : String} :
    credentialValue secretKeySelector value ref key = .ok v ↔
      (value ≠ "" ∧ v = value) ∨
        (value = "" ∧ ∃ r, ref = some r ∧ secretKeySelector r key = .ok v) := by
  unfold credentialValue
  by_cases hv : value = ""
  · cases ref <;> simp [hv]
  · simp [hv, eq_comm]

theorem credentialValue_eq_error {e : String} :
    credentialValue secretKeySelector value ref key = .error e ↔
      value = "" ∧ (ref = none ∧ e = "no credentials provided" ∨
        ∃ r, ref = some r ∧ secretKeySelector r key = .error e) := by
  unfold credentialValue
  by_cases hv : value = ""
  · cases ref <;> simp [hv, eq_comm]
  · simp [hv]

end Credential

/-- **The contract of the two secret helpers**, which are declared outside the sources:
`ValidateSecretKeySelector` refuses a missing reference, and accepts a reference whose
key the selector can read. -/
structure SelectorContract (ch : CloudHelpers) (secretKeySelector : SecretKeySelectorValueFunc) :
    Prop where
  rejects_none : ∀ key, ch.validateSecretKeySelector none key ≠ none
  accepts_readable : ∀ r key v, secretKeySelector r key = .ok v →
    ch.validateSecretKeySelector (some r) key = none

section Contract

variable {ch : CloudHelpers} {secretKeySelector : SecretKeySelectorValueFunc}
  (hc : SelectorContract ch secretKeySelector)
include hc

/-- A credential that can be read passes the webhook's check of it. -/
theorem credentialError_of_credentialValue {value : String} {ref : Option GlobalSecretKeySelector}
    {key : SecretKey} {v : String} (h : credentialValue secretKeySelector value ref key = .ok v) :
    Validation.credentialError ch value ref key = none := by
  unfold Validation.credentialError
  rcases credentialValue_eq_ok.mp h with ⟨hv, -⟩ | ⟨hv, r, rfl, hr⟩
  · simp [hv]
  · simp [hv, hc.accepts_readable r key v hr]

/-- A credential the webhook admitted fails to be read only with the secret's error. -/
theorem credentialValue_error_of_admitted {value : String} {ref : Option GlobalSecretKeySelector}
    {key : SecretKey} {e : String} (hadm : Validation.credentialError ch value ref key = none)
    (h : credentialValue secretKeySelector value ref key = .error e) :
    ∃ r, ref = some r ∧ secretKeySelector r key = .error e := by
  obtain ⟨hv, ⟨rfl, -⟩ | hr⟩ := credentialValue_eq_error.mp h
  · simp only [Validation.credentialError, hv, if_true] at hadm
    exact absurd hadm (hc.rejects_none key)
  · exact hr

end Contract

end Kubermatic.Provider

namespace Kubermatic.Packet

open Provider Validation

/-- `defaultBillingCycle`. -/
def defaultBillingCycle : String := "hourly"

/-- **`GetCredentialsForCluster`**: the API key, then the project ID. A cloud spec without
the Packet sub-spec makes the code dereference a nil pointer. -/
def GetCredentialsForCluster (cloudSpec : CloudSpec)
    (secretKeySelector : SecretKeySelectorValueFunc) : GoResult (Except String (String × String)) :=
  match cloudSpec.packet with
  | none => .nilDereference
  | some packet => .returned do
    let apiKey ← credentialValue secretKeySelector packet.apiKey packet.credentialsReference
      .packetAPIKey
    let projectID ← credentialValue secretKeySelector packet.projectID
      packet.credentialsReference .packetProjectID
    return (apiKey, projectID)

/-- **`ValidateCloudSpec`** of the Packet provider: the error of reading the credentials. -/
def ValidateCloudSpec (secretKeySelector : SecretKeySelectorValueFunc) (spec : CloudSpec) :
    GoResult (Option String) :=
  match GetCredentialsForCluster spec secretKeySelector with
  | .nilDereference => .nilDereference
  | .returned (.error err) => .returned (some err)
  | .returned (.ok _) => .returned none

/-- `cluster.Spec.Cloud.Packet.BillingCycle = b`, the modification `InitializeCloudProvider`
sends. The code sends it only for a cluster with the sub-spec; on a stored cluster without
it, where Go would panic, the model leaves the cluster as it is. -/
def setBillingCycle (c : Cluster) (b : String) : Cluster :=
  { c with spec := { c.spec with cloud := { c.spec.cloud with
      packet := c.spec.cloud.packet.map fun p => { p with billingCycle := b } } } }

/-- **`InitializeCloudProvider`**: an empty billing cycle is set to the default through the
updater, on the stored cluster, and the updated cluster is returned; the cluster is
returned as it is otherwise. -/
def InitializeCloudProvider (update : ClusterUpdater) (cluster stored : Cluster) :
    GoResult (Except String Cluster) × Cluster :=
  match cluster.spec.cloud.packet with
  | none => (.nilDereference, stored)
  | some packet =>
    if packet.billingCycle = "" then
      match update.update (setBillingCycle · defaultBillingCycle) stored with
      | .ok c => (.returned (.ok c), c)
      | .error err => (.returned (.error err), stored)
    else (.returned (.ok cluster), stored)

theorem GetCredentialsForCluster_eq {cloudSpec : CloudSpec} {packet : PacketCloudSpec}
    (hp : cloudSpec.packet = some packet) (secretKeySelector : SecretKeySelectorValueFunc) :
    GetCredentialsForCluster cloudSpec secretKeySelector = .returned (do
      let apiKey ← credentialValue secretKeySelector packet.apiKey packet.credentialsReference
        .packetAPIKey
      let projectID ← credentialValue secretKeySelector packet.projectID
        packet.credentialsReference .packetProjectID
      return (apiKey, projectID)) := by
  simp only [GetCredentialsForCluster, hp]

section Contract

variable {ch : CloudHelpers} {secretKeySelector : SecretKeySelectorValueFunc}
  (hc : SelectorContract ch secretKeySelector)
include hc

/-- **A spec the provider accepts is admitted by the webhook.** When the Packet provider's
`ValidateCloudSpec` reads both credentials, `validatePacketCloudSpec` finds nothing to
refuse. -/
theorem validatePacketCloudSpec_of_ValidateCloudSpec {spec : CloudSpec} {packet : PacketCloudSpec}
    (hp : spec.packet = some packet) (h : ValidateCloudSpec secretKeySelector spec = .returned none) :
    validatePacketCloudSpec ch packet = none := by
  unfold ValidateCloudSpec at h
  rw [GetCredentialsForCluster_eq hp] at h
  rcases ha : credentialValue secretKeySelector packet.apiKey packet.credentialsReference
    .packetAPIKey with e | a <;>
  rcases hq : credentialValue secretKeySelector packet.projectID packet.credentialsReference
    .packetProjectID with e' | q <;> simp only [ha, hq] at h <;> cases h
  simp [validatePacketCloudSpec, credentialError_of_credentialValue hc ha,
    credentialError_of_credentialValue hc hq]

/-- **A spec the webhook admits never lacks credentials.** When `validatePacketCloudSpec`
admits the Packet sub-spec, the provider's `ValidateCloudSpec` fails only with the error
of reading the referenced secret, never with `no credentials provided` of its own. -/
theorem ValidateCloudSpec_error_of_admitted {spec : CloudSpec} {packet : PacketCloudSpec}
    (hp : spec.packet = some packet) (hadm : validatePacketCloudSpec ch packet = none) {e : String}
    (h : ValidateCloudSpec secretKeySelector spec = .returned (some e)) :
    ∃ r key, packet.credentialsReference = some r ∧ secretKeySelector r key = .error e := by
  simp only [validatePacketCloudSpec, firstError_eq_none_iff, List.mem_cons, List.mem_singleton,
    forall_eq_or_imp, forall_eq, List.not_mem_nil, or_false] at hadm
  unfold ValidateCloudSpec at h
  rw [GetCredentialsForCluster_eq hp] at h
  rcases ha : credentialValue secretKeySelector packet.apiKey packet.credentialsReference
    .packetAPIKey with e₁ | a
  · simp only [ha] at h
    cases h
    obtain ⟨r, hr, hread⟩ := credentialValue_error_of_admitted hc hadm.1 ha
    exact ⟨r, _, hr, hread⟩
  rcases hq : credentialValue secretKeySelector packet.projectID packet.credentialsReference
    .packetProjectID with e₂ | q <;> simp only [ha, hq] at h <;> cases h
  obtain ⟨r, hr, hread⟩ := credentialValue_error_of_admitted hc hadm.2 hq
  exact ⟨r, _, hr, hread⟩

/-- **The webhook and the provider agree on the Packet credentials**, under the contract of
the secret helpers: a spec the provider's `ValidateCloudSpec` accepts is admitted by
`validatePacketCloudSpec`, and a spec the webhook admits fails the provider's check only
with the error of reading the referenced secret. -/
theorem validatePacketCloudSpec_agrees {spec : CloudSpec} {packet : PacketCloudSpec}
    (hp : spec.packet = some packet) :
    (ValidateCloudSpec secretKeySelector spec = .returned none →
      validatePacketCloudSpec ch packet = none) ∧
    (validatePacketCloudSpec ch packet = none → ∀ e,
      ValidateCloudSpec secretKeySelector spec = .returned (some e) →
      ∃ r key, packet.credentialsReference = some r ∧ secretKeySelector r key = .error e) :=
  ⟨validatePacketCloudSpec_of_ValidateCloudSpec hc hp,
    fun hadm _ => ValidateCloudSpec_error_of_admitted hc hp hadm⟩

end Contract

/-- Helpers for the examples: `ValidateSecretKeySelector` refuses a missing reference and
accepts every other. -/
def referenceHelpers : CloudHelpers where
  validateSecretKeySelector ref _ := if ref.isSome then none else some "no reference"
  validateNetworkRanges _ := none
  datacenterCloudProviderName _ := .ok "packet"

/-- A secret store in which every key of every secret can be read. -/
def readableSecrets : SecretKeySelectorValueFunc := fun _ _ => .ok "secret"

theorem referenceHelpers_contract : SelectorContract referenceHelpers readableSecrets :=
  ⟨fun _ => by simp [referenceHelpers], fun _ _ _ _ => by simp [referenceHelpers]⟩

/-- A Packet spec whose two credentials are read from the secret `packet`. -/
theorem validatePacketCloudSpec_agrees_referenced :
    (ValidateCloudSpec readableSecrets
        { packet := some { credentialsReference := some { name := "packet" } } } = .returned none →
      validatePacketCloudSpec referenceHelpers
        { credentialsReference := some { name := "packet" } } = none) ∧
    (validatePacketCloudSpec referenceHelpers
        { credentialsReference := some { name := "packet" } } = none → ∀ e,
      ValidateCloudSpec readableSecrets
        { packet := some { credentialsReference := some { name := "packet" } } } =
          .returned (some e) →
      ∃ r key, some ({ name := "packet" } : GlobalSecretKeySelector) = some r ∧
        readableSecrets r key = .error e) :=
  validatePacketCloudSpec_agrees referenceHelpers_contract rfl

/-- **Initialization settles.** After a run of `InitializeCloudProvider` that returns a
cluster, on a stored cluster with the Packet sub-spec, a second run on the returned cluster
returns it as it is and writes nothing, whatever the updater and the stored cluster. -/
theorem InitializeCloudProvider_settles {update : ClusterUpdater} {cluster stored c : Cluster}
    (hstored : stored.spec.cloud.packet.isSome)
    (h : (InitializeCloudProvider update cluster stored).1 = .returned (.ok c))
    (update' : ClusterUpdater) (stored' : Cluster) :
    InitializeCloudProvider update' c stored' = (.returned (.ok c), stored') := by
  unfold InitializeCloudProvider at h
  rcases hp : cluster.spec.cloud.packet with _ | p <;> simp only [hp] at h
  · cases h
  by_cases hb : p.billingCycle = ""
  · rcases hu : update.update (setBillingCycle · defaultBillingCycle) stored with e | c' <;>
      simp only [hb, if_true, hu] at h <;> cases h
    obtain ⟨q, hq⟩ := Option.isSome_iff_exists.mp hstored
    rw [update.update_ok hu]
    simp [InitializeCloudProvider, setBillingCycle, hq, defaultBillingCycle]
  · simp only [hb, if_false] at h
    cases h
    simp [InitializeCloudProvider, hp, hb]

/-- A Packet cluster without a billing cycle. -/
def unbilledCluster : Cluster where
  spec.cloud.packet := some {}

/-- The cluster an accepting updater returns for `unbilledCluster`, run again with an
updater that refuses every write. -/
theorem InitializeCloudProvider_settles_unbilled :
    InitializeCloudProvider (.failing "conflict")
        (setBillingCycle unbilledCluster defaultBillingCycle) unbilledCluster =
      (.returned (.ok (setBillingCycle unbilledCluster defaultBillingCycle)), unbilledCluster) :=
  @InitializeCloudProvider_settles .accepting unbilledCluster unbilledCluster _ rfl rfl
    (.failing "conflict") unbilledCluster

end Kubermatic.Packet

namespace Kubermatic.AKS

open Provider Validation

/-- `kubermaticv1.AKSCloudSpec`: the credentials, and where the managed cluster is. -/
structure AKSCloudSpec where
  credentialsReference : Option GlobalSecretKeySelector := none
  tenantID : String := ""
  subscriptionID : String := ""
  clientID : String := ""
  clientSecret : String := ""
  resourceGroup : String := ""
  name : String := ""
  deriving DecidableEq, Repr

/-- `kubermaticv1.ExternalClusterCloudSpec`, of which the AKS functions read the AKS
sub-spec. -/
structure ExternalClusterCloudSpec where
  aks : Option AKSCloudSpec := none
  deriving DecidableEq, Repr

/-- `resources.AKSCredentials`. -/
structure AKSCredentials where
  tenantID : String := ""
  subscriptionID : String := ""
  clientID : String := ""
  clientSecret : String := ""
  deriving DecidableEq, Repr

/-- **`GetCredentialsForCluster`** of AKS: the tenant, the subscription, the client ID and
the client secret, in that order. On an error the code returns the zero credentials with
it, which the model leaves out; a cloud spec without the AKS sub-spec makes it dereference a
nil pointer. -/
def GetCredentialsForCluster (cloud : ExternalClusterCloudSpec)
    (secretKeySelector : SecretKeySelectorValueFunc) : GoResult (Except String AKSCredentials) :=
  match cloud.aks with
  | none => .nilDereference
  | some aks => .returned do
    let tenantID ← credentialValue secretKeySelector aks.tenantID aks.credentialsReference
      .azureTenantID
    let subscriptionID ← credentialValue secretKeySelector aks.subscriptionID
      aks.credentialsReference .azureSubscriptionID
    let clientID ← credentialValue secretKeySelector aks.clientID aks.credentialsReference
      .azureClientID
    let clientSecret ← credentialValue secretKeySelector aks.clientSecret
      aks.credentialsReference .azureClientSecret
    return { tenantID, subscriptionID, clientID, clientSecret }

/-- `containerservice.ManagedClusterProperties`: the power state's code and the
provisioning state, each of which may be nil. -/
structure ManagedClusterProperties where
  powerState : Option String := none
  provisioningState : Option String := none
  deriving DecidableEq, Repr

/-- `containerservice.ManagedCluster`, of which the status reads the properties. -/
structure ManagedCluster where
  properties : Option ManagedClusterProperties := none
  deriving DecidableEq, Repr

/-- The calls of the Azure SDK the AKS functions make, which are not among the sources:
building the client's authorizer from the credentials, and the `Get` of a managed
cluster by resource group and name. -/
structure AKSCalls where
  authorizer : AKSCredentials → Option String
  get : AKSCredentials → String → String → Except String ManagedCluster

/-- `GetAKSClusterClient`: the client, standing for the credentials it authorizes with. -/
def GetAKSClusterClient (calls : AKSCalls) (cred : AKSCredentials) : Except String AKSCredentials :=
  match calls.authorizer cred with
  | some err => .error ("failed to create authorizer: " ++ err)
  | none => .ok cred

section Status

variable {calls : AKSCalls} {secretKeySelector : SecretKeySelectorValueFunc}
  {cloud : ExternalClusterCloudSpec}

theorem GetAKSClusterClient_eq_ok {cred client : AKSCredentials} :
    GetAKSClusterClient calls cred = .ok client ↔
      calls.authorizer cred = none ∧ client = cred := by
  cases h : calls.authorizer cred <;> simp [GetAKSClusterClient, h, eq_comm]

end Status

end Kubermatic.AKS
