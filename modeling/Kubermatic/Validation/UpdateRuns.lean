import Mathlib.Data.List.Chain
import Kubermatic.Validation.ClusterUpdate

/-!
# What a run of accepted updates keeps

A cluster lives through a run of updates `c₀, c₁, …, cₙ`, each of which
`ValidateClusterUpdate` accepted. The checks compare one update with the cluster before
it; what a check guarantees for one step is worth having only if it holds along the
whole run – a check that let a value be cleared and then set to something new would
pass every step and still change the value.

`KeepsSetFields c c'` says what `c'` keeps of `c`: the datacenter and the cloud
provider, every field that is immutable once set and that `c` sets, and the one-way
feature flags that `c` enables. `KeepsAzureFields` says the same of the Azure resource
names, and `KeepsCNIPlugin` of the CNI settings. Each is proved of one accepted step
from the checks, and is transitive, so it holds between any earlier and any later
cluster of the run (`validateClusterUpdate_run_keeps_set_fields`); CNI settings need the
run to carry no migration label.
-/

namespace Kubermatic.Validation

/-- `new` keeps `old` once `old` is set. -/
def KeepsOnceSet (isSet : α → Prop) (old new : α) : Prop :=
  isSet old → new = old

theorem KeepsOnceSet.trans {isSet : α → Prop} {a b c : α} (hab : KeepsOnceSet isSet a b)
    (hbc : KeepsOnceSet isSet b c) : KeepsOnceSet isSet a c :=
  fun ha => (hbc (hab ha ▸ ha)).trans (hab ha)

section Keeps

variable (h : Helpers)

/-- **What an accepted update keeps**: the datacenter and the cloud provider, every field
that is immutable once set and that `c` sets, and the feature flags that cannot be
disabled once `c` enables them. -/
structure KeepsSetFields (c c' : Cluster) : Prop where
  datacenterName : c'.spec.cloud.datacenterName = c.spec.cloud.datacenterName
  cloudProvider :
    h.clusterCloudProviderName c'.spec.cloud = h.clusterCloudProviderName c.spec.cloud
  exposeStrategy : KeepsOnceSet (· ≠ "") c.spec.exposeStrategy c'.spec.exposeStrategy
  apiserverNodePortRange :
    KeepsOnceSet (· ≠ "") c.spec.apiserverNodePortRange c'.spec.apiserverNodePortRange
  ipFamily : KeepsOnceSet (· ≠ "") c.spec.clusterNetwork.ipFamily c'.spec.clusterNetwork.ipFamily
  podsCIDRBlocks : KeepsOnceSet (· ≠ []) c.spec.clusterNetwork.pods.cidrBlocks
    c'.spec.clusterNetwork.pods.cidrBlocks
  servicesCIDRBlocks : KeepsOnceSet (· ≠ []) c.spec.clusterNetwork.services.cidrBlocks
    c'.spec.clusterNetwork.services.cidrBlocks
  proxyMode : KeepsOnceSet (· ≠ "") c.spec.clusterNetwork.proxyMode
    c'.spec.clusterNetwork.proxyMode
  dnsDomain : KeepsOnceSet (· ≠ "") c.spec.clusterNetwork.dnsDomain
    c'.spec.clusterNetwork.dnsDomain
  nodeLocalDNSCacheEnabled : KeepsOnceSet (·.isSome) c.spec.clusterNetwork.nodeLocalDNSCacheEnabled
    c'.spec.clusterNetwork.nodeLocalDNSCacheEnabled
  enableOperatingSystemManager :
    c'.spec.enableOperatingSystemManager = c.spec.enableOperatingSystemManager
  enableUserSSHKeyAgent :
    KeepsOnceSet (·.isSome) c.spec.enableUserSSHKeyAgent c'.spec.enableUserSSHKeyAgent
  externalCloudProvider : boolAt c.spec.features ClusterFeatureExternalCloudProvider = true →
    boolAt c'.spec.features ClusterFeatureExternalCloudProvider = true
  etcdLauncher : boolAt c.spec.features ClusterFeatureEtcdLauncher = true →
    boolAt c'.spec.features ClusterFeatureEtcdLauncher = true

theorem KeepsSetFields.trans {c₁ c₂ c₃ : Cluster} (h₁ : KeepsSetFields h c₁ c₂)
    (h₂ : KeepsSetFields h c₂ c₃) : KeepsSetFields h c₁ c₃ where
  datacenterName := h₂.datacenterName.trans h₁.datacenterName
  cloudProvider := h₂.cloudProvider.trans h₁.cloudProvider
  exposeStrategy := h₁.exposeStrategy.trans h₂.exposeStrategy
  apiserverNodePortRange := h₁.apiserverNodePortRange.trans h₂.apiserverNodePortRange
  ipFamily := h₁.ipFamily.trans h₂.ipFamily
  podsCIDRBlocks := h₁.podsCIDRBlocks.trans h₂.podsCIDRBlocks
  servicesCIDRBlocks := h₁.servicesCIDRBlocks.trans h₂.servicesCIDRBlocks
  proxyMode := h₁.proxyMode.trans h₂.proxyMode
  dnsDomain := h₁.dnsDomain.trans h₂.dnsDomain
  nodeLocalDNSCacheEnabled := h₁.nodeLocalDNSCacheEnabled.trans h₂.nodeLocalDNSCacheEnabled
  enableOperatingSystemManager :=
    h₂.enableOperatingSystemManager.trans h₁.enableOperatingSystemManager
  enableUserSSHKeyAgent := h₁.enableUserSSHKeyAgent.trans h₂.enableUserSSHKeyAgent
  externalCloudProvider := h₂.externalCloudProvider ∘ h₁.externalCloudProvider
  etcdLauncher := h₂.etcdLauncher ∘ h₁.etcdLauncher

instance : IsTrans Cluster (KeepsSetFields h) := ⟨fun _ _ _ => KeepsSetFields.trans h⟩

end Keeps

/-- An Azure cluster stays one, and keeps every Azure resource name it sets. -/
def KeepsAzureFields (c c' : Cluster) : Prop :=
  ∀ a, c.spec.cloud.azure = some a → ∃ a', c'.spec.cloud.azure = some a' ∧
    ∀ f ∈ Azure.immutableFields, KeepsOnceSet (· ≠ "") (f.2 a) (f.2 a')

/-- CNI settings that are there stay there, with their type. -/
def KeepsCNIPlugin (c c' : Cluster) : Prop :=
  ∀ p, c.spec.cniPlugin = some p → ∃ p', c'.spec.cniPlugin = some p' ∧ p'.type = p.type

instance : IsTrans Cluster KeepsAzureFields where
  trans _ _ _ h₁ h₂ a ha := by
    obtain ⟨b, hb, hab⟩ := h₁ a ha
    obtain ⟨c, hc, hbc⟩ := h₂ b hb
    exact ⟨c, hc, fun f hf => (hab f hf).trans (hbc f hf)⟩

instance : IsTrans Cluster KeepsCNIPlugin where
  trans _ _ _ h₁ h₂ p hp := by
    obtain ⟨q, hq, hpq⟩ := h₁ p hp
    obtain ⟨r, hr, hqr⟩ := h₂ q hq
    exact ⟨r, hr, hqr.trans hpq⟩

/-! ## One accepted update -/

section Step

variable (h : Helpers)

/-- **An update `ValidateClusterUpdate` accepts**: some call returns no error, with the
Azure provider as the cloud provider when the old cluster is an Azure one. -/
def Accepted (oldCluster newCluster : Cluster) : Prop :=
  ∃ args : UpdateArgs,
    (oldCluster.spec.cloud.azure.isSome → args.cloudProvider = some Azure.validateCloudSpecUpdate) ∧
    validateClusterUpdate h args newCluster oldCluster = []

theorem validateUpdateChecks_eq_nil_of_accepted {args : UpdateArgs}
    {newCluster oldCluster : Cluster} (hnil : validateClusterUpdate h args newCluster oldCluster = []) :
    validateUpdateChecks h args.cloudProvider newCluster oldCluster = [] := by
  simp only [validateClusterUpdate, List.append_eq_nil] at hnil
  exact hnil.1.1.2

theorem keepsSetFields_of_validateUpdateChecks
    {cloudProvider : Option (CloudSpec → CloudSpec → Option String)}
    {newCluster oldCluster : Cluster}
    (hnil : validateUpdateChecks h cloudProvider newCluster oldCluster = []) :
    KeepsSetFields h oldCluster newCluster := by
  simp only [validateUpdateChecks, validateClusterNetworkingConfigUpdateImmutability,
    List.append_eq_nil, and_assoc, immutableOnceSet_eq_nil, validateFeatureFlagUpdate_eq_nil_iff,
    List.map_eq_nil_iff, option_toList_eq_nil, validateCloudChange_eq_none_iff, ne_eq,
    List.length_eq_zero] at hnil
  obtain ⟨-, hdc, ⟨p, hold, hnew⟩, -, hext, hetcd, hexpose, hport, hssh, hosm, hip, hpods, hsvc,
    hproxy, hdns, hnl, -⟩ := hnil
  exact
    { datacenterName := hdc
      cloudProvider := hnew.trans hold.symm
      exposeStrategy := fun hs => (hexpose hs).symm
      apiserverNodePortRange := fun hs => (hport hs).symm
      ipFamily := fun hs => (hip hs).symm
      podsCIDRBlocks := fun hs => (hpods hs).symm
      servicesCIDRBlocks := fun hs => (hsvc hs).symm
      proxyMode := fun hs => (hproxy hs).symm
      dnsDomain := fun hs => (hdns hs).symm
      nodeLocalDNSCacheEnabled := fun hs => (hnl hs).symm
      enableOperatingSystemManager := by by_contra hne; exact hne (hosm (Ne.symm hne)).symm
      enableUserSSHKeyAgent := fun hs => (validateUserSSHKeyAgentUpdate_eq_nil hssh hs).symm
      externalCloudProvider := hext
      etcdLauncher := hetcd }

theorem Accepted.keepsSetFields {oldCluster newCluster : Cluster}
    (hacc : Accepted h oldCluster newCluster) : KeepsSetFields h oldCluster newCluster :=
  let ⟨_, _, hnil⟩ := hacc
  keepsSetFields_of_validateUpdateChecks h (validateUpdateChecks_eq_nil_of_accepted h hnil)

theorem Accepted.keepsAzureFields {oldCluster newCluster : Cluster}
    (hacc : Accepted h oldCluster newCluster) : KeepsAzureFields oldCluster newCluster := by
  intro a ha
  obtain ⟨args, hprovider, hnil⟩ := hacc
  have hchecks := validateUpdateChecks_eq_nil_of_accepted h hnil
  simp only [validateUpdateChecks, hprovider (by simp [ha]), List.append_eq_nil,
    List.map_eq_nil_iff, option_toList_eq_nil, Azure.validateCloudSpecUpdate_eq_none_iff] at hchecks
  obtain ⟨o, n, ho, hn, hkeep⟩ := hchecks.1.1.1.1.1.1.1.1.1.1
  obtain rfl := Option.some.inj (ha.symm.trans ho)
  exact ⟨n, hn, hkeep⟩

theorem Accepted.keepsCNIPlugin {oldCluster newCluster : Cluster}
    (hacc : Accepted h oldCluster newCluster)
    (hlabel : hasKey newCluster.labels UnsafeCNIMigrationLabel = false) :
    KeepsCNIPlugin oldCluster newCluster := by
  obtain ⟨args, -, hnil⟩ := hacc
  have hchecks := validateUpdateChecks_eq_nil_of_accepted h hnil
  simp only [validateUpdateChecks, List.append_eq_nil, option_toList_eq_nil] at hchecks
  exact fun p hp => validateCNIUpdate_keeps_type h hchecks.2 hlabel hp

end Step

/-! ## Runs of accepted updates -/

/-- **A run of accepted updates keeps what was set.** For every run `c₀, …, cₙ` whose
every step `ValidateClusterUpdate` accepts, every later cluster keeps of every earlier
one the datacenter, the cloud provider, the immutable fields it set and the feature flags
it enabled, and an Azure cluster's resource names; when no cluster of the run carries
the CNI migration label, CNI settings stay, with their type. -/
theorem validateClusterUpdate_run_keeps_set_fields (h : Helpers) (cs : List Cluster)
    (hrun : cs.Chain' (Accepted h)) :
    cs.Pairwise (KeepsSetFields h) ∧ cs.Pairwise KeepsAzureFields ∧
      ((∀ c ∈ cs, hasKey c.labels UnsafeCNIMigrationLabel = false) →
        cs.Pairwise KeepsCNIPlugin) := by
  refine ⟨List.chain'_iff_pairwise.mp (hrun.imp fun _ _ => Accepted.keepsSetFields h),
    List.chain'_iff_pairwise.mp (hrun.imp fun _ _ => Accepted.keepsAzureFields h),
    fun hlabels => List.chain'_iff_pairwise.mp ?_⟩
  exact (List.Chain'.iff_mem.mp hrun).imp fun _ _ ⟨_, hc', hacc⟩ =>
    hacc.keepsCNIPlugin h (hlabels _ hc')

/-- The calls of the sample run: no version error, nothing wrong with the new spec, and
the Azure provider. -/
def sampleAzureUpdateArgs : UpdateArgs :=
  ⟨fun _ => ([], none), fun _ _ => [], some Azure.validateCloudSpecUpdate⟩

/-- The Azure cloud spec of the sample run, with its resource group. -/
def sampleAzureCloud (resourceGroup : String) : CloudSpec :=
  { datacenterName := "azure-westeurope", azure := some { resourceGroup := resourceGroup } }

/-- An Azure cluster whose provider fills in the resource group, after which the external
cloud provider is enabled. -/
def sampleUpdateRun : List Cluster :=
  [{ spec := { cloud := sampleAzureCloud "", exposeStrategy := "NodePort" } },
    { spec := { cloud := sampleAzureCloud "rg", exposeStrategy := "NodePort" } },
    { spec :=
        { cloud := sampleAzureCloud "rg", exposeStrategy := "NodePort"
          features := [(ClusterFeatureExternalCloudProvider, true)] } }]

theorem validateClusterUpdate_run_keeps_set_fields_sample :
    sampleUpdateRun.Chain' (Accepted sampleHelpers) ∧
      sampleUpdateRun.Pairwise (KeepsSetFields sampleHelpers) ∧
      sampleUpdateRun.Pairwise KeepsAzureFields ∧
      ((∀ c ∈ sampleUpdateRun, hasKey c.labels UnsafeCNIMigrationLabel = false) →
        sampleUpdateRun.Pairwise KeepsCNIPlugin) :=
  have hrun : sampleUpdateRun.Chain' (Accepted sampleHelpers) := by
    simp only [sampleUpdateRun, List.chain'_cons, List.chain'_singleton, and_true]
    exact ⟨⟨sampleAzureUpdateArgs, fun _ => rfl, by decide⟩,
      ⟨sampleAzureUpdateArgs, fun _ => rfl, by decide⟩⟩
  ⟨hrun, validateClusterUpdate_run_keeps_set_fields sampleHelpers sampleUpdateRun hrun⟩

end Kubermatic.Validation
