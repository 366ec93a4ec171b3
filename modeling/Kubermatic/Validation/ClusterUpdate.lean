import Kubermatic.Azure.Provider

/-!
# Validating an update of a cluster

`ValidateClusterUpdate(ctx, newCluster, oldCluster, …)` (`pkg/validation`) returns the
list of what is wrong with an update of a cluster; an empty list admits it. Besides
validating the new spec on its own, it refuses changes that the cluster's running
infrastructure could not follow: the datacenter and the cloud provider never change, and
a row of fields – the expose strategy, the node-port range, the cluster network, the
user SSH key agent, the Azure resource names – cannot change once they are set. Two
feature flags cannot be switched off once on, CNI settings can neither go nor change
their type without the migration label, and the encryption-at-rest flag cannot go while
encryption is configured or active.

Each check is written as the code writes it, in its order, with its field path and
message. Most are one shape – once the old value is set, the new one must equal it –
and are `immutableOnceSet` at their own field. What the checks call that is declared
outside the sources, in `pkg/apis` and other packages, is a `Helpers`; what a call gets
besides the two clusters (datacenter, cloud provider, version manager, feature gates) is
an `UpdateArgs`. `ValidateClusterSpec`, which validates the new spec alone, is part of
the latter.

The encryption check is called as `validateEncryptionUpdate(newCluster, oldCluster)`
while its parameters are `(oldCluster, newCluster)`: it reads the phase, flag and
configuration of the old cluster from the new one and the other way round
(`validateClusterUpdate_encryption_errors`), so an update that removes the flag, or one
that changes the configuration while encryption is under way, passes
(`validateClusterUpdate_misses_encryption_errors`).
-/

namespace Kubermatic.Validation

/-! ## Field errors -/

/-- `field.ErrorType`, the kinds the cluster validation reports. -/
inductive ErrorType
  | required | invalid | forbidden | internal | tooMany | notSupported
  deriving DecidableEq, Repr

/-- `field.Error`: its type, its field path as `field.Path.String` renders it, and its
detail. The bad value of an `Invalid` error is left out. -/
structure FieldError where
  type : ErrorType
  field : String
  detail : String
  deriving DecidableEq, Repr

/-- `field.Required`. -/
def required (field detail : String) : FieldError := ⟨.required, field, detail⟩

/-- `field.Invalid`. -/
def invalid (field detail : String) : FieldError := ⟨.invalid, field, detail⟩

/-- `field.Forbidden`. -/
def forbidden (field detail : String) : FieldError := ⟨.forbidden, field, detail⟩

/-- `field.InternalError`. -/
def internalError (field detail : String) : FieldError := ⟨.internal, field, detail⟩

/-- `apimachineryvalidation.ValidateImmutableField`: an `Invalid` error on the field when
the new value is not the old one. -/
def validateImmutableField [DecidableEq α] (newVal oldVal : α) (fldPath : String) :
    List FieldError :=
  if oldVal = newVal then [] else [invalid fldPath "field is immutable"]

/-- The shape of most checks of `ValidateClusterUpdate`: once the old value is set, the
new one must equal it. -/
def immutableOnceSet [DecidableEq α] (isSet : Prop) [Decidable isSet] (newVal oldVal : α)
    (fldPath : String) : List FieldError :=
  if isSet then validateImmutableField newVal oldVal fldPath else []

@[simp] theorem validateImmutableField_eq_nil [DecidableEq α] {newVal oldVal : α}
    {fldPath : String} : validateImmutableField newVal oldVal fldPath = [] ↔ oldVal = newVal := by
  unfold validateImmutableField
  split <;> simp_all

@[simp] theorem immutableOnceSet_eq_nil [DecidableEq α] {isSet : Prop} [Decidable isSet]
    {newVal oldVal : α} {fldPath : String} :
    immutableOnceSet isSet newVal oldVal fldPath = [] ↔ (isSet → oldVal = newVal) := by
  unfold immutableOnceSet
  split <;> simp_all

/-! ## What the checks call -/

def ClusterFeatureExternalCloudProvider : String := "externalCloudProvider"
def ClusterFeatureEtcdLauncher : String := "etcdLauncher"
def ClusterFeatureEncryptionAtRest : String := "encryptionAtRest"
def ClusterEncryptionPhaseActive : String := "Active"

def UnsafeCNIUpgradeLabel : String := "unsafe-cni-upgrade"
def UnsafeCNIMigrationLabel : String := "unsafe-cni-migration"
def ErrCloudChangeNotAllowed : String := "not allowed to change the cloud provider"

/-- The functions the checks call that are declared outside the sources. -/
structure Helpers where
  /-- `provider.ClusterCloudProviderName`: the provider of a cloud spec, or the error. -/
  clusterCloudProviderName : CloudSpec → Except String String
  /-- `kuberneteshelper.ValidateKubernetesToken`: the error, if any. -/
  validateKubernetesToken : String → Option String
  /-- `cni.IsSupportedCNIPluginTypeAndVersion`. -/
  isSupportedCNIPluginTypeAndVersion : CNIPluginSettings → Bool
  /-- `semverlib.NewVersion`: the version's `Major()` and `Minor()`, which are `uint64`s, or
  the error. -/
  newVersion : String → Except String (UInt64 × UInt64)
  /-- `Cluster.IsEncryptionEnabled`. -/
  isEncryptionEnabled : Cluster → Bool
  /-- `Cluster.IsEncryptionActive`. -/
  isEncryptionActive : Cluster → Bool

/-- What a call of `ValidateClusterUpdate` gets besides the two clusters. -/
structure UpdateArgs where
  /-- `versionManager.GetVersionsForProvider`: the versions and the error. -/
  getVersionsForProvider : String → List String × Option String
  /-- `ValidateClusterSpec` of a spec and the versions, with the call's datacenter and
  feature gates. -/
  validateClusterSpec : ClusterSpec → List String → List FieldError
  /-- `cloudProvider.ValidateCloudSpecUpdate(oldSpec, newSpec)`, when a cloud provider
  is passed. -/
  cloudProvider : Option (CloudSpec → CloudSpec → Option String)

/-! ## The checks -/

section Checks

variable (h : Helpers)

/-- `ValidateCloudChange`. -/
def validateCloudChange (newSpec oldSpec : CloudSpec) : Option String :=
  if newSpec.datacenterName ≠ oldSpec.datacenterName then
    some "changing the datacenter is not allowed"
  else
    match h.clusterCloudProviderName oldSpec with
    | .error e => some ("could not determine old cloud provider: " ++ e)
    | .ok oldCloudProvider =>
      match h.clusterCloudProviderName newSpec with
      | .error e => some ("could not determine new cloud provider: " ++ e)
      | .ok newCloudProvider =>
        if oldCloudProvider ≠ newCloudProvider then some ErrCloudChangeNotAllowed else none

/-- A feature flag of the two that cannot be disabled once enabled. -/
def validateFeatureFlagUpdate (flag : String) (newCluster oldCluster : Cluster) :
    List FieldError :=
  if boolAt oldCluster.spec.features flag && !boolAt newCluster.spec.features flag then
    [invalid ("spec.features[" ++ flag ++ "]")
      ("feature gate " ++ goQuote flag ++ " cannot be disabled once it\x27s enabled")]
  else []

/-- `validateClusterNetworkingConfigUpdateImmutability`. -/
def validateClusterNetworkingConfigUpdateImmutability (c oldC : ClusterNetworkingConfig)
    (fldPath : String) : List FieldError :=
  immutableOnceSet (oldC.ipFamily ≠ "") c.ipFamily oldC.ipFamily (fldPath ++ ".ipFamily") ++
  immutableOnceSet (oldC.pods.cidrBlocks.length ≠ 0) c.pods.cidrBlocks oldC.pods.cidrBlocks
    (fldPath ++ ".pods.cidrBlocks") ++
  immutableOnceSet (oldC.services.cidrBlocks.length ≠ 0) c.services.cidrBlocks
    oldC.services.cidrBlocks (fldPath ++ ".services.cidrBlocks") ++
  immutableOnceSet (oldC.proxyMode ≠ "") c.proxyMode oldC.proxyMode (fldPath ++ ".proxyMode") ++
  immutableOnceSet (oldC.dnsDomain ≠ "") c.dnsDomain oldC.dnsDomain (fldPath ++ ".dnsDomain") ++
  immutableOnceSet oldC.nodeLocalDNSCacheEnabled.isSome c.nodeLocalDNSCacheEnabled
    oldC.nodeLocalDNSCacheEnabled (fldPath ++ ".nodeLocalDNSCacheEnabled")

/-- `validateCNIUpdate`. -/
def validateCNIUpdate (newCni oldCni : Option CNIPluginSettings) (labels : List (String × String)) :
    Option FieldError :=
  match newCni, oldCni with
  | none, none => none
  | none, some _ => some (required "spec.cniPlugin" "CNI plugin settings cannot be removed")
  | some _, none => none
  | some newCni, some oldCni =>
    if newCni.type ≠ oldCni.type then
      if hasKey labels UnsafeCNIMigrationLabel then none
      else some (forbidden "spec.cniPlugin.type"
        ("cannot change CNI plugin type, unless " ++ UnsafeCNIMigrationLabel ++ " label is present"))
    else if newCni.version ≠ oldCni.version then
      if !h.isSupportedCNIPluginTypeAndVersion oldCni then none
      else match h.newVersion newCni.version with
      | .error err => some (invalid "spec.cniPlugin.version"
          ("couldn\x27t parse CNI version `" ++ newCni.version ++ "`: " ++ err))
      | .ok newV => match h.newVersion oldCni.version with
        | .error err => some (invalid "spec.cniPlugin.version"
            ("couldn\x27t parse CNI version `" ++ oldCni.version ++ "`: " ++ err))
        | .ok oldV =>
          if (newV.1 ≠ oldV.1 ∨ (newV.2 ≠ oldV.2 + 1 ∧ oldV.2 ≠ newV.2 + 1)) &&
              !hasKey labels UnsafeCNIUpgradeLabel then
            some (forbidden "spec.cniPlugin.version" ("cannot upgrade CNI from " ++
              oldCni.version ++ " to " ++ newCni.version ++
              ", only one minor version difference is allowed unless " ++
              UnsafeCNIUpgradeLabel ++ " label is present"))
          else none
    else none

/-- The error of the flag check of `validateEncryptionUpdate`. -/
def encryptionFlagError : FieldError :=
  forbidden "features" ("cannot disable " ++ goQuote ClusterFeatureEncryptionAtRest ++
    " feature flag while encryption is still configured or active")

/-- The error of the phase check of `validateEncryptionUpdate`. -/
def encryptionPhaseError (phase : String) : FieldError :=
  forbidden "spec.encryptionConfiguration"
    ("no changes to encryption configuration are allowed while encryption phase is \x27" ++
      phase ++ "\x27")

/-- `validateEncryptionUpdate(oldCluster, newCluster)`. `enabled, ok := m[k]; ok && enabled`
is `m.lookup k = some true`. -/
def validateEncryptionUpdate (oldCluster newCluster : Cluster) : List FieldError :=
  (if oldCluster.spec.features.lookup ClusterFeatureEncryptionAtRest = some true then
    match oldCluster.status.encryption with
    | none => []
    | some encryption =>
      (if encryption.phase ≠ "" ∧ encryption.phase ≠ ClusterEncryptionPhaseActive ∧
          oldCluster.spec.encryptionConfiguration ≠ newCluster.spec.encryptionConfiguration then
        [encryptionPhaseError encryption.phase]
      else []) ++
      match oldCluster.spec.encryptionConfiguration, newCluster.spec.encryptionConfiguration with
      | some oldConfig, some newConfig =>
        if oldConfig.enabled && newConfig.enabled && oldConfig.resources ≠ newConfig.resources then
          [forbidden "spec.encryptionConfiguration.resources"
            "list of encrypted resources cannot be changed. Please disable encryption and re-configure"]
        else []
      | _, _ => []
  else []) ++
  if newCluster.spec.features.lookup ClusterFeatureEncryptionAtRest ≠ some true ∧
      (h.isEncryptionEnabled newCluster || h.isEncryptionActive newCluster) then
    [encryptionFlagError]
  else []

/-- The check of `EnableUserSSHKeyAgent`: immutable once set, and when it was not set it
may not be set to false. -/
def validateUserSSHKeyAgentUpdate (newCluster oldCluster : Cluster) : List FieldError :=
  match oldCluster.spec.enableUserSSHKeyAgent with
  | some _ => validateImmutableField newCluster.spec.enableUserSSHKeyAgent
      oldCluster.spec.enableUserSSHKeyAgent "spec.enableUserSSHKeyAgent"
  | none =>
    if newCluster.spec.enableUserSSHKeyAgent = some false then
      [invalid "cluster.spec.enableUserSSHKeyAgent"
        "UserSSHKey agent is enabled by default for user clusters created prior KKP 2.16 version"]
    else []

/-- The checks of `ValidateClusterUpdate` that compare the two clusters, from the cloud
provider's to the CNI one, in their order. -/
def validateUpdateChecks (cloudProvider : Option (CloudSpec → CloudSpec → Option String))
    (newCluster oldCluster : Cluster) : List FieldError :=
  (match cloudProvider with
    | some validateCloudSpecUpdate =>
      (validateCloudSpecUpdate oldCluster.spec.cloud newCluster.spec.cloud).toList.map
        (forbidden "spec.cloud")
    | none => []) ++
  (validateCloudChange h newCluster.spec.cloud oldCluster.spec.cloud).toList.map
    (forbidden "spec.cloud") ++
  (if newCluster.adminToken ≠ "" then
    (h.validateKubernetesToken newCluster.adminToken).toList.map (invalid "address.adminToken")
  else []) ++
  validateFeatureFlagUpdate ClusterFeatureExternalCloudProvider newCluster oldCluster ++
  validateFeatureFlagUpdate ClusterFeatureEtcdLauncher newCluster oldCluster ++
  immutableOnceSet (oldCluster.spec.exposeStrategy ≠ "") newCluster.spec.exposeStrategy
    oldCluster.spec.exposeStrategy "spec.exposeStrategy" ++
  immutableOnceSet (oldCluster.spec.apiserverNodePortRange ≠ "")
    newCluster.spec.apiserverNodePortRange oldCluster.spec.apiserverNodePortRange
    "spec.componentsOverride.apiserver.nodePortRange" ++
  validateUserSSHKeyAgentUpdate newCluster oldCluster ++
  immutableOnceSet (oldCluster.spec.enableOperatingSystemManager ≠
      newCluster.spec.enableOperatingSystemManager)
    newCluster.spec.enableOperatingSystemManager oldCluster.spec.enableOperatingSystemManager
    "spec.enableOperatingSystemManager" ++
  validateClusterNetworkingConfigUpdateImmutability newCluster.spec.clusterNetwork
    oldCluster.spec.clusterNetwork "spec.clusterNetwork" ++
  (validateCNIUpdate h newCluster.spec.cniPlugin oldCluster.spec.cniPlugin newCluster.labels).toList

/-- **`ValidateClusterUpdate`**. The encryption check is called with the new cluster in
the place of its `oldCluster` parameter, as the code calls it. -/
def validateClusterUpdate (args : UpdateArgs) (newCluster oldCluster : Cluster) :
    List FieldError :=
  let versions := args.getVersionsForProvider oldCluster.spec.cloud.providerName
  (versions.2.toList.map fun e =>
    internalError "spec.version" ("failed to get available versions: " ++ e)) ++
  args.validateClusterSpec newCluster.spec versions.1 ++
  validateUpdateChecks h args.cloudProvider newCluster oldCluster ++
  validateEncryptionUpdate h newCluster oldCluster ++
  if newCluster.typeMeta ≠ oldCluster.typeMeta then
    [forbidden "typeMeta" "type meta cannot be changed"]
  else []

/-! ## What a passing check says -/

@[simp] theorem option_toList_eq_nil {o : Option α} : o.toList = [] ↔ o = none := by
  cases o <;> simp

theorem validateCloudChange_eq_none_iff {newSpec oldSpec : CloudSpec} :
    validateCloudChange h newSpec oldSpec = none ↔
      newSpec.datacenterName = oldSpec.datacenterName ∧
        ∃ p, h.clusterCloudProviderName oldSpec = .ok p ∧ h.clusterCloudProviderName newSpec = .ok p := by
  unfold validateCloudChange
  rcases h.clusterCloudProviderName oldSpec with _ | p <;>
  rcases h.clusterCloudProviderName newSpec with _ | p' <;>
  by_cases hdc : newSpec.datacenterName = oldSpec.datacenterName <;> simp [hdc]
  exact eq_comm

theorem validateFeatureFlagUpdate_eq_nil_iff {flag : String} {newCluster oldCluster : Cluster} :
    validateFeatureFlagUpdate flag newCluster oldCluster = [] ↔
      (boolAt oldCluster.spec.features flag = true → boolAt newCluster.spec.features flag = true) := by
  unfold validateFeatureFlagUpdate
  split <;> simp_all

theorem validateClusterNetworkingConfigUpdateImmutability_eq_nil_iff
    {c oldC : ClusterNetworkingConfig} {fldPath : String} :
    validateClusterNetworkingConfigUpdateImmutability c oldC fldPath = [] ↔
      (oldC.ipFamily ≠ "" → oldC.ipFamily = c.ipFamily) ∧
      (oldC.pods.cidrBlocks ≠ [] → oldC.pods.cidrBlocks = c.pods.cidrBlocks) ∧
      (oldC.services.cidrBlocks ≠ [] → oldC.services.cidrBlocks = c.services.cidrBlocks) ∧
      (oldC.proxyMode ≠ "" → oldC.proxyMode = c.proxyMode) ∧
      (oldC.dnsDomain ≠ "" → oldC.dnsDomain = c.dnsDomain) ∧
      (oldC.nodeLocalDNSCacheEnabled.isSome →
        oldC.nodeLocalDNSCacheEnabled = c.nodeLocalDNSCacheEnabled) := by
  simp [validateClusterNetworkingConfigUpdateImmutability, and_assoc]

theorem validateUserSSHKeyAgentUpdate_eq_nil {newCluster oldCluster : Cluster}
    (hnil : validateUserSSHKeyAgentUpdate newCluster oldCluster = []) :
    oldCluster.spec.enableUserSSHKeyAgent.isSome →
      oldCluster.spec.enableUserSSHKeyAgent = newCluster.spec.enableUserSSHKeyAgent := by
  unfold validateUserSSHKeyAgentUpdate at hnil
  split at hnil
  · exact fun _ => validateImmutableField_eq_nil.mp hnil
  · simp_all

/-- Without the migration label, CNI settings that were there stay there with their type. -/
theorem validateCNIUpdate_keeps_type {newCni oldCni : Option CNIPluginSettings}
    {labels : List (String × String)} (hcni : validateCNIUpdate h newCni oldCni labels = none)
    (hlabel : hasKey labels UnsafeCNIMigrationLabel = false) {p : CNIPluginSettings}
    (hp : oldCni = some p) : ∃ q, newCni = some q ∧ q.type = p.type := by
  subst hp
  unfold validateCNIUpdate at hcni
  split at hcni
  · contradiction
  · cases hcni
  · contradiction
  · rename_i q p' hp'
    obtain rfl := Option.some.inj hp'.symm
    refine ⟨q, rfl, ?_⟩
    by_contra hne
    simp [hne, hlabel] at hcni

/-! ## The version rule of `validateCNIUpdate`

The version check compares `uint64`s: `oldV.Minor()+1` wraps at `UInt64.size`, that is
`2 ^ 64`. -/

/-- Go's `uint64` increment, on the numbers. -/
theorem uint64_add_one_eq_iff (x y : UInt64) :
    x + 1 = y ↔ y.toNat = (x.toNat + 1) % UInt64.size :=
  ⟨fun h => h ▸ rfl, fun h => UInt64.eq_of_val_eq (Fin.ext h.symm)⟩

theorem uint64_ne_add_one (x : UInt64) : x ≠ x + 1 := by
  rw [ne_comm, Ne, uint64_add_one_eq_iff]
  have : x.toNat < UInt64.size := x.val.isLt
  simp only [UInt64.size] at this ⊢
  omega

/-- The error of the version check of `validateCNIUpdate`. -/
def cniUpgradeError (oldVersion newVersion : String) : FieldError :=
  forbidden "spec.cniPlugin.version" ("cannot upgrade CNI from " ++ oldVersion ++ " to " ++
    newVersion ++ ", only one minor version difference is allowed unless " ++
    UnsafeCNIUpgradeLabel ++ " label is present")

/-- The version check, reached: settings of one type whose versions differ, the old ones
supported, both versions parsed. -/
theorem validateCNIUpdate_of_parsed {newCni oldCni : CNIPluginSettings}
    {labels : List (String × String)} {newV oldV : UInt64 × UInt64}
    (htype : newCni.type = oldCni.type) (hversion : newCni.version ≠ oldCni.version)
    (hsupported : h.isSupportedCNIPluginTypeAndVersion oldCni = true)
    (hnew : h.newVersion newCni.version = .ok newV)
    (hold : h.newVersion oldCni.version = .ok oldV) :
    validateCNIUpdate h (some newCni) (some oldCni) labels =
      if (newV.1 ≠ oldV.1 ∨ (newV.2 ≠ oldV.2 + 1 ∧ oldV.2 ≠ newV.2 + 1)) &&
          !hasKey labels UnsafeCNIUpgradeLabel then
        some (cniUpgradeError oldCni.version newCni.version)
      else none := by
  simp [validateCNIUpdate, htype, hversion, hsupported, hnew, hold, cniUpgradeError]

/-- **A version change within one minor version is refused.** Versions of settings of one
type that differ as strings but parse to the same major and minor version – another patch
level, or another spelling – make both `newV.Minor() != oldV.Minor()+1` and
`oldV.Minor() != newV.Minor()+1` hold, so without the upgrade label the change is refused,
with the message that allows one minor version of difference. -/
theorem validateCNIUpdate_refuses_same_minor {newCni oldCni : CNIPluginSettings}
    {labels : List (String × String)} {v : UInt64 × UInt64}
    (htype : newCni.type = oldCni.type) (hversion : newCni.version ≠ oldCni.version)
    (hsupported : h.isSupportedCNIPluginTypeAndVersion oldCni = true)
    (hnew : h.newVersion newCni.version = .ok v) (hold : h.newVersion oldCni.version = .ok v)
    (hlabel : hasKey labels UnsafeCNIUpgradeLabel = false) :
    validateCNIUpdate h (some newCni) (some oldCni) labels =
      some (cniUpgradeError oldCni.version newCni.version) := by
  rw [validateCNIUpdate_of_parsed h htype hversion hsupported hnew hold]
  simp [uint64_ne_add_one, hlabel]

/-! ## The encryption check reads the two clusters the other way round -/

/-- The checks before the encryption check report on their own fields, or are
`ValidateClusterSpec`'s. -/
def updateCheckFields : List String :=
  ["spec.version", "spec.cloud", "address.adminToken",
    "spec.features[" ++ ClusterFeatureExternalCloudProvider ++ "]",
    "spec.features[" ++ ClusterFeatureEtcdLauncher ++ "]", "spec.exposeStrategy",
    "spec.componentsOverride.apiserver.nodePortRange", "spec.enableUserSSHKeyAgent",
    "cluster.spec.enableUserSSHKeyAgent", "spec.enableOperatingSystemManager",
    "spec.clusterNetwork.ipFamily", "spec.clusterNetwork.pods.cidrBlocks",
    "spec.clusterNetwork.services.cidrBlocks", "spec.clusterNetwork.proxyMode",
    "spec.clusterNetwork.dnsDomain", "spec.clusterNetwork.nodeLocalDNSCacheEnabled",
    "spec.cniPlugin", "spec.cniPlugin.type", "spec.cniPlugin.version"]

theorem field_of_mem_validateImmutableField [DecidableEq α] {newVal oldVal : α}
    {fldPath : String} {e : FieldError} (he : e ∈ validateImmutableField newVal oldVal fldPath) :
    e.field = fldPath := by
  unfold validateImmutableField at he
  split at he <;> simp_all [invalid]

theorem field_of_mem_immutableOnceSet [DecidableEq α] {isSet : Prop} [Decidable isSet]
    {newVal oldVal : α} {fldPath : String} {e : FieldError}
    (he : e ∈ immutableOnceSet isSet newVal oldVal fldPath) : e.field = fldPath := by
  unfold immutableOnceSet at he
  split at he
  · exact field_of_mem_validateImmutableField he
  · cases he

theorem field_of_validateCNIUpdate {newCni oldCni : Option CNIPluginSettings}
    {labels : List (String × String)} {e : FieldError}
    (he : validateCNIUpdate h newCni oldCni labels = some e) :
    e.field ∈ ["spec.cniPlugin", "spec.cniPlugin.type", "spec.cniPlugin.version"] := by
  unfold validateCNIUpdate at he
  repeat' split at he
  all_goals cases he
  all_goals simp only [required, invalid, forbidden, List.mem_cons, true_or, or_true]

theorem field_of_mem_map_toList {o : Option α} {g : α → FieldError} {e : FieldError}
    (he : e ∈ o.toList.map g) {fld : String} (hg : ∀ a, (g a).field = fld) : e.field = fld := by
  obtain ⟨a, -, rfl⟩ := List.mem_map.mp he
  exact hg a

theorem field_of_mem_validateFeatureFlagUpdate {flag : String} {newCluster oldCluster : Cluster}
    {e : FieldError} (he : e ∈ validateFeatureFlagUpdate flag newCluster oldCluster) :
    e.field = "spec.features[" ++ flag ++ "]" := by
  unfold validateFeatureFlagUpdate at he
  split at he <;> simp_all [invalid]

theorem field_of_mem_validateUserSSHKeyAgentUpdate {newCluster oldCluster : Cluster}
    {e : FieldError} (he : e ∈ validateUserSSHKeyAgentUpdate newCluster oldCluster) :
    e.field = "spec.enableUserSSHKeyAgent" ∨ e.field = "cluster.spec.enableUserSSHKeyAgent" := by
  unfold validateUserSSHKeyAgentUpdate at he
  split at he
  · exact .inl (field_of_mem_validateImmutableField he)
  · split at he <;> simp_all [invalid]

/-- **Every error of the comparing checks names one of their fields.** -/
theorem field_of_mem_validateUpdateChecks
    {cloudProvider : Option (CloudSpec → CloudSpec → Option String)}
    {newCluster oldCluster : Cluster} {e : FieldError}
    (he : e ∈ validateUpdateChecks h cloudProvider newCluster oldCluster) :
    e.field ∈ updateCheckFields := by
  simp only [updateCheckFields, List.mem_cons, List.not_mem_nil, or_false]
  simp only [validateUpdateChecks, validateClusterNetworkingConfigUpdateImmutability,
    List.mem_append, or_assoc] at he
  rcases he with he | he | he | he | he | he | he | he | he | he | he | he | he | he | he | he
  · split at he
    · simp only [field_of_mem_map_toList he fun _ => rfl, true_or, or_true]
    · cases he
  · simp only [field_of_mem_map_toList he fun _ => rfl, true_or, or_true]
  · split at he
    · simp only [field_of_mem_map_toList he fun _ => rfl, true_or, or_true]
    · cases he
  · simp only [field_of_mem_validateFeatureFlagUpdate he, true_or, or_true]
  · simp only [field_of_mem_validateFeatureFlagUpdate he, true_or, or_true]
  · simp only [field_of_mem_immutableOnceSet he, true_or, or_true]
  · simp only [field_of_mem_immutableOnceSet he, true_or, or_true]
  · rcases field_of_mem_validateUserSSHKeyAgentUpdate he with hf | hf <;>
      simp only [hf, true_or, or_true]
  iterate 7 · simp only [field_of_mem_immutableOnceSet he, String.reduceAppend, true_or, or_true]
  · have hf := field_of_validateCNIUpdate h (Option.mem_toList.mp he)
    simp only [List.mem_cons, List.mem_singleton, List.not_mem_nil, or_false] at hf
    rcases hf with hf | hf | hf <;> simp only [hf, true_or, or_true]

theorem encryptionPhaseError_injective : Function.Injective encryptionPhaseError := by
  intro p q hpq
  have hdata := congrArg (fun e => e.detail.data) hpq
  simp only [encryptionPhaseError, forbidden, String.data_append, List.append_assoc,
    List.append_cancel_left_eq, List.append_cancel_right_eq] at hdata
  exact String.ext hdata

/-- What the flag check of `validateEncryptionUpdate` reports: its second cluster lacks the
flag while it is enabled or active. -/
theorem encryptionFlagError_mem_validateEncryptionUpdate {oldCluster newCluster : Cluster} :
    encryptionFlagError ∈ validateEncryptionUpdate h oldCluster newCluster ↔
      newCluster.spec.features.lookup ClusterFeatureEncryptionAtRest ≠ some true ∧
        (h.isEncryptionEnabled newCluster || h.isEncryptionActive newCluster) = true := by
  unfold validateEncryptionUpdate
  rw [List.mem_append, or_iff_right (by
    repeat' split
    all_goals simp [encryptionFlagError, encryptionPhaseError, forbidden])]
  simp

/-- What the phase check of `validateEncryptionUpdate` reports: its first cluster has the
flag and an encryption phase neither empty nor active, and the configuration changed. -/
theorem encryptionPhaseError_mem_validateEncryptionUpdate {oldCluster newCluster : Cluster}
    {phase : String} :
    encryptionPhaseError phase ∈ validateEncryptionUpdate h oldCluster newCluster ↔
      oldCluster.spec.features.lookup ClusterFeatureEncryptionAtRest = some true ∧
        oldCluster.status.encryption = some { phase := phase } ∧ phase ≠ "" ∧
        phase ≠ ClusterEncryptionPhaseActive ∧
        oldCluster.spec.encryptionConfiguration ≠ newCluster.spec.encryptionConfiguration := by
  unfold validateEncryptionUpdate
  rw [List.mem_append, or_iff_left (by split <;> simp [encryptionFlagError, encryptionPhaseError,
    forbidden])]
  split
  · rename_i hflag
    split
    · simp_all
    · rename_i encryption henc
      obtain ⟨encPhase⟩ := encryption
      rw [List.mem_append, or_iff_left (by
        split
        · split <;> simp [encryptionPhaseError, forbidden]
        · simp)]
      simp only [List.mem_ite_nil_right, List.mem_singleton, encryptionPhaseError_injective.eq_iff,
        hflag, henc, Option.some.injEq, ClusterEncryptionStatus.mk.injEq, true_and]
      constructor
      · rintro ⟨hcond, rfl⟩
        exact ⟨rfl, hcond⟩
      · rintro ⟨rfl, hcond⟩
        exact ⟨hcond, rfl⟩
  · simp_all

/-- An error on none of the fields the other checks report on is in the list exactly when
`ValidateClusterSpec` or the encryption check reports it. -/
theorem mem_validateClusterUpdate_iff {args : UpdateArgs} {newCluster oldCluster : Cluster}
    {e : FieldError} (hfield : e.field ∉ "spec.version" :: "typeMeta" :: updateCheckFields) :
    e ∈ validateClusterUpdate h args newCluster oldCluster ↔
      e ∈ args.validateClusterSpec newCluster.spec
          (args.getVersionsForProvider oldCluster.spec.cloud.providerName).1 ∨
        e ∈ validateEncryptionUpdate h newCluster oldCluster := by
  simp only [validateClusterUpdate, List.mem_append]
  constructor
  · rintro ((((he | he) | he) | he) | he)
    · exact absurd (by rw [field_of_mem_map_toList he fun _ => rfl]; simp) hfield
    · exact .inl he
    · exact absurd (.tail _ (.tail _ (field_of_mem_validateUpdateChecks h he))) hfield
    · exact .inr he
    · split at he <;> simp_all [forbidden]
  · rintro (he | he)
    · exact .inl (.inl (.inl (.inr he)))
    · exact .inl (.inr he)

/-- **The encryption check reads the two clusters the other way round.** The error on
`features` is reported when the *old* cluster lacks the encryption-at-rest flag while it
is enabled or active, and the error on `spec.encryptionConfiguration` when the *new*
cluster has the flag and an encryption phase neither empty nor active – unless
`ValidateClusterSpec` reports the same error. -/
theorem validateClusterUpdate_encryption_errors (args : UpdateArgs) (newCluster oldCluster : Cluster) :
    (encryptionFlagError ∈ validateClusterUpdate h args newCluster oldCluster ↔
      encryptionFlagError ∈ args.validateClusterSpec newCluster.spec
          (args.getVersionsForProvider oldCluster.spec.cloud.providerName).1 ∨
        oldCluster.spec.features.lookup ClusterFeatureEncryptionAtRest ≠ some true ∧
          (h.isEncryptionEnabled oldCluster || h.isEncryptionActive oldCluster) = true) ∧
    ∀ phase, (encryptionPhaseError phase ∈ validateClusterUpdate h args newCluster oldCluster ↔
      encryptionPhaseError phase ∈ args.validateClusterSpec newCluster.spec
          (args.getVersionsForProvider oldCluster.spec.cloud.providerName).1 ∨
        newCluster.spec.features.lookup ClusterFeatureEncryptionAtRest = some true ∧
          newCluster.status.encryption = some { phase := phase } ∧ phase ≠ "" ∧
          phase ≠ ClusterEncryptionPhaseActive ∧
          newCluster.spec.encryptionConfiguration ≠ oldCluster.spec.encryptionConfiguration) := by
  refine ⟨?_, fun phase => ?_⟩
  · rw [mem_validateClusterUpdate_iff h (by decide), encryptionFlagError_mem_validateEncryptionUpdate]
  · rw [mem_validateClusterUpdate_iff h (by simp [encryptionPhaseError, forbidden, updateCheckFields,
      ClusterFeatureExternalCloudProvider, ClusterFeatureEtcdLauncher]),
      encryptionPhaseError_mem_validateEncryptionUpdate]

end Checks

/-- Helpers for the samples: the provider of a spec is Azure or none, and encryption is
enabled when the flag and the configuration say so, active in the phase `Active`. -/
def sampleHelpers : Helpers where
  clusterCloudProviderName spec := .ok (if spec.azure.isSome then "azure" else "")
  validateKubernetesToken _ := none
  isSupportedCNIPluginTypeAndVersion _ := true
  newVersion _ := .ok (1, 0)
  isEncryptionEnabled c := c.spec.features.lookup ClusterFeatureEncryptionAtRest = some true &&
    (c.spec.encryptionConfiguration.map (·.enabled)).getD false
  isEncryptionActive c := c.status.encryption = some { phase := ClusterEncryptionPhaseActive }

/-- A call with no version error, a new spec `ValidateClusterSpec` finds nothing wrong
with, and no cloud provider. -/
def sampleUpdateArgs : UpdateArgs := ⟨fun _ => ([], none), fun _ _ => [], none⟩

/-- A cluster in the middle of encrypting its secrets: the flag on, the phase
`EncryptionNeeded`, the configuration enabled for secrets. -/
def sampleEncryptingCluster : Cluster where
  spec :=
    { features := [(ClusterFeatureEncryptionAtRest, true)]
      encryptionConfiguration := some { enabled := true, resources := ["secrets"] } }
  status := { encryption := some { phase := "EncryptionNeeded" } }

/-- The update of `sampleEncryptingCluster` that removes the flag and switches the
configuration off. -/
def sampleDisablingUpdate : Cluster :=
  { sampleEncryptingCluster with
    spec :=
      { sampleEncryptingCluster.spec with
        features := []
        encryptionConfiguration := some { enabled := false, resources := ["secrets"] } } }

theorem validateClusterUpdate_encryption_errors_sample :
    (encryptionFlagError ∈ validateClusterUpdate sampleHelpers sampleUpdateArgs
        sampleDisablingUpdate sampleEncryptingCluster ↔
      encryptionFlagError ∈ sampleUpdateArgs.validateClusterSpec sampleDisablingUpdate.spec
          (sampleUpdateArgs.getVersionsForProvider
            sampleEncryptingCluster.spec.cloud.providerName).1 ∨
        sampleEncryptingCluster.spec.features.lookup ClusterFeatureEncryptionAtRest ≠ some true ∧
          (sampleHelpers.isEncryptionEnabled sampleEncryptingCluster ||
            sampleHelpers.isEncryptionActive sampleEncryptingCluster) = true) :=
  (validateClusterUpdate_encryption_errors sampleHelpers sampleUpdateArgs sampleDisablingUpdate
    sampleEncryptingCluster).1

/-- **The update that switches encryption off in the middle of encrypting passes the
encryption checks.** Whatever the helpers, the call reports nothing on `features` or on
`spec.encryptionConfiguration`: the encryption check reads the flag of the old cluster,
which is on, and the flag and phase of the new one, which has no flag. -/
theorem validateClusterUpdate_misses_encryption_errors (h : Helpers) :
    ¬∃ e ∈ validateClusterUpdate h sampleUpdateArgs sampleDisablingUpdate sampleEncryptingCluster,
      e.field = "features" ∨ e.field = "spec.encryptionConfiguration" := by
  rintro ⟨e, he, hfield⟩
  simp only [validateClusterUpdate, List.mem_append] at he
  rcases he with ((((he | he) | he) | he) | he)
  · simp [sampleUpdateArgs] at he
  · simp [sampleUpdateArgs] at he
  · have hf := field_of_mem_validateUpdateChecks h he
    rcases hfield with heq | heq <;> simp [heq, updateCheckFields, ClusterFeatureExternalCloudProvider,
      ClusterFeatureEtcdLauncher] at hf
  · simp [validateEncryptionUpdate, sampleDisablingUpdate, sampleEncryptingCluster,
      ClusterFeatureEncryptionAtRest] at he
  · simp [sampleDisablingUpdate, sampleEncryptingCluster] at he

/-- Helpers whose semver parser reads the versions `v1.11.0` and `v1.11.1` as 1.11, and
`v1.12.0` as 1.12. -/
def ciliumHelpers : Helpers :=
  { sampleHelpers with
    newVersion := fun v =>
      if v = "v1.11.0" ∨ v = "v1.11.1" then .ok (1, 11)
      else if v = "v1.12.0" then .ok (1, 12)
      else .error "Invalid Semantic Version" }

/-- The patch upgrade of Cilium from `v1.11.0` to `v1.11.1` is refused. -/
theorem validateCNIUpdate_refuses_patch_upgrade :
    validateCNIUpdate ciliumHelpers (some ⟨"cilium", "v1.11.1"⟩) (some ⟨"cilium", "v1.11.0"⟩) [] =
      some (cniUpgradeError "v1.11.0" "v1.11.1") :=
  validateCNIUpdate_refuses_same_minor ciliumHelpers (v := (1, 11)) rfl (by decide) rfl
    (by simp [ciliumHelpers]) (by simp [ciliumHelpers]) rfl

end Kubermatic.Validation
