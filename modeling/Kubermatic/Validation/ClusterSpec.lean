import Kubermatic.Validation.CloudSpec

/-!
# Validating a cluster's spec, at creation and at every update

`ValidateClusterSpec(spec, dc, enabledFeatures, versions, parentFieldPath)`
(`pkg/validation`) is what the validating webhook checks of a cluster's spec on its own:
`ValidateNewClusterSpec` calls it when a cluster is created, and `ValidateClusterUpdate`
on the new spec of every update, before it compares the two clusters. It checks the
name, the version against the versions the version manager offers, the expose strategy,
the CNI plugin, the leader-election settings of the controller manager and the scheduler,
the cloud spec (`ValidateCloudSpec`), the machine networks and the network configuration,
the node-port range and the encryption configuration.

Each check has its lemma saying when it is silent, and `ValidateClusterSpec_eq_nil_iff`
assembles them: the spec passes exactly when it is `SpecWellFormed`. Two of the checks
say more than their text:

* `ValidateLeaderElectionSettings_eq_nil_iff`: the check on the order of the two
  durations refuses a lease duration shorter than the renew deadline, while its message
  says the renew deadline cannot be smaller than the lease duration, and it lets the two
  be equal;
* the network configuration is checked under `spec.networkConfig`, a path the update
  checks do not use (they name `spec.clusterNetwork`), and the node-port range under
  `componentsOverride.apiserver.nodePortRange`, without the parent path.

With the webhook's arguments in place of the parameters of the update model
(`webhookUpdateArgs`), a cluster it admits at creation or at an update has a well-formed
spec (`ValidateNewClusterSpec_well_formed`, `validateClusterUpdate_well_formed`).
-/

namespace Kubermatic.Validation

def ExposeStrategyTunneling : String := "Tunneling"
def CNIPluginTypeCanal : String := "canal"

/-- The functions `ValidateClusterSpec` calls that are declared outside the sources, with
the feature gates it is given. -/
structure SpecHelpers where
  /-- `spec.Version.Semver() == nil || spec.Version.String() == ""`. -/
  versionMissing : String → Bool
  /-- `spec.Version.Semver().Equal(availableVersion.Version)`. -/
  versionEqual : String → String → Bool
  /-- `kubermaticv1.AllExposeStrategies.Items()`. -/
  allExposeStrategies : List String
  /-- `enabledFeatures.Enabled(features.TunnelingExposeStrategy)`. -/
  tunnelingExposeStrategyEnabled : Bool
  /-- `cni.GetSupportedCNIPlugins().List()`. -/
  supportedCNIPlugins : List String
  /-- `cni.GetAllowedCNIPluginVersions(type).List()`, or the error. -/
  allowedCNIPluginVersions : String → Except String (List String)
  /-- Whether `semverlib.NewVersion(v)` parses and fails the constraint `>= 3.22`. -/
  canalVersionBelow322 : String → Bool
  /-- `kubenetutil.ParsePortRange`: the range's base and size, or the error. -/
  parsePortRange : String → Except String (Nat × Nat)

/-! ## Leader election -/

/-- The check `ValidateLeaderElectionSettings` makes of each of its three durations. -/
def negativeSecondsErrors (seconds : Option Int) (fldPath detail : String) : List FieldError :=
  match seconds with
  | some s => if s < 0 then [invalid fldPath detail] else []
  | none => []

/-- The message of the check on the order of the two durations. -/
def renewDeadlineOrderMessage : String :=
  "control plane leader election renew deadline cannot be smaller than lease duration"

/-- The check of `ValidateLeaderElectionSettings` on the order of the two durations. -/
def renewDeadlineOrderErrors (l : LeaderElectionSettings) (fldPath : String) : List FieldError :=
  match l.leaseDurationSeconds, l.renewDeadlineSeconds with
  | some lds, some rds => if lds < rds then [forbidden fldPath renewDeadlineOrderMessage] else []
  | _, _ => []

/-- **`ValidateLeaderElectionSettings`**. -/
def ValidateLeaderElectionSettings (l : LeaderElectionSettings) (fldPath : String) :
    List FieldError :=
  negativeSecondsErrors l.leaseDurationSeconds (fldPath ++ ".leaseDurationSeconds")
    "lease duration seconds cannot be negative" ++
  negativeSecondsErrors l.renewDeadlineSeconds (fldPath ++ ".renewDeadlineSeconds")
    "renew deadline seconds cannot be negative" ++
  negativeSecondsErrors l.retryPeriodSeconds (fldPath ++ ".retryPeriodSeconds")
    "retry period seconds cannot be negative" ++
  (if l.leaseDurationSeconds.isNone ≠ l.renewDeadlineSeconds.isNone then
    [forbidden fldPath
      "leader election lease duration and renew deadline should be either both specified or unspecified"]
  else []) ++
  renewDeadlineOrderErrors l fldPath

/-- Leader-election settings the check accepts: no negative duration, the lease duration
and the renew deadline given together, and the renew deadline no longer than the lease
duration. -/
def LeaderElectionValid (l : LeaderElectionSettings) : Prop :=
  (∀ s, l.leaseDurationSeconds = some s → 0 ≤ s) ∧
    (∀ s, l.renewDeadlineSeconds = some s → 0 ≤ s) ∧
    (∀ s, l.retryPeriodSeconds = some s → 0 ≤ s) ∧
    (l.leaseDurationSeconds.isNone = l.renewDeadlineSeconds.isNone) ∧
    ∀ lds rds, l.leaseDurationSeconds = some lds → l.renewDeadlineSeconds = some rds → rds ≤ lds

theorem negativeSecondsErrors_eq_nil_iff {seconds : Option Int} {fldPath detail : String} :
    negativeSecondsErrors seconds fldPath detail = [] ↔ ∀ s, seconds = some s → 0 ≤ s := by
  rcases seconds with _ | s <;> simp [negativeSecondsErrors, Int.not_lt]

theorem forbidden_mem_negativeSecondsErrors {seconds : Option Int}
    {fldPath detail p msg : String} :
    forbidden p msg ∉ negativeSecondsErrors seconds fldPath detail := by
  rcases seconds with _ | s <;> simp [negativeSecondsErrors, forbidden, invalid]

theorem forbidden_inj {p p' msg msg' : String} :
    forbidden p msg = forbidden p' msg' ↔ p = p' ∧ msg = msg' := by
  simp [forbidden]

theorem renewDeadlineOrderErrors_eq_nil_iff {l : LeaderElectionSettings} {fldPath : String} :
    renewDeadlineOrderErrors l fldPath = [] ↔
      ∀ lds rds, l.leaseDurationSeconds = some lds → l.renewDeadlineSeconds = some rds → rds ≤ lds := by
  unfold renewDeadlineOrderErrors
  rcases l.leaseDurationSeconds with _ | lds <;> rcases l.renewDeadlineSeconds with _ | rds <;>
    simp [Int.not_lt]

theorem mem_renewDeadlineOrderErrors {l : LeaderElectionSettings} {fldPath p msg : String} :
    forbidden p msg ∈ renewDeadlineOrderErrors l fldPath ↔
      ∃ lds rds, l.leaseDurationSeconds = some lds ∧ l.renewDeadlineSeconds = some rds ∧
        lds < rds ∧ p = fldPath ∧ msg = renewDeadlineOrderMessage := by
  unfold renewDeadlineOrderErrors
  rcases l.leaseDurationSeconds with _ | lds <;> rcases l.renewDeadlineSeconds with _ | rds <;>
    simp [forbidden_inj, and_assoc]

/-- **What the leader-election check accepts, and when it reports the order.** It
accepts exactly the valid settings. Its order error is reported exactly when both
durations are given and the lease duration is shorter than the renew deadline – when the
renew deadline is the longer one, although the message says it cannot be the smaller –
and settings whose two durations are equal pass it. -/
theorem ValidateLeaderElectionSettings_eq_nil_iff (l : LeaderElectionSettings)
    (fldPath : String) :
    (ValidateLeaderElectionSettings l fldPath = [] ↔ LeaderElectionValid l) ∧
    (forbidden fldPath renewDeadlineOrderMessage ∈ ValidateLeaderElectionSettings l fldPath ↔
      ∃ lds rds, l.leaseDurationSeconds = some lds ∧ l.renewDeadlineSeconds = some rds ∧
        lds < rds) := by
  constructor
  · simp only [ValidateLeaderElectionSettings, LeaderElectionValid, List.append_eq_nil,
      negativeSecondsErrors_eq_nil_iff, renewDeadlineOrderErrors_eq_nil_iff, ite_eq_right_iff,
      reduceCtorEq, imp_false, not_not, and_assoc]
  · simp [ValidateLeaderElectionSettings, forbidden_mem_negativeSecondsErrors,
      mem_renewDeadlineOrderErrors, forbidden_inj, renewDeadlineOrderMessage]

/-! ## Encryption configuration -/

/-- The checks of `validateEncryptionConfiguration` on the secretbox key at position `i`. -/
def secretboxKeyErrors (fieldPath : String) (i : Nat) (key : SecretboxKey) : List FieldError :=
  let childPath := index (fieldPath ++ ".secretbox.keys") i
  (if key.name = "" then [required (childPath ++ ".name") "secretbox key name is required"]
  else []) ++
  (if key.value = "" ∧ key.secretRef = none then
    [required childPath "either \x27value\x27 or \x27secretRef\x27 must be set"] else []) ++
  (if key.value ≠ "" ∧ key.secretRef ≠ none then
    [invalid childPath "\x27value\x27 and \x27secretRef\x27 cannot be set at the same time"]
  else [])

/-- `validateEncryptionConfiguration`. `enabled, ok := m[k]; !ok || !enabled` is
`m.lookup k ≠ some true`. -/
def validateEncryptionConfiguration (spec : ClusterSpec) (fieldPath : String) :
    List FieldError :=
  match spec.encryptionConfiguration with
  | some config =>
    if config.enabled then
      (if spec.features.lookup ClusterFeatureEncryptionAtRest ≠ some true then
        [forbidden (fieldPath ++ ".enabled")
          ("cannot enable encryption configuration if feature gate \x27" ++
            ClusterFeatureEncryptionAtRest ++ "\x27 is not set")]
      else []) ++
      match config.secretbox with
      | none => [required (fieldPath ++ ".secretbox")
          "exactly one encryption provider (secretbox, kms) needs to be configured"]
      | some keys => keys.enum.flatMap fun (i, key) => secretboxKeyErrors fieldPath i key
    else []
  | none => []

/-- A secretbox key with a name and exactly one of a value and a secret reference. -/
def SecretboxKeyValid (key : SecretboxKey) : Prop :=
  key.name ≠ "" ∧ (key.value = "" ↔ key.secretRef ≠ none)

/-- An encryption configuration that, when enabled, has its feature gate on and a
secretbox whose every key is valid. -/
def EncryptionConfigurationValid (spec : ClusterSpec) : Prop :=
  ∀ config, spec.encryptionConfiguration = some config → config.enabled = true →
    spec.features.lookup ClusterFeatureEncryptionAtRest = some true ∧
      ∃ keys, config.secretbox = some keys ∧ ∀ key ∈ keys, SecretboxKeyValid key

theorem secretboxKeyErrors_eq_nil_iff {fieldPath : String} {i : Nat} {key : SecretboxKey} :
    secretboxKeyErrors fieldPath i key = [] ↔ SecretboxKeyValid key := by
  unfold secretboxKeyErrors SecretboxKeyValid
  by_cases hv : key.value = "" <;> rcases key.secretRef with _ | r <;> simp [hv]

theorem validateEncryptionConfiguration_eq_nil_iff {spec : ClusterSpec} {fieldPath : String} :
    validateEncryptionConfiguration spec fieldPath = [] ↔ EncryptionConfigurationValid spec := by
  unfold validateEncryptionConfiguration EncryptionConfigurationValid
  rcases spec.encryptionConfiguration with _ | ⟨_ | _, resources, _ | keys⟩ <;>
    simp [forall_mem_enum_iff, secretboxKeyErrors_eq_nil_iff]

/-! ## Node-port range -/

section Spec

variable (sh : SpecHelpers)

/-- `ValidateNodePortRange`. -/
def ValidateNodePortRange (nodePortRange fldPath : String) : Option FieldError :=
  if nodePortRange = "" then some (required fldPath "node port range is required")
  else match sh.parsePortRange nodePortRange with
    | .error err => some (invalid fldPath err)
    | .ok (base, size) =>
      if base = 0 ∨ size = 0 then some (invalid fldPath "invalid nodeport range") else none

/-- A node-port range that is given, parses, and has a base and a size. -/
def NodePortRangeValid (nodePortRange : String) : Prop :=
  nodePortRange ≠ "" ∧ ∃ portRange, sh.parsePortRange nodePortRange = .ok portRange ∧
    portRange.1 ≠ 0 ∧ portRange.2 ≠ 0

theorem ValidateNodePortRange_eq_none_iff {nodePortRange fldPath : String} :
    ValidateNodePortRange sh nodePortRange fldPath = none ↔ NodePortRangeValid sh nodePortRange := by
  unfold ValidateNodePortRange NodePortRangeValid
  by_cases he : nodePortRange = ""
  · simp [he]
  · rcases sh.parsePortRange nodePortRange with err | ⟨base, size⟩ <;> simp [he]

/-! ## `ValidateClusterSpec` -/

/-- The checks of `ValidateClusterSpec` on the version, against the versions offered.
When none matches, the loop has listed them all. -/
def versionErrors (spec : ClusterSpec) (versions : List String) (parentFieldPath : String) :
    List FieldError :=
  (if sh.versionMissing spec.version then
    [required (parentFieldPath ++ ".version") "version is required but was not specified"]
  else []) ++
  if versions.any (sh.versionEqual spec.version) then []
  else [notSupported (parentFieldPath ++ ".version") versions]

/-- The checks of `ValidateClusterSpec` on the expose strategy. -/
def exposeStrategyErrors (spec : ClusterSpec) (parentFieldPath : String) : List FieldError :=
  (if spec.exposeStrategy ∉ sh.allExposeStrategies then
    [notSupported (parentFieldPath ++ ".exposeStrategy") sh.allExposeStrategies] else []) ++
  if spec.exposeStrategy = ExposeStrategyTunneling ∧ sh.tunnelingExposeStrategyEnabled = false then
    [forbidden (parentFieldPath ++ ".exposeStrategy")
      "cannot create cluster with Tunneling expose strategy because the TunnelingExposeStrategy feature gate is not enabled"]
  else []

/-- The checks of `ValidateClusterSpec` on the CNI plugin. When the allowed versions
cannot be read, the error lists none. -/
def cniPluginErrors (spec : ClusterSpec) (parentFieldPath : String) : List FieldError :=
  match spec.cniPlugin with
  | none => []
  | some cni =>
    (if cni.type ∉ sh.supportedCNIPlugins then
      [notSupported (parentFieldPath ++ ".cniPlugin.type") sh.supportedCNIPlugins]
    else match sh.allowedCNIPluginVersions cni.type with
      | .error _ => [notSupported (parentFieldPath ++ ".cniPlugin.version") []]
      | .ok versions =>
        if cni.version ∉ versions then
          [notSupported (parentFieldPath ++ ".cniPlugin.version") versions]
        else []) ++
    if spec.clusterNetwork.ipFamily = IPFamilyDualStack ∧ cni.type = CNIPluginTypeCanal ∧
        sh.canalVersionBelow322 cni.version = true then
      [forbidden (parentFieldPath ++ ".cniPlugin")
        "dual-stack not allowed on Canal CNI version lower than 3.22"]
    else []

variable (ch : CloudHelpers) (nh : NetHelpers) (h : Helpers)

/-- **`ValidateClusterSpec`**, with the datacenter it is given and the versions offered. -/
def ValidateClusterSpec (spec : ClusterSpec) (dc : Option Datacenter) (versions : List String)
    (parentFieldPath : String) : List FieldError :=
  (if spec.humanReadableName = "" then
    [required (parentFieldPath ++ ".humanReadableName") "no name specified"] else []) ++
  versionErrors sh spec versions parentFieldPath ++
  exposeStrategyErrors sh spec parentFieldPath ++
  cniPluginErrors sh spec parentFieldPath ++
  ValidateLeaderElectionSettings spec.controllerManagerLeaderElection
    (parentFieldPath ++ ".componentsOverride.controllerManager.leaderElection") ++
  ValidateLeaderElectionSettings spec.schedulerLeaderElection
    (parentFieldPath ++ ".componentsOverride.scheduler.leaderElection") ++
  ValidateCloudSpec ch nh h spec.cloud dc (parentFieldPath ++ ".cloud") ++
  validateMachineNetworksFromClusterSpec nh spec parentFieldPath ++
  ValidateClusterNetworkConfig nh spec.clusterNetwork spec.cniPlugin
    (parentFieldPath ++ ".networkConfig") ++
  (ValidateNodePortRange sh spec.apiserverNodePortRange
    "componentsOverride.apiserver.nodePortRange").toList ++
  validateEncryptionConfiguration spec (parentFieldPath ++ ".encryptionConfiguration")

/-- **A well-formed cluster spec**, check by check of `ValidateClusterSpec`. -/
@[mk_iff]
structure SpecWellFormed (spec : ClusterSpec) (dc : Option Datacenter) (versions : List String) :
    Prop where
  humanReadableName : spec.humanReadableName ≠ ""
  version : sh.versionMissing spec.version = false ∧
    ∃ v ∈ versions, sh.versionEqual spec.version v = true
  exposeStrategy : spec.exposeStrategy ∈ sh.allExposeStrategies ∧
    (spec.exposeStrategy = ExposeStrategyTunneling → sh.tunnelingExposeStrategyEnabled = true)
  cniPlugin : ∀ cni, spec.cniPlugin = some cni →
    cni.type ∈ sh.supportedCNIPlugins ∧
      (∃ versions, sh.allowedCNIPluginVersions cni.type = .ok versions ∧ cni.version ∈ versions) ∧
      (spec.clusterNetwork.ipFamily = IPFamilyDualStack → cni.type = CNIPluginTypeCanal →
        sh.canalVersionBelow322 cni.version = false)
  controllerManagerLeaderElection : LeaderElectionValid spec.controllerManagerLeaderElection
  schedulerLeaderElection : LeaderElectionValid spec.schedulerLeaderElection
  cloud : CloudSpecValid ch nh h spec.cloud dc
  machineNetworks : MachineNetworksValid nh spec
  clusterNetwork : NetworkWellFormed nh spec.clusterNetwork spec.cniPlugin
  nodePortRange : NodePortRangeValid sh spec.apiserverNodePortRange
  encryptionConfiguration : EncryptionConfigurationValid spec

variable {sh ch nh h}

theorem versionErrors_eq_nil_iff {spec : ClusterSpec} {versions : List String}
    {parentFieldPath : String} :
    versionErrors sh spec versions parentFieldPath = [] ↔
      sh.versionMissing spec.version = false ∧ ∃ v ∈ versions, sh.versionEqual spec.version v = true := by
  simp [versionErrors]

theorem exposeStrategyErrors_eq_nil_iff {spec : ClusterSpec} {parentFieldPath : String} :
    exposeStrategyErrors sh spec parentFieldPath = [] ↔
      spec.exposeStrategy ∈ sh.allExposeStrategies ∧
        (spec.exposeStrategy = ExposeStrategyTunneling → sh.tunnelingExposeStrategyEnabled = true) := by
  simp [exposeStrategyErrors]

theorem cniPluginErrors_eq_nil_iff {spec : ClusterSpec} {parentFieldPath : String} :
    cniPluginErrors sh spec parentFieldPath = [] ↔ ∀ cni, spec.cniPlugin = some cni →
      cni.type ∈ sh.supportedCNIPlugins ∧
        (∃ versions, sh.allowedCNIPluginVersions cni.type = .ok versions ∧ cni.version ∈ versions) ∧
        (spec.clusterNetwork.ipFamily = IPFamilyDualStack → cni.type = CNIPluginTypeCanal →
          sh.canalVersionBelow322 cni.version = false) := by
  unfold cniPluginErrors
  rcases spec.cniPlugin with _ | cni
  · simp
  · by_cases ht : cni.type ∈ sh.supportedCNIPlugins
    · cases hv : sh.allowedCNIPluginVersions cni.type <;> simp [ht, hv]
    · simp [ht]

/-- **`ValidateClusterSpec` accepts exactly the well-formed specs**, whatever the parent
field path. -/
theorem ValidateClusterSpec_eq_nil_iff {spec : ClusterSpec} {dc : Option Datacenter}
    {versions : List String} {parentFieldPath : String} :
    ValidateClusterSpec sh ch nh h spec dc versions parentFieldPath = [] ↔
      SpecWellFormed sh ch nh h spec dc versions := by
  simp only [ValidateClusterSpec, List.append_eq_nil, ite_eq_right_iff, reduceCtorEq,
    imp_false, versionErrors_eq_nil_iff, exposeStrategyErrors_eq_nil_iff,
    cniPluginErrors_eq_nil_iff, (ValidateLeaderElectionSettings_eq_nil_iff _ _).1,
    ValidateCloudSpec_eq_nil_iff, validateMachineNetworksFromClusterSpec_eq_nil_iff,
    ValidateClusterNetworkConfig_eq_nil_iff, option_toList_eq_nil,
    ValidateNodePortRange_eq_none_iff, validateEncryptionConfiguration_eq_nil_iff,
    specWellFormed_iff, and_assoc]

end Spec

/-! ## What the webhook admits -/

section Webhook

variable (sh : SpecHelpers) (ch : CloudHelpers) (nh : NetHelpers) (h : Helpers)
  (getVersionsForProvider : String → List String × Option String) (dc : Option Datacenter)

/-- **`ValidateNewClusterSpec`**, with what the version manager answers for a provider and
the cloud provider's own check of a cloud spec, when one is passed. -/
def ValidateNewClusterSpec (cloudProvider : Option (CloudSpec → Option String))
    (spec : ClusterSpec) (parentFieldPath : String) : List FieldError :=
  let versions := getVersionsForProvider spec.cloud.providerName
  (versions.2.toList.map fun e =>
    internalError (parentFieldPath ++ ".version") ("failed to get available versions: " ++ e)) ++
  ValidateClusterSpec sh ch nh h spec dc versions.1 parentFieldPath ++
  match cloudProvider with
  | some validateCloudSpec =>
    (validateCloudSpec spec.cloud).toList.map (invalid (parentFieldPath ++ ".cloud"))
  | none => []

/-- The arguments of `ValidateClusterUpdate` as the webhook passes them: the spec check is
`ValidateClusterSpec` at `spec`, with the webhook's datacenter. -/
def webhookUpdateArgs (cloudProvider : Option (CloudSpec → CloudSpec → Option String)) :
    UpdateArgs :=
  ⟨getVersionsForProvider, fun spec versions => ValidateClusterSpec sh ch nh h spec dc versions "spec",
    cloudProvider⟩

variable {sh ch nh h getVersionsForProvider dc}

theorem ValidateNewClusterSpec_well_formed {cloudProvider : Option (CloudSpec → Option String)}
    {spec : ClusterSpec} {parentFieldPath : String}
    (hnil : ValidateNewClusterSpec sh ch nh h getVersionsForProvider dc cloudProvider spec
      parentFieldPath = []) :
    SpecWellFormed sh ch nh h spec dc (getVersionsForProvider spec.cloud.providerName).1 := by
  simp only [ValidateNewClusterSpec, List.append_eq_nil] at hnil
  exact ValidateClusterSpec_eq_nil_iff.mp hnil.1.2

theorem validateClusterUpdate_well_formed
    {cloudProvider : Option (CloudSpec → CloudSpec → Option String)} {oldCluster newCluster : Cluster}
    (hnil : validateClusterUpdate h (webhookUpdateArgs sh ch nh h getVersionsForProvider dc
      cloudProvider) newCluster oldCluster = []) :
    SpecWellFormed sh ch nh h newCluster.spec dc
      (getVersionsForProvider oldCluster.spec.cloud.providerName).1 := by
  simp only [validateClusterUpdate, List.append_eq_nil] at hnil
  exact ValidateClusterSpec_eq_nil_iff.mp hnil.1.1.1.2

end Webhook

end Kubermatic.Validation
