import Kubermatic.Validation.ClusterUpdate

/-!
# Validating a cluster's network configuration

`ValidateClusterNetworkConfig(n, cni, fldPath)` (`pkg/validation`) returns what is wrong
with a cluster's network configuration, and `ValidateClusterSpec` adds its errors to those
of the whole spec. The checks come in the code's order: how many pod and service CIDRs
there are, whether each parses with the address family its position asks (the first
IPv4, the second IPv6), whether the IP family agrees with the number of pod CIDRs,
whether the node CIDR mask sizes are longer than the pod CIDRs' masks, the DNS domain,
and the proxy mode with what eBPF needs.

What the checks call from outside the sources (`net.ParseCIDR`, `net.ParseIP`,
`NetworkRanges.GetIPv4CIDR` and `GetIPv6CIDR`) is a `NetHelpers`. The function is cut into
its sections, each with the lemma saying when it is silent, and the main result is
assembled from them:

* `ValidateClusterNetworkConfig_eq_nil_iff`: the configuration passes exactly when it is
  `NetworkWellFormed`, for every field path the caller passes;
* `validateClusterCIDRBlocks_error_field`: a CIDR that does not parse is reported at its
  index in the list's path, but one with the wrong address family at its index under
  `pods.cidrBlocks` appended to that path. The caller passes the list's own path, so the
  pod CIDR's error names `pods.cidrBlocks.pods.cidrBlocks[i]`, and a service CIDR's error
  names a pod field that does not exist.

`validateMachineNetworksFromClusterSpec`, which `ValidateClusterSpec` also calls, parses
the same kind of data and sits at the end.
-/

namespace Kubermatic.Validation

/-! ## Errors and values from outside the sources -/

/-- `field.TooMany`, whose detail `apimachinery` writes from the maximum. -/
def tooMany (field : String) (maxQuantity : Nat) : FieldError :=
  ⟨.tooMany, field, "must have at most " ++ toString maxQuantity ++ " items"⟩

/-- `field.NotSupported`, whose detail `apimachinery` writes from the supported values. -/
def notSupported (field : String) (validValues : List String) : FieldError :=
  ⟨.notSupported, field,
    if validValues = [] then "" else "supported values: " ++ ", ".intercalate (validValues.map goQuote)⟩

/-- `field.Path.Index`. -/
def index (p : String) (i : Nat) : String := p ++ "[" ++ toString i ++ "]"

/-- `%q` of a `[]string`. -/
def quoteList (l : List String) : String := "[" ++ " ".intercalate (l.map goQuote) ++ "]"

/-- `%v` of a Go `error`: its text, or `<nil>` for a nil one. -/
def errorString : Option String → String
  | some err => err
  | none => "<nil>"

def IPFamilyIPv4 : String := "IPv4"
def IPFamilyDualStack : String := "IPv4+IPv6"
def IPVSProxyMode : String := "ipvs"
def IPTablesProxyMode : String := "iptables"
def EBPFProxyMode : String := "ebpf"
def CNIPluginTypeCilium : String := "cilium"

/-- The proxy modes `ValidateClusterNetworkConfig` supports, in the order it lists them. -/
def supportedProxyModes : List String := [IPVSProxyMode, IPTablesProxyMode, EBPFProxyMode]

/-- What `net.ParseCIDR` returns that the checks read: whether the address has a
four-byte form (`addr.To4() != nil`), and the prefix length of the network's mask
(`Mask.Size()`). -/
structure ParsedCIDR where
  isIPv4 : Bool
  maskSize : Nat
  deriving DecidableEq, Repr

/-- The functions the network checks call that are declared outside the sources. -/
structure NetHelpers where
  /-- `net.ParseCIDR`: the parsed CIDR, or the error's text. -/
  parseCIDR : String → Except String ParsedCIDR
  /-- `net.ParseIP(s) != nil`. -/
  parseIP : String → Bool
  /-- `NetworkRanges.GetIPv4CIDR`. -/
  getIPv4CIDR : NetworkRanges → String
  /-- `NetworkRanges.GetIPv6CIDR`. -/
  getIPv6CIDR : NetworkRanges → String

section Checks

variable (nh : NetHelpers)

/-! ## The code -/

/-- The six checks of `ValidateClusterNetworkConfig` on how many CIDRs there are. -/
def cidrCountErrors (pods services : List String) (fldPath : String) : List FieldError :=
  (if pods.length > 2 then [tooMany (fldPath ++ ".pods.cidrBlocks") 2] else []) ++
  (if services.length > 2 then [tooMany (fldPath ++ ".services.cidrBlocks") 2] else []) ++
  (if pods.length = 0 then
    [required (fldPath ++ ".pods.cidrBlocks") "pod CIDR must be provided"] else []) ++
  (if services.length = 0 then
    [required (fldPath ++ ".services.cidrBlocks") "service CIDR must be provided"] else []) ++
  (if pods.length < services.length then
    [invalid (fldPath ++ ".pods.cidrBlocks")
      (toString services.length ++ " pod CIDRs must be provided")] else []) ++
  (if services.length < pods.length then
    [invalid (fldPath ++ ".services.cidrBlocks")
      (toString pods.length ++ " services CIDRs must be provided")] else [])

/-- One turn of the loop of `validateClusterCIDRBlocks`, on the CIDR at position `i`. The
address-family errors name `fldPath.Child("pods", "cidrBlocks").Index(i)`, as the code
writes them. -/
def cidrBlockError (fldPath : String) (i : Nat) (cidr : String) : Option FieldError :=
  match nh.parseCIDR cidr with
  | .error err =>
    some (invalid (index fldPath i) ("couldn\x27t parse CIDR " ++ goQuote cidr ++ ": " ++ err))
  | .ok addr =>
    if i = 0 ∧ addr.isIPv4 = false then
      some (invalid (index (fldPath ++ ".pods.cidrBlocks") i)
        ("invalid address family for primary CIDR " ++ goQuote cidr ++ ": has to be IPv4"))
    else if i = 1 ∧ addr.isIPv4 = true then
      some (invalid (index (fldPath ++ ".pods.cidrBlocks") i)
        ("invalid address family for secondary CIDR " ++ goQuote cidr ++ ": has to be IPv6"))
    else none

/-- `validateClusterCIDRBlocks`: the error of the first CIDR that fails, if any. -/
def validateClusterCIDRBlocks (cidrBlocks : List String) (fldPath : String) :
    Option FieldError :=
  cidrBlocks.enum.findSome? fun (i, cidr) => cidrBlockError nh fldPath i cidr

/-- The two checks of `ValidateClusterNetworkConfig` on the IP family. -/
def ipFamilyErrors (n : ClusterNetworkingConfig) (fldPath : String) : List FieldError :=
  let mismatch := invalid (fldPath ++ ".ipFamily")
    ("IP family " ++ goQuote n.ipFamily ++ " does not match with provided pods CIDRs " ++
      quoteList n.pods.cidrBlocks)
  (if n.ipFamily = IPFamilyIPv4 ∧ n.pods.cidrBlocks.length ≠ 1 then [mismatch] else []) ++
  (if n.ipFamily = IPFamilyDualStack ∧ n.pods.cidrBlocks.length ≠ 2 then [mismatch] else [])

/-- `validateNodeCIDRMaskSize`. The mask size is a Go `int32`; the pod CIDR's prefix length
is at most 128, so comparing the two as integers is what the code's `int32` comparison
does. -/
def validateNodeCIDRMaskSize (nodeCIDRMaskSize : Option Int) (podCIDR fldPath : String) :
    Option FieldError :=
  if podCIDR = "" then none
  else match nodeCIDRMaskSize with
  | none => none
  | some size =>
    match nh.parseCIDR podCIDR with
    | .error err =>
      some (invalid fldPath ("couldn\x27t parse CIDR " ++ goQuote podCIDR ++ ": " ++ err))
    | .ok podCIDRNet =>
      if (podCIDRNet.maskSize : Int) ≥ size then
        some (invalid fldPath ("node CIDR mask size (" ++ toString size ++
          ") must be longer than the mask size of the pod CIDR (" ++ goQuote podCIDR ++ ")"))
      else none

/-- The three checks of `ValidateClusterNetworkConfig` on the proxy mode. -/
def proxyModeErrors (n : ClusterNetworkingConfig) (cni : Option CNIPluginSettings)
    (fldPath : String) : List FieldError :=
  (if n.proxyMode ∉ supportedProxyModes then
    [notSupported (fldPath ++ ".proxyMode") supportedProxyModes] else []) ++
  (if n.proxyMode = EBPFProxyMode ∧ cni.all (·.type ≠ CNIPluginTypeCilium) then
    [invalid (fldPath ++ ".proxyMode")
      (EBPFProxyMode ++ " proxy mode is valid only for " ++ CNIPluginTypeCilium ++ " CNI")]
  else []) ++
  (if n.proxyMode = EBPFProxyMode ∧ n.konnectivityEnabled ≠ some true then
    [invalid (fldPath ++ ".proxyMode")
      (EBPFProxyMode ++ " proxy mode can be used only when Konnectivity is enabled")]
  else [])

/-- **`ValidateClusterNetworkConfig`**, section by section in the code's order. -/
def ValidateClusterNetworkConfig (n : ClusterNetworkingConfig) (cni : Option CNIPluginSettings)
    (fldPath : String) : List FieldError :=
  cidrCountErrors n.pods.cidrBlocks n.services.cidrBlocks fldPath ++
  (validateClusterCIDRBlocks nh n.pods.cidrBlocks (fldPath ++ ".pods.cidrBlocks")).toList ++
  (validateClusterCIDRBlocks nh n.services.cidrBlocks (fldPath ++ ".services.cidrBlocks")).toList ++
  ipFamilyErrors n fldPath ++
  (validateNodeCIDRMaskSize nh n.nodeCIDRMaskSizeIPv4 (nh.getIPv4CIDR n.pods)
    (fldPath ++ ".nodeCidrMaskSizeIPv4")).toList ++
  (validateNodeCIDRMaskSize nh n.nodeCIDRMaskSizeIPv6 (nh.getIPv6CIDR n.pods)
    (fldPath ++ ".nodeCidrMaskSizeIPv6")).toList ++
  (if n.dnsDomain ≠ "cluster.local" then
    [invalid (fldPath ++ ".dnsDomain") "dnsDomain must be \x27cluster.local\x27"] else []) ++
  proxyModeErrors n cni fldPath

/-! ## What a well-formed configuration is -/

/-- The CIDR at position `i` of a list parses, and has the family its position asks: the
primary one IPv4, the secondary one IPv6. -/
def CIDRBlockValid (i : Nat) (cidr : String) : Prop :=
  ∃ addr, nh.parseCIDR cidr = .ok addr ∧ (i = 0 → addr.isIPv4 = true) ∧
    (i = 1 → addr.isIPv4 = false)

/-- Every CIDR of the list is valid at its position. -/
def CIDRBlocksValid (cidrBlocks : List String) : Prop :=
  ∀ i cidr, cidrBlocks[i]? = some cidr → CIDRBlockValid nh i cidr

/-- When both are given, the node CIDR mask size is longer than the pod CIDR's mask. -/
def NodeCIDRMaskSizeValid (nodeCIDRMaskSize : Option Int) (podCIDR : String) : Prop :=
  podCIDR ≠ "" → ∀ size, nodeCIDRMaskSize = some size →
    ∃ podCIDRNet, nh.parseCIDR podCIDR = .ok podCIDRNet ∧ (podCIDRNet.maskSize : Int) < size

/-- **A well-formed network configuration**: one or two pod CIDRs and as many service
CIDRs, each valid at its position; an IP family that agrees with the number of pod CIDRs;
node CIDR mask sizes longer than the pod CIDRs' masks; the DNS domain `cluster.local`; a
supported proxy mode, and for eBPF the Cilium CNI with Konnectivity enabled. -/
@[mk_iff]
structure NetworkWellFormed (n : ClusterNetworkingConfig) (cni : Option CNIPluginSettings) :
    Prop where
  cidrCounts : 0 < n.pods.cidrBlocks.length ∧ n.pods.cidrBlocks.length ≤ 2 ∧
    n.services.cidrBlocks.length = n.pods.cidrBlocks.length
  podCIDRs : CIDRBlocksValid nh n.pods.cidrBlocks
  serviceCIDRs : CIDRBlocksValid nh n.services.cidrBlocks
  ipFamily : (n.ipFamily = IPFamilyIPv4 → n.pods.cidrBlocks.length = 1) ∧
    (n.ipFamily = IPFamilyDualStack → n.pods.cidrBlocks.length = 2)
  nodeCIDRMaskSizeIPv4 : NodeCIDRMaskSizeValid nh n.nodeCIDRMaskSizeIPv4 (nh.getIPv4CIDR n.pods)
  nodeCIDRMaskSizeIPv6 : NodeCIDRMaskSizeValid nh n.nodeCIDRMaskSizeIPv6 (nh.getIPv6CIDR n.pods)
  dnsDomain : n.dnsDomain = "cluster.local"
  proxyMode : n.proxyMode ∈ supportedProxyModes ∧
    (n.proxyMode = EBPFProxyMode →
      (∃ c, cni = some c ∧ c.type = CNIPluginTypeCilium) ∧ n.konnectivityEnabled = some true)

/-! ## When each section is silent -/

variable {nh}

theorem cidrCountErrors_eq_nil_iff {pods services : List String} {fldPath : String} :
    cidrCountErrors pods services fldPath = [] ↔
      0 < pods.length ∧ pods.length ≤ 2 ∧ services.length = pods.length := by
  simp only [cidrCountErrors, List.append_eq_nil, ite_eq_right_iff, reduceCtorEq, imp_false]
  omega

theorem cidrBlockError_eq_none_iff {fldPath : String} {i : Nat} {cidr : String} :
    cidrBlockError nh fldPath i cidr = none ↔ CIDRBlockValid nh i cidr := by
  unfold cidrBlockError CIDRBlockValid
  rcases nh.parseCIDR cidr with err | addr
  · simp
  · rcases addr with ⟨_ | _, maskSize⟩ <;> simp

theorem validateClusterCIDRBlocks_eq_none_iff {cidrBlocks : List String} {fldPath : String} :
    validateClusterCIDRBlocks nh cidrBlocks fldPath = none ↔ CIDRBlocksValid nh cidrBlocks := by
  simp only [validateClusterCIDRBlocks, List.findSome?_eq_none_iff, Prod.forall,
    List.mem_enum_iff_getElem?, cidrBlockError_eq_none_iff, CIDRBlocksValid]

theorem ipFamilyErrors_eq_nil_iff {n : ClusterNetworkingConfig} {fldPath : String} :
    ipFamilyErrors n fldPath = [] ↔
      (n.ipFamily = IPFamilyIPv4 → n.pods.cidrBlocks.length = 1) ∧
        (n.ipFamily = IPFamilyDualStack → n.pods.cidrBlocks.length = 2) := by
  simp [ipFamilyErrors]

theorem validateNodeCIDRMaskSize_eq_none_iff {nodeCIDRMaskSize : Option Int}
    {podCIDR fldPath : String} :
    validateNodeCIDRMaskSize nh nodeCIDRMaskSize podCIDR fldPath = none ↔
      NodeCIDRMaskSizeValid nh nodeCIDRMaskSize podCIDR := by
  unfold validateNodeCIDRMaskSize NodeCIDRMaskSizeValid
  by_cases hpod : podCIDR = ""
  · simp [hpod]
  · rcases nodeCIDRMaskSize with _ | size
    · simp [hpod]
    · rcases nh.parseCIDR podCIDR with err | podCIDRNet <;> simp [hpod, Int.not_le]

theorem proxyModeErrors_eq_nil_iff {n : ClusterNetworkingConfig}
    {cni : Option CNIPluginSettings} {fldPath : String} :
    proxyModeErrors n cni fldPath = [] ↔ n.proxyMode ∈ supportedProxyModes ∧
      (n.proxyMode = EBPFProxyMode →
        (∃ c, cni = some c ∧ c.type = CNIPluginTypeCilium) ∧ n.konnectivityEnabled = some true) := by
  by_cases hebpf : n.proxyMode = EBPFProxyMode <;>
    rcases cni with _ | c <;> simp [proxyModeErrors, hebpf]

/-! ## The configurations the check accepts -/

/-- **`ValidateClusterNetworkConfig` accepts exactly the well-formed configurations**,
whatever field path the caller passes. -/
theorem ValidateClusterNetworkConfig_eq_nil_iff {n : ClusterNetworkingConfig}
    {cni : Option CNIPluginSettings} {fldPath : String} :
    ValidateClusterNetworkConfig nh n cni fldPath = [] ↔ NetworkWellFormed nh n cni := by
  simp only [ValidateClusterNetworkConfig, List.append_eq_nil, cidrCountErrors_eq_nil_iff,
    option_toList_eq_nil, validateClusterCIDRBlocks_eq_none_iff, ipFamilyErrors_eq_nil_iff,
    validateNodeCIDRMaskSize_eq_none_iff, proxyModeErrors_eq_nil_iff, ite_eq_right_iff,
    reduceCtorEq, imp_false, not_not, networkWellFormed_iff, and_assoc]

/-- **Where `validateClusterCIDRBlocks` reports an error.** The error is `Invalid` and
belongs to some CIDR of the list: one that does not parse is reported at its index in
`fldPath`, one that parses (so that its address family is wrong) at its index in
`fldPath.pods.cidrBlocks`. -/
theorem validateClusterCIDRBlocks_error_field {cidrBlocks : List String} {fldPath : String}
    {e : FieldError} (h : validateClusterCIDRBlocks nh cidrBlocks fldPath = some e) :
    e.type = .invalid ∧ ∃ i cidr, cidrBlocks[i]? = some cidr ∧
      ((∃ err, nh.parseCIDR cidr = .error err ∧ e.field = index fldPath i) ∨
        (∃ addr, nh.parseCIDR cidr = .ok addr ∧
          e.field = index (fldPath ++ ".pods.cidrBlocks") i)) := by
  obtain ⟨⟨i, cidr⟩, hmem, he⟩ := List.exists_of_findSome?_eq_some h
  rw [List.mem_enum_iff_getElem?] at hmem
  dsimp only [cidrBlockError] at he
  split at he
  next err hp =>
    cases he
    exact ⟨rfl, i, cidr, hmem, .inl ⟨err, hp, rfl⟩⟩
  next addr hp =>
    split_ifs at he <;> cases he
    all_goals exact ⟨rfl, i, cidr, hmem, .inr ⟨addr, hp, rfl⟩⟩

/-- Helpers that parse the CIDRs of a dual-stack cluster, pods `10.244.0.0/16` and
`fd00::/104`, services `10.96.0.0/12` and `fd01::/108`, and nothing else. -/
def dualStackNetHelpers : NetHelpers where
  parseCIDR cidr :=
    if cidr = "10.244.0.0/16" then .ok ⟨true, 16⟩
    else if cidr = "10.96.0.0/12" then .ok ⟨true, 12⟩
    else if cidr = "fd00::/104" then .ok ⟨false, 104⟩
    else if cidr = "fd01::/108" then .ok ⟨false, 108⟩
    else .error ("invalid CIDR address: " ++ cidr)
  parseIP _ := true
  getIPv4CIDR r := if "10.244.0.0/16" ∈ r.cidrBlocks then "10.244.0.0/16" else ""
  getIPv6CIDR r := if "fd00::/104" ∈ r.cidrBlocks then "fd00::/104" else ""

/-- Service CIDRs given IPv6 first, as `ValidateClusterSpec` checks them: the error names
`spec.networkConfig.services.cidrBlocks.pods.cidrBlocks[0]`. -/
theorem validateClusterCIDRBlocks_error_field_swapped_services :
    ∃ e, validateClusterCIDRBlocks dualStackNetHelpers ["fd00::/104", "10.244.0.0/16"]
        "spec.networkConfig.services.cidrBlocks" = some e ∧
      e.field = "spec.networkConfig.services.cidrBlocks.pods.cidrBlocks[0]" ∧
      e.type = .invalid ∧ ∃ i cidr, ["fd00::/104", "10.244.0.0/16"][i]? = some cidr ∧
        ((∃ err, dualStackNetHelpers.parseCIDR cidr = .error err ∧
            e.field = index "spec.networkConfig.services.cidrBlocks" i) ∨
          (∃ addr, dualStackNetHelpers.parseCIDR cidr = .ok addr ∧
            e.field = index ("spec.networkConfig.services.cidrBlocks" ++ ".pods.cidrBlocks") i)) :=
  have h : validateClusterCIDRBlocks dualStackNetHelpers ["fd00::/104", "10.244.0.0/16"]
      "spec.networkConfig.services.cidrBlocks" =
      some (invalid "spec.networkConfig.services.cidrBlocks.pods.cidrBlocks[0]"
        "invalid address family for primary CIDR \"fd00::/104\": has to be IPv4") := by
    decide
  ⟨_, h, rfl, validateClusterCIDRBlocks_error_field h⟩

/-! ## Machine networks -/

variable (nh)

/-- The checks of `validateMachineNetworksFromClusterSpec` on the network at position `i`.
The gateway and DNS server errors print `err`, which holds the error of the CIDR's parse:
`<nil>` when the CIDR parsed. -/
def machineNetworkErrors (basePath : String) (i : Nat) (network : MachineNetworkingConfig) :
    List FieldError :=
  let err : Option String :=
    match nh.parseCIDR network.cidr with
    | .error e => some e
    | .ok _ => none
  (err.toList.map fun e => invalid (index basePath i) ("could not parse CIDR: " ++ e)) ++
  (if nh.parseIP network.gateway then [] else
    [invalid (index basePath i) ("could not parse gateway: " ++ errorString err)]) ++
  network.dnsServers.enum.flatMap fun (j, dnsServer) =>
    if nh.parseIP dnsServer then [] else
      [invalid (index (index basePath i ++ ".dnsServers") j)
        ("could not parse DNS server: " ++ errorString err)]

/-- `validateMachineNetworksFromClusterSpec`. -/
def validateMachineNetworksFromClusterSpec (spec : ClusterSpec) (parentFieldPath : String) :
    List FieldError :=
  let basePath := parentFieldPath ++ ".machineNetworks"
  if spec.machineNetworks.length = 0 then []
  else
    (if spec.cloud.vsphere.isNone then
      [invalid basePath "machine networks are only supported with the vSphere provider"]
    else []) ++
    spec.machineNetworks.enum.flatMap fun (i, network) => machineNetworkErrors nh basePath i network

/-- A machine network whose CIDR, gateway and DNS servers all parse. -/
def MachineNetworkValid (network : MachineNetworkingConfig) : Prop :=
  (∃ c, nh.parseCIDR network.cidr = .ok c) ∧ nh.parseIP network.gateway = true ∧
    ∀ dnsServer ∈ network.dnsServers, nh.parseIP dnsServer = true

/-- Machine networks are only given with vSphere, and each of them parses. -/
def MachineNetworksValid (spec : ClusterSpec) : Prop :=
  spec.machineNetworks ≠ [] →
    spec.cloud.vsphere.isSome ∧ ∀ network ∈ spec.machineNetworks, MachineNetworkValid nh network

variable {nh}

/-- A loop over a list's positions checks every element. -/
theorem forall_mem_enum_iff {l : List α} {P : α → Prop} :
    (∀ (i : Nat) (a : α), (i, a) ∈ l.enum → P a) ↔ ∀ a ∈ l, P a := by
  simp only [List.mem_enum_iff_getElem?]
  refine ⟨fun h a ha => ?_, fun h i a hi => h a (List.mem_iff_getElem?.mpr ⟨i, hi⟩)⟩
  obtain ⟨i, hi⟩ := List.mem_iff_getElem?.mp ha
  exact h i a hi

theorem machineNetworkErrors_eq_nil_iff {basePath : String} {i : Nat}
    {network : MachineNetworkingConfig} :
    machineNetworkErrors nh basePath i network = [] ↔ MachineNetworkValid nh network := by
  unfold machineNetworkErrors MachineNetworkValid
  rcases nh.parseCIDR network.cidr with e | c <;>
    simp [forall_mem_enum_iff]

theorem validateMachineNetworksFromClusterSpec_eq_nil_iff {spec : ClusterSpec}
    {parentFieldPath : String} :
    validateMachineNetworksFromClusterSpec nh spec parentFieldPath = [] ↔
      MachineNetworksValid nh spec := by
  unfold validateMachineNetworksFromClusterSpec MachineNetworksValid
  simp [forall_mem_enum_iff, machineNetworkErrors_eq_nil_iff,
    Option.isNone_iff_eq_none, Option.isSome_iff_ne_none]

/-- **A gateway error after a CIDR that parsed prints a nil error.** The message is built
from the CIDR's parse error, so for a network whose CIDR parses and whose gateway does
not, it reads `could not parse gateway: <nil>`. -/
theorem machineNetworkErrors_gateway_of_cidr_ok {basePath : String} {i : Nat}
    {network : MachineNetworkingConfig} {c : ParsedCIDR}
    (hcidr : nh.parseCIDR network.cidr = .ok c) (hgateway : nh.parseIP network.gateway = false) :
    invalid (index basePath i) "could not parse gateway: <nil>" ∈
      machineNetworkErrors nh basePath i network := by
  simp [machineNetworkErrors, hcidr, hgateway, errorString]

end Checks

end Kubermatic.Validation
