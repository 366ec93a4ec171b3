import Kubermatic.Cluster

/-!
# The Azure cloud provider: security rules and spec updates

Two functions of `pkg/provider/cloud/azure/provider.go` that decide without looping
over the cluster's lifecycle. `Azure.AddICMPRulesIfRequired` reads the cluster's
network security group and, when the group is owned by the cluster, adds in one
`CreateOrUpdate` call the baseline rules it misses: deny all TCP, deny all UDP, allow
all ICMP. `Azure.ValidateCloudSpecUpdate` refuses to change an Azure resource name once
it is set.

The Azure SDK calls are parameters: a `SecurityGroupsAPI` says what each call returns,
so a statement over every `SecurityGroupsAPI` is over every behaviour of Azure. The
calls `AddICMPRulesIfRequired` makes to `CreateOrUpdate` are returned with its result.
A Go function can also panic on a nil pointer: `GoResult` keeps that apart from
returning, since dereferencing a missing rule list is the one thing here that goes
wrong (`addICMPRulesIfRequired_nil_rules_panics`).
-/

namespace Kubermatic.Azure

/-! ## Constants -/

def clusterTagKey : String := "cluster"

def FinalizerSecurityGroup : String := "kubermatic.k8c.io/cleanup-azure-security-group"
def FinalizerRouteTable : String := "kubermatic.k8c.io/cleanup-azure-route-table"
def FinalizerSubnet : String := "kubermatic.k8c.io/cleanup-azure-subnet"
def FinalizerVNet : String := "kubermatic.k8c.io/cleanup-azure-vnet"
def FinalizerResourceGroup : String := "kubermatic.k8c.io/cleanup-azure-resource-group"
def FinalizerAvailabilitySet : String := "kubermatic.k8c.io/cleanup-azure-availability-set"

def denyAllTCPSecGroupRuleName : String := "deny_all_tcp"
def denyAllUDPSecGroupRuleName : String := "deny_all_udp"
def allowAllICMPSecGroupRuleName : String := "icmp_by_allow_all"

/-! ## Security groups -/

/-- `network.SecurityRule`, of which the code reads the name. -/
structure SecurityRule where
  name : Option String := none
  deriving DecidableEq, Repr

/-- `network.SecurityGroup`: its name, its tags, and its rule list, which the SDK
leaves `nil` when the response carries none. -/
structure SecurityGroup where
  name : Option String := none
  tags : List (String × String) := []
  securityRules : Option (List SecurityRule) := none
  deriving DecidableEq, Repr

/-- Modelled from the spec: `tcpDenyAllRule`, the baseline rule denying all TCP. Its
other properties are not read. -/
def tcpDenyAllRule : SecurityRule := ⟨some denyAllTCPSecGroupRuleName⟩

/-- Modelled from the spec: `udpDenyAllRule`. -/
def udpDenyAllRule : SecurityRule := ⟨some denyAllUDPSecGroupRuleName⟩

/-- Modelled from the spec: `icmpAllowAllRule`. -/
def icmpAllowAllRule : SecurityRule := ⟨some allowAllICMPSecGroupRuleName⟩

/-- Modelled from the spec: `hasOwnershipTag`, the group is tagged as the cluster's. -/
def hasOwnershipTag (tags : List (String × String)) (cluster : Cluster) : Bool :=
  tags.lookup clusterTagKey == some cluster.name

/-- What the Azure calls of `AddICMPRulesIfRequired` return. -/
structure SecurityGroupsAPI where
  /-- `GetCredentialsForCluster`. -/
  credentials : Except String Unit
  /-- `getSecurityGroupsClient`. -/
  client : Except String Unit
  /-- `sgClient.Get` on a resource group and a group name. -/
  get : String → String → Except String SecurityGroup
  /-- `sgClient.CreateOrUpdate` on a resource group, a group name and the new group. -/
  createOrUpdate : String → String → SecurityGroup → Except String Unit

/-- A `CreateOrUpdate` call: where, and the group sent. -/
structure CreateOrUpdateCall where
  resourceGroup : String
  securityGroup : String
  parameters : SecurityGroup
  deriving DecidableEq, Repr

/-- The flags of the loop over the existing rules. -/
structure BaselineFlags where
  hasDenyAllTCPRule : Bool := false
  hasDenyAllUDPRule : Bool := false
  hasICMPAllowAllRule : Bool := false
  deriving DecidableEq, Repr

/-- One iteration of the loop: a rule without a name is skipped, and a rule with a
baseline name sets that name's flag. -/
def scanRule (flags : BaselineFlags) (rule : SecurityRule) : BaselineFlags :=
  match rule.name with
  | none => flags
  | some n =>
    if n = denyAllTCPSecGroupRuleName then { flags with hasDenyAllTCPRule := true }
    else if n = denyAllUDPSecGroupRuleName then { flags with hasDenyAllUDPRule := true }
    else if n = allowAllICMPSecGroupRuleName then { flags with hasICMPAllowAllRule := true }
    else flags

/-- `newSecurityRules`: a baseline rule for each flag that is not set, in the order
TCP, UDP, ICMP. -/
def newSecurityRules (flags : BaselineFlags) : List SecurityRule :=
  (if !flags.hasDenyAllTCPRule then [tcpDenyAllRule] else []) ++
  (if !flags.hasDenyAllUDPRule then [udpDenyAllRule] else []) ++
  (if !flags.hasICMPAllowAllRule then [icmpAllowAllRule] else [])

/-- **`Azure.AddICMPRulesIfRequired`**, with its error, or its panic, and the
`CreateOrUpdate` calls it made. -/
def addICMPRulesIfRequired (api : SecurityGroupsAPI) (cluster : Cluster) :
    GoResult (Option String) × List CreateOrUpdateCall :=
  match api.credentials with
  | .error e => (.returned (some e), [])
  | .ok () =>
  match cluster.spec.cloud.azure with
  | none => (.nilDereference, [])
  | some azure =>
  if azure.securityGroup = "" then (.returned none, []) else
  match api.client with
  | .error e => (.returned (some ("failed to get security group client: " ++ e)), [])
  | .ok () =>
  match api.get azure.resourceGroup azure.securityGroup with
  | .error e =>
    (.returned (some ("failed to get security group " ++ goQuote azure.securityGroup ++ ": " ++ e)),
      [])
  | .ok sg =>
  if !hasOwnershipTag sg.tags cluster then (.returned none, []) else
  let flags := (sg.securityRules.getD []).foldl scanRule {}
  if (newSecurityRules flags).length > 0 then
    match sg.securityRules with
    | none => (.nilDereference, [])
    | some rules =>
      let sg' := { sg with securityRules := some (rules ++ newSecurityRules flags) }
      let req : CreateOrUpdateCall := ⟨azure.resourceGroup, azure.securityGroup, sg'⟩
      match api.createOrUpdate azure.resourceGroup azure.securityGroup sg' with
      | .ok () => (.returned none, [req])
      | .error e =>
        match sg.name with
        | none => (.nilDereference, [req])
        | some n =>
          (.returned (some ("failed to add new rules to security group " ++ goQuote n ++ ": " ++
            e)), [req])
  else (.returned none, [])

/-! ## The rules that are missing -/

/-- The baseline rules, in the order the code adds them. -/
def baselineRules : List SecurityRule := [tcpDenyAllRule, udpDenyAllRule, icmpAllowAllRule]

/-- Whether a rule of the list has the name. -/
def hasRuleNamed (rules : List SecurityRule) (n : String) : Bool :=
  rules.any fun r => decide (r.name = some n)

/-- The baseline rules whose names no rule of the list has, in their order: what the
spec asks `AddICMPRulesIfRequired` to add. -/
def missingBaselineRules (rules : List SecurityRule) : List SecurityRule :=
  baselineRules.filter fun b => !rules.any fun r => decide (r.name = b.name)

/-- One iteration sets each flag whose name the rule has. -/
theorem scanRule_eq (flags : BaselineFlags) (rule : SecurityRule) :
    scanRule flags rule =
      ⟨flags.hasDenyAllTCPRule || decide (rule.name = some denyAllTCPSecGroupRuleName),
        flags.hasDenyAllUDPRule || decide (rule.name = some denyAllUDPSecGroupRuleName),
        flags.hasICMPAllowAllRule || decide (rule.name = some allowAllICMPSecGroupRuleName)⟩ := by
  rcases rule with ⟨_ | n⟩
  · simp [scanRule]
  · simp only [scanRule]
    split_ifs with h₁ h₂ h₃ <;> try subst n
    all_goals simp_all [denyAllTCPSecGroupRuleName, denyAllUDPSecGroupRuleName,
      allowAllICMPSecGroupRuleName]

/-- **What the loop computes**: a flag is set when it was set before or a rule has its
name. -/
theorem foldl_scanRule (rules : List SecurityRule) (flags : BaselineFlags) :
    rules.foldl scanRule flags =
      ⟨flags.hasDenyAllTCPRule || hasRuleNamed rules denyAllTCPSecGroupRuleName,
        flags.hasDenyAllUDPRule || hasRuleNamed rules denyAllUDPSecGroupRuleName,
        flags.hasICMPAllowAllRule || hasRuleNamed rules allowAllICMPSecGroupRuleName⟩ := by
  induction rules generalizing flags with
  | nil => simp [hasRuleNamed]
  | cons rule rules ih =>
    rw [List.foldl_cons, ih, scanRule_eq]
    simp only [hasRuleNamed, List.any_cons, Bool.or_assoc]

/-- **The code adds exactly the missing baseline rules**, in order. -/
theorem newSecurityRules_foldl_scanRule (rules : List SecurityRule) :
    newSecurityRules (rules.foldl scanRule {}) = missingBaselineRules rules := by
  rw [foldl_scanRule]
  simp only [newSecurityRules, missingBaselineRules, baselineRules, hasRuleNamed, List.filter,
    tcpDenyAllRule, udpDenyAllRule, icmpAllowAllRule, Bool.false_or]
  cases rules.any fun r => decide (r.name = some denyAllTCPSecGroupRuleName) <;>
  cases rules.any fun r => decide (r.name = some denyAllUDPSecGroupRuleName) <;>
  cases rules.any fun r => decide (r.name = some allowAllICMPSecGroupRuleName) <;> rfl

/-- After the missing rules are added, none is missing. -/
@[simp] theorem missingBaselineRules_append (rules : List SecurityRule) :
    missingBaselineRules (rules ++ missingBaselineRules rules) = [] := by
  refine List.filter_eq_nil_iff.mpr fun b hb => ?_
  by_cases h : rules.any fun r => decide (r.name = b.name)
  · simp [h]
  · have hmissing : b ∈ missingBaselineRules rules := List.mem_filter.mpr ⟨hb, by simpa using h⟩
    simp only [List.any_append, Bool.or_eq_true, List.any_eq_true, decide_eq_true_eq]
    simp only [h, Bool.not_eq_true', Bool.not_or, Bool.false_or, Bool.not_eq_false']
    rw [Bool.not_eq_false, List.any_eq_true]
    exact ⟨b, hmissing, decide_eq_true rfl⟩

/-! ## Behaviour on the group that was read -/

section AfterGet

variable (api : SecurityGroupsAPI) (cluster : Cluster) (azure : AzureCloudSpec)
  (sg : SecurityGroup)
  (hcred : api.credentials = .ok ()) (hazure : cluster.spec.cloud.azure = some azure)
  (hsg : azure.securityGroup ≠ "") (hclient : api.client = .ok ())
  (hget : api.get azure.resourceGroup azure.securityGroup = .ok sg)
include hcred hazure hsg hclient hget

/-- A group the cluster does not own is left alone. -/
theorem addICMPRulesIfRequired_of_not_owned (hown : hasOwnershipTag sg.tags cluster = false) :
    addICMPRulesIfRequired api cluster = (.returned none, []) := by
  simp [addICMPRulesIfRequired, hcred, hazure, hsg, hclient, hget, hown]

/-- An owned group without a rule list makes the code dereference it as soon as a rule
is missing, and with no rule every baseline rule is missing. -/
theorem addICMPRulesIfRequired_of_rules_none (hown : hasOwnershipTag sg.tags cluster = true)
    (hrules : sg.securityRules = none) :
    addICMPRulesIfRequired api cluster = (.nilDereference, []) := by
  simp [addICMPRulesIfRequired, hcred, hazure, hsg, hclient, hget, hown, hrules,
    newSecurityRules]

/-- On an owned group with a rule list, the calls are one `CreateOrUpdate` with the
missing baseline rules appended, or none when none is missing. -/
theorem addICMPRulesIfRequired_calls (hown : hasOwnershipTag sg.tags cluster = true)
    {rules : List SecurityRule} (hrules : sg.securityRules = some rules) :
    (addICMPRulesIfRequired api cluster).2 =
      if missingBaselineRules rules = [] then [] else
        [⟨azure.resourceGroup, azure.securityGroup,
          { sg with securityRules := some (rules ++ missingBaselineRules rules) }⟩] := by
  simp only [addICMPRulesIfRequired, hcred, hazure, hsg, hclient, hget, hown, hrules,
    Bool.not_true, Bool.false_eq_true, if_false, Option.getD_some,
    newSecurityRules_foldl_scanRule, List.length_pos, ne_eq]
  split_ifs
  · rfl
  · split <;> [rfl; split <;> rfl]

/-- On an owned group with a rule list, the code panics exactly when a baseline rule is
missing, the update that adds it fails, and the group read has no name: the error
message dereferences `*sg.Name`. -/
theorem addICMPRulesIfRequired_eq_nilDereference_iff
    (hown : hasOwnershipTag sg.tags cluster = true) {rules : List SecurityRule}
    (hrules : sg.securityRules = some rules) :
    (addICMPRulesIfRequired api cluster).1 = .nilDereference ↔
      missingBaselineRules rules ≠ [] ∧
      (∃ e, api.createOrUpdate azure.resourceGroup azure.securityGroup
        { sg with securityRules := some (rules ++ missingBaselineRules rules) } = .error e) ∧
      sg.name = none := by
  simp only [addICMPRulesIfRequired, hcred, hazure, hsg, hclient, hget, hown, hrules,
    Bool.not_true, Bool.false_eq_true, if_false, Option.getD_some,
    newSecurityRules_foldl_scanRule, List.length_pos, ne_eq]
  split_ifs with hmissing
  · simp [hmissing]
  · cases api.createOrUpdate azure.resourceGroup azure.securityGroup
      { sg with securityRules := some (rules ++ missingBaselineRules rules) } <;>
      cases sg.name <;> simp [hmissing]

/-- **`AddICMPRulesIfRequired` adds the missing baseline rules in one update**, on a
group with a rule list. A group the cluster does not own gets no update. An owned one
gets one `CreateOrUpdate` when a baseline rule is missing, with its rules followed by
exactly the missing ones in the order TCP, UDP, ICMP, and none otherwise; the code
panics exactly when that update fails and the group read has no name; and a second call
that reads the updated group sends nothing. -/
theorem addICMPRulesIfRequired_adds_missing_rules :
    (hasOwnershipTag sg.tags cluster = false →
      addICMPRulesIfRequired api cluster = (.returned none, [])) ∧
    ∀ rules, sg.securityRules = some rules → hasOwnershipTag sg.tags cluster = true →
      (addICMPRulesIfRequired api cluster).2 =
        (if missingBaselineRules rules = [] then [] else
          [⟨azure.resourceGroup, azure.securityGroup,
            { sg with securityRules := some (rules ++ missingBaselineRules rules) }⟩]) ∧
      ((addICMPRulesIfRequired api cluster).1 = .nilDereference ↔
        missingBaselineRules rules ≠ [] ∧
        (∃ e, api.createOrUpdate azure.resourceGroup azure.securityGroup
          { sg with securityRules := some (rules ++ missingBaselineRules rules) } = .error e) ∧
        sg.name = none) ∧
      ∀ api' : SecurityGroupsAPI, api'.credentials = .ok () → api'.client = .ok () →
        api'.get azure.resourceGroup azure.securityGroup =
          .ok { sg with securityRules := some (rules ++ missingBaselineRules rules) } →
        (addICMPRulesIfRequired api' cluster).2 = [] := by
  refine ⟨addICMPRulesIfRequired_of_not_owned api cluster azure sg hcred hazure hsg hclient hget,
    fun rules hrules hown => ⟨?_, ?_, fun api' hcred' hclient' hget' => ?_⟩⟩
  · exact addICMPRulesIfRequired_calls api cluster azure sg hcred hazure hsg hclient hget hown hrules
  · exact addICMPRulesIfRequired_eq_nilDereference_iff api cluster azure sg hcred hazure hsg
      hclient hget hown hrules
  · rw [addICMPRulesIfRequired_calls api' cluster azure _ hcred' hazure hsg hclient' hget' hown rfl,
      missingBaselineRules_append, if_pos rfl]

end AfterGet

/-- A sample call: an owned group that has the TCP rule. -/
def sampleSecurityGroupsAPI : SecurityGroupsAPI :=
  ⟨.ok (), .ok (),
    fun _ _ => .ok
      { name := some "sg", tags := [("cluster", "c")], securityRules := some [tcpDenyAllRule] },
    fun _ _ _ => .ok ()⟩

/-- The cluster of the sample call. -/
def sampleAzureCluster : Cluster :=
  { name := "c", spec := { cloud := { azure := some { resourceGroup := "rg", securityGroup := "sg" } } } }

/-- A group that has the TCP rule gets the UDP and ICMP rules, once. -/
theorem addICMPRulesIfRequired_adds_missing_rules_to_tcp_only :
    (hasOwnershipTag [("cluster", "c")] sampleAzureCluster = false →
      addICMPRulesIfRequired sampleSecurityGroupsAPI sampleAzureCluster = (.returned none, [])) ∧
    ∀ rules, some [tcpDenyAllRule] = some rules →
      hasOwnershipTag [("cluster", "c")] sampleAzureCluster = true →
      (addICMPRulesIfRequired sampleSecurityGroupsAPI sampleAzureCluster).2 =
        (if missingBaselineRules rules = [] then [] else
          [⟨"rg", "sg",
            { name := some "sg", tags := [("cluster", "c")],
              securityRules := some (rules ++ missingBaselineRules rules) }⟩]) ∧
      ((addICMPRulesIfRequired sampleSecurityGroupsAPI sampleAzureCluster).1 = .nilDereference ↔
        missingBaselineRules rules ≠ [] ∧
        (∃ e, sampleSecurityGroupsAPI.createOrUpdate "rg" "sg"
          { name := some "sg", tags := [("cluster", "c")],
            securityRules := some (rules ++ missingBaselineRules rules) } = .error e) ∧
        some "sg" = none) ∧
      ∀ api' : SecurityGroupsAPI, api'.credentials = .ok () → api'.client = .ok () →
        api'.get "rg" "sg" = .ok
          { name := some "sg", tags := [("cluster", "c")],
            securityRules := some (rules ++ missingBaselineRules rules) } →
        (addICMPRulesIfRequired api' sampleAzureCluster).2 = [] :=
  addICMPRulesIfRequired_adds_missing_rules _ _ { resourceGroup := "rg", securityGroup := "sg" }
    { name := some "sg", tags := [("cluster", "c")], securityRules := some [tcpDenyAllRule] }
    rfl rfl (by decide) rfl rfl

/-- **An owned group without a rule list makes the code panic.** The group read carries
the cluster's tag and no rule list, so every baseline rule is missing, and appending
them to `*sg.SecurityRules` dereferences the nil pointer before any update is sent. -/
theorem addICMPRulesIfRequired_nil_rules_panics :
    addICMPRulesIfRequired
      ⟨.ok (), .ok (), fun _ _ => .ok { name := some "sg", tags := [("cluster", "c")] },
        fun _ _ _ => .ok ()⟩
      { name := "c", spec := { cloud := { azure := some { securityGroup := "sg" } } } } =
      (.nilDereference, []) := by
  decide

/-! ## Spec updates -/

/-- The fields of the Azure spec that `ValidateCloudSpecUpdate` keeps once set, in its
order, with the words its messages name them by. -/
def immutableFields : List (String × (AzureCloudSpec → String)) :=
  [("resource group", (·.resourceGroup)), ("vnet resource group", (·.vnetResourceGroup)),
    ("vnet name", (·.vnetName)), ("subnet name", (·.subnetName)),
    ("route table name", (·.routeTableName)), ("security group", (·.securityGroup)),
    ("availability set", (·.availabilitySet))]

/-- One check of `ValidateCloudSpecUpdate`: a field the old spec sets may not change. -/
def fieldUpdateError (what oldVal newVal : String) : Option String :=
  if oldVal ≠ "" ∧ oldVal ≠ newVal then
    some ("updating Azure " ++ what ++ " is not supported (was " ++ oldVal ++ ", updated to " ++
      newVal ++ ")")
  else none

/-- **`Azure.ValidateCloudSpecUpdate`**: the error of the first check that fails. -/
def validateCloudSpecUpdate (oldSpec newSpec : CloudSpec) : Option String :=
  match oldSpec.azure, newSpec.azure with
  | some o, some n => immutableFields.findSome? fun (what, field) =>
      fieldUpdateError what (field o) (field n)
  | _, _ => some "\x27azure\x27 spec is empty"

/-- An update passes exactly when both specs are Azure ones and it keeps every field the
old one sets. -/
theorem validateCloudSpecUpdate_eq_none_iff {oldSpec newSpec : CloudSpec} :
    validateCloudSpecUpdate oldSpec newSpec = none ↔
      ∃ o n, oldSpec.azure = some o ∧ newSpec.azure = some n ∧
        ∀ f ∈ immutableFields, f.2 o ≠ "" → f.2 n = f.2 o := by
  unfold validateCloudSpecUpdate
  split
  · rename_i o n ho hn
    simp only [List.findSome?_eq_none_iff, fieldUpdateError, ite_eq_right_iff, ho, hn,
      Option.some.injEq, exists_and_left, exists_eq_left', reduceCtorEq]
    exact forall₂_congr fun f _ => ⟨fun h hset => (not_not.mp fun hne => h ⟨hset, hne⟩).symm,
      fun h ⟨hset, hne⟩ => hne (h hset).symm⟩
  · rename_i h
    simp only [reduceCtorEq, false_iff, not_exists, not_and]
    exact fun o n ho hn => (h o n ho hn).elim

end Kubermatic.Azure
