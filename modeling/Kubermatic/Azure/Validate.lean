import Kubermatic.Azure.Initialize
import Kubermatic.Validation.CloudSpec

/-!
# Defaulting an Azure cloud spec, and checking it against Azure

Two more methods of the Azure provider (`pkg/provider/cloud/azure/provider.go`).
`Azure.DefaultCloudSpec` sets the load-balancer SKU to `basic` when the spec leaves it
empty. `Azure.ValidateCloudSpec` gets the credentials, then looks up each resource the spec
names, in a fixed order: the resource group, the virtual network, the subnet, the route
table and the security group. A block whose name is empty is skipped; otherwise it builds
its client and calls `Get`, and the first error is returned as it is.

The five blocks have one shape, so they are one function (`runLookups`) over a table
(`cloudSpecLookups`). The table also records where each block looks: the virtual network
and the subnet in the vnet resource group when the spec sets one, but the route table and
the security group always in the cluster's resource group.

What the two methods do for the rest of the provider:

* `validateCloudSpec_eq_returned_none_iff`: the check passes exactly when the credentials
  are found and every resource the spec names is there; `validateCloudSpec_gets` says it
  looks up nothing else, in the order `reconcileCluster` creates the resources;
* `validateCloudSpec_of_initializeRun_ok`: on a cluster that a successful run of
  `InitializeCloudProvider` returned, no block is skipped, so the check looks up every
  resource the run created or found;
* `validateAzureCloudSpec_defaultCloudSpec` and `validateCloudSpecUpdate_defaultCloudSpec`:
  defaulting changes neither the verdict of the admission check nor any name that spec
  updates must keep.
-/

namespace Kubermatic.Azure

/-! ## The code -/

/-- The clients `ValidateCloudSpec` builds: `getGroupsClient`, `getNetworksClient`,
`getSubnetsClient`, `getRouteTablesClient` and `getSecurityGroupsClient`. -/
inductive ResourceClient
  | groups | networks | subnets | routeTables | securityGroups
  deriving DecidableEq, Repr

/-- A `Get` of `ValidateCloudSpec`, with the arguments it passes. -/
inductive ResourceGet
  | group (resourceGroup : String)
  | vnet (resourceGroup vnetName : String)
  | subnet (resourceGroup vnetName subnetName : String)
  | routeTable (resourceGroup routeTableName : String)
  | securityGroup (resourceGroup securityGroup : String)
  deriving DecidableEq, Repr

/-- What the Azure calls of `ValidateCloudSpec` return. -/
structure ValidateAPI where
  /-- `GetCredentialsForCluster`. -/
  credentials : Except String Unit
  /-- Building a client. -/
  client : ResourceClient → Except String Unit
  /-- The client's `Get`: an error when the resource cannot be read. -/
  get : ResourceGet → Except String Unit

/-- A block of `ValidateCloudSpec`: the name that asks for it (the block is skipped when it
is empty), the client it builds, and the `Get` it calls. -/
structure Lookup where
  name : String
  client : ResourceClient
  get : ResourceGet

/-- The blocks of `ValidateCloudSpec`, in its order. `resourceGroup` is the vnet resource
group when the spec sets one, and the cluster's resource group otherwise. -/
def cloudSpecLookups (azure : AzureCloudSpec) : List Lookup :=
  let resourceGroup :=
    if azure.vnetResourceGroup ≠ "" then azure.vnetResourceGroup else azure.resourceGroup
  [⟨azure.resourceGroup, .groups, .group azure.resourceGroup⟩,
    ⟨azure.vnetName, .networks, .vnet resourceGroup azure.vnetName⟩,
    ⟨azure.subnetName, .subnets, .subnet resourceGroup azure.vnetName azure.subnetName⟩,
    ⟨azure.routeTableName, .routeTables, .routeTable azure.resourceGroup azure.routeTableName⟩,
    ⟨azure.securityGroup, .securityGroups,
      .securityGroup azure.resourceGroup azure.securityGroup⟩]

/-- The blocks, one after another: the error of the first that fails, if any, and the `Get`
calls made. -/
def runLookups (api : ValidateAPI) : List Lookup → Option String × List ResourceGet
  | [] => (none, [])
  | l :: ls =>
    if l.name = "" then runLookups api ls else
    match api.client l.client with
    | .error e => (some e, [])
    | .ok () =>
      match api.get l.get with
      | .error e => (some e, [l.get])
      | .ok () => ((runLookups api ls).1, l.get :: (runLookups api ls).2)

/-- **`Azure.ValidateCloudSpec`**, with the `Get` calls it made. -/
def validateCloudSpec (api : ValidateAPI) (cloud : CloudSpec) :
    GoResult (Option String) × List ResourceGet :=
  match api.credentials with
  | .error e => (.returned (some e), [])
  | .ok () =>
    match cloud.azure with
    | none => (.nilDereference, [])
    | some azure => (.returned (runLookups api (cloudSpecLookups azure)).1,
        (runLookups api (cloudSpecLookups azure)).2)

/-- **`Azure.DefaultCloudSpec`**: the spec it leaves, or its error. -/
def defaultCloudSpec (cloud : CloudSpec) : Except String CloudSpec :=
  match cloud.azure with
  | none => .error "no Azure cloud spec found"
  | some azure =>
    if azure.loadBalancerSKU = "" then
      .ok { cloud with azure := some { azure with loadBalancerSKU := Validation.AzureBasicLBSKU } }
    else .ok cloud

/-! ## The blocks -/

section Lookups

variable (api : ValidateAPI)

/-- The blocks that are not skipped. -/
def namedLookups (ls : List Lookup) : List Lookup := ls.filter (·.name ≠ "")

@[simp] theorem namedLookups_cons_of_eq {l : Lookup} (ls : List Lookup) (hn : l.name = "") :
    namedLookups (l :: ls) = namedLookups ls := by
  simp [namedLookups, hn]

@[simp] theorem namedLookups_cons_of_ne {l : Lookup} (ls : List Lookup) (hn : l.name ≠ "") :
    namedLookups (l :: ls) = l :: namedLookups ls := by
  simp [namedLookups, hn]

/-- **The blocks pass exactly when every block that is not skipped finds its resource.** -/
theorem runLookups_eq_none_iff (ls : List Lookup) :
    (runLookups api ls).1 = none ↔
      ∀ l ∈ namedLookups ls, api.client l.client = .ok () ∧ api.get l.get = .ok () := by
  induction ls with
  | nil => simp [runLookups, namedLookups]
  | cons l ls ih =>
    by_cases hn : l.name = ""
    · simpa [runLookups, hn] using ih
    · simp only [runLookups, hn, if_false, namedLookups_cons_of_ne ls hn, List.forall_mem_cons,
        ← ih]
      cases api.client l.client <;> cases api.get l.get <;> simp

/-- The `Get` calls are those of the blocks not skipped, in order, until one fails. -/
theorem runLookups_gets_prefix_named (ls : List Lookup) :
    (runLookups api ls).2 <+: (namedLookups ls).map (·.get) := by
  induction ls with
  | nil => simp [runLookups]
  | cons l ls ih =>
    by_cases hn : l.name = ""
    · simpa [runLookups, hn] using ih
    · simp only [runLookups, hn, if_false, namedLookups_cons_of_ne ls hn, List.map_cons]
      cases api.client l.client <;> cases api.get l.get <;> simp [ih]

/-- Blocks that pass made the `Get` of every block not skipped. -/
theorem runLookups_gets_of_eq_none {ls : List Lookup} (h : (runLookups api ls).1 = none) :
    (runLookups api ls).2 = (namedLookups ls).map (·.get) := by
  induction ls with
  | nil => rfl
  | cons l ls ih =>
    by_cases hn : l.name = ""
    · simp only [runLookups, hn, if_true] at h ⊢
      simpa [hn] using ih h
    · simp only [runLookups, hn, if_false, namedLookups_cons_of_ne ls hn, List.map_cons] at h ⊢
      revert h
      cases api.client l.client <;> cases api.get l.get <;> simp
      exact ih

theorem namedLookups_eq_self {ls : List Lookup} (h : ∀ l ∈ ls, l.name ≠ "") :
    namedLookups ls = ls :=
  List.filter_eq_self.mpr fun l hl => by simpa using h l hl

end Lookups

/-- **The blocks look up the resources in the order `reconcileCluster` creates them**: the
names they ask for are the fields of its steps before the availability set. -/
theorem cloudSpecLookups_names (a : AzureCloudSpec) :
    (cloudSpecLookups a).map (·.name) = reconcileOrder.dropLast.map (·.field a) := rfl

/-! ## `ValidateCloudSpec` -/

section Validate

variable (api : ValidateAPI) (cloud : CloudSpec)

/-- **`ValidateCloudSpec` passes exactly when the credentials are found, the spec is an
Azure one, and every resource it names is there.** -/
theorem validateCloudSpec_eq_returned_none_iff :
    (validateCloudSpec api cloud).1 = .returned none ↔
      api.credentials = .ok () ∧ ∃ azure, cloud.azure = some azure ∧
        ∀ l ∈ namedLookups (cloudSpecLookups azure),
          api.client l.client = .ok () ∧ api.get l.get = .ok () := by
  unfold validateCloudSpec
  split
  · simp_all
  · split <;> simp_all [runLookups_eq_none_iff]

/-- Once the credentials are found, `ValidateCloudSpec` on an Azure spec is its blocks. -/
theorem validateCloudSpec_eq {azure : AzureCloudSpec} (hcred : api.credentials = .ok ())
    (hazure : cloud.azure = some azure) :
    validateCloudSpec api cloud = (.returned (runLookups api (cloudSpecLookups azure)).1,
      (runLookups api (cloudSpecLookups azure)).2) := by
  simp [validateCloudSpec, hcred, hazure]

/-- **`ValidateCloudSpec` looks up only what the spec names**, in the order of its blocks,
and when it passes it looked up all of it. -/
theorem validateCloudSpec_gets {azure : AzureCloudSpec} (hazure : cloud.azure = some azure) :
    (validateCloudSpec api cloud).2 <+: (namedLookups (cloudSpecLookups azure)).map (·.get) ∧
      ((validateCloudSpec api cloud).1 = .returned none →
        (validateCloudSpec api cloud).2 =
          (namedLookups (cloudSpecLookups azure)).map (·.get)) := by
  cases hcred : api.credentials with
  | error e => simp [validateCloudSpec, hcred]
  | ok u =>
    rw [validateCloudSpec_eq api cloud hcred hazure]
    exact ⟨runLookups_gets_prefix_named api _,
      fun h => runLookups_gets_of_eq_none api (by simpa using h)⟩

end Validate

/-- A step other than the availability set's that is not due has its name set. -/
theorem ReconcileStep.field_ne_of_due_eq_false {t : ReconcileStep} {a : AzureCloudSpec}
    (h : t.due a = false) (ht : t ≠ .availabilitySet) : t.field a ≠ "" := by
  simpa [ReconcileStep.due, ht] using h

/-- On a spec on which no step is due, no block of `ValidateCloudSpec` is skipped. -/
theorem namedLookups_cloudSpecLookups_of_done {a : AzureCloudSpec}
    (h : ∀ t : ReconcileStep, t.due a = false) :
    namedLookups (cloudSpecLookups a) = cloudSpecLookups a := by
  refine namedLookups_eq_self fun l hl => ?_
  have hname : l.name ∈ reconcileOrder.dropLast.map (·.field a) :=
    cloudSpecLookups_names a ▸ List.mem_map_of_mem _ hl
  obtain ⟨t, ht, hfield⟩ := List.mem_map.mp hname
  rw [← hfield]
  refine ReconcileStep.field_ne_of_due_eq_false (h t) ?_
  rintro rfl
  exact absurd ht (by decide)

/-- **A cluster that a successful run of `InitializeCloudProvider` returned is checked
against every resource.** Of helpers that do what the spec asks: the cluster has an Azure
spec on which no block of `ValidateCloudSpec` is skipped, so, once the credentials are
found, the check passes exactly when all five resources are there, and when it passes it
has looked up all five. -/
theorem validateCloudSpec_of_initializeRun_ok {api : ReconcileAPI} (hp : api.Persists)
    {st : InitState} {a : AzureCloudSpec} (ha : st.stored.spec.cloud.azure = some a)
    {c' : Cluster} (h : (initializeRun api st).1 = .ok c') (api' : ValidateAPI)
    (hcred : api'.credentials = .ok ()) :
    ∃ a', c'.spec.cloud.azure = some a' ∧
      ((validateCloudSpec api' c'.spec.cloud).1 = .returned none ↔
        ∀ l ∈ cloudSpecLookups a',
          api'.client l.client = .ok () ∧ api'.get l.get = .ok ()) ∧
      ((validateCloudSpec api' c'.spec.cloud).1 = .returned none →
        (validateCloudSpec api' c'.spec.cloud).2 = (cloudSpecLookups a').map (·.get)) := by
  obtain ⟨a', ha', hdone⟩ := initializeRun_ok_done hp ha h
  have hnamed := namedLookups_cloudSpecLookups_of_done hdone
  rw [validateCloudSpec_eq api' _ hcred ha']
  refine ⟨a', ha', ?_, fun hok => ?_⟩
  · simp only [GoResult.returned.injEq, runLookups_eq_none_iff, hnamed]
  · rw [runLookups_gets_of_eq_none api' (by simpa using hok), hnamed]

/-- Azure answers for a check that can read every resource. -/
def readingAPI : ValidateAPI := ⟨.ok (), fun _ => .ok (), fun _ => .ok ()⟩

/-- The cluster one run of the naming helpers returns for `resumingCluster`, checked by a
client that reads every resource. -/
theorem validateCloudSpec_of_initializeRun_ok_naming :
    ∃ c', (initializeRun (namingAPI []) ⟨resumingCluster, []⟩).1 = .ok c' ∧
      ∃ a', c'.spec.cloud.azure = some a' ∧
        ((validateCloudSpec readingAPI c'.spec.cloud).1 = .returned none ↔
          ∀ l ∈ cloudSpecLookups a',
            readingAPI.client l.client = .ok () ∧ readingAPI.get l.get = .ok ()) ∧
        ((validateCloudSpec readingAPI c'.spec.cloud).1 = .returned none →
          (validateCloudSpec readingAPI c'.spec.cloud).2 = (cloudSpecLookups a').map (·.get)) :=
  ⟨_, rfl, @validateCloudSpec_of_initializeRun_ok _ (namingAPI_persists []) ⟨resumingCluster, []⟩ _
    rfl _ rfl readingAPI rfl⟩

/-! ## `DefaultCloudSpec` -/

section Default

variable {cloud cloud' : CloudSpec}

/-- What `DefaultCloudSpec` leaves: the Azure spec, with the SKU set to `basic` when it was
empty. -/
theorem defaultCloudSpec_eq_ok (h : defaultCloudSpec cloud = .ok cloud') :
    ∃ a, cloud.azure = some a ∧
      (a.loadBalancerSKU = "" ∧ cloud' = { cloud with
          azure := some { a with loadBalancerSKU := Validation.AzureBasicLBSKU } } ∨
        a.loadBalancerSKU ≠ "" ∧ cloud' = cloud) := by
  unfold defaultCloudSpec at h
  split at h
  · cases h
  · rename_i a ha
    split at h <;> cases h
    · exact ⟨a, ha, .inl ⟨‹_›, rfl⟩⟩
    · exact ⟨a, ha, .inr ⟨‹_›, rfl⟩⟩

/-- **Defaulting changes no name a spec update must keep**: the update from a spec to its
defaulted one is admitted. -/
theorem validateCloudSpecUpdate_defaultCloudSpec (h : defaultCloudSpec cloud = .ok cloud') :
    validateCloudSpecUpdate cloud cloud' = none := by
  obtain ⟨a, ha, ⟨-, rfl⟩ | ⟨-, rfl⟩⟩ := defaultCloudSpec_eq_ok h
  · refine validateCloudSpecUpdate_eq_none_iff.mpr ⟨a, _, ha, rfl, fun f hf _ => ?_⟩
    simp only [immutableFields, List.mem_cons, List.not_mem_nil, or_false] at hf
    rcases hf with rfl | rfl | rfl | rfl | rfl | rfl | rfl <;> rfl
  · exact validateCloudSpecUpdate_eq_none_iff.mpr ⟨a, a, ha, ha, fun _ _ _ => rfl⟩

/-- **Defaulting keeps the admission check's verdict**: `validateAzureCloudSpec` says the
same of the defaulted spec as of the spec, error message included, since the empty SKU
and `basic` are both allowed. -/
theorem validateAzureCloudSpec_defaultCloudSpec (ch : Validation.CloudHelpers)
    (nh : Validation.NetHelpers) (h : defaultCloudSpec cloud = .ok cloud') :
    ∃ a a', cloud.azure = some a ∧ cloud'.azure = some a' ∧
      Validation.validateAzureCloudSpec ch nh a' = Validation.validateAzureCloudSpec ch nh a := by
  obtain ⟨a, ha, ⟨hsku, rfl⟩ | ⟨-, rfl⟩⟩ := defaultCloudSpec_eq_ok h
  · refine ⟨a, _, ha, rfl, ?_⟩
    simp [Validation.validateAzureCloudSpec, hsku, Validation.azureLoadBalancerSKUTypes,
      Validation.AzureBasicLBSKU, Validation.AzureStandardLBSKU]
  · exact ⟨a, a, ha, ha, rfl⟩

/-- Defaulting a defaulted spec changes nothing. -/
theorem defaultCloudSpec_idempotent (h : defaultCloudSpec cloud = .ok cloud') :
    defaultCloudSpec cloud' = .ok cloud' := by
  obtain ⟨a, -, ⟨-, rfl⟩ | ⟨-, rfl⟩⟩ := defaultCloudSpec_eq_ok h
  · simp [defaultCloudSpec, Validation.AzureBasicLBSKU]
  · exact h

end Default

end Kubermatic.Azure
