import Kubermatic.Azure.Provider

/-!
# Creating a cluster's Azure resources, one persisted piece at a time

`Azure.reconcileCluster` (`pkg/provider/cloud/azure/provider.go`) creates the Azure
resources a cluster runs on, in a fixed order: resource group, virtual network, subnet,
route table, security group, availability set. `InitializeCloudProvider` calls it without
`force`: a block then calls its helper only when the spec field naming its resource is
empty, and the availability set's only when `AssignAvailabilitySet` is nil or true. The
helper creates the resource and persists its name on the cluster through the
`ClusterUpdater`; the cluster it returns is the one the next block reads, and an error
returns at once. `ReconcileCluster` calls it with `force`, and every block calls its helper.

The helpers (`reconcileResourceGroup`, `reconcileVNet`, ...) are not among the sources:
a `ReconcileAPI` says what each returns on the cluster it is given, and
`ReconcileAPI.Persists` is what the spec asks of them. On success the cluster returned
has the step's own field set and the rest of its Azure spec as it was. The spec has the
helper persist the name "immediately after it is confirmed to exist remotely", through an
update that stores nothing when it fails, so a helper that fails has stored nothing: the
cluster the seed stores (`InitState.stored`) is the one the last successful helper
returned.

What the spec calls incremental persistence, and what it is for – a run that stops is
resumed by the next one where it stopped, and nothing is created twice – is proved here:

* `initializeCloudProvider_eq`: a run is the chain of helper calls of the steps pending on
  the spec it starts from (`pendingSteps`), in order, each on the cluster the one before
  returned, until one fails. A step's field is empty when the run reaches it exactly when
  it was empty at the start, since every helper writes its own field only;
* `initializeRuns` runs one after another, each on the cluster the one before left
  stored. Once a helper has succeeded it is never called again (`Resumable`), and a run
  on the cluster a successful run returned calls no helper
  (`initializeCloudProvider_settled`).
-/

namespace Kubermatic.Azure

/-! ## The code -/

/-- The steps of `reconcileCluster`. -/
inductive ReconcileStep
  | resourceGroup | vnet | subnet | routeTable | securityGroup | availabilitySet
  deriving DecidableEq, Repr

namespace ReconcileStep

/-- The spec field naming the step's resource, which its block reads. -/
def field : ReconcileStep → AzureCloudSpec → String
  | resourceGroup, a => a.resourceGroup
  | vnet, a => a.vnetName
  | subnet, a => a.subnetName
  | routeTable, a => a.routeTableName
  | securityGroup, a => a.securityGroup
  | availabilitySet, a => a.availabilitySet

/-- The spec with the step's field set to a name. -/
def setField : ReconcileStep → AzureCloudSpec → String → AzureCloudSpec
  | resourceGroup, a, v => { a with resourceGroup := v }
  | vnet, a, v => { a with vnetName := v }
  | subnet, a, v => { a with subnetName := v }
  | routeTable, a, v => { a with routeTableName := v }
  | securityGroup, a, v => { a with securityGroup := v }
  | availabilitySet, a, v => { a with availabilitySet := v }

@[simp] theorem field_setField (s : ReconcileStep) (a : AzureCloudSpec) (v : String) :
    s.field (s.setField a v) = v := by
  cases s <;> rfl

theorem field_setField_of_ne {s t : ReconcileStep} (h : t ≠ s) (a : AzureCloudSpec)
    (v : String) : t.field (s.setField a v) = t.field a := by
  cases s <;> cases t <;> first | rfl | exact absurd rfl h

@[simp] theorem setField_assignAvailabilitySet (s : ReconcileStep) (a : AzureCloudSpec)
    (v : String) : (s.setField a v).assignAvailabilitySet = a.assignAvailabilitySet := by
  cases s <;> rfl

end ReconcileStep

/-- `AssignAvailabilitySet == nil || *AssignAvailabilitySet`. -/
def assignsAvailabilitySet (a : AzureCloudSpec) : Bool :=
  a.assignAvailabilitySet.isNone || a.assignAvailabilitySet == some true

/-- What the calls of `reconcileCluster` return. -/
structure ReconcileAPI where
  /-- `GetCredentialsForCluster`. -/
  credentials : Except String Unit
  /-- `GetClientSet`. -/
  clientSet : Except String Unit
  /-- `reconcileResourceGroup`, `reconcileVNet`, ...: what the step's helper returns on the
  cluster it is given. -/
  reconcile : ReconcileStep → Cluster → Except String Cluster

/-- A helper call: the step, the cluster the helper was given, and what it returned. -/
structure HelperCall where
  step : ReconcileStep
  cluster : Cluster
  result : Except String Cluster

/-- What runs of `reconcileCluster` leave: the cluster the seed stores, and the helper
calls made, oldest first. -/
structure InitState where
  stored : Cluster
  calls : List HelperCall

/-- `reconcileCluster` on the seed's state. A `return` from the middle of the function is
an exception carrying the error it returns, or the panic. -/
abbrev InitM := ExceptT (GoResult String) (StateM InitState)

section Code

variable (api : ReconcileAPI)

/-- `GetCredentialsForCluster`, then `GetClientSet`: an error is returned as it is. -/
def getClients : InitM Unit :=
  match api.credentials >>= fun () => api.clientSet with
  | .error e => throw (.returned e)
  | .ok () => pure ()

/-- A block's call of its helper, `cluster, err = reconcile...(ctx, clientSet, location,
cluster, update)`. The call is recorded; the cluster a success returns has been stored
and is the block's result; an error is returned at once. -/
def callHelper (cluster : Cluster) (step : ReconcileStep) : InitM Cluster :=
  match api.reconcile step cluster with
  | .ok c => do
    modify fun st => ⟨c, st.calls ++ [⟨step, cluster, .ok c⟩]⟩
    pure c
  | .error e => do
    modify fun st => { st with calls := st.calls ++ [⟨step, cluster, .error e⟩] }
    throw (.returned e)

/-- One block of `reconcileCluster` on the function's `cluster` variable:
`if force || cluster.Spec.Cloud.Azure.<field> == ""` the helper is called; the
availability set's block asks `AssignAvailabilitySet` as well. -/
def reconcileBlock (force : Bool) (cluster : Cluster) (step : ReconcileStep) :
    InitM Cluster :=
  match cluster.spec.cloud.azure with
  | none => throw .nilDereference
  | some azure =>
    if force || step.field azure == "" then
      match step with
      | .availabilitySet =>
        if assignsAvailabilitySet azure then callHelper api cluster .availabilitySet
        else pure cluster
      | _ => callHelper api cluster step
    else pure cluster

/-- The steps in the order of their blocks. -/
def reconcileOrder : List ReconcileStep :=
  [.resourceGroup, .vnet, .subnet, .routeTable, .securityGroup, .availabilitySet]

/-- **`Azure.reconcileCluster`**. Its `setTags` parameter is not read and is left out. -/
def reconcileCluster (force : Bool) (cluster : Cluster) : InitM Cluster := do
  getClients api
  reconcileOrder.foldlM (reconcileBlock api force) cluster

/-- `Azure.InitializeCloudProvider`. -/
def initializeCloudProvider (cluster : Cluster) : InitM Cluster :=
  reconcileCluster api false cluster

/-- `Azure.ReconcileCluster`, capitalised as in Go to keep it apart from
`reconcileCluster`. -/
def ReconcileCluster (cluster : Cluster) : InitM Cluster :=
  reconcileCluster api true cluster

/-- A run of `InitializeCloudProvider` on the cluster the seed stores. -/
def initializeRun (st : InitState) : Except (GoResult String) Cluster × InitState :=
  (initializeCloudProvider api st.stored).run.run st

end Code

theorem mem_reconcileOrder (s : ReconcileStep) : s ∈ reconcileOrder := by
  cases s <;> decide

/-- Runs of `InitializeCloudProvider` one after another, each on the cluster the one
before left stored, and each with its own answers of Azure: a run may fail at any step. -/
def initializeRuns : List ReconcileAPI → InitState → InitState
  | [], st => st
  | api :: apis, st => initializeRuns apis (initializeRun api st).2

/-! ## What the helpers do -/

/-- What the spec asks of the helpers: on success, the cluster returned has the step's
field set to a name and the rest of its Azure spec as it was. -/
def ReconcileAPI.Persists (api : ReconcileAPI) : Prop :=
  ∀ step c c' a, api.reconcile step c = .ok c' → c.spec.cloud.azure = some a →
    ∃ v, v ≠ "" ∧ c'.spec.cloud.azure = some (step.setField a v)

/-- Whether a run without `force` calls the step's helper on a cluster with this spec:
the block's condition, and for the availability set its second one. -/
def ReconcileStep.due (a : AzureCloudSpec) (s : ReconcileStep) : Bool :=
  s.field a == "" && (s != .availabilitySet || assignsAvailabilitySet a)

/-- The steps whose helpers a run without `force` calls, read on the spec it starts from. -/
def pendingSteps (a : AzureCloudSpec) : List ReconcileStep :=
  reconcileOrder.filter (·.due a)

theorem ReconcileStep.field_of_due {s : ReconcileStep} {a : AzureCloudSpec}
    (h : s.due a = true) : s.field a = "" := by
  simp_all [due]

theorem ReconcileStep.due_eq_false_of_field_ne {s : ReconcileStep} {a : AzureCloudSpec}
    (h : s.field a ≠ "") : s.due a = false := by
  simp [due, h]

theorem ReconcileStep.due_setField_of_ne {s t : ReconcileStep} (h : t ≠ s) (a : AzureCloudSpec)
    (v : String) : t.due (s.setField a v) = t.due a := by
  simp only [due, field_setField_of_ne h, assignsAvailabilitySet, setField_assignAvailabilitySet]

/-- The spec `a'` keeps what `a` has: every name `a` sets, and `AssignAvailabilitySet`. -/
structure Keeps (a a' : AzureCloudSpec) : Prop where
  field_ne : ∀ t : ReconcileStep, t.field a ≠ "" → t.field a' ≠ ""
  assign_eq : a'.assignAvailabilitySet = a.assignAvailabilitySet

namespace Keeps

theorem refl (a : AzureCloudSpec) : Keeps a a := ⟨fun _ h => h, rfl⟩

theorem trans {a a' a'' : AzureCloudSpec} (h : Keeps a a') (h' : Keeps a' a'') : Keeps a a'' :=
  ⟨fun t ht => h'.field_ne t (h.field_ne t ht), h'.assign_eq.trans h.assign_eq⟩

/-- A helper's write keeps the spec. -/
theorem setField (s : ReconcileStep) (a : AzureCloudSpec) {v : String} (hv : v ≠ "") :
    Keeps a (s.setField a v) := by
  refine ⟨fun t ht => ?_, by simp⟩
  by_cases hts : t = s
  · subst hts; simpa using hv
  · rwa [ReconcileStep.field_setField_of_ne hts]

theorem assigns_eq {a a' : AzureCloudSpec} (h : Keeps a a') :
    assignsAvailabilitySet a' = assignsAvailabilitySet a := by
  simp only [assignsAvailabilitySet, h.assign_eq]

/-- A step that is not due stays so. -/
theorem due_eq_false {a a' : AzureCloudSpec} (h : Keeps a a') {t : ReconcileStep}
    (ht : t.due a = false) : t.due a' = false := by
  simp only [ReconcileStep.due, h.assigns_eq, Bool.and_eq_false_iff] at ht ⊢
  exact ht.imp_left fun hf => by simpa using h.field_ne t (by simpa using hf)

end Keeps

/-! ## A run is a chain of helper calls -/

/-- How a chain of helper calls ends: the calls made, the cluster the last success
returned, which the seed stores, and what the chain returns. -/
structure HelperRun where
  calls : List HelperCall
  stored : Cluster
  result : Except String Cluster

/-- **The abstract run**: the helpers of the steps are called one after the other, each on
the cluster the one before returned, until one fails. -/
def callHelpers (api : ReconcileAPI) : List ReconcileStep → Cluster → HelperRun
  | [], c => ⟨[], c, .ok c⟩
  | s :: steps, c =>
    match api.reconcile s c with
    | .error e => ⟨[⟨s, c, .error e⟩], c, .error e⟩
    | .ok c' => let r := callHelpers api steps c'; { r with calls := ⟨s, c, .ok c'⟩ :: r.calls }

/-! ### Run lemmas -/

@[simp] theorem initM_pure_run (a : α) (st : InitState) :
    (pure a : InitM α).run.run st = (.ok a, st) := rfl

@[simp] theorem initM_throw_run (g : GoResult String) (st : InitState) :
    (throw g : InitM α).run.run st = (.error g, st) := rfl

@[simp] theorem initM_modify_bind_run (f : InitState → InitState) (k : PUnit → InitM α)
    (st : InitState) : (modify f >>= k : InitM α).run.run st = (k ⟨⟩).run.run (f st) := rfl

section Runs

variable {api : ReconcileAPI}

/-- What follows a helper call only sees a cluster the helper returned. -/
theorem callHelper_bind_congr {c : Cluster} {s : ReconcileStep} {k k' : Cluster → InitM β}
    (h : ∀ c', api.reconcile s c = .ok c' → k c' = k' c') :
    callHelper api c s >>= k = callHelper api c s >>= k' := by
  unfold callHelper
  split
  · rename_i c' hc'
    simp only [bind_assoc, pure_bind, h c' hc']
  · rfl

/-- **The chain of helper calls, run**: the state records the calls of `callHelpers`, and
stores the cluster its last success returned. -/
theorem foldlM_callHelper_run (steps : List ReconcileStep) (c : Cluster)
    (calls : List HelperCall) :
    (steps.foldlM (callHelper api) c).run.run ⟨c, calls⟩ =
      ((callHelpers api steps c).result.mapError .returned,
        ⟨(callHelpers api steps c).stored, calls ++ (callHelpers api steps c).calls⟩) := by
  induction steps generalizing c calls with
  | nil => simp [callHelpers, Except.mapError]
  | cons s steps ih =>
    rw [List.foldlM_cons]
    cases hr : api.reconcile s c with
    | error e =>
      simp only [callHelper, callHelpers, hr, bind_assoc, initM_modify_bind_run]
      rfl
    | ok c' =>
      simp only [callHelper, callHelpers, hr, bind_assoc, initM_modify_bind_run, pure_bind, ih,
        List.append_assoc, List.singleton_append]

/-- Without `force`, a block on a cluster with an Azure spec calls its helper exactly when
its step is due. -/
theorem reconcileBlock_false {c : Cluster} {a : AzureCloudSpec} (h : c.spec.cloud.azure = some a)
    (s : ReconcileStep) :
    reconcileBlock api false c s = if s.due a then callHelper api c s else pure c := by
  by_cases hf : s.field a = "" <;> cases s <;> simp [reconcileBlock, h, ReconcileStep.due, hf]

/-- **The blocks are the chain of the steps due at the start.** A helper writes its own
field only, so a step is due when the blocks reach it exactly when it was due on the spec
the blocks started from. -/
theorem foldlM_reconcileBlock (hp : api.Persists) (a : AzureCloudSpec) :
    ∀ (steps : List ReconcileStep) (c : Cluster) (a' : AzureCloudSpec), steps.Nodup →
      c.spec.cloud.azure = some a' → (∀ t ∈ steps, t.due a' = t.due a) →
      steps.foldlM (reconcileBlock api false) c =
        (steps.filter (·.due a)).foldlM (callHelper api) c
  | [], _, _, _, _, _ => rfl
  | s :: steps, c, a', hnd, hc, hdue => by
    obtain ⟨hs, hnd⟩ := List.nodup_cons.mp hnd
    have hrest : ∀ t ∈ steps, t.due a' = t.due a := fun t ht =>
      hdue t (List.mem_cons_of_mem _ ht)
    rw [List.foldlM_cons, reconcileBlock_false hc, hdue s (List.mem_cons_self _ _),
      List.filter_cons]
    by_cases hsd : s.due a
    · simp only [hsd, if_true, List.foldlM_cons]
      refine callHelper_bind_congr fun c' hc' => ?_
      obtain ⟨v, -, hc'⟩ := hp s c c' a' hc' hc
      exact foldlM_reconcileBlock hp a steps c' _ hnd hc' fun t ht =>
        (ReconcileStep.due_setField_of_ne (ne_of_mem_of_not_mem ht hs) a' v).trans (hrest t ht)
    · simp only [hsd, Bool.false_eq_true, if_false, pure_bind]
      exact foldlM_reconcileBlock hp a steps c a' hnd hc hrest

/-- **A run of `InitializeCloudProvider` is the chain of its pending steps**: it sets up
the clients, then calls the helpers of the steps due on the spec it starts from, in order,
each on the cluster the one before returned, until one fails. -/
theorem initializeCloudProvider_eq (hp : api.Persists) {c : Cluster} {a : AzureCloudSpec}
    (ha : c.spec.cloud.azure = some a) :
    initializeCloudProvider api c =
      (do getClients api; (pendingSteps a).foldlM (callHelper api) c) := by
  rw [initializeCloudProvider, reconcileCluster, pendingSteps,
    foldlM_reconcileBlock hp a reconcileOrder c a (by decide) ha fun _ _ => rfl]

/-! ### What a chain does -/

/-- The steps a chain calls are, in order, steps of its list. -/
theorem callHelpers_steps_sublist (steps : List ReconcileStep) (c : Cluster) :
    ((callHelpers api steps c).calls.map (·.step)).Sublist steps := by
  induction steps generalizing c with
  | nil => simp [callHelpers]
  | cons s steps ih =>
    cases hr : api.reconcile s c with
    | error e => simp [callHelpers, hr]
    | ok c' => simpa [callHelpers, hr] using (ih c').cons₂ s

/-- **What a chain leaves stored**, of helpers that do what the spec asks: the Azure spec
it started from, kept, with the field of every helper that succeeded set. -/
theorem callHelpers_stored (hp : api.Persists) (steps : List ReconcileStep) :
    ∀ (c : Cluster) (a : AzureCloudSpec), c.spec.cloud.azure = some a →
      ∃ a', (callHelpers api steps c).stored.spec.cloud.azure = some a' ∧ Keeps a a' ∧
        ∀ call ∈ (callHelpers api steps c).calls, call.result.isOk → call.step.field a' ≠ "" := by
  induction steps with
  | nil => exact fun c a ha => ⟨a, ha, .refl a, by simp [callHelpers]⟩
  | cons s steps ih =>
    intro c a ha
    cases hr : api.reconcile s c with
    | error e =>
      exact ⟨a, by simpa [callHelpers, hr] using ha, .refl a,
        by simp [callHelpers, hr, Except.isOk, Except.toBool]⟩
    | ok c' =>
      obtain ⟨v, hv, hc'⟩ := hp s c c' a hr ha
      obtain ⟨a', ha', hkeep, hcalls⟩ := ih c' _ hc'
      refine ⟨a', by simpa [callHelpers, hr] using ha', (Keeps.setField s a hv).trans hkeep, ?_⟩
      simp only [callHelpers, hr, List.mem_cons, forall_eq_or_imp]
      exact ⟨fun _ => hkeep.field_ne s (by simpa using hv), hcalls⟩

/-- A chain that returns a cluster called the helper of every step of its list, each
successfully, and returns the cluster it stored. -/
theorem callHelpers_ok {steps : List ReconcileStep} {c c' : Cluster}
    (h : (callHelpers api steps c).result = .ok c') :
    (callHelpers api steps c).calls.map (·.step) = steps ∧
      (∀ call ∈ (callHelpers api steps c).calls, call.result.isOk) ∧
      c' = (callHelpers api steps c).stored := by
  induction steps generalizing c with
  | nil => simp_all [callHelpers]
  | cons s steps ih =>
    cases hr : api.reconcile s c with
    | error e => simp [callHelpers, hr] at h
    | ok c₁ =>
      simp only [callHelpers, hr] at h ⊢
      obtain ⟨hsteps, hok, hstored⟩ := ih h
      exact ⟨by simp [hsteps], by simpa [Except.isOk, Except.toBool] using hok, hstored⟩

/-- Blocks on a cluster on which no step is due call nothing, whatever Azure answers. -/
theorem foldlM_reconcileBlock_of_settled {c : Cluster} {a : AzureCloudSpec}
    (hc : c.spec.cloud.azure = some a) (h : ∀ t : ReconcileStep, t.due a = false)
    (steps : List ReconcileStep) : steps.foldlM (reconcileBlock api false) c = pure c := by
  induction steps with
  | nil => rfl
  | cons s steps ih =>
    rw [List.foldlM_cons, reconcileBlock_false hc, h s]
    simpa using ih

/-! ### Runs on the stored cluster -/

/-- **A run of `InitializeCloudProvider` on the stored cluster**: a failing client set-up
changes nothing; otherwise the calls of the chain of the pending steps are recorded, and
the cluster its last success returned is stored. -/
theorem initializeRun_eq (hp : api.Persists) {st : InitState} {a : AzureCloudSpec}
    (ha : st.stored.spec.cloud.azure = some a) :
    initializeRun api st =
      match api.credentials >>= fun () => api.clientSet with
      | .error e => (.error (.returned e), st)
      | .ok () =>
        ((callHelpers api (pendingSteps a) st.stored).result.mapError .returned,
          ⟨(callHelpers api (pendingSteps a) st.stored).stored,
            st.calls ++ (callHelpers api (pendingSteps a) st.stored).calls⟩) := by
  obtain ⟨S, calls⟩ := st
  rw [initializeRun, initializeCloudProvider_eq hp ha, getClients]
  split
  · rfl
  · rw [pure_bind]
    exact foldlM_callHelper_run _ S calls

/-- **What runs leave between them**: the stored cluster has an Azure spec, in which the
field of every helper that succeeded is set, and no helper was called again after it had
succeeded. -/
structure Resumable (st : InitState) : Prop where
  azure : ∃ a, st.stored.spec.cloud.azure = some a ∧
    ∀ call ∈ st.calls, call.result.isOk → call.step.field a ≠ ""
  pairwise : st.calls.Pairwise fun earlier later => earlier.result.isOk → later.step ≠ earlier.step

/-- A run keeps `Resumable`. The helpers it calls have their field empty on the stored
spec, so none of them had succeeded, and it calls each at most once. -/
theorem resumable_initializeRun (hp : api.Persists) {st : InitState} (h : Resumable st) :
    Resumable (initializeRun api st).2 := by
  obtain ⟨⟨a, ha, hfields⟩, hpair⟩ := h
  rw [initializeRun_eq hp ha]
  split
  · exact ⟨⟨a, ha, hfields⟩, hpair⟩
  · obtain ⟨a', ha', hkeep, hnew⟩ := callHelpers_stored hp (pendingSteps a) st.stored a ha
    have hsub := @callHelpers_steps_sublist api (pendingSteps a) st.stored
    refine ⟨⟨a', ha', fun call hcall hok => ?_⟩, List.pairwise_append.mpr ⟨hpair, ?_, ?_⟩⟩
    · rcases List.mem_append.mp hcall with hold | hcall
      · exact hkeep.field_ne _ (hfields call hold hok)
      · exact hnew call hcall hok
    · have hnd := hsub.nodup ((by decide : reconcileOrder.Nodup).filter _)
      refine (List.pairwise_map.mp hnd).imp ?_
      exact fun hne _ => Ne.symm hne
    · intro x hx y hy hok heq
      have hdue := (List.mem_filter.mp (hsub.subset (List.mem_map_of_mem _ hy))).2
      exact hfields x hx hok (heq ▸ ReconcileStep.field_of_due hdue)

theorem resumable_initializeRuns : ∀ {apis : List ReconcileAPI} {st : InitState},
    (∀ api ∈ apis, api.Persists) → Resumable st → Resumable (initializeRuns apis st)
  | [], _, _, h => h
  | api :: apis, _, hapis, h =>
    @resumable_initializeRuns apis _ (fun a ha => hapis a (List.mem_cons_of_mem _ ha))
      (resumable_initializeRun (hapis api (List.mem_cons_self _ _)) h)

/-- **A successful run leaves nothing to do**: the cluster it returned has an Azure spec on
which no step is due. -/
theorem initializeRun_ok_done (hp : api.Persists) {st : InitState} {a : AzureCloudSpec}
    (ha : st.stored.spec.cloud.azure = some a) {c' : Cluster}
    (h : (initializeRun api st).1 = .ok c') :
    ∃ a', c'.spec.cloud.azure = some a' ∧ ∀ t : ReconcileStep, t.due a' = false := by
  rw [initializeRun_eq hp ha] at h
  split at h
  · cases h
  · have hres : (callHelpers api (pendingSteps a) st.stored).result = .ok c' := by
      revert h
      cases (callHelpers api (pendingSteps a) st.stored).result <;> simp [Except.mapError]
    obtain ⟨hsteps, hok, rfl⟩ := callHelpers_ok hres
    obtain ⟨a', ha', hkeep, hfields⟩ := callHelpers_stored hp (pendingSteps a) st.stored a ha
    refine ⟨a', ha', fun t => ?_⟩
    by_cases ht : t.due a
    · have hmem : t ∈ (callHelpers api (pendingSteps a) st.stored).calls.map (·.step) := by
        rw [hsteps]
        exact List.mem_filter.mpr ⟨mem_reconcileOrder t, ht⟩
      obtain ⟨call, hcall, rfl⟩ := List.mem_map.mp hmem
      exact ReconcileStep.due_eq_false_of_field_ne (hfields call hcall (hok call hcall))
    · exact hkeep.due_eq_false (by simpa using ht)

/-- **A run on the cluster a successful run returned calls no helper**, whatever Azure
answers it: on that cluster every step is done, or not to be done. -/
theorem initializeCloudProvider_settled (hp : api.Persists) {st : InitState}
    {a : AzureCloudSpec} (ha : st.stored.spec.cloud.azure = some a) {c' : Cluster}
    (h : (initializeRun api st).1 = .ok c') (api' : ReconcileAPI) (st' : InitState) :
    ((initializeCloudProvider api' c').run.run st').2.calls = st'.calls := by
  obtain ⟨a', ha', hnone⟩ := initializeRun_ok_done hp ha h
  rw [initializeCloudProvider, reconcileCluster, foldlM_reconcileBlock_of_settled ha' hnone,
    getClients]
  split <;> rfl

/-- **Incremental persistence.** Of helpers that do what the spec asks, and whatever else
Azure answers in each run: a run calls the helpers of the steps pending at its start, in
order, each on the cluster the one before returned, until one fails; over runs one after
another, each on what the one before left stored, no helper is called again once it has
succeeded; and a run on the cluster a successful run returned calls no helper. -/
theorem initializeCloudProvider_resumes (apis : List ReconcileAPI)
    (hapis : ∀ api ∈ apis, api.Persists) (c : Cluster) (a : AzureCloudSpec)
    (ha : c.spec.cloud.azure = some a) :
    (∀ api ∈ apis, ∀ (c₀ : Cluster) (a₀ : AzureCloudSpec), c₀.spec.cloud.azure = some a₀ →
      initializeCloudProvider api c₀ =
        (do getClients api; (pendingSteps a₀).foldlM (callHelper api) c₀)) ∧
    (initializeRuns apis ⟨c, []⟩).calls.Pairwise
      (fun earlier later => earlier.result.isOk → later.step ≠ earlier.step) ∧
    ∀ api ∈ apis, ∀ (st : InitState) (a₀ : AzureCloudSpec) (c' : Cluster),
      st.stored.spec.cloud.azure = some a₀ → (initializeRun api st).1 = .ok c' →
      ∀ (api' : ReconcileAPI) (st' : InitState),
        ((initializeCloudProvider api' c').run.run st').2.calls = st'.calls :=
  ⟨fun api hapi _ _ ha₀ => initializeCloudProvider_eq (hapis api hapi) ha₀,
    (resumable_initializeRuns hapis ⟨⟨a, ha, by simp⟩, List.Pairwise.nil⟩).pairwise,
    fun api hapi _ _ _ ha₀ h => initializeCloudProvider_settled (hapis api hapi) ha₀ h⟩

end Runs

/-- Helpers that name each resource after the cluster, and fail on the steps listed. -/
def namingAPI (failing : List ReconcileStep) : ReconcileAPI where
  credentials := .ok ()
  clientSet := .ok ()
  reconcile step c :=
    if step ∈ failing then .error "context deadline exceeded"
    else .ok { c with spec := { c.spec with cloud := { c.spec.cloud with
      azure := c.spec.cloud.azure.map (step.setField · ("kubernetes-" ++ c.name)) } } }

theorem namingAPI_persists (failing : List ReconcileStep) : (namingAPI failing).Persists := by
  intro step c c' a h ha
  simp only [namingAPI] at h
  split at h
  · cases h
  · cases h
    have hlen : "kubernetes-".length ≠ 0 := by decide
    refine ⟨"kubernetes-" ++ c.name, fun h => hlen ?_, by simp [ha]⟩
    have hzero := congrArg String.length h
    simp only [String.length_append, String.length_empty, Nat.add_eq_zero] at hzero
    exact hzero.1

/-- A cluster whose resource group and security group are given. -/
def resumingCluster : Cluster where
  name := "c"
  spec.cloud.azure := some { resourceGroup := "rg", securityGroup := "sg" }

/-- Two runs on `resumingCluster`: the first fails at the subnet, the second resumes
there. -/
theorem initializeCloudProvider_resumes_twice :
    (initializeRuns [namingAPI [.subnet], namingAPI []] ⟨resumingCluster, []⟩).calls.Pairwise
      (fun earlier later => earlier.result.isOk → later.step ≠ earlier.step) :=
  (initializeCloudProvider_resumes _
    (by simp only [List.mem_cons, List.not_mem_nil, or_false]
        rintro _ (rfl | rfl) <;> exact namingAPI_persists _)
    resumingCluster _ rfl).2.1

example : (initializeRuns [namingAPI [.subnet], namingAPI []] ⟨resumingCluster, []⟩).calls.map
    (·.step) = [.vnet, .subnet, .subnet, .routeTable, .availabilitySet] := rfl

end Kubermatic.Azure
