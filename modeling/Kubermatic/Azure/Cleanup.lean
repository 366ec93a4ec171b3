import Mathlib.Data.List.Nodup
import Kubermatic.Azure.Provider

/-!
# Cleaning up a cluster's Azure resources

`Azure.CleanUpCloudProvider` runs while a cluster is deleted. It has one block per Azure
resource the provider may have created, in a fixed order – security group, route table,
subnet, virtual network, availability set, resource group – and a block runs only when
its finalizer is on the cluster. It deletes the resource, accepts a 404 as "already
gone", and only then removes the finalizer through the `ClusterUpdater`, whose result
becomes the cluster the next block reads. A delete failing otherwise, or a failing
update, returns at once.

The six blocks differ only in their finalizer, the noun of their error message and the
spec field naming the resource, so they are one function, `cleanupResource`, applied to
the entries of `cleanupOrder`. The delete calls and the client set-up are not among the
sources; a `CleanupAPI` says what each returns, so a result over every `CleanupAPI` and
every `ClusterUpdater` is over every behaviour of Azure and of the seed.

The main result, `cleanUpCloudProvider_removes_in_order`, says what a call leaves on the
stored cluster: the finalizers of a prefix of the blocks that run, each removed after
its delete succeeded or found nothing, and, when the prefix is not all of them, an
error for the first block that stopped.
-/

namespace Kubermatic.Azure

/-! ## The code -/

/-- The resources `CleanUpCloudProvider` deletes. -/
inductive AzureResource
  | securityGroup | routeTable | subnet | vnet | availabilitySet | resourceGroup
  deriving DecidableEq, Repr

namespace AzureResource

/-- The finalizer of the resource's block. -/
def finalizer : AzureResource → String
  | securityGroup => FinalizerSecurityGroup
  | routeTable => FinalizerRouteTable
  | subnet => FinalizerSubnet
  | vnet => FinalizerVNet
  | availabilitySet => FinalizerAvailabilitySet
  | resourceGroup => FinalizerResourceGroup

/-- The noun of the block's error message. -/
def description : AzureResource → String
  | securityGroup => "security group"
  | routeTable => "route table"
  | subnet => "sub-network"
  | vnet => "virtual network"
  | availabilitySet => "availability set"
  | resourceGroup => "resource group"

/-- The spec field naming the resource, which the block logs and quotes. -/
def name (azure : AzureCloudSpec) : AzureResource → String
  | securityGroup => azure.securityGroup
  | routeTable => azure.routeTableName
  | subnet => azure.subnetName
  | vnet => azure.vnetName
  | availabilitySet => azure.availabilitySet
  | resourceGroup => azure.resourceGroup

end AzureResource

/-- The blocks of `CleanUpCloudProvider`, in their order. -/
def cleanupOrder : List AzureResource :=
  [.securityGroup, .routeTable, .subnet, .vnet, .availabilitySet, .resourceGroup]

/-- The error of a delete call; `statusCode` is that of the `autorest.DetailedError` it
wraps, if it wraps one. -/
structure DeleteError where
  statusCode : Option Nat
  msg : String
  deriving DecidableEq, Repr

/-- `!errors.As(err, &detErr) || detErr.StatusCode != http.StatusNotFound`: the error
stops the cleanup. -/
def DeleteError.isFatal (e : DeleteError) : Bool :=
  e.statusCode != some 404

/-- What the Azure calls of `CleanUpCloudProvider` return. -/
structure CleanupAPI where
  /-- `GetCredentialsForCluster`. -/
  credentials : Except String Unit
  /-- `GetClientSet`. -/
  clientSet : Except String Unit
  /-- `deleteSecurityGroup`, `deleteRouteTable`, ...: the error of the delete call of a
  resource, on the cluster's cloud spec. -/
  delete : AzureResource → CloudSpec → Option DeleteError

/-- What `CleanUpCloudProvider` returns: a cluster and an error. -/
abbrev CleanupReturn := Option Cluster × Option String

/-- The blocks run with the stored cluster as state; a `return` from the middle of the
function is an exception carrying what it returns. -/
abbrev CleanupM := ExceptT (GoResult CleanupReturn) (StateM Cluster)

section Code

variable (api : CleanupAPI) (update : ClusterUpdater)

/-- The end of a block: the update removing the resource's finalizer from the stored
cluster, whose result becomes the function's `cluster`. -/
def removeResourceFinalizer (r : AzureResource) : CleanupM Cluster := do
  let stored ← get
  match update.update (·.removeFinalizers [r.finalizer]) stored with
  | .ok c => set c; return c
  | .error e => throw (.returned (none, some e))

/-- One block of `CleanUpCloudProvider`, on the function's `cluster` variable. -/
def cleanupResource (cluster : Cluster) (r : AzureResource) : CleanupM Cluster := do
  if !hasFinalizer cluster.finalizers r.finalizer then return cluster
  let some azure := cluster.spec.cloud.azure | throw .nilDereference
  if let some e := api.delete r cluster.spec.cloud then
    if e.isFatal then
      throw (.returned (some cluster, some ("failed to delete " ++ r.description ++ " " ++
        goQuote (r.name azure) ++ ": " ++ e.msg)))
  removeResourceFinalizer update r

/-- **`Azure.CleanUpCloudProvider`**. -/
def cleanUpCloudProvider (cluster : Cluster) : CleanupM CleanupReturn := do
  match api.credentials with
  | .error e => return (none, some e)
  | .ok () =>
  match api.clientSet with
  | .error e => return (none, some e)
  | .ok () =>
  let cluster ← cleanupOrder.foldlM (cleanupResource api update) cluster
  return (some cluster, none)

/-- A call on the stored cluster: what it returns, or its panic, and the stored cluster
after it. -/
def runCleanUp (cluster : Cluster) : GoResult CleanupReturn × Cluster :=
  match (cleanUpCloudProvider api update cluster).run.run cluster with
  | (.ok v, stored) => (.returned v, stored)
  | (.error g, stored) => (g, stored)

end Code

/-! ## One block -/

section Blocks

variable (api : CleanupAPI) (update : ClusterUpdater)

/-- The delete of `r` succeeded, or found the resource gone. -/
def DeleteTolerated (r : AzureResource) (cloud : CloudSpec) : Prop :=
  ∀ e, api.delete r cloud = some e → e.statusCode = some 404

/-- The block of `r` stops on the stored cluster `S`: its delete fails other than with a
404, or the update removing its finalizer fails. -/
def Stops (r : AzureResource) (S : Cluster) : Prop :=
  (∃ e, api.delete r S.spec.cloud = some e ∧ e.isFatal = true) ∨
  ∃ e, update.update (·.removeFinalizers [r.finalizer]) S = .error e

@[simp] theorem cleanupM_get_bind_run (f : Cluster → CleanupM α) (s : Cluster) :
    ((get : CleanupM Cluster) >>= f).run.run s = (f s).run.run s := rfl

@[simp] theorem cleanupM_set_map_run (c : Cluster) (b : β) (s : Cluster) :
    ((fun _ => b) <$> (set c : CleanupM PUnit)).run.run s = (.ok b, c) := rfl

@[simp] theorem cleanupM_throw_run (g : GoResult CleanupReturn) (s : Cluster) :
    (throw g : CleanupM α).run.run s = (.error g, s) := rfl

@[simp] theorem cleanupM_pure_run (a : α) (s : Cluster) :
    (pure a : CleanupM α).run.run s = (.ok a, s) := rfl

theorem cleanupM_run_bind_of_ok {m : CleanupM α} {f : α → CleanupM β} {s s₁ : Cluster} {a : α}
    (h : m.run.run s = (.ok a, s₁)) : (m >>= f).run.run s = (f a).run.run s₁ := by
  simp only [ExceptT.run_bind, StateT.run_bind, h]
  rfl

theorem cleanupM_run_bind_of_error {m : CleanupM α} {f : α → CleanupM β} {s s₁ : Cluster}
    {g : GoResult CleanupReturn} (h : m.run.run s = (.error g, s₁)) :
    (m >>= f).run.run s = (.error g, s₁) := by
  simp only [ExceptT.run_bind, StateT.run_bind, h]
  rfl

/-- A block whose finalizer is gone does nothing. -/
theorem cleanupResource_run_of_not_mem {S : Cluster} {r : AzureResource}
    (h : r.finalizer ∉ S.finalizers) :
    (cleanupResource api update S r).run.run S = (.ok S, S) := by
  have hnot : (!hasFinalizer S.finalizers r.finalizer) = true := by simpa using h
  simp only [cleanupResource, hnot, if_true, cleanupM_pure_run]

@[simp] theorem cleanupM_set_bind_run (c : Cluster) (f : PUnit → CleanupM α) (s : Cluster) :
    ((set c : CleanupM PUnit) >>= f).run.run s = (f ⟨⟩).run.run c := rfl

/-- The update at the end of a block fails and stores nothing, or stores the cluster
without the finalizer and returns it. -/
theorem removeResourceFinalizer_run (S : Cluster) (r : AzureResource) :
    (∃ e, update.update (·.removeFinalizers [r.finalizer]) S = .error e ∧
      (removeResourceFinalizer update r).run.run S = (.error (.returned (none, some e)), S)) ∨
    (removeResourceFinalizer update r).run.run S =
      (.ok (S.removeFinalizers [r.finalizer]), S.removeFinalizers [r.finalizer]) := by
  rcases hup : update.update (·.removeFinalizers [r.finalizer]) S with e | c
  · exact .inl ⟨e, rfl, by simp only [removeResourceFinalizer, cleanupM_get_bind_run, hup,
      cleanupM_throw_run]⟩
  · refine .inr ?_
    simp only [removeResourceFinalizer, cleanupM_get_bind_run, hup, cleanupM_set_bind_run,
      cleanupM_pure_run, update.update_ok hup]

/-- **A block whose finalizer is there**, run on the stored cluster: it stops with an
error and stores nothing, or it removes its finalizer after a tolerated delete and goes
on with the stored result. -/
theorem cleanupResource_run_of_mem {S : Cluster} {r : AzureResource}
    (hazure : S.spec.cloud.azure.isSome) (h : r.finalizer ∈ S.finalizers) :
    (Stops api update r S ∧ ∃ c msg,
      (cleanupResource api update S r).run.run S = (.error (.returned (c, some msg)), S)) ∨
    (DeleteTolerated api r S.spec.cloud ∧
      (cleanupResource api update S r).run.run S =
        (.ok (S.removeFinalizers [r.finalizer]), S.removeFinalizers [r.finalizer])) := by
  obtain ⟨azure, hazure⟩ := Option.isSome_iff_exists.mp hazure
  have hmem : (!hasFinalizer S.finalizers r.finalizer) = false := by simpa using h
  by_cases hfatal : ∃ e, api.delete r S.spec.cloud = some e ∧ e.isFatal = true
  · obtain ⟨e, hdel, hf⟩ := hfatal
    refine .inl ⟨.inl ⟨e, hdel, hf⟩, some S, "failed to delete " ++ r.description ++ " " ++
      goQuote (r.name azure) ++ ": " ++ e.msg, ?_⟩
    simp only [cleanupResource, hmem, hazure, hdel, hf, Bool.false_eq_true, if_false, if_true,
      cleanupM_throw_run, bind, ExceptT.bind]
    rfl
  · have htol : DeleteTolerated api r S.spec.cloud := fun e he => by
      simpa [DeleteError.isFatal] using fun hf => hfatal ⟨e, he, hf⟩
    have hrun : (cleanupResource api update S r).run.run S =
        (removeResourceFinalizer update r).run.run S := by
      rcases hdel : api.delete r S.spec.cloud with _ | e
      · simp only [cleanupResource, hmem, hazure, hdel, Bool.false_eq_true, if_false, pure_bind]
      · have hf : e.isFatal = false := by simpa using fun hf => hfatal ⟨e, hdel, hf⟩
        simp only [cleanupResource, hmem, hazure, hdel, hf, Bool.false_eq_true, if_false,
          pure_bind]
    rw [hrun]
    rcases removeResourceFinalizer_run update S r with ⟨e, hup, hrun'⟩ | hrun'
    · exact .inl ⟨.inr ⟨e, hup⟩, none, e, hrun'⟩
    · exact .inr ⟨htol, hrun'⟩

/-! ## A run of the blocks -/

/-- The blocks of `L` that run from the stored cluster `S`: those whose finalizer is on
it. -/
def present (L : List AzureResource) (S : Cluster) : List AzureResource :=
  L.filter fun r => hasFinalizer S.finalizers r.finalizer

/-- **What a run of the blocks `P` that run from the stored cluster `S` leaves**, `k` of
them having removed their finalizer: those `k` found their resource deleted or gone,
the stored cluster has lost exactly their finalizers, and either all blocks did so and
the run goes on with the stored cluster, or the next block stopped the run with an
error. -/
structure Leaves (P : List AzureResource) (S : Cluster)
    (out : Except (GoResult CleanupReturn) Cluster × Cluster) (k : Nat) : Prop where
  le : k ≤ P.length
  tolerated : ∀ r ∈ P.take k, DeleteTolerated api r S.spec.cloud
  stored : out.2 = S.removeFinalizers ((P.take k).map AzureResource.finalizer)
  done : k = P.length → out.1 = .ok out.2
  stopped : ∀ r, P[k]? = some r →
    Stops api update r out.2 ∧ ∃ c msg, out.1 = .error (.returned (c, some msg))

theorem Leaves.nil (S : Cluster) : Leaves api update [] S (.ok S, S) 0 :=
  ⟨le_refl _, by simp, by simp, fun _ => rfl, by simp⟩

theorem Leaves.stop {P : List AzureResource} {S : Cluster} {r : AzureResource} {c msg}
    (hstop : Stops api update r S) :
    Leaves api update (r :: P) S (.error (.returned (c, some msg)), S) 0 :=
  ⟨Nat.zero_le _, by simp, by simp, by simp, fun r' hr' => by
    obtain rfl : r = r' := by simpa using hr'
    exact ⟨hstop, c, msg, rfl⟩⟩

theorem Leaves.cons {P : List AzureResource} {S : Cluster} {r : AzureResource} {out k}
    (htol : DeleteTolerated api r S.spec.cloud)
    (h : Leaves api update P (S.removeFinalizers [r.finalizer]) out k) :
    Leaves api update (r :: P) S out (k + 1) where
  le := by simpa using h.le
  tolerated r' hr' := by
    rcases List.mem_cons.mp (by simpa using hr') with rfl | hr'
    · exact htol
    · simpa using h.tolerated r' hr'
  stored := by simpa using h.stored
  done hk := h.done (by simpa using hk)
  stopped r' hr' := h.stopped r' (by simpa using hr')

variable {api update} in
/-- Removing a finalizer of a block leaves the blocks after it that run as they were. -/
theorem present_removeFinalizers {L : List AzureResource} {r : AzureResource}
    (hr : r.finalizer ∉ L.map AzureResource.finalizer) (S : Cluster) :
    present L (S.removeFinalizers [r.finalizer]) = present L S :=
  List.filter_congr fun r' hr' => by
    have hne : r'.finalizer ≠ r.finalizer := fun he => hr (he ▸ List.mem_map_of_mem _ hr')
    rw [Bool.eq_iff_iff]
    simp [hne]

/-- **A run of blocks leaves a prefix removed**: by induction over the blocks, from the
step lemmas `cleanupResource_run_of_not_mem` and `cleanupResource_run_of_mem`. -/
theorem foldlM_cleanupResource_leaves (L : List AzureResource)
    (hnd : (L.map AzureResource.finalizer).Nodup) (S : Cluster)
    (hazure : S.spec.cloud.azure.isSome) :
    ∃ k, Leaves api update (present L S) S
      ((L.foldlM (cleanupResource api update) S).run.run S) k := by
  induction L generalizing S with
  | nil => exact ⟨0, Leaves.nil api update S⟩
  | cons r L ih =>
    obtain ⟨hr, hndL⟩ := List.nodup_cons.mp hnd
    rw [List.foldlM_cons]
    by_cases hmem : r.finalizer ∈ S.finalizers
    · have hpres : present (r :: L) S = r :: present L S := by simp [present, hmem]
      rw [hpres]
      rcases cleanupResource_run_of_mem api update hazure hmem with
        ⟨hstop, c, msg, hrun⟩ | ⟨htol, hrun⟩
      · rw [cleanupM_run_bind_of_error hrun]
        exact ⟨0, Leaves.stop api update hstop⟩
      · rw [cleanupM_run_bind_of_ok hrun]
        obtain ⟨k, hk⟩ := ih hndL (S.removeFinalizers [r.finalizer]) (by simpa using hazure)
        rw [present_removeFinalizers hr] at hk
        exact ⟨k + 1, Leaves.cons api update htol hk⟩
    · have hpres : present (r :: L) S = present L S := by simp [present, hmem]
      rw [hpres, cleanupM_run_bind_of_ok (cleanupResource_run_of_not_mem api update hmem)]
      exact ih hndL S hazure

/-- The six finalizers are different strings. -/
theorem cleanupOrder_finalizers_nodup : (cleanupOrder.map AzureResource.finalizer).Nodup := by
  decide

/-- Once the credentials and the client set are there, `CleanUpCloudProvider` is the
run of its blocks. -/
theorem runCleanUp_eq (cluster : Cluster) (hcred : api.credentials = .ok ())
    (hclient : api.clientSet = .ok ()) :
    runCleanUp api update cluster =
      (match ((cleanupOrder.foldlM (cleanupResource api update) cluster).run.run cluster).1 with
        | .ok c => .returned (some c, none)
        | .error g => g,
      ((cleanupOrder.foldlM (cleanupResource api update) cluster).run.run cluster).2) := by
  unfold runCleanUp cleanUpCloudProvider
  simp only [hcred, hclient]
  rcases hrun : (cleanupOrder.foldlM (cleanupResource api update) cluster).run.run cluster with
    ⟨_ | c, S⟩
  · rw [cleanupM_run_bind_of_error hrun]
  · rw [cleanupM_run_bind_of_ok hrun]
    rfl

end Blocks

/-- **`CleanUpCloudProvider` removes the Azure finalizers in order, each after its
resource is gone.** With credentials and a client set, on a cluster with an Azure spec,
whatever the delete calls and the updater do: of the blocks whose finalizer is on the
cluster, a first `k` found their resource deleted or already gone (404) and removed their
finalizer, and the stored cluster has lost exactly those finalizers, so the finalizer of
every later block and every finalizer of another controller stay. If all of them did,
the call returns the stored cluster and no error, and no Azure finalizer is left; if
not, the next block stopped – its delete failed other than with a 404, or its update
failed – and the call returns an error. -/
theorem cleanUpCloudProvider_removes_in_order (api : CleanupAPI) (update : ClusterUpdater)
    (cluster : Cluster) (hazure : cluster.spec.cloud.azure.isSome)
    (hcred : api.credentials = .ok ()) (hclient : api.clientSet = .ok ()) :
    ∃ k ≤ (present cleanupOrder cluster).length,
      (∀ r ∈ (present cleanupOrder cluster).take k, DeleteTolerated api r cluster.spec.cloud) ∧
      (runCleanUp api update cluster).2 = cluster.removeFinalizers
        (((present cleanupOrder cluster).take k).map AzureResource.finalizer) ∧
      (∀ r ∈ (present cleanupOrder cluster).drop k,
        r.finalizer ∈ (runCleanUp api update cluster).2.finalizers) ∧
      (k = (present cleanupOrder cluster).length →
        (runCleanUp api update cluster).1 = .returned (some (runCleanUp api update cluster).2, none) ∧
        ∀ r ∈ cleanupOrder, r.finalizer ∉ (runCleanUp api update cluster).2.finalizers) ∧
      (∀ r, (present cleanupOrder cluster)[k]? = some r →
        Stops api update r (runCleanUp api update cluster).2 ∧
        ∃ c msg, (runCleanUp api update cluster).1 = .returned (c, some msg)) := by
  obtain ⟨k, hk⟩ := foldlM_cleanupResource_leaves api update cleanupOrder
    cleanupOrder_finalizers_nodup cluster hazure
  rw [runCleanUp_eq api update cluster hcred hclient]
  set P := present cleanupOrder cluster
  have hnd : (P.map AzureResource.finalizer).Nodup :=
    cleanupOrder_finalizers_nodup.sublist ((List.filter_sublist _).map _)
  have hdisj : ∀ r ∈ P.drop k, r.finalizer ∉ (P.take k).map AzureResource.finalizer := by
    rw [← List.take_append_drop k P, List.map_append, List.nodup_append] at hnd
    exact fun r hr hmem => hnd.2.2 hmem (List.mem_map_of_mem _ hr)
  refine ⟨k, hk.le, hk.tolerated, hk.stored, fun r hr => ?_, fun hlen => ?_, fun r hr => ?_⟩
  · have hrP : r ∈ P := List.mem_of_mem_drop hr
    rw [hk.stored, Cluster.removeFinalizers_finalizers, mem_removeFinalizer]
    exact ⟨by simpa using (List.mem_filter.mp hrP).2, hdisj r hr⟩
  · refine ⟨by rw [hk.done hlen], fun r hr hmem => ?_⟩
    rw [hk.stored, hlen, List.take_length] at hmem
    simp only [Cluster.removeFinalizers_finalizers, mem_removeFinalizer] at hmem
    exact hmem.2 (List.mem_map_of_mem _ (List.mem_filter.mpr ⟨hr, by simpa using hmem.1⟩))
  · obtain ⟨hstop, c, msg, hout⟩ := hk.stopped r hr
    exact ⟨hstop, c, msg, by rw [hout]⟩

/-- A cleanup on which every delete succeeds. -/
def sampleCleanupAPI : CleanupAPI := ⟨.ok (), .ok (), fun _ _ => none⟩

/-- A cluster with the security group and route table finalizers and one of another
controller. -/
def sampleCleanupCluster : Cluster :=
  { finalizers := [FinalizerSecurityGroup, "other", FinalizerRouteTable],
    spec := { cloud := { azure := some {} } } }

theorem cleanUpCloudProvider_removes_in_order_sample :
    ∃ k ≤ (present cleanupOrder sampleCleanupCluster).length,
      (∀ r ∈ (present cleanupOrder sampleCleanupCluster).take k,
        DeleteTolerated sampleCleanupAPI r sampleCleanupCluster.spec.cloud) ∧
      (runCleanUp sampleCleanupAPI .accepting sampleCleanupCluster).2 =
        sampleCleanupCluster.removeFinalizers
          (((present cleanupOrder sampleCleanupCluster).take k).map AzureResource.finalizer) ∧
      (∀ r ∈ (present cleanupOrder sampleCleanupCluster).drop k,
        r.finalizer ∈ (runCleanUp sampleCleanupAPI .accepting sampleCleanupCluster).2.finalizers) ∧
      (k = (present cleanupOrder sampleCleanupCluster).length →
        (runCleanUp sampleCleanupAPI .accepting sampleCleanupCluster).1 =
          .returned (some (runCleanUp sampleCleanupAPI .accepting sampleCleanupCluster).2, none) ∧
        ∀ r ∈ cleanupOrder,
          r.finalizer ∉ (runCleanUp sampleCleanupAPI .accepting sampleCleanupCluster).2.finalizers) ∧
      (∀ r, (present cleanupOrder sampleCleanupCluster)[k]? = some r →
        Stops sampleCleanupAPI .accepting r
          (runCleanUp sampleCleanupAPI .accepting sampleCleanupCluster).2 ∧
        ∃ c msg, (runCleanUp sampleCleanupAPI .accepting sampleCleanupCluster).1 =
          .returned (c, some msg)) :=
  cleanUpCloudProvider_removes_in_order sampleCleanupAPI .accepting sampleCleanupCluster rfl rfl rfl

end Kubermatic.Azure
