import Kubermatic.ClusterDeletion.Pass

/-!
# The cluster controller's reconciler

`Reconciler.Reconcile` (the `kubernetes` package of the seed controller manager,
`src/unnamed/part_009`) drives one cluster. For each request it fetches the cluster,
stamps its namespace name into the status, waits until the cluster has a control-plane
version, and then, inside `ClusterReconcileWrapper` and behind the concurrency limit, runs
`reconcile`: the health is synced, and then either one pass of the deletion pipeline
runs, after which the cluster is always requeued in ten seconds, or `reconcileCluster`
runs, and its error is recorded in `Status.ErrorReason`/`Status.ErrorMessage`, or its
success clears them.

Every write goes to the seed API as a merge patch computed from a copy of the cluster
(`MergeFrom`), either of the object or of its status subresource. `updateCluster`, the
reconciler's way to patch the object, refuses a modification that touches the status.

The model:

* `State` holds the reconciler's copy of the cluster (the `cluster` pointer of the Go
  code, which the calls modify in place and refresh from the seed API's answers), the
  cluster the seed API stores, and the patches it accepted;
* `Patch.apply` is what the seed API stores after a patch: the fields the patch changes
  take their new value, the others keep the stored one;
* `Program` is a call tree for the functions of the package that are not among the
  sources, `syncHealth` and `reconcileCluster`: which of the reconciler's calls they make
  on the cluster, and what they do next with each call's error. `Program.run`
  interprets the tree with the modelled calls, so a result proved for every `Program`
  holds whatever those functions do;
* `Env` gathers what the code calls but does not define: the seed API's answer to each
  patch, the helpers of `pkg/apis`, `pkg/provider` and `pkg/controller/util`, the two
  programs, and the outcome of each call of the deletion pass.

The functions of the package that are among the sources are translated as written; the
ones they call from elsewhere are modelled from the spec and say so. Each function has
its run lemmas here. The results about whole reconciliations are in
`Kubermatic.ClusterController.Invariants` and `Kubermatic.ClusterController.Deletion`.
-/

namespace Kubermatic

/-- The cluster with its status replaced, which is all a status patch writes. -/
def Cluster.withStatus (c : Cluster) (status : ClusterStatus) : Cluster :=
  { c with status }

@[simp] theorem Cluster.withStatus_status (c : Cluster) (st : ClusterStatus) :
    (c.withStatus st).status = st := rfl

@[simp] theorem Cluster.withStatus_finalizers (c : Cluster) (st : ClusterStatus) :
    (c.withStatus st).finalizers = c.finalizers := rfl

@[simp] theorem Cluster.withStatus_deletionTimestamp (c : Cluster) (st : ClusterStatus) :
    (c.withStatus st).deletionTimestamp = c.deletionTimestamp := rfl

@[simp] theorem Cluster.withStatus_withStatus (c : Cluster) (st st' : ClusterStatus) :
    (c.withStatus st).withStatus st' = c.withStatus st' := rfl

@[simp] theorem Cluster.withFinalizers_status (c : Cluster) (fs : List String) :
    (c.withFinalizers fs).status = c.status := rfl

@[simp] theorem Cluster.withFinalizers_deletionTimestamp (c : Cluster) (fs : List String) :
    (c.withFinalizers fs).deletionTimestamp = c.deletionTimestamp := rfl

/-- `c.Status.ErrorReason = reason; c.Status.ErrorMessage = message`. -/
def Cluster.withError (c : Cluster) (reason message : Option String) : Cluster :=
  c.withStatus { c.status with errorReason := reason, errorMessage := message }

/-- The cluster controller's condition set to `success`. -/
def Cluster.withReconcilingSuccess (c : Cluster) (success : Bool) : Cluster :=
  c.withStatus { c.status with reconcilingSuccess := some success }

/-- The modification of `Reconciler.reconcileClusterStatus`: an empty namespace name
becomes `kubernetesprovider.NamespaceName` of the cluster's name. -/
def Cluster.defaultNamespaceName (namespaceName : String → String) (c : Cluster) : Cluster :=
  if c.status.namespaceName = "" then
    c.withStatus { c.status with namespaceName := namespaceName c.name }
  else c

/-- A modification that changes the status and nothing else. -/
def Cluster.StatusOnly (modify : Cluster → Cluster) : Prop :=
  ∀ c, c.withStatus (modify c).status = modify c

theorem Cluster.statusOnly_defaultNamespaceName (namespaceName : String → String) :
    Cluster.StatusOnly (Cluster.defaultNamespaceName namespaceName) := fun c => by
  unfold Cluster.defaultNamespaceName
  split <;> rfl

end Kubermatic

namespace Kubermatic.ClusterController

open ClusterDeletion (Helpers Finalizers runPass)

/-- Where a patch goes: the cluster object, or its status subresource. -/
inductive Subresource
  | object
  | status
  deriving DecidableEq, Repr

/-- A patch sent to the seed API: `MergeFrom(before)` sent with the cluster `after`. -/
structure Patch where
  subresource : Subresource
  before : Cluster
  after : Cluster
  deriving DecidableEq, Repr

/-- One field of a merge patch: the value sent where the patch changes the field, the
stored one where it does not. -/
def mergeField [DecidableEq α] (before after stored : α) : α :=
  if before = after then stored else after

@[simp] theorem mergeField_same [DecidableEq α] (a s : α) : mergeField a a s = s := if_pos rfl

@[simp] theorem mergeField_self [DecidableEq α] (b a : α) : mergeField b a b = a := by
  unfold mergeField
  split <;> simp_all

/-- **What the seed API stores after a patch**: JSON merge-patch semantics on the
cluster's fields, which is what `MergeFrom` relies on to keep what other writers stored
in between. The status subresource takes only the status. -/
def Patch.apply (p : Patch) (stored : Cluster) : Cluster :=
  match p.subresource with
  | .object =>
    { typeMeta := mergeField p.before.typeMeta p.after.typeMeta stored.typeMeta
      name := mergeField p.before.name p.after.name stored.name
      labels := mergeField p.before.labels p.after.labels stored.labels
      finalizers := mergeField p.before.finalizers p.after.finalizers stored.finalizers
      deletionTimestamp :=
        mergeField p.before.deletionTimestamp p.after.deletionTimestamp
          stored.deletionTimestamp
      adminToken := mergeField p.before.adminToken p.after.adminToken stored.adminToken
      spec := mergeField p.before.spec p.after.spec stored.spec
      status := mergeField p.before.status p.after.status stored.status }
  | .status => stored.withStatus (mergeField p.before.status p.after.status stored.status)

/-- A status patch from the stored cluster stores the status sent. -/
@[simp] theorem Patch.apply_status_self (c stored : Cluster) :
    Patch.apply ⟨.status, stored, c⟩ stored = stored.withStatus c.status := by
  simp [Patch.apply]

/-- A patch of the finalizers alone stores the finalizers sent. -/
theorem Patch.apply_withFinalizers (c stored : Cluster) {fs fs' : List String}
    (hne : fs ≠ fs') :
    Patch.apply ⟨.object, c.withFinalizers fs, c.withFinalizers fs'⟩ stored =
      stored.withFinalizers fs' := by
  simp [Patch.apply, mergeField, hne, Cluster.withFinalizers]

/-- The state a reconciliation works on. -/
structure State where
  /-- The reconciler's copy of the cluster, the `cluster` pointer of the Go code. -/
  cluster : Cluster
  /-- The cluster as the seed API stores it. -/
  stored : Cluster
  /-- The patches the seed API accepted, oldest first. -/
  patches : List Patch

/-- The state once the seed API accepted a patch: it stores the merged cluster and
answers with it, and the copy becomes that answer. -/
def State.accept (s : State) (p : Patch) : State :=
  { cluster := p.apply s.stored, stored := p.apply s.stored, patches := s.patches ++ [p] }

@[simp] theorem State.accept_cluster (s : State) (p : Patch) :
    (s.accept p).cluster = p.apply s.stored := rfl

@[simp] theorem State.accept_stored (s : State) (p : Patch) :
    (s.accept p).stored = p.apply s.stored := rfl

@[simp] theorem State.accept_patches (s : State) (p : Patch) :
    (s.accept p).patches = s.patches ++ [p] := rfl

/-- A reconciliation step: it reads and writes the cluster. -/
abbrev ReconcileM := StateM State

/-- **The calls a function of the package makes on the cluster**, for `syncHealth` and
`reconcileCluster`, which are not among the sources: a tree with one node per call, and
below it the rest of the function for each answer. The calls they make on other objects
do not touch the cluster and are left out. -/
inductive Program (α : Type)
  /-- The function returns, or fails with an error. -/
  | done (result : Except String α)
  /-- It reads the reconciler's copy of the cluster. -/
  | read (k : Cluster → Program α)
  /-- It calls `Reconciler.updateCluster`. -/
  | updateCluster (modify : Cluster → Cluster) (k : Option String → Program α)
  /-- It calls `kubermaticv1helper.UpdateClusterStatus`. -/
  | updateClusterStatus (modify : Cluster → Cluster) (k : Option String → Program α)
  /-- It calls `Reconciler.AddFinalizers`. -/
  | addFinalizers (finalizers : List String) (k : Option String → Program α)

/-- **What the reconciler calls and does not define.** -/
structure Env where
  /-- The seed API's answer to a patch: the error it refuses it with, `none` when it
  accepts it. -/
  refuses : Patch → Option String
  /-- `kubernetesprovider.NamespaceName`. -/
  namespaceName : String → String
  /-- The value of `kubermaticv1.ReconcileClusterError`. -/
  reconcileClusterError : String
  /-- Whether `ClusterReconcileWrapper` leaves the cluster alone: paused, or another
  worker's. -/
  skips : Cluster → Bool
  /-- `controllerutil.ClusterAvailableForReconciling` under the controller's
  `concurrentClusterUpdates`: whether the cluster may be reconciled now, and the error of
  the check. -/
  clusterAvailableForReconciling : Cluster → Bool × Option String
  /-- `Reconciler.syncHealth`. -/
  syncHealth : Program Unit
  /-- `Reconciler.reconcileCluster`. -/
  reconcileCluster : Program (Option Result)
  /-- What each call of the deletion pass returns. -/
  deletionHelpers : Helpers
  /-- The finalizers of the deletion pipeline. -/
  finalizers : Finalizers

section Calls

variable (env : Env)

/-- `Patch` of the seed API client: an accepted patch is stored and the copy refreshed
from the answer, a refused one changes nothing. -/
def patch (p : Patch) : ReconcileM (Option String) :=
  match env.refuses p with
  | some err => pure (some err)
  | none => modifyGet fun s => (none, s.accept p)

/-- Modelled from the spec: `kubermaticv1helper.UpdateClusterStatus`, which fetches the
stored cluster into the copy, modifies the copy, and patches the status subresource from
what it fetched. -/
def updateClusterStatus (modify : Cluster → Cluster) : ReconcileM (Option String) := do
  let s ← get
  set { s with cluster := modify s.stored }
  patch env ⟨.status, s.stored, modify s.stored⟩

/-- **`Reconciler.updateCluster`**. The copy is modified in place; nothing is sent when
that changed nothing, and a change of the status is refused before anything is sent. -/
def updateCluster (modify : Cluster → Cluster) : ReconcileM (Option String) := do
  let s ← get
  let oldCluster := s.cluster
  set { s with cluster := modify oldCluster }
  if oldCluster = modify oldCluster then pure none
  else if oldCluster.status ≠ (modify oldCluster).status then
    pure (some "updateCluster must not change cluster status")
  else patch env ⟨.object, oldCluster, modify oldCluster⟩

/-- Modelled from the spec: `kuberneteshelper.TryAddFinalizer`, which adds the finalizers
to the copy and patches the object when that changed its finalizers. -/
def tryAddFinalizer (finalizers : List String) : ReconcileM (Option String) := do
  let s ← get
  let cluster := finalizers.foldl Cluster.addFinalizer s.cluster
  set { s with cluster }
  if s.cluster.finalizers = cluster.finalizers then pure none
  else patch env ⟨.object, s.cluster, cluster⟩

/-- `Reconciler.AddFinalizers`. -/
def addFinalizers (finalizers : List String) : ReconcileM (Option Result × Option String) := do
  let err ← tryAddFinalizer env finalizers
  pure (some {}, err)

/-- `Reconciler.updateClusterError`. -/
def updateClusterError (reason message : String) : ReconcileM (Option String) := do
  match ← updateClusterStatus env (·.withError (some reason) (some message)) with
  | some err => pure (some ("failed to set error status on cluster to: errorReason=" ++
      goQuote reason ++ " errorMessage=" ++ goQuote message ++ ". Could not update cluster: " ++
      err))
  | none => pure none

/-- `Reconciler.clearClusterError`. -/
def clearClusterError : ReconcileM (Option String) :=
  updateClusterStatus env (·.withError none none)

/-- `Reconciler.reconcileClusterStatus`. -/
def reconcileClusterStatus : ReconcileM (Option String) :=
  updateClusterStatus env (Cluster.defaultNamespaceName env.namespaceName)

/-- The run of a call tree, each node answered by the modelled call. -/
def Program.run : Program α → ReconcileM (Except String α)
  | .done result => pure result
  | .read k => do (k (← get).cluster).run
  | .updateCluster modify k => do (k (← ClusterController.updateCluster env modify)).run
  | .updateClusterStatus modify k => do
    (k (← ClusterController.updateClusterStatus env modify)).run
  | .addFinalizers finalizers k => do
    (k (← ClusterController.addFinalizers env finalizers).2).run

/-- The patches of a deletion pass, one for each of its calls that changed the
finalizers: from the copy with the finalizers the call found to the copy with those it
left. -/
def passPatches (cluster : Cluster) : List String → List ClusterDeletion.Call → List Patch
  | _, [] => []
  | fs, c :: calls =>
    if fs = c.after then passPatches cluster fs calls
    else ⟨.object, cluster.withFinalizers fs, cluster.withFinalizers c.after⟩ ::
      passPatches cluster c.after calls

/-- The error a Go function returns, from the outcome of its model. -/
def errorOf : Except String Unit → Option String
  | .ok () => none
  | .error err => some err

/-- `clusterdeletion.New(r.Client, userClusterClientGetter).CleanupCluster(ctx, log,
cluster)`: one pass of the deletion pipeline over the copy's finalizers, each of its
finalizer removals a patch of the object that the seed API accepted. -/
def cleanupCluster : ReconcileM (Option String) := do
  let s ← get
  let (result, pass) := runPass env.deletionHelpers env.finalizers s.cluster.finalizers
  set ((passPatches s.cluster s.cluster.finalizers pass.calls).foldl State.accept s)
  pure (errorOf result)

/-- **`Reconciler.reconcile`**. -/
def reconcile : ReconcileM (Option Result × Option String) := do
  match ← env.syncHealth.run env with
  | .error err => pure (none, some ("failed to sync health: " ++ err))
  | .ok () =>
    if (← get).cluster.deletionTimestamp then do
      let err ← cleanupCluster env
      pure (some { requeueAfter := 10 }, err)
    else do
      match ← env.reconcileCluster.run env with
      | .error err =>
        match ← updateClusterError env env.reconcileClusterError err with
        | some updateErr => pure (none, some ("failed to set the cluster error: " ++ updateErr))
        | none => pure (none, some ("failed to reconcile cluster: " ++ err))
      | .ok res =>
        match ← clearClusterError env with
        | some err => pure (none, some ("failed to clear error on cluster: " ++ err))
        | none => pure (res, none)

/-- The function `Reconcile` hands to `ClusterReconcileWrapper`: the concurrency check,
then `reconcile`. -/
def reconcileIfAvailable : ReconcileM (Option Result × Option String) := do
  let (available, err) := env.clusterAvailableForReconciling (← get).cluster
  if !available || err.isSome then pure (some { requeueAfter := 10 }, err)
  else reconcile env

/-- Modelled from the spec: `kubermaticv1helper.ClusterReconcileWrapper`. A cluster it
skips is left alone; otherwise the function runs, the controller's condition records
whether it returned an error, and its result is passed on either way. The spec also has
the wrapper store or clear the error; in the code at hand `reconcile` does that itself, so
the wrapper keeps to the condition. -/
def clusterReconcileWrapper (inner : ReconcileM (Option Result × Option String)) :
    ReconcileM (Option Result × Option String) := do
  if env.skips (← get).cluster then pure (none, none)
  else do
    let (result, err) ← inner
    let conditionErr ← updateClusterStatus env (·.withReconcilingSuccess err.isNone)
    pure (result, err <|> conditionErr)

/-- **`Reconciler.Reconcile`**, on what `r.Get` answered. -/
def Reconcile : Fetched → ReconcileM (Result × Option String)
  | .notFound => pure ({}, none)
  | .failed err => pure ({}, some err)
  | .found => do
    modify fun s => { s with cluster := s.stored }
    match ← reconcileClusterStatus env with
    | some err => pure ({}, some err)
    | none =>
      if (← get).cluster.status.controlPlaneVersion = "" then pure ({}, none)
      else do
        let (result, err) ← clusterReconcileWrapper env (reconcileIfAvailable env)
        pure (result.getD {}, err)

end Calls

end Kubermatic.ClusterController
