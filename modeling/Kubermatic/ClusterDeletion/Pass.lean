import Kubermatic.Cluster

/-!
# One pass of the cluster deletion pipeline

`Deletion.CleanupCluster` (`pkg/clusterdeletion/deletion.go`) runs once per
reconciliation of a deleting cluster. It calls the stage helpers in a fixed order,
returns at the first error, and stops early while the in-cluster finalizers or the
node-deletion finalizer are still on the cluster; the credentials are cleaned up only
once their finalizer is the last one left.

The stage helpers themselves (`cleanupConstraints`, `cleanupLBs`, `cleanupVolumes`,
`checkIfAllLoadbalancersAreGone`, `cleanupEtcdBackupConfigs`, `cleanupNodes`,
`cleanUpCredentialsSecrets`) and `kuberneteshelper.TryRemoveFinalizer` are not among
the sources. A pass calls each of them at most once, so a `Helpers` record says what
every call returns and whether it removed the helper's own finalizer; quantifying over
`Helpers` quantifies over every behaviour the helpers can have. What the code under
`src/` decides – which helpers run, in which state, and what happens after an error –
is translated as written.

A pass is a program of `DeletionM`: it reads and edits the cluster's finalizers and
records every call it makes, with the finalizers before and after it and whether it
succeeded. The record is what the ordering results of
`Kubermatic.ClusterDeletion.Ordering` are about. The second half of the module is a
small Hoare logic for `DeletionM` – one rule per construct the pass uses – so that
each result is proved once per function rather than by unfolding the whole pass.
-/

namespace Kubermatic.ClusterDeletion

/-- **The finalizers the pipeline reads**, under the names of their constants in
`pkg/api/v1`. Their values are declared outside the sources; all the code relies on
is that they are different strings, which the structure carries. -/
structure Finalizers where
  kubermaticConstraintCleanupFinalizer : String
  inClusterLBCleanupFinalizer : String
  inClusterPVCleanupFinalizer : String
  etcdBackupConfigCleanupFinalizer : String
  nodeDeletionFinalizer : String
  clusterRoleBindingsCleanupFinalizer : String
  credentialsSecretsCleanupFinalizer : String
  nodup : [kubermaticConstraintCleanupFinalizer, inClusterLBCleanupFinalizer,
    inClusterPVCleanupFinalizer, etcdBackupConfigCleanupFinalizer, nodeDeletionFinalizer,
    clusterRoleBindingsCleanupFinalizer, credentialsSecretsCleanupFinalizer].Nodup

/-- Finalizer names for the examples; the pipeline's own constants are declared outside
the sources. -/
def sampleFinalizers : Finalizers where
  kubermaticConstraintCleanupFinalizer := "constraints"
  inClusterLBCleanupFinalizer := "lbs"
  inClusterPVCleanupFinalizer := "volumes"
  etcdBackupConfigCleanupFinalizer := "etcd-backups"
  nodeDeletionFinalizer := "nodes"
  clusterRoleBindingsCleanupFinalizer := "cluster-role-bindings"
  credentialsSecretsCleanupFinalizer := "credentials"
  nodup := by decide

/-- The calls a pass can make, one per helper, and the two `TryRemoveFinalizer` calls
of `cleanupInClusterResources` and `cleanupClusterRoleBindings`. -/
inductive Stage
  | cleanupConstraints
  | cleanupLBs
  | cleanupVolumes
  | checkIfAllLoadbalancersAreGone
  | removeInClusterFinalizers
  | cleanupEtcdBackupConfigs
  | cleanupNodes
  | cleanupClusterRoleBindings
  | cleanUpCredentialsSecrets
  deriving DecidableEq, Repr

/-- What one call of a stage helper did: whether it removed its own finalizer, and
what it returned. -/
structure HelperCall (α : Type) where
  removesOwnFinalizer : Bool
  result : Except String α

/-- **The outcome of every call a pass can make.** The two `Except String Unit` fields
are the API outcomes of the `TryRemoveFinalizer` calls: on success the named
finalizers are gone, on failure nothing changed. -/
structure Helpers where
  cleanupConstraints : HelperCall Unit
  cleanupLBs : HelperCall Bool
  cleanupVolumes : HelperCall Bool
  checkIfAllLoadbalancersAreGone : HelperCall Bool
  cleanupEtcdBackupConfigs : HelperCall Unit
  cleanupNodes : HelperCall Unit
  cleanUpCredentialsSecrets : HelperCall Unit
  removeInClusterFinalizers : Except String Unit
  removeClusterRoleBindingsFinalizer : Except String Unit

/-- One call in the record of a pass. -/
structure Call where
  stage : Stage
  /-- The cluster's finalizers when the call was made. -/
  before : List String
  /-- The cluster's finalizers when it returned. -/
  after : List String
  /-- Whether it returned without error. -/
  ok : Bool
  deriving DecidableEq, Repr

/-- The state of a pass: the cluster's finalizers, and the calls made so far. -/
structure PassState where
  finalizers : List String
  calls : List Call
  deriving DecidableEq, Repr

/-- The state after a call of `stage` that removed `removes` and succeeded or not. -/
def PassState.record (s : PassState) (stage : Stage) (removes : List String) (ok : Bool) :
    PassState :=
  ⟨removeFinalizer s.finalizers removes,
    s.calls ++ [⟨stage, s.finalizers, removeFinalizer s.finalizers removes, ok⟩]⟩

/-- A pass: it edits the cluster's finalizers, records its calls, and can fail. -/
abbrev DeletionM := ExceptT String (StateM PassState)

/-- A call of `stage` that removes `removes` and returns `result`. -/
def call (stage : Stage) (removes : List String) (result : Except String α) :
    DeletionM α :=
  ExceptT.mk fun s => (result, s.record stage removes result.isOk)

/-- A stage helper, with its own finalizer. -/
def HelperCall.run (c : HelperCall α) (stage : Stage) (own : String) : DeletionM α :=
  call stage (if c.removesOwnFinalizer then [own] else []) c.result

/-- Modelled from the spec: `kuberneteshelper.TryRemoveFinalizer`, a read-modify-write
of the stored cluster that removes the finalizers when the write goes through. -/
def tryRemoveFinalizer (stage : Stage) (result : Except String Unit) (names : List String) :
    DeletionM Unit :=
  call stage (if result.isOk then names else []) result

/-- `fmt.Errorf(msg + "%w", err)`: an error is passed on behind a prefix. -/
def wrapError (msg : String) (m : DeletionM α) : DeletionM α :=
  ExceptT.adapt (msg ++ ·) m

/-- `if cond { deleted, err := cleanup(...) }`: a cleanup that runs only when its
finalizer is there, and reports whether it deleted something. -/
def cleanupIf (cond : Bool) (m : DeletionM Bool) : DeletionM Bool :=
  if cond then m else pure false

section Model

variable (h : Helpers) (F : Finalizers)

def cleanupConstraints : DeletionM Unit :=
  h.cleanupConstraints.run .cleanupConstraints F.kubermaticConstraintCleanupFinalizer

def cleanupLBs : DeletionM Bool :=
  h.cleanupLBs.run .cleanupLBs F.inClusterLBCleanupFinalizer

def cleanupVolumes : DeletionM Bool :=
  h.cleanupVolumes.run .cleanupVolumes F.inClusterPVCleanupFinalizer

def checkIfAllLoadbalancersAreGone : DeletionM Bool :=
  h.checkIfAllLoadbalancersAreGone.run .checkIfAllLoadbalancersAreGone
    F.inClusterLBCleanupFinalizer

def cleanupEtcdBackupConfigs : DeletionM Unit :=
  h.cleanupEtcdBackupConfigs.run .cleanupEtcdBackupConfigs F.etcdBackupConfigCleanupFinalizer

def cleanupNodes : DeletionM Unit :=
  h.cleanupNodes.run .cleanupNodes F.nodeDeletionFinalizer

def cleanUpCredentialsSecrets : DeletionM Unit :=
  h.cleanUpCredentialsSecrets.run .cleanUpCredentialsSecrets
    F.credentialsSecretsCleanupFinalizer

/-- `Deletion.cleanupInClusterResources`. -/
def cleanupInClusterResources : DeletionM Unit := do
  let s ← get
  let shouldDeleteLBs := hasFinalizer s.finalizers F.inClusterLBCleanupFinalizer
  let shouldDeletePVs := hasFinalizer s.finalizers F.inClusterPVCleanupFinalizer
  if !shouldDeleteLBs && !shouldDeletePVs then pure () else do
  let deletedSomeLBs ← cleanupIf shouldDeleteLBs
    (wrapError "failed to cleanup LBs: " (cleanupLBs h F))
  let deletedSomeVolumes ← cleanupIf shouldDeletePVs
    (wrapError "failed to cleanup PVs: " (cleanupVolumes h F))
  if deletedSomeLBs || deletedSomeVolumes then pure () else do
  let lbsAreGone ← wrapError "failed to check if all Loadbalancers are gone: "
    (checkIfAllLoadbalancersAreGone h F)
  if !lbsAreGone then pure () else
  tryRemoveFinalizer .removeInClusterFinalizers h.removeInClusterFinalizers
    [F.inClusterLBCleanupFinalizer, F.inClusterPVCleanupFinalizer]

/-- `Deletion.cleanupClusterRoleBindings`. -/
def cleanupClusterRoleBindings : DeletionM Unit :=
  tryRemoveFinalizer .cleanupClusterRoleBindings h.removeClusterRoleBindingsFinalizer
    [F.clusterRoleBindingsCleanupFinalizer]

/-- `Deletion.CleanupCluster` from the in-cluster check on: what runs once the
in-cluster resources have been dealt with. -/
def afterInClusterResources : DeletionM Unit := do
  let s ← get
  unless hasAnyFinalizer s.finalizers
      [F.inClusterLBCleanupFinalizer, F.inClusterPVCleanupFinalizer] do
    cleanupEtcdBackupConfigs h F
    cleanupNodes h F
    cleanupClusterRoleBindings h F
    let s ← get
    unless hasFinalizer s.finalizers F.nodeDeletionFinalizer do
      let s ← get
      if hasOnlyFinalizer s.finalizers F.credentialsSecretsCleanupFinalizer then
        cleanUpCredentialsSecrets h F

/-- **`Deletion.CleanupCluster`**: one pass of the pipeline. -/
def cleanupCluster : DeletionM Unit := do
  cleanupConstraints h F
  cleanupInClusterResources h F
  afterInClusterResources h F

/-- `CleanupCluster` up to the in-cluster check. -/
def untilInClusterCheck : DeletionM Unit := do
  cleanupConstraints h F
  cleanupInClusterResources h F

/-- The state of a pass started on `fs` once `cleanupInClusterResources` returned. -/
def stateAfterInClusterResources (fs : List String) : PassState :=
  ((untilInClusterCheck h F).run.run ⟨fs, []⟩).2

theorem cleanupCluster_eq :
    cleanupCluster h F = untilInClusterCheck h F >>= fun _ => afterInClusterResources h F := by
  simp only [cleanupCluster, untilInClusterCheck, bind_assoc]

/-- The finalizers, result and record of a pass started on `finalizers`. -/
def runPass (finalizers : List String) : Except String Unit × PassState :=
  (cleanupCluster h F).run.run ⟨finalizers, []⟩

end Model

/-! ## A Hoare logic for `DeletionM` -/

/-- **Hoare triple**: run from any state satisfying `P`, `m` ends with a result and a
state satisfying `Q`. -/
def Triple (P : PassState → Prop) (m : DeletionM α) (Q : Except String α → PassState → Prop) :
    Prop :=
  ∀ s, P s → Q (m.run.run s).1 (m.run.run s).2

variable {P : PassState → Prop} {Q R : Except String α → PassState → Prop}

@[simp] theorem PassState.record_finalizers (s : PassState) (stage : Stage)
    (removes : List String) (ok : Bool) :
    (s.record stage removes ok).finalizers = removeFinalizer s.finalizers removes := rfl

@[simp] theorem get_bind_run (f : PassState → DeletionM α) (s : PassState) :
    ((get : DeletionM PassState) >>= f).run.run s = (f s).run.run s := rfl

@[simp] theorem pure_run (a : α) (s : PassState) :
    (pure a : DeletionM α).run.run s = (.ok a, s) := rfl

@[simp] theorem call_ok_bind_run (stage : Stage) (removes : List String) (a : α)
    (f : α → DeletionM β) (s : PassState) :
    (call stage removes (.ok a) >>= f).run.run s =
      (f a).run.run (s.record stage removes true) := rfl

@[simp] theorem wrapError_call_ok (msg : String) (stage : Stage) (removes : List String)
    (a : α) : wrapError msg (call stage removes (.ok a)) = call stage removes (.ok a) := rfl

@[simp] theorem cleanupIf_true (m : DeletionM Bool) : cleanupIf true m = m := rfl

@[simp] theorem cleanupIf_false (m : DeletionM Bool) : cleanupIf false m = pure false := rfl

@[simp] theorem Except.isOk_ok (a : α) : (Except.ok a : Except String α).isOk = true := rfl

@[simp] theorem call_run (stage : Stage) (removes : List String) (r : Except String α)
    (s : PassState) :
    (call stage removes r).run.run s = (r, s.record stage removes r.isOk) := rfl

theorem run_bind_of_ok {m : DeletionM α} {f : α → DeletionM β} {s s₁ : PassState} {a : α}
    (h : m.run.run s = (.ok a, s₁)) : (m >>= f).run.run s = (f a).run.run s₁ := by
  simp only [ExceptT.run_bind, StateT.run_bind, h]
  rfl

theorem run_bind_of_error {m : DeletionM α} {f : α → DeletionM β} {s s₁ : PassState}
    {e : String} (h : m.run.run s = (.error e, s₁)) :
    (m >>= f).run.run s = (.error e, s₁) := by
  simp only [ExceptT.run_bind, StateT.run_bind, h]
  rfl

theorem Triple.call {stage : Stage} {removes : List String} {r : Except String α}
    (h : ∀ s, P s → Q r (s.record stage removes r.isOk)) :
    Triple P (call stage removes r) Q := h

theorem Triple.pure {a : α} (h : ∀ s, P s → Q (.ok a) s) : Triple P (pure a) Q := h

theorem Triple.get {Q : Except String PassState → PassState → Prop}
    (h : ∀ s, P s → Q (.ok s) s) : Triple P get Q := h

theorem Triple.mono {Q' : Except String α → PassState → Prop} {m : DeletionM α}
    (hm : Triple P m Q) (h : ∀ r s, Q r s → Q' r s) : Triple P m Q' :=
  fun s hs => h _ _ (hm s hs)

theorem Triple.bind {Q : Except String β → PassState → Prop} {m : DeletionM α}
    {f : α → DeletionM β} (hm : Triple P m R) (hf : ∀ a, Triple (R (.ok a)) (f a) Q)
    (he : ∀ e s, R (.error e) s → Q (.error e) s) : Triple P (m >>= f) Q := by
  intro s hs
  have hR := hm s hs
  rcases hrun : m.run.run s with ⟨_ | a, s'⟩ <;> rw [hrun] at hR
  · rw [run_bind_of_error hrun]
    exact he _ s' hR
  · rw [run_bind_of_ok hrun]
    exact hf a s' hR

theorem Triple.ite {c : Prop} [Decidable c] {m₁ m₂ : DeletionM α}
    (h₁ : c → Triple P m₁ Q) (h₂ : ¬c → Triple P m₂ Q) : Triple P (if c then m₁ else m₂) Q := by
  by_cases hc : c
  · simpa only [if_pos hc] using h₁ hc
  · simpa only [if_neg hc] using h₂ hc

theorem Triple.wrapError {msg : String} {m : DeletionM α} (hm : Triple P m Q)
    (he : ∀ e s, Q (.error e) s → Q (.error (msg ++ e)) s) :
    Triple P (wrapError msg m) Q := by
  intro s hs
  have hQ := hm s hs
  show Q ((m.run.run s).1.mapError (msg ++ ·)) (m.run.run s).2
  rcases hrun : m.run.run s with ⟨r, s'⟩
  rw [hrun] at hQ
  cases r with
  | ok a => exact hQ
  | error e => exact he e s' hQ

/-- For an invariant, the bind rule needs no case for errors. -/
theorem Triple.keeps_bind {I : PassState → Prop} {m : DeletionM α} {f : α → DeletionM β}
    (hm : Triple I m fun _ => I) (hf : ∀ a, Triple I (f a) fun _ => I) :
    Triple I (m >>= f) fun _ => I :=
  Triple.bind hm hf fun _ _ h => h

theorem Triple.keeps_get_bind {I : PassState → Prop} {f : PassState → DeletionM α}
    (hf : ∀ s, Triple I (f s) fun _ => I) : Triple I (MonadState.get >>= f) fun _ => I :=
  Triple.keeps_bind (Triple.get fun _ hs => hs) hf

/-- A state predicate that every call keeps is kept by every helper. -/
theorem Triple.helper {I : PassState → Prop} {c : HelperCall α} {stage : Stage} {own : String}
    (h : ∀ s, I s → I (s.record stage (if c.removesOwnFinalizer then [own] else [])
      c.result.isOk)) :
    Triple I (c.run stage own) fun _ => I :=
  Triple.call h

end Kubermatic.ClusterDeletion
