import Kubermatic.ClusterController.Invariants
import Kubermatic.ClusterDeletion.Resume

/-!
# Deleting a cluster through the reconciler

A cluster with a deletion timestamp is handed to the deletion pipeline of
`Kubermatic.ClusterDeletion`, one pass per reconciliation, and the API server removes it
once its finalizer list is empty. This module connects the two models:

* `reconcile_runs_deletion_pass`: after a successful health sync of a deleting cluster,
  `reconcile` runs one pass over the copy's finalizers and nothing else, returns the
  ten-second requeue with the pass's error, gets the pass's finalizer removals stored in
  order, and leaves the stored finalizers where the pass ends;
* `Reconcile_removes_all_finalizers`: end to end, a deleting cluster that carries only the
  pipeline's finalizers, whose guarded resources are all gone, and whose health sync only
  writes its status, has no finalizer left after one reconciliation, so the API server
  removes it.

The second result goes through `reconcile_runs_deletion_pass` and, for the pass, through
`ClusterDeletion.runPass_allGone`.
-/

namespace Kubermatic.ClusterController

open ClusterDeletion (Helpers Finalizers runPass allGone credentialsStep)

variable {env : Env} {s s₁ s₂ : State}

/-! ## One pass of the pipeline -/

/-- The patches of a pass, applied to a stored cluster with the finalizers the pass
started on, store the finalizers its last call left. -/
theorem foldl_accept_passPatches_stored (c : Cluster) (calls : List ClusterDeletion.Call) :
    ∀ (fs : List String) (s : State), s.stored.finalizers = fs →
      ((passPatches c fs calls).foldl State.accept s).stored =
        s.stored.withFinalizers ((calls.map ClusterDeletion.Call.after).getLastD fs) := by
  induction calls with
  | nil =>
    intro fs s hfs
    simp [passPatches, ← hfs]
  | cons call calls ih =>
    intro fs s hfs
    unfold passPatches
    split
    · next heq => rw [ih fs s hfs, List.map_cons, List.getLastD_cons, heq]
    · next hne =>
      have hstored : (s.accept ⟨.object, c.withFinalizers fs, c.withFinalizers call.after⟩).stored =
          s.stored.withFinalizers call.after := Patch.apply_withFinalizers _ _ hne
      rw [List.foldl_cons, ih call.after _ (by rw [hstored]; rfl), hstored, List.map_cons,
        List.getLastD_cons, Cluster.withFinalizers_withFinalizers]

/-- The pass the reconciler runs on a copy whose finalizers are the stored ones leaves
the stored finalizers where the pass ends. -/
theorem cleanupCluster_run_stored (hfs : s.stored.finalizers = s.cluster.finalizers) :
    ((cleanupCluster env).run s).2.stored =
      s.stored.withFinalizers
        (runPass env.deletionHelpers env.finalizers s.cluster.finalizers).2.finalizers := by
  rw [cleanupCluster_run, ClusterDeletion.runPass_finalizers]
  exact foldl_accept_passPatches_stored _ _ _ s hfs

/-- **A deleting cluster gets one pass of the pipeline and a ten-second requeue.** After a
successful health sync of a deleting cluster, `reconcile` returns `RequeueAfter` ten
seconds with the pass's error; the patches it gets stored are the pass's finalizer
removals, in order; and when the copy's finalizers are the stored ones, the stored
finalizers end where the pass ends. `reconcileCluster` plays no part. -/
theorem reconcile_runs_deletion_pass (hsync : (env.syncHealth.run env).run s = (.ok (), s₁))
    (hdel : s₁.cluster.deletionTimestamp = true) :
    ((reconcile env).run s).1 = (some { requeueAfter := 10 },
      errorOf (runPass env.deletionHelpers env.finalizers s₁.cluster.finalizers).1) ∧
    ((reconcile env).run s).2.patches = s₁.patches ++ passPatches s₁.cluster s₁.cluster.finalizers
      (runPass env.deletionHelpers env.finalizers s₁.cluster.finalizers).2.calls ∧
    (s₁.stored.finalizers = s₁.cluster.finalizers →
      ((reconcile env).run s).2.stored.finalizers =
        (runPass env.deletionHelpers env.finalizers s₁.cluster.finalizers).2.finalizers) := by
  rw [reconcile_run_of_deleting hsync hdel]
  refine ⟨rfl, by rw [cleanupCluster_run, foldl_accept_patches], fun hfs => ?_⟩
  simp [cleanupCluster_run_stored hfs]

/-- The sample cluster, being deleted. -/
def deletingCluster : Cluster := { sampleCluster with deletionTimestamp := true }

/-- The seed API storing the deleting cluster, with the reconciler's copy fetched. -/
def deletingState : State := ⟨deletingCluster, deletingCluster, []⟩

/-- The sample environment for a cluster whose guarded resources are all gone. -/
def allGoneEnv : Env := { sampleEnv with deletionHelpers := allGone true false false false }

/-- The deleting sample cluster is requeued in ten seconds and loses both finalizers. -/
theorem reconcile_runs_deletion_pass_sample :
    ((reconcile allGoneEnv).run deletingState).1.1 = some { requeueAfter := 10 } ∧
    ((reconcile allGoneEnv).run deletingState).2.stored.finalizers = [] :=
  have h := @reconcile_runs_deletion_pass allGoneEnv deletingState _ rfl rfl
  ⟨congrArg Prod.fst h.1, (h.2.2 rfl).trans rfl⟩

/-! ## A cluster whose resources are all gone -/

/-- **A call tree that only reads the cluster and updates its status.** -/
inductive Program.OnlyStatus : Program α → Prop
  | done (result : Except String α) : Program.OnlyStatus (.done result)
  | read {k : Cluster → Program α} (hk : ∀ c, Program.OnlyStatus (k c)) :
      Program.OnlyStatus (.read k)
  | updateClusterStatus {modify : Cluster → Cluster} {k : Option String → Program α}
      (hk : ∀ e, Program.OnlyStatus (k e)) : Program.OnlyStatus (.updateClusterStatus modify k)

/-- The copy is the stored cluster, whose finalizers are `fs` and whose deletion timestamp
is `deleting`. -/
structure InSync (fs : List String) (deleting : Bool) (s : State) : Prop where
  cluster_eq : s.cluster = s.stored
  finalizers_eq : s.stored.finalizers = fs
  deletionTimestamp_eq : s.stored.deletionTimestamp = deleting

theorem InSync.accept_status {fs : List String} {deleting : Bool} (h : InSync fs deleting s)
    (c : Cluster) : InSync fs deleting (s.accept ⟨.status, s.stored, c⟩) :=
  ⟨rfl, by simp [h.finalizers_eq], by simp [h.deletionTimestamp_eq]⟩

/-- With every patch accepted, a call tree that only writes the status keeps the copy on
the stored cluster and leaves its finalizers and deletion timestamp alone. -/
theorem Program.OnlyStatus.inSync (haccept : ∀ p, env.refuses p = none) {prog : Program α}
    (hp : prog.OnlyStatus) {fs : List String} {deleting : Bool} :
    ∀ s, InSync fs deleting s → InSync fs deleting ((prog.run env).run s).2 := by
  induction hp with
  | done r => exact fun _ hs => hs
  | read _ ih => exact fun s hs => ih s.cluster s hs
  | @updateClusterStatus modify k _ ih =>
    intro s hs
    show InSync fs deleting
      ((ClusterController.updateClusterStatus env modify >>= fun r => (k r).run env).run s).2
    rw [run_bind_of_eq (updateClusterStatus_run_of_accepts (haccept _))]
    exact ih none _ (hs.accept_status _)

theorem defaultNamespaceName_controlPlaneVersion (namespaceName : String → String)
    (c : Cluster) : (c.defaultNamespaceName namespaceName).status.controlPlaneVersion =
      c.status.controlPlaneVersion := by
  unfold Cluster.defaultNamespaceName
  split <;> rfl

/-- A cluster carrying only the pipeline's finalizers has none left after a pass over
resources that are all gone in which the constraint helper removes its own. -/
theorem credentialsStep_allGone_eq_nil {F : Finalizers} {fs : List String}
    (hfs : ∀ f ∈ fs, f ∈ F.all) :
    credentialsStep F (removeFinalizer fs ([F.kubermaticConstraintCleanupFinalizer] ++
      [F.inClusterLBCleanupFinalizer, F.inClusterPVCleanupFinalizer,
        F.etcdBackupConfigCleanupFinalizer, F.nodeDeletionFinalizer,
        F.clusterRoleBindingsCleanupFinalizer])) = [] := by
  have hcred : ∀ g ∈ removeFinalizer fs ([F.kubermaticConstraintCleanupFinalizer] ++
      [F.inClusterLBCleanupFinalizer, F.inClusterPVCleanupFinalizer,
        F.etcdBackupConfigCleanupFinalizer, F.nodeDeletionFinalizer,
        F.clusterRoleBindingsCleanupFinalizer]), g = F.credentialsSecretsCleanupFinalizer := by
    intro g hg
    obtain ⟨hg, hout⟩ := mem_removeFinalizer.mp hg
    have hall := hfs g hg
    simp only [Finalizers.all, List.mem_cons, List.mem_append, List.not_mem_nil, or_false,
      not_or] at hall hout
    tauto
  refine List.eq_nil_iff_forall_not_mem.mpr fun f hf => ?_
  obtain ⟨hrest, hnot⟩ := (ClusterDeletion.mem_credentialsStep F).mp hf
  exact hnot (hasOnlyFinalizer_eq_true.mpr ⟨hcred f hrest ▸ hrest, hcred⟩) (hcred f hrest)

/-- **A deleting cluster whose resources are all gone is removed after one
reconciliation.** Suppose the seed API accepts every patch, the health sync only reads the
cluster and writes its status and succeeds, and every resource the pipeline guards is
gone (`allGone`, with the constraint helper removing its own finalizer). Then a deleting
cluster with a control-plane version that carries only the pipeline's finalizers, and
that is neither skipped nor held back once its namespace name is stamped, is requeued in
ten seconds with no error and has no finalizer left: the API server removes it. -/
theorem Reconcile_removes_all_finalizers {l v k : Bool} (haccept : ∀ p, env.refuses p = none)
    (hsync : env.syncHealth.OnlyStatus) (hsyncOk : ∀ s, ((env.syncHealth.run env).run s).1 = .ok ())
    (hhelpers : env.deletionHelpers = allGone true l v k)
    (hdel : s.stored.deletionTimestamp = true)
    (hversion : s.stored.status.controlPlaneVersion ≠ "")
    (hskip : env.skips (s.stored.defaultNamespaceName env.namespaceName) = false)
    (havail : env.clusterAvailableForReconciling (s.stored.defaultNamespaceName env.namespaceName) =
      (true, none))
    (hfs : ∀ f ∈ s.stored.finalizers, f ∈ env.finalizers.all) :
    ((Reconcile env .found).run s).1 = ({ requeueAfter := 10 }, none) ∧
    ((Reconcile env .found).run s).2.stored.finalizers = [] := by
  -- the namespace stamp
  set c₀ := s.stored.defaultNamespaceName env.namespaceName
  have hc₀ : s.stored.withStatus c₀.status = c₀ :=
    Cluster.statusOnly_defaultNamespaceName env.namespaceName s.stored
  set s₁ := ({ s with cluster := s.stored } : State).accept ⟨.status, s.stored, c₀⟩
  have hstamp : (reconcileClusterStatus env).run { s with cluster := s.stored } = (none, s₁) :=
    updateClusterStatus_run_of_accepts (haccept _)
  have hs₁ : s₁.cluster = c₀ := by simp [s₁, hc₀]
  have hsync₁ : InSync s.stored.finalizers true s₁ :=
    ⟨rfl, by simp [s₁], by simp [s₁, hdel]⟩
  -- the health sync
  set s₂ := ((env.syncHealth.run env).run s₁).2
  have hsync₂ : InSync s.stored.finalizers true s₂ := hsync.inSync haccept s₁ hsync₁
  have hrun₂ : (env.syncHealth.run env).run s₁ = (.ok (), s₂) := Prod.ext (hsyncOk s₁) rfl
  -- the pass
  have hpass := ClusterDeletion.runPass_allGone env.finalizers true l v k s.stored.finalizers
  simp only [if_true] at hpass
  rw [credentialsStep_allGone_eq_nil hfs, ← hhelpers] at hpass
  have hfin₂ : s₂.cluster.finalizers = s.stored.finalizers := by
    rw [hsync₂.cluster_eq, hsync₂.finalizers_eq]
  have hstored := @cleanupCluster_run_stored env s₂ (hsync₂.finalizers_eq.trans hfin₂.symm)
  rw [hfin₂, hpass.2] at hstored
  -- the wrapper's condition
  have hinner : (reconcileIfAvailable env).run s₁ =
      ((some { requeueAfter := 10 }, none), ((cleanupCluster env).run s₂).2) := by
    rw [reconcileIfAvailable_run_of_available (hs₁ ▸ havail), reconcile_run_of_deleting hrun₂
      (by rw [hsync₂.cluster_eq, hsync₂.deletionTimestamp_eq]), cleanupCluster_run, hfin₂,
      hpass.1]
    rfl
  have hwrap := clusterReconcileWrapper_run (hs₁ ▸ hskip) hinner
    (updateClusterStatus_run_of_accepts (haccept _))
  rw [Reconcile_run_of_ready hstamp (by rwa [hs₁, defaultNamespaceName_controlPlaneVersion])
    hwrap]
  exact ⟨rfl, by simp [hstored]⟩

/-- The deleting sample cluster, whose finalizers are the node and credentials ones, is
left with none. -/
theorem Reconcile_removes_all_finalizers_sample :
    ((Reconcile allGoneEnv .found).run deletingState).1 = ({ requeueAfter := 10 }, none) ∧
    ((Reconcile allGoneEnv .found).run deletingState).2.stored.finalizers = [] :=
  @Reconcile_removes_all_finalizers allGoneEnv deletingState false false false (fun _ => rfl)
    (.done _) (fun _ => rfl) rfl rfl (by decide) rfl rfl (by decide)

end Kubermatic.ClusterController
