import Kubermatic.ClusterDeletion.Ordering

/-!
# Resuming the deletion pipeline after a crash

The pipeline removes a finalizer only after the resources it guards are confirmed
gone, so a crash can leave any subset of its finalizers behind, each guarding
resources that are already deleted. The spec leaves open whether resuming from such a
state is always safe. This module answers it for one pass: once every guarded resource
is gone and every helper succeeds, a pass from any finalizer list removes all the
in-cluster, etcd-backup, node-deletion and cluster-role-binding finalizers, leaves the
finalizers of other controllers alone, and never ends with the credentials finalizer
as the only one left. No crash point leaves the pipeline stuck.

The proof evaluates the pass: the helpers' outcomes are fixed, and each branch the code
takes depends only on which finalizers are present.
-/

namespace Kubermatic.ClusterDeletion

/-- **The helpers of a cluster whose guarded resources are all gone.** Every call
succeeds, the load-balancer and volume cleanups delete nothing, the load balancers
are reported gone, and the etcd-backup, node and credentials helpers remove their own
finalizers. Whether the constraint, load-balancer, volume and load-balancer-check
helpers remove theirs is left open. -/
def allGone (constraints lbs volumes check : Bool) : Helpers where
  cleanupConstraints := ⟨constraints, .ok ()⟩
  cleanupLBs := ⟨lbs, .ok false⟩
  cleanupVolumes := ⟨volumes, .ok false⟩
  checkIfAllLoadbalancersAreGone := ⟨check, .ok true⟩
  cleanupEtcdBackupConfigs := ⟨true, .ok ()⟩
  cleanupNodes := ⟨true, .ok ()⟩
  cleanUpCredentialsSecrets := ⟨true, .ok ()⟩
  removeInClusterFinalizers := .ok ()
  removeClusterRoleBindingsFinalizer := .ok ()

/-- Every finalizer of the pipeline. -/
def Finalizers.all (F : Finalizers) : List String :=
  [F.kubermaticConstraintCleanupFinalizer, F.inClusterLBCleanupFinalizer,
    F.inClusterPVCleanupFinalizer, F.etcdBackupConfigCleanupFinalizer, F.nodeDeletionFinalizer,
    F.clusterRoleBindingsCleanupFinalizer, F.credentialsSecretsCleanupFinalizer]

section AllGone

variable (F : Finalizers) (c l v k : Bool)

theorem cleanupInClusterResources_allGone (s : PassState) :
    ((cleanupInClusterResources (allGone c l v k) F).run.run s).1 = .ok () ∧
    ((cleanupInClusterResources (allGone c l v k) F).run.run s).2.finalizers =
      removeFinalizer s.finalizers
        [F.inClusterLBCleanupFinalizer, F.inClusterPVCleanupFinalizer] := by
  unfold cleanupInClusterResources
  simp only [get_bind_run]
  cases hLB : hasFinalizer s.finalizers F.inClusterLBCleanupFinalizer <;>
  cases hPV : hasFinalizer s.finalizers F.inClusterPVCleanupFinalizer <;>
  simp only [hasFinalizer_eq_false, hasFinalizer_eq_true] at hLB hPV <;>
  simp [cleanupLBs, cleanupVolumes, checkIfAllLoadbalancersAreGone, HelperCall.run, allGone,
    tryRemoveFinalizer, hLB, hPV, removeFinalizer_ite_append_of_mem]
  exact (removeFinalizer_of_forall_not_mem (by simp [hLB, hPV])).symm

/-- What a pass leaves once the in-cluster finalizers are gone: the etcd-backup,
node-deletion and cluster-role-binding finalizers are removed, and the credentials
one too when it is then the only finalizer left. -/
def credentialsStep (F : Finalizers) (rest : List String) : List String :=
  if hasOnlyFinalizer rest F.credentialsSecretsCleanupFinalizer then
    removeFinalizer rest [F.credentialsSecretsCleanupFinalizer]
  else rest

theorem mem_credentialsStep {rest : List String} {f : String} :
    f ∈ credentialsStep F rest ↔ f ∈ rest ∧
      (hasOnlyFinalizer rest F.credentialsSecretsCleanupFinalizer = true →
        f ≠ F.credentialsSecretsCleanupFinalizer) := by
  unfold credentialsStep
  split <;> simp_all

theorem afterInClusterResources_allGone (s : PassState)
    (hnone : hasAnyFinalizer s.finalizers
      [F.inClusterLBCleanupFinalizer, F.inClusterPVCleanupFinalizer] = false) :
    ((afterInClusterResources (allGone c l v k) F).run.run s).1 = .ok () ∧
    ((afterInClusterResources (allGone c l v k) F).run.run s).2.finalizers =
      credentialsStep F (removeFinalizer s.finalizers [F.etcdBackupConfigCleanupFinalizer,
        F.nodeDeletionFinalizer, F.clusterRoleBindingsCleanupFinalizer]) := by
  unfold afterInClusterResources credentialsStep
  simp only [get_bind_run, hnone, cleanupEtcdBackupConfigs, cleanupNodes,
    cleanupClusterRoleBindings, cleanUpCredentialsSecrets, HelperCall.run, allGone,
    tryRemoveFinalizer, Except.isOk_ok, if_true, Bool.false_eq_true, if_false,
    call_ok_bind_run, PassState.record_finalizers, removeFinalizer_removeFinalizer,
    List.cons_append, List.nil_append, hasFinalizer_eq_true, mem_removeFinalizer,
    List.mem_cons, true_or, or_true, not_true, and_false]
  split <;> simp

/-- **A pass over resources that are all gone**, evaluated: it succeeds, and leaves
the finalizers with the constraint finalizer (if its helper removed it) and the
in-cluster, etcd-backup, node-deletion and cluster-role-binding ones removed, the
credentials finalizer too when it is then the last. -/
theorem runPass_allGone (fs : List String) :
    (runPass (allGone c l v k) F fs).1 = .ok () ∧
    (runPass (allGone c l v k) F fs).2.finalizers =
      credentialsStep F (removeFinalizer fs
        ((if c then [F.kubermaticConstraintCleanupFinalizer] else []) ++
          [F.inClusterLBCleanupFinalizer, F.inClusterPVCleanupFinalizer,
            F.etcdBackupConfigCleanupFinalizer, F.nodeDeletionFinalizer,
            F.clusterRoleBindingsCleanupFinalizer])) := by
  unfold runPass cleanupCluster
  set s₁ := PassState.record ⟨fs, []⟩ .cleanupConstraints
    (if c then [F.kubermaticConstraintCleanupFinalizer] else []) true
  have h₁ : (cleanupConstraints (allGone c l v k) F).run.run ⟨fs, []⟩ = (.ok (), s₁) := rfl
  rw [run_bind_of_ok h₁]
  obtain ⟨hok₂, hfin₂⟩ := cleanupInClusterResources_allGone F c l v k s₁
  rcases hrun : (cleanupInClusterResources (allGone c l v k) F).run.run s₁ with ⟨_ | _, s₂⟩ <;>
    rw [hrun] at hok₂ hfin₂ <;> dsimp only at hok₂ hfin₂
  · cases hok₂
  rw [run_bind_of_ok hrun]
  obtain ⟨hok₃, hfin₃⟩ := afterInClusterResources_allGone F c l v k s₂ (by simp [hfin₂])
  refine ⟨hok₃, hfin₃.trans ?_⟩
  simp [hfin₂, s₁, List.append_assoc]

end AllGone

/-- **No crash point leaves the pipeline stuck.** From every finalizer list, a pass
over resources that are all gone, whatever the helpers that may keep their own
finalizer do, succeeds; removes every in-cluster, etcd-backup, node-deletion and
cluster-role-binding finalizer; never ends with the credentials finalizer as the only
one; and leaves every finalizer the pipeline does not own as it was. -/
theorem cleanupCluster_allGone_unstuck (F : Finalizers) (c l v k : Bool) (fs : List String) :
    (runPass (allGone c l v k) F fs).1 = .ok () ∧
    (∀ f ∈ [F.inClusterLBCleanupFinalizer, F.inClusterPVCleanupFinalizer,
        F.etcdBackupConfigCleanupFinalizer, F.nodeDeletionFinalizer,
        F.clusterRoleBindingsCleanupFinalizer], f ∉ (runPass (allGone c l v k) F fs).2.finalizers) ∧
    ((∀ f ∈ (runPass (allGone c l v k) F fs).2.finalizers,
        f = F.credentialsSecretsCleanupFinalizer) →
      F.credentialsSecretsCleanupFinalizer ∉ (runPass (allGone c l v k) F fs).2.finalizers) ∧
    (∀ f, f ∉ F.all → (f ∈ (runPass (allGone c l v k) F fs).2.finalizers ↔ f ∈ fs)) := by
  obtain ⟨hok, hfin⟩ := runPass_allGone F c l v k fs
  rw [hfin]
  refine ⟨hok, fun f hf hmem => ?_, fun honly hmem => ?_, fun f hf => ?_⟩
  · exact ((mem_removeFinalizer.mp (mem_credentialsStep F |>.mp hmem).1).2
      (List.mem_append_right _ hf))
  · obtain ⟨hrest, hnot⟩ := (mem_credentialsStep F).mp hmem
    refine hnot (hasOnlyFinalizer_eq_true.mpr ⟨hrest, fun f hf => ?_⟩) rfl
    by_contra hne
    exact hne (honly f ((mem_credentialsStep F).mpr ⟨hf, fun _ => hne⟩))
  · simp only [Finalizers.all, List.mem_cons, List.not_mem_nil, or_false, not_or] at hf
    obtain ⟨h₁, h₂, h₃, h₄, h₅, h₆, h₇⟩ := hf
    simp only [mem_credentialsStep, mem_removeFinalizer, List.mem_append, List.mem_cons,
      List.not_mem_nil, or_false, List.mem_ite_nil_right, List.mem_singleton, h₁, h₂, h₃, h₄, h₅,
      h₆, h₇, and_false, or_self, not_false_eq_true, and_true, ne_eq, imp_true_iff]

/-- The pass over every finalizer of the pipeline, with every helper removing its own. -/
theorem cleanupCluster_allGone_unstuck_every_finalizer :
    (runPass (allGone true true true true) sampleFinalizers sampleFinalizers.all).1 = .ok () ∧
    (∀ f ∈ ["lbs", "volumes", "etcd-backups", "nodes", "cluster-role-bindings"],
      f ∉ (runPass (allGone true true true true) sampleFinalizers sampleFinalizers.all).2.finalizers) ∧
    ((∀ f ∈ (runPass (allGone true true true true) sampleFinalizers sampleFinalizers.all).2.finalizers,
        f = "credentials") →
      "credentials" ∉ (runPass (allGone true true true true) sampleFinalizers
        sampleFinalizers.all).2.finalizers) ∧
    (∀ f, f ∉ sampleFinalizers.all →
      (f ∈ (runPass (allGone true true true true) sampleFinalizers sampleFinalizers.all).2.finalizers ↔
        f ∈ sampleFinalizers.all)) :=
  cleanupCluster_allGone_unstuck sampleFinalizers true true true true sampleFinalizers.all

end Kubermatic.ClusterDeletion
