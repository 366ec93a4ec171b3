import Kubermatic.ClusterDeletion.Pass

/-!
# Finalizer ordering of the deletion pipeline

The spec's finalizer ordering invariant: over every sequence of deletion passes, the
credentials-secrets finalizer is removed only when it is the last finalizer on the
cluster. It rests on three facts about one pass, which this module proves for every
finalizer list and every outcome of the stage helpers:

* the pass stops after the in-cluster stage while a load-balancer or volume finalizer
  is still there, so none of the later stages run;
* the credentials helper is called only while its finalizer is the only one left;
* after an error no further call is made.

What a single call may do is said once, by `Call.Legal`: it removes only the
finalizers its stage owns, and the credentials call is made only under its guard.
`Records` says of a program that every call it records is legal, and that all its
calls but the last succeeded; it has one rule per construct of `DeletionM`, and the
pipeline's functions are proved to satisfy it one by one, following their code. The
run-level invariant then needs nothing but `Call.Legal`: the only call that can take
the credentials finalizer off is the guarded one.
-/

namespace Kubermatic.ClusterDeletion

variable {F : Finalizers}

/-- The finalizers a call of each stage may remove: the helper's own, or those its
`TryRemoveFinalizer` names. -/
def Finalizers.removableBy (F : Finalizers) : Stage → List String
  | .cleanupConstraints => [F.kubermaticConstraintCleanupFinalizer]
  | .cleanupLBs => [F.inClusterLBCleanupFinalizer]
  | .cleanupVolumes => [F.inClusterPVCleanupFinalizer]
  | .checkIfAllLoadbalancersAreGone => [F.inClusterLBCleanupFinalizer]
  | .removeInClusterFinalizers => [F.inClusterLBCleanupFinalizer, F.inClusterPVCleanupFinalizer]
  | .cleanupEtcdBackupConfigs => [F.etcdBackupConfigCleanupFinalizer]
  | .cleanupNodes => [F.nodeDeletionFinalizer]
  | .cleanupClusterRoleBindings => [F.clusterRoleBindingsCleanupFinalizer]
  | .cleanUpCredentialsSecrets => [F.credentialsSecretsCleanupFinalizer]

/-- Only the credentials stage owns the credentials finalizer. -/
theorem Finalizers.credentials_mem_removableBy (F : Finalizers) (st : Stage) :
    F.credentialsSecretsCleanupFinalizer ∈ F.removableBy st ↔
      st = .cleanUpCredentialsSecrets := by
  obtain ⟨⟨-, -, -, -, -, h₁⟩, ⟨-, -, -, -, h₂⟩, ⟨-, -, -, h₃⟩, ⟨-, -, h₄⟩, ⟨-, h₅⟩, h₆⟩ :=
    by simpa [List.nodup_cons] using F.nodup
  cases st <;> simp [removableBy, Ne.symm h₁, Ne.symm h₂, Ne.symm h₃, Ne.symm h₄,
    Ne.symm h₅, Ne.symm h₆]

/-- The stages up to the in-cluster check, and the stages after it. -/
def earlyStages : List Stage :=
  [.cleanupConstraints, .cleanupLBs, .cleanupVolumes, .checkIfAllLoadbalancersAreGone,
    .removeInClusterFinalizers]

def laterStages : List Stage :=
  [.cleanupEtcdBackupConfigs, .cleanupNodes, .cleanupClusterRoleBindings,
    .cleanUpCredentialsSecrets]

/-- **The calls a pass can make.** A call removes only finalizers its stage owns,
keeping the others in order, and the credentials are cleaned up only while their
finalizer is the last one left. -/
structure Call.Legal (F : Finalizers) (c : Call) : Prop where
  removes : ∃ rm, rm ⊆ F.removableBy c.stage ∧ c.after = removeFinalizer c.before rm
  guard : c.stage = .cleanUpCredentialsSecrets →
    hasOnlyFinalizer c.before F.credentialsSecretsCleanupFinalizer = true

/-- **A legal call takes the credentials finalizer off only when it is the last one.** -/
theorem Call.Legal.credentials_removed {c : Call} (hc : c.Legal F)
    (hb : F.credentialsSecretsCleanupFinalizer ∈ c.before)
    (ha : F.credentialsSecretsCleanupFinalizer ∉ c.after) :
    hasOnlyFinalizer c.before F.credentialsSecretsCleanupFinalizer = true := by
  obtain ⟨⟨rm, hrm, hafter⟩, hguard⟩ := hc
  refine hguard ((F.credentials_mem_removableBy _).mp (hrm ?_))
  by_contra hnot
  exact ha (hafter ▸ mem_removeFinalizer.mpr ⟨hb, hnot⟩)

/-! ## What a program records -/

/-- **What a program records**: run from a state satisfying `P`, it appends to the
record only legal calls of the given stages; all of them but the last succeeded, and
all of them did when the program succeeds. -/
def Records (F : Finalizers) (stages : List Stage) (P : PassState → Prop) (m : DeletionM α) :
    Prop :=
  ∀ s, P s → ∃ L, (m.run.run s).2.calls = s.calls ++ L ∧
    (∀ c ∈ L, c.Legal F ∧ c.stage ∈ stages) ∧
    (∀ c ∈ L.dropLast, c.ok = true) ∧
    ((m.run.run s).1.isOk = true → ∀ c ∈ L, c.ok = true)

variable {S : List Stage} {P : PassState → Prop}

theorem Records.pure {a : α} : Records F S P (pure a : DeletionM α) :=
  fun s _ => ⟨[], by simp, by simp, by simp, by simp⟩

theorem Records.get_bind {f : PassState → DeletionM α}
    (hf : ∀ s₀, Records F S (fun s => s = s₀ ∧ P s) (f s₀)) : Records F S P (get >>= f) :=
  fun s hs => hf s s ⟨rfl, hs⟩

theorem Records.ite {c : Prop} [Decidable c] {m₁ m₂ : DeletionM α}
    (h₁ : c → Records F S P m₁) (h₂ : ¬c → Records F S P m₂) :
    Records F S P (if c then m₁ else m₂) := by
  by_cases hc : c
  · simpa only [if_pos hc] using h₁ hc
  · simpa only [if_neg hc] using h₂ hc

/-- Dropping the last call of `L₁ ++ L₂` leaves calls of `L₁` and calls of `L₂` but
its last. -/
theorem mem_dropLast_append {L₁ L₂ : List Call} {c : Call} (hc : c ∈ (L₁ ++ L₂).dropLast) :
    c ∈ L₁ ∨ c ∈ L₂.dropLast := by
  rcases L₂.eq_nil_or_concat with rfl | ⟨L, b, rfl⟩
  · exact .inl (List.dropLast_subset _ (by simpa using hc))
  · simp only [List.concat_eq_append, ← List.append_assoc, List.dropLast_concat] at hc ⊢
    simpa using hc

theorem Records.bind {m : DeletionM α} {f : α → DeletionM β} (hm : Records F S P m)
    (hf : ∀ a, Records F S (fun _ => True) (f a)) : Records F S P (m >>= f) := by
  intro s hs
  obtain ⟨L₁, hcalls₁, hlegal₁, hlast₁, hok₁⟩ := hm s hs
  rcases hrun : m.run.run s with ⟨_ | a, s₁⟩ <;> rw [hrun] at hcalls₁ hok₁
  · rw [run_bind_of_error hrun]
    exact ⟨L₁, hcalls₁, hlegal₁, hlast₁, nofun⟩
  · rw [run_bind_of_ok hrun]
    obtain ⟨L₂, hcalls₂, hlegal₂, hlast₂, hok₂⟩ := hf a s₁ trivial
    have hall₁ := hok₁ rfl
    refine ⟨L₁ ++ L₂, by rw [hcalls₂, hcalls₁, List.append_assoc], ?_, ?_, ?_⟩
    · simpa only [List.mem_append] using fun c hc => hc.elim (hlegal₁ c) (hlegal₂ c)
    · exact fun c hc => (mem_dropLast_append hc).elim (hall₁ c) (hlast₂ c)
    · simpa only [List.mem_append] using fun hok c hc => hc.elim (hall₁ c) (hok₂ hok c)

theorem Records.call {stage : Stage} {removes : List String} {r : Except String α}
    (hrm : removes ⊆ F.removableBy stage) (hS : stage ∈ S)
    (hguard : stage = .cleanUpCredentialsSecrets →
      ∀ s, P s → hasOnlyFinalizer s.finalizers F.credentialsSecretsCleanupFinalizer = true) :
    Records F S P (call stage removes r) := fun s hs =>
  ⟨[⟨stage, s.finalizers, removeFinalizer s.finalizers removes, r.isOk⟩], rfl,
    by simpa using ⟨⟨⟨removes, hrm, rfl⟩, fun hst => hguard hst s hs⟩, hS⟩, by simp,
    by simp⟩

theorem Records.wrapError {msg : String} {m : DeletionM α} (hm : Records F S P m) :
    Records F S P (wrapError msg m) := by
  intro s hs
  obtain ⟨L, hcalls, hlegal, hlast, hok⟩ := hm s hs
  refine ⟨L, hcalls, hlegal, hlast, fun h => hok ?_⟩
  revert h
  show ((m.run.run s).1.mapError (msg ++ ·)).isOk = true → _
  cases (m.run.run s).1 <;> exact id

theorem Records.mono {S' : List Stage} {m : DeletionM α} (hm : Records F S P m)
    (hS : S ⊆ S') : Records F S' P m := fun s hs =>
  (hm s hs).imp fun _ ⟨hcalls, hlegal, hlast, hok⟩ =>
    ⟨hcalls, fun c hc => ⟨(hlegal c hc).1, hS (hlegal c hc).2⟩, hlast, hok⟩

/-- A stage helper other than the credentials one. -/
theorem Records.helper {c : HelperCall α} {stage : Stage} {own : String}
    (hown : own ∈ F.removableBy stage) (hS : stage ∈ S)
    (hne : stage ≠ .cleanUpCredentialsSecrets) : Records F S P (c.run stage own) :=
  Records.call (by split <;> simp [hown]) hS (absurd · hne)

theorem Records.tryRemoveFinalizer {stage : Stage} {r : Except String Unit}
    {names : List String} (hnames : names ⊆ F.removableBy stage) (hS : stage ∈ S)
    (hne : stage ≠ .cleanUpCredentialsSecrets) :
    Records F S P (tryRemoveFinalizer stage r names) :=
  Records.call (by split <;> simp [hnames]) hS (absurd · hne)

/-! ## The pipeline's functions -/

section Functions

variable (h : Helpers) (F)

theorem cleanupInClusterResources_records :
    Records F earlyStages P (cleanupInClusterResources h F) := by
  unfold cleanupInClusterResources
  refine Records.get_bind fun s₀ => ?_
  dsimp only
  refine Records.ite (fun _ => Records.pure) fun _ => Records.bind ?_ fun _ => ?_
  · exact Records.ite (fun _ => (Records.helper (by simp [Finalizers.removableBy])
      (by simp [earlyStages]) (by simp)).wrapError) fun _ => Records.pure
  refine Records.bind (Records.ite (fun _ => (Records.helper
    (by simp [Finalizers.removableBy]) (by simp [earlyStages]) (by simp)).wrapError)
    fun _ => Records.pure) fun _ => ?_
  refine Records.ite (fun _ => Records.pure) fun _ => Records.bind
    (Records.helper (by simp [Finalizers.removableBy]) (by simp [earlyStages])
      (by simp)).wrapError fun _ => ?_
  exact Records.ite (fun _ => Records.pure) fun _ => Records.tryRemoveFinalizer
    (by simp [Finalizers.removableBy]) (by simp [earlyStages]) (by simp)

theorem afterInClusterResources_records :
    Records F laterStages P (afterInClusterResources h F) := by
  unfold afterInClusterResources
  refine Records.get_bind fun _ => Records.ite (fun _ => Records.pure) fun _ => ?_
  refine Records.bind (Records.helper (by simp [Finalizers.removableBy])
    (by simp [laterStages]) (by simp)) fun _ => ?_
  refine Records.bind (Records.helper (by simp [Finalizers.removableBy])
    (by simp [laterStages]) (by simp)) fun _ => ?_
  refine Records.bind (Records.tryRemoveFinalizer (by simp [Finalizers.removableBy])
    (by simp [laterStages]) (by simp)) fun _ => ?_
  refine Records.get_bind fun _ => Records.ite (fun _ => Records.pure) fun _ => ?_
  refine Records.get_bind fun s₂ => Records.ite (fun hs₂ => ?_) fun _ => Records.pure
  exact Records.call (by split <;> simp [Finalizers.removableBy]) (by simp [laterStages])
    fun _ s hs => hs.1 ▸ hs₂

/-- The stages in the order a pass calls them, with the credentials cleanup last. -/
theorem cleanupCluster_records :
    Records F (earlyStages ++ laterStages) P (cleanupCluster h F) :=
  Records.bind ((Records.helper (by simp [Finalizers.removableBy]) (by simp [earlyStages])
    (by simp)).mono (List.subset_append_left _ _)) fun _ =>
  Records.bind ((cleanupInClusterResources_records F h).mono (List.subset_append_left _ _))
    fun _ => (afterInClusterResources_records F h).mono (List.subset_append_right _ _)

theorem untilInClusterCheck_records : Records F earlyStages P (untilInClusterCheck h F) :=
  Records.bind (Records.helper (by simp [Finalizers.removableBy]) (by simp [earlyStages])
    (by simp)) fun _ => cleanupInClusterResources_records F h

/-- While a load-balancer or volume finalizer is on the cluster, the rest of the pass
does nothing. -/
theorem afterInClusterResources_run_of_hasAny {s : PassState}
    (hany : hasAnyFinalizer s.finalizers
      [F.inClusterLBCleanupFinalizer, F.inClusterPVCleanupFinalizer] = true) :
    (afterInClusterResources h F).run.run s = (.ok (), s) := by
  show (if _ then pure () else _ : DeletionM Unit).run.run s = _
  rw [if_pos hany]
  rfl

end Functions

/-! ## The finalizers a pass ends on -/

section Keeps

variable (h : Helpers) (F) {I : PassState → Prop}
  (hI : ∀ s stage removes ok, I s → I (s.record stage removes ok))
include hI

theorem Triple.keeps_call {stage : Stage} {removes : List String} {r : Except String α} :
    Triple I (ClusterDeletion.call stage removes r) fun _ => I :=
  Triple.call fun s hs => hI s _ _ _ hs

theorem cleanupInClusterResources_keeps : Triple I (cleanupInClusterResources h F) fun _ => I := by
  have hpure : Triple I (pure () : DeletionM Unit) fun _ => I := Triple.pure fun _ hs => hs
  have hcall {α} {stage : Stage} {removes : List String} {r : Except String α} :
      Triple I (call stage removes r) fun _ => I := Triple.keeps_call hI
  unfold cleanupInClusterResources
  refine Triple.keeps_get_bind fun _ => ?_
  dsimp only
  refine Triple.ite (fun _ => hpure) fun _ => Triple.keeps_bind ?_ fun _ => ?_
  · exact Triple.ite (fun _ => Triple.wrapError hcall fun _ _ h => h) fun _ => Triple.pure fun _ hs => hs
  refine Triple.keeps_bind (Triple.ite (fun _ => Triple.wrapError hcall fun _ _ h => h)
    fun _ => Triple.pure fun _ hs => hs) fun _ => ?_
  refine Triple.ite (fun _ => hpure) fun _ =>
    Triple.keeps_bind (Triple.wrapError hcall fun _ _ h => h) fun _ => ?_
  exact Triple.ite (fun _ => hpure) fun _ => hcall

theorem afterInClusterResources_keeps : Triple I (afterInClusterResources h F) fun _ => I := by
  have hpure : Triple I (pure () : DeletionM Unit) fun _ => I := Triple.pure fun _ hs => hs
  have hcall {α} {stage : Stage} {removes : List String} {r : Except String α} :
      Triple I (call stage removes r) fun _ => I := Triple.keeps_call hI
  unfold afterInClusterResources
  refine Triple.keeps_get_bind fun _ => Triple.ite (fun _ => hpure) fun _ => ?_
  refine Triple.keeps_bind hcall fun _ => Triple.keeps_bind hcall fun _ =>
    Triple.keeps_bind hcall fun _ => ?_
  refine Triple.keeps_get_bind fun _ => Triple.ite (fun _ => hpure) fun _ => ?_
  exact Triple.keeps_get_bind fun _ => Triple.ite (fun _ => hcall) fun _ => hpure

/-- A state predicate every call keeps is kept by the whole pass. -/
theorem cleanupCluster_keeps : Triple I (cleanupCluster h F) fun _ => I :=
  Triple.keeps_bind (Triple.keeps_call hI) fun _ =>
    Triple.keeps_bind (cleanupInClusterResources_keeps F h hI) fun _ =>
      afterInClusterResources_keeps F h hI

end Keeps

/-- **A pass ends on the finalizers its last call left**, or on those it started on when it
made no call. -/
theorem runPass_finalizers (h : Helpers) (fs : List String) :
    (runPass h F fs).2.finalizers = ((runPass h F fs).2.calls.map Call.after).getLastD fs :=
  cleanupCluster_keeps F h (I := fun s => s.finalizers = (s.calls.map Call.after).getLastD fs)
    (fun s _ _ _ _ => by simp [PassState.record]) ⟨fs, []⟩ rfl

/-! ## Runs of passes -/

/-- What happens to a deleting cluster between two of its states: a pass of the
pipeline, whatever its helpers do, or another controller removing a finalizer. -/
inductive Event
  | pass (h : Helpers)
  | removedByOtherController (finalizer : String)

/-- **The finalizer transitions of a run**: every call of every pass and every removal
by another controller, as the finalizers before and after it. Each pass starts from
the finalizers the previous event left. -/
def runTransitions (F : Finalizers) : List String → List Event → List (List String × List String)
  | _, [] => []
  | fs, .pass h :: es =>
    (runPass h F fs).2.calls.map (fun c => (c.before, c.after)) ++
      runTransitions F (runPass h F fs).2.finalizers es
  | fs, .removedByOtherController f :: es =>
    (fs, removeFinalizer fs [f]) :: runTransitions F (removeFinalizer fs [f]) es

theorem Finalizers.nodeDeletion_ne_credentials (F : Finalizers) :
    F.nodeDeletionFinalizer ≠ F.credentialsSecretsCleanupFinalizer := by
  have := (F.credentials_mem_removableBy .cleanupNodes).not.mpr (by simp)
  simpa [Finalizers.removableBy, eq_comm] using this

/-- Every call of a pass is legal, and all but the last succeeded. -/
theorem runPass_calls (h : Helpers) (fs : List String) :
    (∀ c ∈ (runPass h F fs).2.calls, c.Legal F ∧ c.stage ∈ earlyStages ++ laterStages) ∧
    ∀ c ∈ (runPass h F fs).2.calls.dropLast, c.ok = true := by
  obtain ⟨L, hcalls, hlegal, hlast, -⟩ :=
    (cleanupCluster_records F h : Records F _ (fun _ => True) _) ⟨fs, []⟩ trivial
  simp only [List.nil_append] at hcalls
  exact ⟨hcalls ▸ hlegal, hcalls ▸ hlast⟩

/-- While a load-balancer or volume finalizer is left after the in-cluster stage, a pass
calls none of the later stages: it ends where `cleanupInClusterResources` left it. -/
theorem runPass_calls_of_hasAny (h : Helpers) (fs : List String)
    (hany : hasAnyFinalizer (stateAfterInClusterResources h F fs).finalizers
      [F.inClusterLBCleanupFinalizer, F.inClusterPVCleanupFinalizer] = true) :
    ∀ c ∈ (runPass h F fs).2.calls, c.stage ∉ laterStages := by
  obtain ⟨L, hcalls, hlegal, -, -⟩ :=
    (untilInClusterCheck_records F h : Records F _ (fun _ => True) _) ⟨fs, []⟩ trivial
  have hend : (runPass h F fs).2 = stateAfterInClusterResources h F fs := by
    unfold runPass stateAfterInClusterResources
    rw [cleanupCluster_eq]
    rcases hrun : (untilInClusterCheck h F).run.run ⟨fs, []⟩ with ⟨_ | _, s₁⟩
    · rw [run_bind_of_error hrun]
    · rw [run_bind_of_ok hrun, afterInClusterResources_run_of_hasAny F h
        (by simpa [stateAfterInClusterResources, hrun] using hany)]
  intro c hc
  rw [hend, stateAfterInClusterResources, hcalls, List.nil_append] at hc
  have := (hlegal c hc).2
  revert this
  cases c.stage <;> simp [earlyStages, laterStages]

/-- Along a run of passes and of removals by other controllers that never remove the
credentials finalizer, the credentials finalizer goes only from a list where it is the
only finalizer. -/
theorem runTransitions_credentials_removed_last (fs : List String) (events : List Event)
    (hothers : ∀ f, .removedByOtherController f ∈ events →
      f ≠ F.credentialsSecretsCleanupFinalizer) :
    ∀ t ∈ runTransitions F fs events, F.credentialsSecretsCleanupFinalizer ∈ t.1 →
      F.credentialsSecretsCleanupFinalizer ∉ t.2 →
      hasOnlyFinalizer t.1 F.credentialsSecretsCleanupFinalizer = true := by
  induction events generalizing fs with
  | nil => simp [runTransitions]
  | cons e es ih =>
    have hothers' := fun f hf => hothers f (List.mem_cons_of_mem _ hf)
    cases e with
    | pass h =>
      simp only [runTransitions, List.mem_append, List.mem_map]
      rintro t (⟨c, hc, rfl⟩ | ht)
      · exact ((runPass_calls h fs).1 c hc).1.credentials_removed
      · exact ih _ hothers' t ht
    | removedByOtherController f =>
      simp only [runTransitions, List.mem_cons]
      rintro t (rfl | ht) hb ha
      · exact absurd (mem_removeFinalizer.mpr ⟨hb, by
          simpa [eq_comm] using hothers f (List.mem_cons_self _ _)⟩) ha
      · exact ih _ hothers' t ht hb ha

/-- Deletion helpers for the examples: every call succeeds and removes its own
finalizer, and the load balancers are reported gone. -/
def doneHelpers : Helpers :=
  ⟨⟨true, .ok ()⟩, ⟨true, .ok false⟩, ⟨true, .ok false⟩, ⟨true, .ok true⟩, ⟨true, .ok ()⟩,
    ⟨true, .ok ()⟩, ⟨true, .ok ()⟩, .ok (), .ok ()⟩

/-- **The finalizer ordering of the deletion pipeline.** For every finalizer list and
every outcome of the stage helpers, one pass (i) runs none of the later stages when a
load-balancer or volume finalizer is left after `cleanupInClusterResources`, (ii) calls
`cleanUpCredentialsSecrets` only while its finalizer is the only one, so never with
the node-deletion finalizer present, and (iii) makes no call after a failed one.
Over every run of passes and removals by other controllers, which never remove the
credentials finalizer, that finalizer is taken off only as the last one. -/
theorem cleanupCluster_credentials_removed_last (F : Finalizers) :
    (∀ h fs, hasAnyFinalizer (stateAfterInClusterResources h F fs).finalizers
        [F.inClusterLBCleanupFinalizer, F.inClusterPVCleanupFinalizer] = true →
      ∀ c ∈ (runPass h F fs).2.calls, c.stage ∉ laterStages) ∧
    (∀ h fs, ∀ c ∈ (runPass h F fs).2.calls, c.stage = .cleanUpCredentialsSecrets →
      hasOnlyFinalizer c.before F.credentialsSecretsCleanupFinalizer = true ∧
        F.nodeDeletionFinalizer ∉ c.before) ∧
    (∀ h fs, ∀ c ∈ (runPass h F fs).2.calls.dropLast, c.ok = true) ∧
    (∀ fs events,
      (∀ f, .removedByOtherController f ∈ events → f ≠ F.credentialsSecretsCleanupFinalizer) →
      ∀ t ∈ runTransitions F fs events, F.credentialsSecretsCleanupFinalizer ∈ t.1 →
        F.credentialsSecretsCleanupFinalizer ∉ t.2 →
        hasOnlyFinalizer t.1 F.credentialsSecretsCleanupFinalizer = true) := by
  refine ⟨runPass_calls_of_hasAny, fun h fs c hc hst => ?_, fun h fs => (runPass_calls h fs).2,
    runTransitions_credentials_removed_last⟩
  have hguard := ((runPass_calls h fs).1 c hc).1.guard hst
  exact ⟨hguard, fun hnode =>
    F.nodeDeletion_ne_credentials ((hasOnlyFinalizer_eq_true.mp hguard).2 _ hnode)⟩

/-- Another controller removes a finalizer of its own, and then a pass whose helpers
all remove theirs runs: the credentials helper is called with no other finalizer left, and
the credentials finalizer is taken off as the last one. -/
theorem cleanupCluster_credentials_removed_last_after_other_controller :
    (∀ c ∈ (runPass doneHelpers sampleFinalizers ["nodes", "credentials"]).2.calls,
      c.stage = .cleanUpCredentialsSecrets →
      hasOnlyFinalizer c.before sampleFinalizers.credentialsSecretsCleanupFinalizer = true ∧
        sampleFinalizers.nodeDeletionFinalizer ∉ c.before) ∧
    ∀ t ∈ runTransitions sampleFinalizers ["other", "nodes", "credentials"]
        [.removedByOtherController "other", .pass doneHelpers],
      sampleFinalizers.credentialsSecretsCleanupFinalizer ∈ t.1 →
      sampleFinalizers.credentialsSecretsCleanupFinalizer ∉ t.2 →
      hasOnlyFinalizer t.1 sampleFinalizers.credentialsSecretsCleanupFinalizer = true :=
  ⟨(cleanupCluster_credentials_removed_last sampleFinalizers).2.1 _ _,
    (cleanupCluster_credentials_removed_last sampleFinalizers).2.2.2 _ _ fun f hf => by
      simp only [List.mem_cons, Event.removedByOtherController.injEq, reduceCtorEq,
        List.not_mem_nil, or_false] at hf
      simp [hf, sampleFinalizers]⟩

end Kubermatic.ClusterDeletion
