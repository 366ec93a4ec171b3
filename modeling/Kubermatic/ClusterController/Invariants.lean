import Kubermatic.ClusterController.Reconciler

/-!
# What every reconciliation sends and records

The spec's invariant on the `Cluster` resource (§3, §5) is that the cluster controller
never changes the status in the same patch as the rest of the object, and its §4.3 says
how a reconciliation reports errors: on `Status.ErrorReason` and `Status.ErrorMessage`,
cleared again on success, with a ten-second requeue while the concurrency limit holds the
cluster back.

This module proves these for the code at hand:

* `Reconcile_patches_separated`: whatever `syncHealth` and `reconcileCluster` do, and
  whatever the seed API answers, every patch a reconciliation gets stored leaves the
  status of the object alone unless it is a status patch. The one check that makes this
  true of the functions outside the sources is `updateCluster`'s;
* `reconcile_records_outcome`: after a successful health sync of a cluster that is not
  being deleted, the outcome of `reconcileCluster` is what the stored error fields say,
  and what `reconcile` returns;
* `Reconcile_requeues_when_unavailable`: a cluster the concurrency check holds back is
  requeued in ten seconds, and nothing of its health sync, its reconciliation or its
  deletion runs;
* `Reconcile_syncHealth_error`: a failed health sync is returned but neither recorded on
  the cluster nor followed by the deletion pass or its requeue.

Each function's run lemma comes first; the separation is proved once per function through
`SendsSeparated`, and for the call trees by induction on the tree.
-/

namespace Kubermatic.ClusterController

open ClusterDeletion (runPass)

variable {env : Env} {s s₁ s₂ s₃ : State}

/-! ## Run lemmas -/

theorem run_bind_of_eq {m : ReconcileM α} {f : α → ReconcileM β} {a : α}
    (h : m.run s = (a, s₁)) : (m >>= f).run s = (f a).run s₁ := by
  simp only [StateT.run_bind, h]
  rfl

theorem patch_run_of_accepts {p : Patch} (h : env.refuses p = none) :
    (patch env p).run s = (none, s.accept p) := by
  simp only [patch, h]
  rfl

theorem patch_run_of_refuses {p : Patch} {e : String} (h : env.refuses p = some e) :
    (patch env p).run s = (some e, s) := by
  simp only [patch, h]
  rfl

theorem updateClusterStatus_run (m : Cluster → Cluster) :
    (updateClusterStatus env m).run s =
      (patch env ⟨.status, s.stored, m s.stored⟩).run { s with cluster := m s.stored } := rfl

/-- An accepted status update stores the status the modification gives the stored
cluster, and the copy becomes the stored cluster. -/
theorem updateClusterStatus_run_of_accepts {m : Cluster → Cluster}
    (h : env.refuses ⟨.status, s.stored, m s.stored⟩ = none) :
    (updateClusterStatus env m).run s = (none, s.accept ⟨.status, s.stored, m s.stored⟩) := by
  rw [updateClusterStatus_run, patch_run_of_accepts h]
  rfl

/-- A status update stores the status the modification gives the stored cluster, or
nothing. -/
theorem updateClusterStatus_run_stored (m : Cluster → Cluster) (s : State) :
    ((updateClusterStatus env m).run s).2.stored = s.stored ∨
      ((updateClusterStatus env m).run s).2.stored = s.stored.withStatus (m s.stored).status := by
  rcases h : env.refuses ⟨.status, s.stored, m s.stored⟩ with _ | e
  · exact .inr (by rw [updateClusterStatus_run_of_accepts h]; simp)
  · exact .inl (by rw [updateClusterStatus_run, patch_run_of_refuses h])

theorem updateCluster_run_of_eq {m : Cluster → Cluster} (h : s.cluster = m s.cluster) :
    (updateCluster env m).run s = (none, { s with cluster := m s.cluster }) := by
  show (if s.cluster = m s.cluster then _ else _ : ReconcileM _).run _ = _
  rw [if_pos h]
  rfl

/-- `updateCluster` refuses a change of the status and sends nothing; the copy keeps the
change. -/
theorem updateCluster_run_of_status_ne {m : Cluster → Cluster}
    (h : s.cluster.status ≠ (m s.cluster).status) :
    (updateCluster env m).run s =
      (some "updateCluster must not change cluster status", { s with cluster := m s.cluster }) := by
  show (if s.cluster = m s.cluster then _ else _ : ReconcileM _).run _ = _
  rw [if_neg fun heq => h (congrArg Cluster.status heq), if_pos h]
  rfl

theorem updateCluster_run_of_status_eq {m : Cluster → Cluster} (hne : s.cluster ≠ m s.cluster)
    (h : s.cluster.status = (m s.cluster).status) :
    (updateCluster env m).run s =
      (patch env ⟨.object, s.cluster, m s.cluster⟩).run { s with cluster := m s.cluster } := by
  show (if s.cluster = m s.cluster then _ else _ : ReconcileM _).run _ = _
  rw [if_neg hne, if_neg (not_not.mpr h)]

theorem tryAddFinalizer_run (fs : List String) :
    (tryAddFinalizer env fs).run s =
      (if s.cluster.finalizers = (fs.foldl Cluster.addFinalizer s.cluster).finalizers then
        (none, { s with cluster := fs.foldl Cluster.addFinalizer s.cluster })
      else (patch env ⟨.object, s.cluster, fs.foldl Cluster.addFinalizer s.cluster⟩).run
        { s with cluster := fs.foldl Cluster.addFinalizer s.cluster }) := by
  show (if _ then _ else _ : ReconcileM _).run _ = _
  split <;> rfl

@[simp] theorem foldl_accept_patches (ps : List Patch) (s : State) :
    (ps.foldl State.accept s).patches = s.patches ++ ps := by
  induction ps generalizing s with
  | nil => simp
  | cons p ps ih => simp [ih]

theorem cleanupCluster_run :
    (cleanupCluster env).run s =
      (errorOf (runPass env.deletionHelpers env.finalizers s.cluster.finalizers).1,
        (passPatches s.cluster s.cluster.finalizers
          (runPass env.deletionHelpers env.finalizers s.cluster.finalizers).2.calls).foldl
          State.accept s) := rfl

theorem updateClusterError_run_of_accepts {reason message : String}
    (h : env.refuses ⟨.status, s.stored, s.stored.withError (some reason) (some message)⟩ =
      none) :
    (updateClusterError env reason message).run s =
      (none, s.accept ⟨.status, s.stored, s.stored.withError (some reason) (some message)⟩) := by
  rw [updateClusterError, run_bind_of_eq (updateClusterStatus_run_of_accepts h)]
  rfl

theorem clearClusterError_run_of_accepts
    (h : env.refuses ⟨.status, s.stored, s.stored.withError none none⟩ = none) :
    (clearClusterError env).run s =
      (none, s.accept ⟨.status, s.stored, s.stored.withError none none⟩) :=
  updateClusterStatus_run_of_accepts h

theorem reconcile_run_of_syncHealth_error {e : String}
    (h : (env.syncHealth.run env).run s = (.error e, s₁)) :
    (reconcile env).run s = ((none, some ("failed to sync health: " ++ e)), s₁) := by
  rw [reconcile, run_bind_of_eq h]
  rfl

/-- A deleting cluster gets one pass of the pipeline and is requeued in ten seconds. -/
theorem reconcile_run_of_deleting (h : (env.syncHealth.run env).run s = (.ok (), s₁))
    (hdel : s₁.cluster.deletionTimestamp = true) :
    (reconcile env).run s =
      ((some { requeueAfter := 10 }, ((cleanupCluster env).run s₁).1),
        ((cleanupCluster env).run s₁).2) := by
  rw [reconcile, run_bind_of_eq h]
  simp [hdel]

/-- After a failed `reconcileCluster`, `reconcile` records the error and returns it. -/
theorem reconcile_run_of_reconcileCluster_error {e : String}
    (h : (env.syncHealth.run env).run s = (.ok (), s₁))
    (hlive : s₁.cluster.deletionTimestamp = false)
    (hrec : (env.reconcileCluster.run env).run s₁ = (.error e, s₂))
    (hupd : (updateClusterError env env.reconcileClusterError e).run s₂ = (none, s₃)) :
    (reconcile env).run s = ((none, some ("failed to reconcile cluster: " ++ e)), s₃) := by
  rw [reconcile, run_bind_of_eq h]
  show (if s₁.cluster.deletionTimestamp = true then _ else _ : ReconcileM _).run s₁ = _
  rw [if_neg (by simp [hlive]), run_bind_of_eq hrec]
  exact run_bind_of_eq hupd

/-- After a successful `reconcileCluster`, `reconcile` clears the error and passes the
result on. -/
theorem reconcile_run_of_reconcileCluster_ok {res : Option Result}
    (h : (env.syncHealth.run env).run s = (.ok (), s₁))
    (hlive : s₁.cluster.deletionTimestamp = false)
    (hrec : (env.reconcileCluster.run env).run s₁ = (.ok res, s₂))
    (hclear : (clearClusterError env).run s₂ = (none, s₃)) :
    (reconcile env).run s = ((res, none), s₃) := by
  rw [reconcile, run_bind_of_eq h]
  show (if s₁.cluster.deletionTimestamp = true then _ else _ : ReconcileM _).run s₁ = _
  rw [if_neg (by simp [hlive]), run_bind_of_eq hrec]
  exact run_bind_of_eq hclear

theorem reconcileIfAvailable_run_of_busy
    (hbusy : (env.clusterAvailableForReconciling s.cluster).1 = false ∨
      (env.clusterAvailableForReconciling s.cluster).2.isSome) :
    (reconcileIfAvailable env).run s =
      ((some { requeueAfter := 10 }, (env.clusterAvailableForReconciling s.cluster).2), s) := by
  rw [reconcileIfAvailable, run_bind_of_eq (m := get) rfl]
  rcases hav : env.clusterAvailableForReconciling s.cluster with ⟨available, err⟩
  rw [hav] at hbusy
  dsimp only
  rw [if_pos (by cases available <;> simp_all)]
  rfl

theorem reconcileIfAvailable_run_of_available
    (havail : env.clusterAvailableForReconciling s.cluster = (true, none)) :
    (reconcileIfAvailable env).run s = (reconcile env).run s := by
  rw [reconcileIfAvailable, run_bind_of_eq (m := get) rfl, havail]
  rfl

theorem clusterReconcileWrapper_run {inner : ReconcileM (Option Result × Option String)}
    {r : Option Result} {e c : Option String} (hskip : env.skips s.cluster = false)
    (hinner : inner.run s = ((r, e), s₁))
    (hcond : (updateClusterStatus env (·.withReconcilingSuccess e.isNone)).run s₁ = (c, s₂)) :
    (clusterReconcileWrapper env inner).run s = ((r, e <|> c), s₂) := by
  show (if env.skips s.cluster = true then _ else _ : ReconcileM _).run s = _
  rw [if_neg (by simp [hskip]), run_bind_of_eq hinner]
  exact run_bind_of_eq hcond

/-- The reconciliation of a fetched cluster once its namespace name is stamped and it has
a control-plane version: the wrapper's, with an empty result for none. -/
theorem Reconcile_run_of_ready {r : Option Result} {e : Option String}
    (hstamp : (reconcileClusterStatus env).run { s with cluster := s.stored } = (none, s₁))
    (hversion : s₁.cluster.status.controlPlaneVersion ≠ "")
    (hwrap : (clusterReconcileWrapper env (reconcileIfAvailable env)).run s₁ = ((r, e), s₂)) :
    (Reconcile env .found).run s = ((r.getD {}, e), s₂) := by
  rw [Reconcile, run_bind_of_eq (m := modify fun s : State => { s with cluster := s.stored }) rfl,
    run_bind_of_eq hstamp]
  show (if s₁.cluster.status.controlPlaneVersion = "" then _ else _ : ReconcileM _).run s₁ = _
  rw [if_neg hversion, run_bind_of_eq hwrap]
  rfl

/-- **The §3 invariant for one patch**: a patch of the object leaves the status as it
was. -/
def Patch.Separated (p : Patch) : Prop :=
  p.subresource = .object → p.before.status = p.after.status

/-- A separated patch of the object leaves the stored status as it is. -/
theorem Patch.Separated.apply_status {p : Patch} (hp : p.Separated)
    (hobj : p.subresource = .object) (stored : Cluster) :
    (p.apply stored).status = stored.status := by
  obtain ⟨sub, before, after⟩ := p
  subst hobj
  have h : before.status = after.status := hp rfl
  simp [Patch.apply, h]

/-- **What a step sends**: from any state, `m` adds to the accepted patches only separated
ones. -/
def SendsSeparated (m : ReconcileM α) : Prop :=
  ∀ s, ∃ L, (m.run s).2.patches = s.patches ++ L ∧ ∀ p ∈ L, p.Separated

theorem SendsSeparated.pure {a : α} : SendsSeparated (pure a : ReconcileM α) :=
  fun _ => ⟨[], by simp, by simp⟩

theorem SendsSeparated.bind {m : ReconcileM α} {f : α → ReconcileM β}
    (hm : SendsSeparated m) (hf : ∀ a, SendsSeparated (f a)) : SendsSeparated (m >>= f) := by
  intro s
  obtain ⟨L₁, h₁, hL₁⟩ := hm s
  obtain ⟨L₂, h₂, hL₂⟩ := hf (m.run s).1 (m.run s).2
  refine ⟨L₁ ++ L₂, ?_, by simpa only [List.mem_append] using fun p hp => hp.elim (hL₁ p) (hL₂ p)⟩
  rw [run_bind_of_eq (m := m) (f := f) rfl]
  exact h₂.trans (by rw [h₁, List.append_assoc])

theorem SendsSeparated.get_bind {f : State → ReconcileM α} (hf : ∀ s₀, SendsSeparated (f s₀)) :
    SendsSeparated (get >>= f) :=
  fun s => hf s s

/-- A patch from a state: it is stored, or nothing happens. -/
theorem patch_run_patches (p : Patch) (s : State) :
    ((patch env p).run s).2.patches = s.patches ∨
      ((patch env p).run s).2.patches = s.patches ++ [p] := by
  rcases h : env.refuses p with _ | e
  · exact .inr (by rw [patch_run_of_accepts h]; rfl)
  · exact .inl (by rw [patch_run_of_refuses h])

theorem sendsSeparated_patch {p : Patch} (hp : p.Separated) : SendsSeparated (patch env p) :=
  fun s => (patch_run_patches p s).elim (fun h => ⟨[], by simpa using h, by simp⟩)
    fun h => ⟨[p], h, by simpa using hp⟩

theorem sendsSeparated_updateClusterStatus (m : Cluster → Cluster) :
    SendsSeparated (updateClusterStatus env m) := fun s => by
  rw [updateClusterStatus_run]
  exact sendsSeparated_patch (fun h => by cases h) _

/-- **`updateCluster` sends only separated patches**: the check on the status is what
makes every patch of the object separated. -/
theorem sendsSeparated_updateCluster (m : Cluster → Cluster) :
    SendsSeparated (updateCluster env m) := fun s => by
  by_cases heq : s.cluster = m s.cluster
  · exact ⟨[], by rw [updateCluster_run_of_eq heq]; simp, by simp⟩
  by_cases hst : s.cluster.status = (m s.cluster).status
  · rw [updateCluster_run_of_status_eq heq hst]
    exact sendsSeparated_patch (fun _ => hst) _
  · exact ⟨[], by rw [updateCluster_run_of_status_ne hst]; simp, by simp⟩

@[simp] theorem foldl_addFinalizer_status (fs : List String) (c : Cluster) :
    (fs.foldl Cluster.addFinalizer c).status = c.status := by
  induction fs generalizing c with
  | nil => rfl
  | cons f fs ih => simp [ih, Cluster.addFinalizer]

theorem sendsSeparated_addFinalizers (fs : List String) :
    SendsSeparated (addFinalizers env fs) := by
  refine SendsSeparated.bind (fun s => ?_) fun _ => .pure
  rw [tryAddFinalizer_run]
  split
  · exact ⟨[], by simp, by simp⟩
  · exact sendsSeparated_patch (fun _ => (foldl_addFinalizer_status fs _).symm) _

/-- A deletion pass patches only the finalizers. -/
theorem mem_passPatches {c : Cluster} {fs : List String} {calls : List ClusterDeletion.Call}
    {p : Patch} (hp : p ∈ passPatches c fs calls) :
    ∃ a b, p = ⟨.object, c.withFinalizers a, c.withFinalizers b⟩ := by
  induction calls generalizing fs with
  | nil => cases hp
  | cons call calls ih =>
    unfold passPatches at hp
    split at hp
    · exact ih hp
    · rcases List.mem_cons.mp hp with rfl | hp
      · exact ⟨_, _, rfl⟩
      · exact ih hp

theorem sendsSeparated_cleanupCluster : SendsSeparated (cleanupCluster env) := fun s => by
  refine ⟨_, by rw [cleanupCluster_run, foldl_accept_patches], fun p hp => ?_⟩
  obtain ⟨a, b, rfl⟩ := mem_passPatches hp
  exact fun _ => rfl

/-- Whatever a call tree does, it sends only separated patches. -/
theorem sendsSeparated_program_run (prog : Program α) : SendsSeparated (prog.run env) := by
  induction prog with
  | done r => exact .pure
  | read k ih => exact .get_bind fun s₀ => ih s₀.cluster
  | updateCluster m k ih => exact .bind (sendsSeparated_updateCluster m) ih
  | updateClusterStatus m k ih => exact .bind (sendsSeparated_updateClusterStatus m) ih
  | addFinalizers fs k ih => exact .bind (sendsSeparated_addFinalizers fs) fun r => ih r.2

theorem sendsSeparated_reconcile : SendsSeparated (reconcile env) := by
  refine .bind (sendsSeparated_program_run _) fun r => ?_
  rcases r with _ | ⟨⟩
  · exact .pure
  refine .get_bind fun s₀ => ?_
  split
  · exact .bind sendsSeparated_cleanupCluster fun _ => .pure
  refine .bind (sendsSeparated_program_run _) fun r => ?_
  rcases r with _ | _
  · exact .bind (.bind (sendsSeparated_updateClusterStatus _) fun r => by split <;> exact .pure)
      fun r => by split <;> exact .pure
  · exact .bind (sendsSeparated_updateClusterStatus _) fun r => by split <;> exact .pure

theorem sendsSeparated_clusterReconcileWrapper {inner : ReconcileM (Option Result × Option String)}
    (h : SendsSeparated inner) : SendsSeparated (clusterReconcileWrapper env inner) := by
  refine .get_bind fun s₀ => ?_
  split
  · exact .pure
  exact .bind h fun _ => .bind (sendsSeparated_updateClusterStatus _) fun _ => .pure

theorem sendsSeparated_Reconcile (fetched : Fetched) : SendsSeparated (Reconcile env fetched) := by
  cases fetched with
  | notFound => exact .pure
  | failed e => exact .pure
  | found =>
    refine .bind (m := modify fun s : State => { s with cluster := s.stored })
      (fun s => ⟨[], (List.append_nil _).symm, by simp⟩) fun _ => ?_
    refine .bind (sendsSeparated_updateClusterStatus _) fun r => ?_
    split
    · exact .pure
    refine .get_bind fun _ => ?_
    split
    · exact .pure
    refine .bind (sendsSeparated_clusterReconcileWrapper (.get_bind fun _ => ?_)) fun _ => .pure
    split
    split
    · exact .pure
    · exact sendsSeparated_reconcile

/-- **No patch of a reconciliation mixes the status with the rest of the object.** From
any state, whatever the seed API answers and whatever `syncHealth` and
`reconcileCluster` do, every patch a reconciliation gets stored is a status patch or
leaves the status as it was. -/
theorem Reconcile_patches_separated (fetched : Fetched) (s : State) :
    ∃ L, ((Reconcile env fetched).run s).2.patches = s.patches ++ L ∧
      ∀ p ∈ L, p.Separated :=
  sendsSeparated_Reconcile fetched s

/-! ## What a reconciliation records and returns -/

/-- Deletion helpers for the examples: every call succeeds and removes nothing. -/
def idleHelpers : ClusterDeletion.Helpers :=
  ⟨⟨false, .ok ()⟩, ⟨false, .ok false⟩, ⟨false, .ok false⟩, ⟨false, .ok true⟩, ⟨false, .ok ()⟩,
    ⟨false, .ok ()⟩, ⟨false, .ok ()⟩, .ok (), .ok ()⟩

/-- The environment of the examples: the seed API accepts every patch, no cluster is
skipped or held back, the health sync succeeds without writing, and `reconcileCluster`
fails. -/
def sampleEnv : Env where
  refuses _ := none
  namespaceName name := "cluster-" ++ name
  reconcileClusterError := "ReconcileClusterError"
  skips _ := false
  clusterAvailableForReconciling _ := (true, none)
  syncHealth := .done (.ok ())
  reconcileCluster := .done (.error "quota exceeded")
  deletionHelpers := idleHelpers
  finalizers := ClusterDeletion.sampleFinalizers

/-- A cluster with a control-plane version that is not being deleted. -/
def sampleCluster : Cluster where
  name := "demo"
  finalizers := ["nodes", "credentials"]
  status := { controlPlaneVersion := "1.27.3" }

/-- **`reconcile` records the outcome of `reconcileCluster`** (§4.3, step 4). After a
successful health sync of a cluster that is not being deleted, and with the seed API
accepting status patches: when `reconcileCluster` fails with `e`, the stored cluster is the
one it left with `ErrorReason` set to `ReconcileClusterError` and `ErrorMessage` to `e`, and
`reconcile` returns no result and the error behind "failed to reconcile cluster: "; when it
succeeds, the stored cluster is the one it left with both fields cleared, and its result is
returned with no error. -/
theorem reconcile_records_outcome (hsync : (env.syncHealth.run env).run s = (.ok (), s₁))
    (hlive : s₁.cluster.deletionTimestamp = false)
    (haccepts : ∀ p : Patch, p.subresource = .status → env.refuses p = none) :
    (∀ e s₂, (env.reconcileCluster.run env).run s₁ = (.error e, s₂) →
      ((reconcile env).run s).1 = (none, some ("failed to reconcile cluster: " ++ e)) ∧
      ((reconcile env).run s).2.stored =
        s₂.stored.withError (some env.reconcileClusterError) (some e)) ∧
    (∀ res s₂, (env.reconcileCluster.run env).run s₁ = (.ok res, s₂) →
      ((reconcile env).run s).1 = (res, none) ∧
      ((reconcile env).run s).2.stored = s₂.stored.withError none none) := by
  refine ⟨fun e s₂ hrec => ?_, fun res s₂ hrec => ?_⟩
  · rw [reconcile_run_of_reconcileCluster_error hsync hlive hrec
      (updateClusterError_run_of_accepts (haccepts _ rfl))]
    exact ⟨rfl, by simp [Cluster.withError]⟩
  · rw [reconcile_run_of_reconcileCluster_ok hsync hlive hrec
      (clearClusterError_run_of_accepts (haccepts _ rfl))]
    exact ⟨rfl, by simp [Cluster.withError]⟩

/-- **A failed health sync is returned, and nothing else happens.** Once the namespace
name is stamped, a cluster with a control-plane version that is neither skipped nor held
back, whose health sync fails with `e`, gets no result (so no requeue) and the error behind
"failed to sync health: ". The stored finalizers and error fields stay as the health sync
left them: the error is not recorded on the cluster, and a deleting cluster gets neither
its deletion pass nor the ten-second requeue the spec asks for whenever a deletion
timestamp is present. -/
theorem Reconcile_syncHealth_error {e : String}
    (hstamp : (reconcileClusterStatus env).run { s with cluster := s.stored } = (none, s₁))
    (hversion : s₁.cluster.status.controlPlaneVersion ≠ "")
    (hskip : env.skips s₁.cluster = false)
    (havail : env.clusterAvailableForReconciling s₁.cluster = (true, none))
    (hsync : (env.syncHealth.run env).run s₁ = (.error e, s₂)) :
    ((Reconcile env .found).run s).1 = ({}, some ("failed to sync health: " ++ e)) ∧
    ((Reconcile env .found).run s).2.stored.finalizers = s₂.stored.finalizers ∧
    ((Reconcile env .found).run s).2.stored.status.errorReason =
      s₂.stored.status.errorReason ∧
    ((Reconcile env .found).run s).2.stored.status.errorMessage =
      s₂.stored.status.errorMessage := by
  have hinner := (reconcileIfAvailable_run_of_available havail).trans
    (reconcile_run_of_syncHealth_error hsync)
  rcases hcond : (updateClusterStatus env
    (·.withReconcilingSuccess (some ("failed to sync health: " ++ e)).isNone)).run s₂ with ⟨c, s₃⟩
  rw [Reconcile_run_of_ready hstamp hversion (clusterReconcileWrapper_run hskip hinner hcond)]
  have hstored := @updateClusterStatus_run_stored env
    (·.withReconcilingSuccess (some ("failed to sync health: " ++ e)).isNone) s₂
  rw [hcond] at hstored
  refine ⟨by simp, ?_⟩
  rcases hstored with h | h <;> dsimp only at h <;> simp [h, Cluster.withReconcilingSuccess]

/-- A cluster held back by the concurrency check: the wrapper records the failure and
passes the requeue on. -/
theorem Reconcile_run_of_busy {c : Option String}
    (hstamp : (reconcileClusterStatus env).run { s with cluster := s.stored } = (none, s₁))
    (hversion : s₁.cluster.status.controlPlaneVersion ≠ "")
    (hskip : env.skips s₁.cluster = false)
    (hbusy : (env.clusterAvailableForReconciling s₁.cluster).1 = false ∨
      (env.clusterAvailableForReconciling s₁.cluster).2.isSome)
    (hcond : (updateClusterStatus env (·.withReconcilingSuccess
      (env.clusterAvailableForReconciling s₁.cluster).2.isNone)).run s₁ = (c, s₂)) :
    (Reconcile env .found).run s =
      (({ requeueAfter := 10 }, (env.clusterAvailableForReconciling s₁.cluster).2 <|> c), s₂) :=
  Reconcile_run_of_ready hstamp hversion
    (clusterReconcileWrapper_run hskip (reconcileIfAvailable_run_of_busy hbusy) hcond)

/-- **A cluster held back by the concurrency limit is requeued in ten seconds, and
nothing of its reconciliation runs.** Once its namespace name is stamped, a cluster with a
control-plane version that is not skipped, and that `ClusterAvailableForReconciling` reports
unavailable or fails on, gets `RequeueAfter` ten seconds; the whole reconciliation is the
same whatever the health sync, `reconcileCluster` and the deletion helpers would do, so none
of them runs. -/
theorem Reconcile_requeues_when_unavailable
    (hstamp : (reconcileClusterStatus env).run { s with cluster := s.stored } = (none, s₁))
    (hversion : s₁.cluster.status.controlPlaneVersion ≠ "")
    (hskip : env.skips s₁.cluster = false)
    (hbusy : (env.clusterAvailableForReconciling s₁.cluster).1 = false ∨
      (env.clusterAvailableForReconciling s₁.cluster).2.isSome)
    (p : Program Unit) (q : Program (Option Result)) (h : ClusterDeletion.Helpers) :
    ((Reconcile env .found).run s).1.1 = { requeueAfter := 10 } ∧
    (Reconcile { env with syncHealth := p, reconcileCluster := q, deletionHelpers := h } .found).run
      s = (Reconcile env .found).run s := by
  rcases hcond : (updateClusterStatus env (·.withReconcilingSuccess
    (env.clusterAvailableForReconciling s₁.cluster).2.isNone)).run s₁ with ⟨c, s₂⟩
  have hother :
      (Reconcile { env with syncHealth := p, reconcileCluster := q, deletionHelpers := h } .found).run
        s = _ := Reconcile_run_of_busy hstamp hversion hskip hbusy hcond
  rw [Reconcile_run_of_busy hstamp hversion hskip hbusy hcond, hother]
  exact ⟨rfl, rfl⟩

end Kubermatic.ClusterController
