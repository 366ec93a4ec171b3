import Mathlib.Data.List.Forall2
import Kubermatic.Addon.Runs

/-!
# What the addon reconciler guarantees about an addon's lifecycle

The cleanup finalizer is how the addon controller keeps a deleted addon around until its
manifests are out of the user cluster: the API server removes a deleting object only once
its finalizers are gone. This module proves what every run of `Reconciler.Reconcile`
does to it, over every answer of the seed API, the user cluster, the file system and
`kubectl` (`Env`):

* the finalizer is removed only when the cluster is gone, or right after a `kubectl
  delete` of the addon's rendered manifests exited successfully, or when rendering them
  failed because a file is missing (`cleanupFinalizer_removed_only_after_delete`);
* the finalizer is added only after the manifests were applied, so a run whose `kubectl
  apply` succeeded and whose finalizer patch the seed API refused leaves the applied
  manifests with no finalizer, and says so in its error
  (`cleanupFinalizer_set_after_apply`);
* every `kubectl` run reads the addon's rendered, labelled manifest, and `apply` prunes
  only objects carrying the addon's label (`kubectl_reads_rendered_manifest`);
* a run changes only the addon's two files under `/tmp`, each of which it removes, leaves
  as it was, or leaves with part of what was written to it, for a failure of the file
  system that the result names (`reconcileRun_leavesFiles`); an admin kubeconfig stays on
  disk exactly through such a failure, and a kubeconfig write that fails after creating
  the file keeps what it wrote (`noKubeconfigFiles_reconcileRuns`);
* a run that waits for the API server or for a required type, or that leaves an applied
  addon alone, changes nothing (`reconcileRun_waits`).

Each rests on the run lemmas of `Kubermatic.Addon.Runs`: the closed form of `reconcile`
(`Reconciler.exec_reconcile`) and one lemma per function it calls.
-/

namespace Kubermatic.Addon

open Reconciler

variable {env : Env}

/-! ## What every step of a run keeps -/

/-- **Induction over the steps of `reconcile`.** A relation between the state before and
after a run that holds of doing nothing, composes, holds of every write of the addon, and
of every run of `cleanupManifests` and of `ensureIsInstalled` on the addon, holds of every
run of `reconcile`. -/
theorem reconcile_preserves {P : State → State → Prop} (hrefl : ∀ s, P s s)
    (htrans : ∀ {s₁ s₂ s₃}, P s₁ s₂ → P s₂ s₃ → P s₁ s₃)
    (hwrite : ∀ s w, P s (s.applyWrite w))
    {c : Cluster} {s : State}
    (hclean : ∀ {r s'}, exec (cleanupManifests env s.addon c) s = (r, s') → P s s')
    (hinstall :
      ∀ {r s'}, exec (Reconciler.ensureIsInstalled env s.addon c) s = (r, s') → P s s') :
    P s (exec (reconcile env c) s).2 := by
  have hstep {s₁ s₂ : State} {w : AddonWrite} (h : s₂ = s₁ ∨ s₂ = s₁.applyWrite w) :
      P s₁ s₂ := by
    rcases h with rfl | rfl
    exacts [hrefl _, hwrite _ _]
  by_cases hgo : c.status.apiserverHealth = .up ∧
      ensureRequiredResourceTypesExist env s.addon = .ok none
  swap
  · simpa [exec_reconcile_state_of_waits hgo] using hrefl s
  rw [exec_reconcile]
  simp only [hgo, ne_eq, not_true_eq_false, if_false]
  split_ifs
  · -- deleting: the manifests, then the finalizer
    rcases h₁ : exec (cleanupManifests env s.addon c) s with ⟨r₁, s₁⟩
    rcases r₁ with e | ⟨⟨⟩⟩
    · exact hclean h₁
    dsimp only
    rcases h₂ : exec (removeCleanupFinalizer env) s₁ with ⟨r₂, s₂⟩
    have hp₂ : P s s₂ := htrans (hclean h₁) <| hstep (w := .removeFinalizer) <| by
      rcases removeCleanupFinalizer_spec h₂ with h | ⟨-, h⟩
      exacts [.inl h, .inr h]
    rcases r₂ with e | ⟨⟨⟩⟩ <;> exact hp₂
  · exact hrefl s
  · -- installing: the manifests, the finalizer, the condition
    rcases h₁ : exec (Reconciler.ensureIsInstalled env s.addon c) s with ⟨r₁, s₁⟩
    rcases r₁ with e | ⟨⟨⟩⟩
    · exact hinstall h₁
    dsimp only
    rcases h₂ : exec (ensureFinalizerIsSet env) s₁ with ⟨r₂, s₂⟩
    have hp₂ : P s s₂ := htrans (hinstall h₁) (hstep (ensureFinalizerIsSet_state h₂))
    rcases r₂ with e | ⟨⟨⟩⟩
    · exact hp₂
    dsimp only
    rcases h₃ : exec (ensureResourcesCreatedConditionIsSet env) s₂ with ⟨r₃, s₃⟩
    have hp₃ : P s s₃ := htrans hp₂ <| hstep (w := .setResourcesCreated) <| by
      rcases ensureResourcesCreatedConditionIsSet_spec h₃ with h | ⟨-, h⟩
      exacts [.inl h, .inr h]
    rcases r₃ with e | ⟨⟨⟩⟩ <;> exact hp₃

/-- The same over a run of `Reconcile`: on a cluster found, by `reconcile_preserves`. -/
theorem reconcileRun_preserves {P : State → State → Prop} (hrefl : ∀ s, P s s)
    (hwrite : ∀ s w, P s (s.applyWrite w)) {fetched : Fetched} {lookup : ClusterLookup}
    {s : State} (hfound : ∀ c, lookup = .found c → P s (exec (reconcile env c) s).2) :
    P s (reconcileRun env fetched lookup s).2 := by
  rcases @reconcileRun_state_cases env fetched lookup s with
    h | ⟨-, -, h⟩ | ⟨c, -, hc, -, -, h⟩ <;>
    rw [h]
  exacts [hrefl s, hwrite s _, hfound c hc]

/-! ## Removing the cleanup finalizer -/

/-- `reconcile` keeps the cleanup finalizer of an addon that is not being deleted: adding
it is a no-op, and the other steps do not touch it. -/
theorem mem_finalizers_reconcile_of_not_deleting {c : Cluster} {s : State}
    (hmem : cleanupFinalizerName ∈ s.addon.finalizers)
    (hdel : s.addon.deletionTimestamp = false) :
    cleanupFinalizerName ∈ (exec (reconcile env c) s).2.addon.finalizers := by
  by_cases hgo : c.status.apiserverHealth = .up ∧
      ensureRequiredResourceTypesExist env s.addon = .ok none
  swap
  · simpa [exec_reconcile_state_of_waits hgo] using hmem
  rw [exec_reconcile]
  simp only [hgo, hdel, ne_eq, not_true_eq_false, if_false, Bool.false_eq_true]
  split_ifs
  · exact hmem
  rcases h₁ : exec (Reconciler.ensureIsInstalled env s.addon c) s with ⟨r₁, s₁⟩
  have hmem₁ : cleanupFinalizerName ∈ s₁.addon.finalizers :=
    (ensureIsInstalled_spec h₁).1 ▸ hmem
  rcases r₁ with e | ⟨⟨⟩⟩
  · exact hmem₁
  rcases h₂ : exec (ensureFinalizerIsSet env) s₁ with ⟨r₂, s₂⟩
  simp only [h₂]
  rcases r₂ with e | ⟨⟨⟩⟩
  · exact (ensureFinalizerIsSet_eq_error h₂).2.2 ▸ hmem₁
  have hmem₂ := mem_finalizers_ensureFinalizerIsSet h₂
  rcases h₃ : exec (ensureResourcesCreatedConditionIsSet env) s₂ with ⟨r₃, s₃⟩
  simp only [h₃]
  have hmem₃ := finalizers_ensureResourcesCreatedConditionIsSet h₃ ▸ hmem₂
  rcases r₃ with e | ⟨⟨⟩⟩ <;> exact hmem₃

/-- **In `reconcile`, the cleanup finalizer goes only after the manifests**: when a run
removes it, the addon is being deleted, and the run did nothing else but a `kubectl
delete` of the rendered manifest that exited successfully, or nothing else at all because
the set-up failed with an error that says `no such file or directory`. -/
theorem reconcile_removes_finalizer {c : Cluster} {s : State}
    (hmem : cleanupFinalizerName ∈ s.addon.finalizers)
    (hgone : cleanupFinalizerName ∉ (exec (reconcile env c) s).2.addon.finalizers) :
    s.addon.deletionTimestamp = true ∧
      ((∃ b d, renderManifest env s.addon = .ok d ∧
        (exec (reconcile env c) s).2.log = s.log ++
          [.kubectl .delete (deleteArgs b (kubeconfigFilename c.name s.addon.name)
            (manifestFilename c.name s.addon.name)) (some d) true, .write .removeFinalizer]) ∨
        ∃ e, (exec (setupManifestInteraction env s.addon c) s).1 = .error e ∧
          stringsContains e "no such file or directory" = true ∧
          (exec (reconcile env c) s).2.log = s.log ++ [.write .removeFinalizer]) := by
  cases hdel : s.addon.deletionTimestamp
  · exact absurd (mem_finalizers_reconcile_of_not_deleting hmem hdel) hgone
  refine ⟨rfl, ?_⟩
  by_cases hgo : c.status.apiserverHealth = .up ∧
      ensureRequiredResourceTypesExist env s.addon = .ok none
  swap
  · exact absurd hmem (exec_reconcile_state_of_waits hgo ▸ hgone)
  rw [exec_reconcile] at hgone ⊢
  simp only [hgo, hdel, ne_eq, not_true_eq_false, if_false, if_true] at hgone ⊢
  rcases h₁ : exec (cleanupManifests env s.addon c) s with ⟨r₁, s₁⟩
  obtain ⟨hadd₁, -, hlog₁⟩ := cleanupManifests_spec h₁
  rcases r₁ with e | ⟨⟨⟩⟩
  · simp only [h₁] at hgone
    exact absurd (hadd₁ ▸ hmem) hgone
  rcases h₂ : exec (removeCleanupFinalizer env) s₁ with ⟨r₂, s₂⟩
  simp only [h₁, h₂] at hgone ⊢
  rcases removeCleanupFinalizer_spec h₂ with rfl | ⟨rfl, rfl⟩
  · rcases r₂ with e | ⟨⟨⟩⟩ <;> exact absurd (hadd₁ ▸ hmem) hgone
  simp only [applyWrite_log]
  rcases hlog₁ with ⟨hl, hok⟩ | ⟨d, b, ok, hd, -, hl, hok⟩
  · obtain ⟨e, he, hc⟩ := hok rfl
    exact .inr ⟨e, he, hc, by rw [hl]⟩
  · obtain rfl := hok rfl
    exact .inl ⟨b, d, hd, by simp [hl]⟩

/-- **The cleanup finalizer goes only after the manifests.** Over every answer of what the
reconciler calls, a run of `Reconcile` that removes an addon's cleanup finalizer either
found the addon's cluster gone and did nothing else, or found the addon being deleted and
did nothing else but a `kubectl delete` of its rendered manifest that exited successfully,
or nothing else at all because the set-up failed with an error that says `no such file or
directory`. -/
theorem cleanupFinalizer_removed_only_after_delete (env : Env) (fetched : Fetched)
    (lookup : ClusterLookup) (s : State) (hmem : cleanupFinalizerName ∈ s.addon.finalizers)
    (hgone : cleanupFinalizerName ∉ (reconcileRun env fetched lookup s).2.addon.finalizers) :
    lookup = .notFound ∧
        (reconcileRun env fetched lookup s).2.log = s.log ++ [.write .removeFinalizer] ∨
      ∃ c, lookup = .found c ∧ s.addon.deletionTimestamp = true ∧
        ((∃ b d, renderManifest env s.addon = .ok d ∧
          (reconcileRun env fetched lookup s).2.log = s.log ++
            [.kubectl .delete (deleteArgs b (kubeconfigFilename c.name s.addon.name)
              (manifestFilename c.name s.addon.name)) (some d) true, .write .removeFinalizer]) ∨
          ∃ e, (exec (setupManifestInteraction env s.addon c) s).1 = .error e ∧
            stringsContains e "no such file or directory" = true ∧
            (reconcileRun env fetched lookup s).2.log = s.log ++ [.write .removeFinalizer]) := by
  rcases @reconcileRun_state_cases env fetched lookup s with
    h | ⟨-, hl, h⟩ | ⟨c, -, hc, -, -, h⟩
  · exact absurd hmem (h ▸ hgone)
  · exact .inl ⟨hl, by simp [h]⟩
  · rw [h] at hgone ⊢
    exact .inr ⟨c, hc, reconcile_removes_finalizer hmem hgone⟩

/-- What the reconciler calls, all answering as hoped: one manifest, and a `kubectl` that
exits successfully. -/
def workingEnv : Env where
  refuses _ := none
  skips _ := false
  conditionError _ := none
  addonEnforceInterval := 5
  getClient := none
  list _ := .served
  getAddonManifests := .ok ["kind: ConfigMap"]
  decode m := .ok ⟨[], m⟩
  encode o := .ok o.rest
  jsonToYAML j := .ok j.toList
  getAdminKubeconfig := .ok "apiVersion: v1".toList
  writeFile _ := .written
  removeAll _ := none
  binaryForClusterVersion _ := .ok "kubectl-1.24"
  kubectl _ := none

/-- A user cluster whose API server is up. -/
def userCluster : Cluster where
  name := "c"
  status := { controlPlaneVersion := "1.24.0", apiserverHealth := .up }

/-- An addon being deleted, still held by its cleanup finalizer. -/
def deletingAddon : Addon where
  name := "cni"
  specName := "cni"
  finalizers := [cleanupFinalizerName]
  deletionTimestamp := true

/-- The deleting addon's run: the manifests are deleted, then the finalizer removed. -/
theorem cleanupFinalizer_removed_only_after_delete_sample :
    cleanupFinalizerName ∈ deletingAddon.finalizers ∧
    cleanupFinalizerName ∉ (reconcileRun workingEnv .found (.found userCluster)
      { addon := deletingAddon }).2.addon.finalizers ∧
    (ClusterLookup.found userCluster = .notFound ∧
        (reconcileRun workingEnv .found (.found userCluster) { addon := deletingAddon }).2.log =
          [] ++ [.write .removeFinalizer] ∨
      ∃ c, ClusterLookup.found userCluster = .found c ∧ deletingAddon.deletionTimestamp = true ∧
        ((∃ b d, renderManifest workingEnv deletingAddon = .ok d ∧
          (reconcileRun workingEnv .found (.found userCluster) { addon := deletingAddon }).2.log =
            [] ++ [.kubectl .delete (deleteArgs b (kubeconfigFilename c.name deletingAddon.name)
              (manifestFilename c.name deletingAddon.name)) (some d) true,
              .write .removeFinalizer]) ∨
          ∃ e, (exec (setupManifestInteraction workingEnv deletingAddon c)
              { addon := deletingAddon }).1 = .error e ∧
            stringsContains e "no such file or directory" = true ∧
            (reconcileRun workingEnv .found (.found userCluster) { addon := deletingAddon }).2.log =
              [] ++ [.write .removeFinalizer])) :=
  ⟨by decide, by decide, cleanupFinalizer_removed_only_after_delete workingEnv .found
    (.found userCluster) { addon := deletingAddon } (by decide) (by decide)⟩

/-! ## Adding the cleanup finalizer -/

/-- A successful apply logged by `reconcile` comes from its install branch, and is followed
by the finalizer, unless the seed API refused that patch; the run then returns its
error. -/
theorem reconcile_sets_finalizer_after_apply {c : Cluster} {s : State} {es : List Event}
    (hlog : (exec (reconcile env c) s).2.log = s.log ++ es) {args : List String}
    {d : Option (List Char)} (happly : Event.kubectl .apply args d true ∈ es) :
    cleanupFinalizerName ∈ (exec (reconcile env c) s).2.addon.finalizers ∨
      ∃ e, env.refuses .addFinalizer = some e ∧ (exec (reconcile env c) s).1 =
        .error ("failed to ensure that the cleanup finalizer exists on the addon: " ++ e) := by
  have hfrom (es' : List Event) (h : (exec (reconcile env c) s).2.log = s.log ++ es')
      (hno : Event.kubectl .apply args d true ∉ es') : False :=
    hno (List.append_cancel_left (hlog.symm.trans h) ▸ happly)
  by_cases hgo : c.status.apiserverHealth = .up ∧
      ensureRequiredResourceTypesExist env s.addon = .ok none
  swap
  · exact (hfrom [] (by simp [exec_reconcile_state_of_waits hgo]) (by simp)).elim
  rw [exec_reconcile] at hfrom ⊢
  simp only [hgo, ne_eq, not_true_eq_false, if_false] at hfrom ⊢
  split_ifs at hfrom ⊢ with hdel hidle
  · -- deleting: a `kubectl delete` at most, and writes
    exfalso
    rcases h₁ : exec (cleanupManifests env s.addon c) s with ⟨r₁, s₁⟩
    obtain ⟨-, -, hlog₁⟩ := cleanupManifests_spec h₁
    obtain ⟨es₁, hl₁, hno₁⟩ :
        ∃ es₁, s₁.log = s.log ++ es₁ ∧ Event.kubectl .apply args d true ∉ es₁ := by
      rcases hlog₁ with ⟨hl, -⟩ | ⟨d', b, ok, -, -, hl, -⟩
      · exact ⟨[], by simp [hl], by simp⟩
      · exact ⟨_, hl, by simp⟩
    simp only [h₁] at hfrom
    rcases r₁ with e | ⟨⟨⟩⟩
    · exact hfrom es₁ hl₁ hno₁
    rcases h₂ : exec (removeCleanupFinalizer env) s₁ with ⟨r₂, s₂⟩
    simp only [h₂] at hfrom
    rcases removeCleanupFinalizer_spec h₂ with rfl | ⟨rfl, rfl⟩
    · rcases r₂ with e | ⟨⟨⟩⟩ <;> exact hfrom es₁ hl₁ hno₁
    · exact hfrom (es₁ ++ [.write .removeFinalizer]) (by simp [hl₁]) (by simpa using hno₁)
  · exact (hfrom [] (by simp) (by simp)).elim
  · -- installing: the apply, then the finalizer
    rcases h₁ : exec (Reconciler.ensureIsInstalled env s.addon c) s with ⟨r₁, s₁⟩
    obtain ⟨-, -, hlog₁⟩ := ensureIsInstalled_spec h₁
    simp only [h₁] at hfrom ⊢
    rcases r₁ with e | ⟨⟨⟩⟩
    · exfalso
      rcases hlog₁ with hl | ⟨d', b, ok, -, -, hl, hok⟩
      · exact hfrom [] (by simpa using hl) (by simp)
      · refine hfrom _ hl fun hmem => ?_
        simp only [List.mem_singleton, Event.kubectl.injEq] at hmem
        nomatch hok hmem.2.2.2.symm
    rcases h₂ : exec (ensureFinalizerIsSet env) s₁ with ⟨r₂, s₂⟩
    simp only [h₂]
    rcases r₂ with e | ⟨⟨⟩⟩
    · exact .inr ⟨e, (ensureFinalizerIsSet_eq_error h₂).1, rfl⟩
    dsimp only
    rcases h₃ : exec (ensureResourcesCreatedConditionIsSet env) s₂ with ⟨r₃, s₃⟩
    have hmem₃ := finalizers_ensureResourcesCreatedConditionIsSet h₃ ▸
      mem_finalizers_ensureFinalizerIsSet h₂
    rcases r₃ with e | ⟨⟨⟩⟩ <;> exact .inl hmem₃

/-- **The cleanup finalizer follows a successful apply, or the run says why it does
not.** Over every answer of what the reconciler calls, a run of `Reconcile` whose `kubectl
apply` exited successfully leaves the cleanup finalizer on the addon, or returns the error
the seed API refused the finalizer with. The finalizer is added after the manifests are
applied, so in that case they are in the cluster and no finalizer holds the addon for their
deletion. -/
theorem cleanupFinalizer_set_after_apply (env : Env) (fetched : Fetched) (lookup : ClusterLookup)
    (s : State) {es : List Event} (hlog : (reconcileRun env fetched lookup s).2.log = s.log ++ es)
    {args : List String} {d : Option (List Char)} (happly : Event.kubectl .apply args d true ∈ es) :
    cleanupFinalizerName ∈ (reconcileRun env fetched lookup s).2.addon.finalizers ∨
      ∃ e, env.refuses .addFinalizer = some e ∧ (reconcileRun env fetched lookup s).1.2 =
        some ("failed to ensure that the cleanup finalizer exists on the addon: " ++ e) := by
  have hfrom (es' : List Event) (h : (reconcileRun env fetched lookup s).2.log = s.log ++ es')
      (hno : Event.kubectl .apply args d true ∉ es') : False :=
    hno (List.append_cancel_left (hlog.symm.trans h) ▸ happly)
  rcases @reconcileRun_state_cases env fetched lookup s with
    h | ⟨-, -, h⟩ | ⟨c, rfl, rfl, hv, hs, h⟩
  · exact (hfrom [] (by simp [h]) (by simp)).elim
  · exact (hfrom [.write .removeFinalizer] (by simp [h]) (by simp)).elim
  rcases reconcile_sets_finalizer_after_apply (h ▸ hlog) happly with hmem | ⟨e, he, herr⟩
  · exact .inl (h ▸ hmem)
  refine .inr ⟨e, he, ?_⟩
  rw [reconcileRun_cluster_found, if_neg hv, if_neg (by simp [hs])]
  rcases hr : exec (reconcile env c) s with ⟨r, s₁⟩
  rw [hr] at herr
  cases herr
  rfl

/-- The seed API refuses the finalizer patch. -/
def refusingEnv : Env :=
  { workingEnv with
    refuses := fun w => if w = .addFinalizer then some "the object has been modified" else none }

/-- An addon to install, with no finalizer yet. -/
def installingAddon : Addon where
  name := "cni"
  specName := "cni"

/-- The window the order leaves open: `kubectl apply` succeeds, the finalizer patch is
refused, and the applied manifests are left with no finalizer on the addon. -/
theorem cleanupFinalizer_set_after_apply_refused :
    (reconcileRun refusingEnv .found (.found userCluster) { addon := installingAddon }).2.log =
      [] ++ [.kubectl .apply (applyArgs "kubectl-1.24" (kubeconfigFilename "c" "cni")
        (manifestFilename "c" "cni") "kubermatic-addon=cni")
        (some (combineManifests ["kind: ConfigMap".toList])) true] ∧
    (cleanupFinalizerName ∈ (reconcileRun refusingEnv .found (.found userCluster)
        { addon := installingAddon }).2.addon.finalizers ∨
      ∃ e, refusingEnv.refuses .addFinalizer = some e ∧ (reconcileRun refusingEnv .found
        (.found userCluster) { addon := installingAddon }).1.2 =
          some ("failed to ensure that the cleanup finalizer exists on the addon: " ++ e)) ∧
    cleanupFinalizerName ∉ (reconcileRun refusingEnv .found (.found userCluster)
      { addon := installingAddon }).2.addon.finalizers :=
  ⟨rfl, cleanupFinalizer_set_after_apply refusingEnv .found (.found userCluster)
    { addon := installingAddon } rfl (List.mem_singleton_self _), by decide⟩

/-! ## What `kubectl` reads -/

/-- A manifest of the addon's templates, and the YAML document it becomes: the object it
decodes to, with the addon's label set, encoded. -/
def LabelledAs (env : Env) (a : Addon) (m : String) (y : List Char) : Prop :=
  ∃ obj json, env.decode m = .ok obj ∧
    env.encode { obj with labels := setLabels obj.labels (getAddonLabel a) } = .ok json ∧
    env.jsonToYAML json = .ok y

/-- Setting the addon's label gives it the addon's name, which is what `addonSelector`
selects. -/
@[simp] theorem lookup_setLabels_getAddonLabel (labels : List (String × String)) (a : Addon) :
    (setLabels labels (getAddonLabel a)).lookup addonLabelKey = some a.specName := by
  simp [setLabels, getAddonLabel]

/-- `labelManifest` is what `LabelledAs` says. -/
theorem labelManifest_eq_ok {a : Addon} {m : String} {y : List Char} :
    labelManifest env a m = .ok y ↔ LabelledAs env a m y := by
  unfold labelManifest LabelledAs
  rcases hd : env.decode m with e | obj
  · simp [Except.mapError]
  rcases he : env.encode { obj with labels := setLabels obj.labels (getAddonLabel a) } with e | json
  · simp [he, Except.mapError]
  · simp [he, Except.mapError]

/-- A `mapM` in `Except` returns exactly when every element does, in order. -/
theorem mapM_eq_ok {f : α → Except String β} :
    ∀ {l : List α} {ys : List β},
      l.mapM f = .ok ys ↔ List.Forall₂ (fun x y => f x = .ok y) l ys
  | [], ys => by
    rw [List.mapM_nil]
    cases ys <;> simp [pure, Except.pure, List.forall₂_nil_left_iff]
  | x :: l, ys => by
    rw [List.mapM_cons]
    cases ys with
    | nil =>
      rcases hx : f x with e | y <;> rcases hl : l.mapM f with e' | ys' <;>
        simp [hx, hl, pure, Except.pure, List.forall₂_nil_right_iff]
    | cons y' ys' =>
      rw [List.forall₂_cons, ← mapM_eq_ok]
      rcases hx : f x with e | y <;> rcases hl : l.mapM f with e' | ys'' <;>
        simp [hx, hl, pure, Except.pure]

/-- `ensureAddonLabelOnManifests` labels every manifest, in order, or fails. -/
theorem ensureAddonLabelOnManifests_eq_ok {a : Addon} {ms : List String} {ys : List (List Char)} :
    ensureAddonLabelOnManifests env a ms = .ok ys ↔ List.Forall₂ (LabelledAs env a) ms ys := by
  simp only [ensureAddonLabelOnManifests, mapM_eq_ok, labelManifest_eq_ok]

/-- The manifest a run renders is the combined manifest of the addon's labelled objects. -/
theorem renderManifest_eq_ok {a : Addon} {d : List Char} :
    renderManifest env a = .ok d ↔ ∃ ms ys, env.getAddonManifests = .ok ms ∧
      List.Forall₂ (LabelledAs env a) ms ys ∧ d = combineManifests ys := by
  unfold renderManifest
  rcases hm : env.getAddonManifests with e | ms
  · simp
  rcases hl : ensureAddonLabelOnManifests env a ms with e | ys <;>
    simp only [← ensureAddonLabelOnManifests_eq_ok] <;> simp [hl, eq_comm]

/-- What a `kubectl` run of a run on an addon and its cluster reads and runs: the addon's
rendered manifest, from the addon's file, with the admin kubeconfig, either applied and
pruned by the addon's label or deleted. -/
def KubectlScoped (env : Env) (a : Addon) (c : Cluster) (verb : KubectlVerb) (args : List String)
    (manifest : Option (List Char)) : Prop :=
  ∃ d b, renderManifest env a = .ok d ∧ manifest = some d ∧
    env.binaryForClusterVersion c.status.controlPlaneVersion = .ok b ∧
    (verb = .apply ∧ args = applyArgs b (kubeconfigFilename c.name a.name)
        (manifestFilename c.name a.name) (addonSelector a) ∨
      verb = .delete ∧ args = deleteArgs b (kubeconfigFilename c.name a.name)
        (manifestFilename c.name a.name))

/-- The events a run appended to the log, every `kubectl` run among them scoped. -/
def LogsScoped (env : Env) (a : Addon) (c : Cluster) (s s' : State) : Prop :=
  ∃ es, s'.log = s.log ++ es ∧
    ∀ verb args manifest ok, Event.kubectl verb args manifest ok ∈ es →
      KubectlScoped env a c verb args manifest

theorem logsScoped_reconcile (c : Cluster) (s : State) :
    LogsScoped env s.addon c s (exec (reconcile env c) s).2 := by
  refine reconcile_preserves (fun s => ⟨[], by simp, by simp⟩) ?_ ?_ ?_ ?_
  · rintro s₁ s₂ s₃ ⟨es₁, hl₁, h₁⟩ ⟨es₂, hl₂, h₂⟩
    refine ⟨es₁ ++ es₂, by simp [hl₁, hl₂], fun verb args m ok hk => ?_⟩
    rcases List.mem_append.mp hk with hk | hk
    exacts [h₁ _ _ _ _ hk, h₂ _ _ _ _ hk]
  · exact fun s w => ⟨[.write w], rfl, by simp⟩
  · intro r s' h
    obtain ⟨-, -, ⟨hl, -⟩ | ⟨d, b, ok, hd, hb, hl, -⟩⟩ := cleanupManifests_spec h
    · exact ⟨[], by simp [hl], by simp⟩
    · refine ⟨_, hl, ?_⟩
      simp only [List.mem_singleton, Event.kubectl.injEq]
      rintro _ _ _ _ ⟨rfl, rfl, rfl, -⟩
      exact ⟨d, b, hd, rfl, hb, .inr ⟨rfl, rfl⟩⟩
  · intro r s' h
    obtain ⟨-, -, hl | ⟨d, b, ok, hd, hb, hl, -⟩⟩ := ensureIsInstalled_spec h
    · exact ⟨[], by simp [hl], by simp⟩
    · refine ⟨_, hl, ?_⟩
      simp only [List.mem_singleton, Event.kubectl.injEq]
      rintro _ _ _ _ ⟨rfl, rfl, rfl, -⟩
      exact ⟨d, b, hd, rfl, hb, .inl ⟨rfl, rfl⟩⟩

/-- **Every `kubectl` run reads the addon's rendered, labelled manifest.** Over every answer
of what the reconciler calls, each `kubectl` a run of `Reconcile` runs is on the addon's
cluster and reads, from the addon's file, the combined manifest of the addon's objects,
each given the addon's label; an `apply` prunes by that label, with the selector
`addonSelector`, and a `delete` deletes what the file names. -/
theorem kubectl_reads_rendered_manifest (env : Env) (fetched : Fetched) (lookup : ClusterLookup)
    (s : State) {es : List Event} (hlog : (reconcileRun env fetched lookup s).2.log = s.log ++ es)
    {verb : KubectlVerb} {args : List String} {manifest : Option (List Char)} {ok : Bool}
    (hk : Event.kubectl verb args manifest ok ∈ es) :
    ∃ c ms ys b, lookup = .found c ∧ env.getAddonManifests = .ok ms ∧
      List.Forall₂ (LabelledAs env s.addon) ms ys ∧ manifest = some (combineManifests ys) ∧
      env.binaryForClusterVersion c.status.controlPlaneVersion = .ok b ∧
      (verb = .apply ∧ args = applyArgs b (kubeconfigFilename c.name s.addon.name)
          (manifestFilename c.name s.addon.name) (addonSelector s.addon) ∨
        verb = .delete ∧ args = deleteArgs b (kubeconfigFilename c.name s.addon.name)
          (manifestFilename c.name s.addon.name)) := by
  have hfrom {es' : List Event} (h : (reconcileRun env fetched lookup s).2.log = s.log ++ es') :
      Event.kubectl verb args manifest ok ∈ es' :=
    List.append_cancel_left (hlog.symm.trans h) ▸ hk
  rcases @reconcileRun_state_cases env fetched lookup s with
    h | ⟨-, -, h⟩ | ⟨c, -, hc, -, -, h⟩ <;>
    rw [h] at hfrom
  · simpa using @hfrom [] (by simp)
  · simpa using @hfrom [.write .removeFinalizer] (by simp)
  obtain ⟨es', hl, hscoped⟩ := @logsScoped_reconcile env c s
  obtain ⟨d, b, hd, rfl, hb, hargs⟩ := hscoped _ _ _ _ (hfrom hl)
  obtain ⟨ms, ys, hms, hys, rfl⟩ := renderManifest_eq_ok.mp hd
  exact ⟨c, ms, ys, b, hc, hms, hys, rfl, hb, hargs⟩

/-- The installing addon's run reads the combined manifest of its one labelled object. -/
theorem kubectl_reads_rendered_manifest_sample :
    (reconcileRun workingEnv .found (.found userCluster) { addon := installingAddon }).2.log =
      [] ++ [.kubectl .apply (applyArgs "kubectl-1.24" (kubeconfigFilename "c" "cni")
        (manifestFilename "c" "cni") "kubermatic-addon=cni")
        (some (combineManifests ["kind: ConfigMap".toList])) true,
        .write .addFinalizer, .write .setResourcesCreated] ∧
    ∃ c ms ys b, ClusterLookup.found userCluster = .found c ∧
      workingEnv.getAddonManifests = .ok ms ∧
      List.Forall₂ (LabelledAs workingEnv installingAddon) ms ys ∧
      some (combineManifests ["kind: ConfigMap".toList]) = some (combineManifests ys) ∧
      workingEnv.binaryForClusterVersion c.status.controlPlaneVersion = .ok b ∧
      (KubectlVerb.apply = .apply ∧ applyArgs "kubectl-1.24" (kubeconfigFilename "c" "cni")
          (manifestFilename "c" "cni") "kubermatic-addon=cni" =
            applyArgs b (kubeconfigFilename c.name installingAddon.name)
              (manifestFilename c.name installingAddon.name) (addonSelector installingAddon) ∨
        KubectlVerb.apply = .delete ∧ applyArgs "kubectl-1.24" (kubeconfigFilename "c" "cni")
          (manifestFilename "c" "cni") "kubermatic-addon=cni" =
            deleteArgs b (kubeconfigFilename c.name installingAddon.name)
              (manifestFilename c.name installingAddon.name)) :=
  ⟨rfl, kubectl_reads_rendered_manifest workingEnv .found (.found userCluster)
    { addon := installingAddon } rfl (List.mem_cons_self _ _)⟩

/-! ## The files under `/tmp` -/

theorem leavesFiles_reconcile (c : Cluster) (s : State) :
    LeavesFiles env s.addon c s (exec (reconcile env c) s).2 :=
  reconcile_preserves LeavesFiles.refl (fun h₁ h₂ => h₁.trans h₂)
    (fun _ _ => .of_files_eq rfl) (fun h => (cleanupManifests_spec h).2.1)
    (fun h => (ensureIsInstalled_spec h).2.1)

/-- **What a run leaves under `/tmp`.** Over every answer of what the reconciler calls, a
run of `Reconcile` leaves the files as they were, or, on the addon's cluster, changes only
the addon's two files. Each of them is gone, as it was, or holds a prefix of what was
meant for it: of the admin kubeconfig only when its write failed after `os.WriteFile`
created the file or its `os.RemoveAll` failed, and of the rendered manifest only when its
own write failed so, the admin kubeconfig was not written, or its removal failed. -/
theorem reconcileRun_leavesFiles (env : Env) (fetched : Fetched) (lookup : ClusterLookup)
    (s : State) :
    (reconcileRun env fetched lookup s).2.files = s.files ∨
      ∃ c, lookup = .found c ∧ LeavesFiles env s.addon c s (reconcileRun env fetched lookup s).2 := by
  rcases @reconcileRun_state_cases env fetched lookup s with
    h | ⟨-, -, h⟩ | ⟨c, -, hc, -, -, h⟩ <;>
    rw [h]
  · exact .inl rfl
  · exact .inl rfl
  · exact .inr ⟨c, hc, leavesFiles_reconcile c s⟩

/-- No admin kubeconfig, of any addon of any cluster, is on disk. -/
def NoKubeconfigFiles (s : State) : Prop :=
  ∀ clusterName addonName, s.files (kubeconfigFilename clusterName addonName) = none

/-- A file system that leaves no admin kubeconfig behind: no write of one fails after
creating the file, and no removal of one fails. -/
def RemovesKubeconfigs (env : Env) : Prop :=
  ∀ clusterName addonName, ¬KubeconfigLeft env (kubeconfigFilename clusterName addonName)

theorem noKubeconfigFiles_reconcileRun {fetched : Fetched} {lookup : ClusterLookup} {s : State}
    (henv : RemovesKubeconfigs env) (h : NoKubeconfigFiles s) :
    NoKubeconfigFiles (reconcileRun env fetched lookup s).2 := by
  refine reconcileRun_preserves (P := fun s s' => NoKubeconfigFiles s → NoKubeconfigFiles s')
    (fun _ => id) (fun _ _ => id) (fun c _ h cn an => ?_) h
  have hl := @leavesFiles_reconcile env c s
  by_cases hk : kubeconfigFilename cn an = kubeconfigFilename c.name s.addon.name
  · rw [hk]
    rcases hl.kubeconfig with hnone | hsame | ⟨-, -, -, -, -, hleft⟩
    · exact hnone
    · exact hsame ▸ h _ _
    · exact absurd hleft (henv _ _)
  · rw [hl.other _ hk (kubeconfigFilename_ne_manifestFilename _ _ _ _)]
    exact h cn an

/-- Runs of `Reconcile` one after another, each with what it was answered. -/
def reconcileRuns : List (Env × Fetched × ClusterLookup) → State → State
  | [], s => s
  | (env, fetched, lookup) :: runs, s => reconcileRuns runs (reconcileRun env fetched lookup s).2

theorem noKubeconfigFiles_reconcileRuns_of_removes :
    ∀ (runs : List (Env × Fetched × ClusterLookup)) (s : State), NoKubeconfigFiles s →
      (∀ r ∈ runs, RemovesKubeconfigs r.1) → NoKubeconfigFiles (reconcileRuns runs s)
  | [], _, h, _ => h
  | (_, _, _) :: runs, _, h, henv =>
    noKubeconfigFiles_reconcileRuns_of_removes runs _
      (noKubeconfigFiles_reconcileRun (henv _ (List.mem_cons_self _ _)) h)
      fun r hr => henv r (List.mem_cons_of_mem _ hr)

/-- A run of `reconcile` past its waits, on an addon that is being deleted or that it does
not leave alone, whose set-up fails, ends with the files the set-up left: the delete and
the install both return before they defer a removal. -/
theorem exec_reconcile_files_of_setup_error {c : Cluster} {s s₁ : State} {e : String}
    (hup : c.status.apiserverHealth = .up)
    (hreq : ensureRequiredResourceTypesExist env s.addon = .ok none)
    (hgo : s.addon.deletionTimestamp = true ∨
      (addonResourcesCreated s.addon && !hasEnsureResourcesLabel s.addon) = false)
    (hsetup : exec (setupManifestInteraction env s.addon c) s = (.error e, s₁)) :
    (exec (reconcile env c) s).2.files = s₁.files := by
  rw [exec_reconcile]
  simp only [hup, hreq, ne_eq, not_true_eq_false, if_false]
  by_cases hdel : s.addon.deletionTimestamp = true
  · simp only [hdel, if_true]
    rw [exec_cleanupManifests, hsetup]
    dsimp only
    split_ifs
    · rcases h₂ : exec (removeCleanupFinalizer env) s₁ with ⟨r₂, s₂⟩
      rcases removeCleanupFinalizer_spec h₂ with rfl | ⟨-, rfl⟩ <;> rcases r₂ with e | ⟨⟨⟩⟩ <;>
        simp [h₂]
    · rfl
  · have hinstall : exec (Reconciler.ensureIsInstalled env s.addon c) s = (.error e, s₁) := by
      rw [Reconciler.ensureIsInstalled, exec_bind_of_error hsetup]
    simp only [hdel, hgo.resolve_left hdel, hinstall, Bool.false_eq_true, if_false]

/-- **A failed write of the admin kubeconfig leaves it under `/tmp`.** A run of `Reconcile`
that reaches the set-up of the addon's files (the cluster found with a control-plane
version and not skipped, its API server up and every required type served, and the addon
being deleted or not left alone), in which the manifest was written and the write of the
admin kubeconfig failed after `os.WriteFile` created the file, ends with the part of the
admin kubeconfig that was written in its file, and the rendered manifest in its own:
`setupManifestInteraction` returns before it defers their removal. -/
theorem reconcileRun_leaves_partial_kubeconfig {c : Cluster} {s : State} {d kc : List Char}
    {e : String} {n : Nat} (hv : c.status.controlPlaneVersion ≠ "") (hs : env.skips c = false)
    (hup : c.status.apiserverHealth = .up)
    (hreq : ensureRequiredResourceTypesExist env s.addon = .ok none)
    (hgo : s.addon.deletionTimestamp = true ∨
      (addonResourcesCreated s.addon && !hasEnsureResourcesLabel s.addon) = false)
    (hd : renderManifest env s.addon = .ok d)
    (hm : env.writeFile (manifestFilename c.name s.addon.name) = .written)
    (hkc : env.getAdminKubeconfig = .ok kc)
    (hk : env.writeFile (kubeconfigFilename c.name s.addon.name) = .failed e n) :
    (reconcileRun env .found (.found c) s).2.files (kubeconfigFilename c.name s.addon.name) =
        some (kc.take n) ∧
      (reconcileRun env .found (.found c) s).2.files (manifestFilename c.name s.addon.name) =
        some d := by
  have hne := kubeconfigFilename_ne_manifestFilename c.name s.addon.name c.name s.addon.name
  rw [reconcileRun_cluster_found_state, if_neg (by simp [hv, hs]),
    exec_reconcile_files_of_setup_error hup hreq hgo
      (exec_setupManifestInteraction_of_kubeconfig_failed hd hm hkc hk s)]
  simp [Ne.symm hne]

/-- **An admin kubeconfig stays on disk only through a failure of the file system.** From a
state with none, runs of `Reconcile` one after another, on any clusters and with any
other answers of what the reconciler calls, leave none, when no write of an admin
kubeconfig fails after creating the file and no removal of one fails. A write that does
fail so leaves what it wrote: a run that reaches it keeps the admin kubeconfig's first
bytes, and the rendered manifest, under `/tmp`. -/
theorem noKubeconfigFiles_reconcileRuns :
    (∀ (runs : List (Env × Fetched × ClusterLookup)) (s : State), NoKubeconfigFiles s →
      (∀ r ∈ runs, RemovesKubeconfigs r.1) → NoKubeconfigFiles (reconcileRuns runs s)) ∧
    ∀ (env : Env) (c : Cluster) (s : State) (d kc : List Char) (e : String) (n : Nat),
      c.status.controlPlaneVersion ≠ "" → env.skips c = false →
      c.status.apiserverHealth = .up → ensureRequiredResourceTypesExist env s.addon = .ok none →
      (s.addon.deletionTimestamp = true ∨
        (addonResourcesCreated s.addon && !hasEnsureResourcesLabel s.addon) = false) →
      renderManifest env s.addon = .ok d →
      env.writeFile (manifestFilename c.name s.addon.name) = .written →
      env.getAdminKubeconfig = .ok kc →
      env.writeFile (kubeconfigFilename c.name s.addon.name) = .failed e n →
      (reconcileRun env .found (.found c) s).2.files (kubeconfigFilename c.name s.addon.name) =
          some (kc.take n) ∧
        (reconcileRun env .found (.found c) s).2.files (manifestFilename c.name s.addon.name) =
          some d :=
  ⟨noKubeconfigFiles_reconcileRuns_of_removes,
    fun _ _ _ _ _ _ _ hv hs hup hreq hgo hd hm hkc hk =>
      reconcileRun_leaves_partial_kubeconfig hv hs hup hreq hgo hd hm hkc hk⟩

/-- The disk fills up after the first ten bytes of the admin kubeconfig. -/
def fullDiskEnv : Env :=
  { workingEnv with
    writeFile := fun p =>
      if p = kubeconfigFilename "c" "cni" then .failed "no space left on device" 10 else .written }

/-- A run whose file system keeps no admin kubeconfig leaves none; a run on a full disk
leaves `apiVersion`, the first ten bytes of the admin kubeconfig, and the rendered
manifest. -/
theorem noKubeconfigFiles_reconcileRuns_sample :
    NoKubeconfigFiles (reconcileRuns [(workingEnv, .found, .found userCluster)]
      { addon := installingAddon }) ∧
    (reconcileRun fullDiskEnv .found (.found userCluster) { addon := installingAddon }).2.files
        (kubeconfigFilename "c" "cni") = some ("apiVersion: v1".toList.take 10) ∧
      (reconcileRun fullDiskEnv .found (.found userCluster) { addon := installingAddon }).2.files
        (manifestFilename "c" "cni") = some (combineManifests ["kind: ConfigMap".toList]) :=
  ⟨noKubeconfigFiles_reconcileRuns.1 _ _ (fun _ _ => rfl)
      (by simp [RemovesKubeconfigs, KubeconfigLeft, workingEnv]),
    noKubeconfigFiles_reconcileRuns.2 fullDiskEnv userCluster _ _ _ _ _ (by decide) rfl rfl rfl
      (.inr rfl) rfl rfl rfl rfl⟩

/-! ## Runs that wait -/

/-- Some required type is not served, and every one before it is. -/
def FirstUnserved (env : Env) (gvks : List GroupVersionKind) : Prop :=
  ∃ pre gvk post, gvks = pre ++ gvk :: post ∧ (∀ g ∈ pre, env.list g = .served) ∧
    env.list gvk = .noMatch

theorem firstUnserved_cons {g : GroupVersionKind} {gs : List GroupVersionKind} :
    FirstUnserved env (g :: gs) ↔
      env.list g = .noMatch ∨ env.list g = .served ∧ FirstUnserved env gs := by
  constructor
  · rintro ⟨pre, gvk, post, h, hpre, hgvk⟩
    rcases List.cons_eq_append_iff.mp h with ⟨rfl, h⟩ | ⟨pre', rfl, rfl⟩
    · cases h
      exact .inl hgvk
    · exact .inr ⟨hpre g (by simp), pre', gvk, post, rfl,
        fun g' hg' => hpre g' (by simp [hg']), hgvk⟩
  · rintro (h | ⟨hg, pre, gvk, post, rfl, hpre, hgvk⟩)
    · exact ⟨[], g, gs, rfl, by simp, h⟩
    · refine ⟨g :: pre, gvk, post, rfl, ?_, hgvk⟩
      simp only [List.mem_cons, forall_eq_or_imp]
      exact ⟨hg, hpre⟩

/-- **The loop over the required types** asks for a requeue exactly at the first type that
is not served, after served ones, and then always for 10 seconds. -/
theorem listRequiredResourceTypes_eq_some {r : Result} :
    ∀ {gvks : List GroupVersionKind}, listRequiredResourceTypes env gvks = .ok (some r) ↔
      r = { requeueAfter := 10 } ∧ FirstUnserved env gvks
  | [] => by simp [listRequiredResourceTypes, FirstUnserved]
  | g :: gs => by
    rw [listRequiredResourceTypes, firstUnserved_cons]
    rcases hg : env.list g with _ | _ | err
    · rw [listRequiredResourceTypes_eq_some]
      simp
    · simp [eq_comm]
    · simp

theorem listRequiredResourceTypes_eq_none :
    ∀ {gvks : List GroupVersionKind},
      listRequiredResourceTypes env gvks = .ok none ↔ ∀ g ∈ gvks, env.list g = .served
  | [] => by simp [listRequiredResourceTypes]
  | g :: gs => by
    rw [listRequiredResourceTypes]
    rcases hg : env.list g with _ | _ | err <;> simp [hg, listRequiredResourceTypes_eq_none]

theorem ensureRequiredResourceTypesExist_eq_none {a : Addon} :
    ensureRequiredResourceTypesExist env a = .ok none ↔ a.requiredResourceTypes = [] ∨
      env.getClient = none ∧ ∀ g ∈ a.requiredResourceTypes, env.list g = .served := by
  unfold ensureRequiredResourceTypesExist
  by_cases h : a.requiredResourceTypes = []
  · simp [h]
  rcases hc : env.getClient with _ | err <;> simp [h, hc, listRequiredResourceTypes_eq_none]

theorem ensureRequiredResourceTypesExist_eq_some {a : Addon} {r : Result} :
    ensureRequiredResourceTypesExist env a = .ok (some r) ↔ r = { requeueAfter := 10 } ∧
      env.getClient = none ∧ FirstUnserved env a.requiredResourceTypes := by
  unfold ensureRequiredResourceTypesExist
  by_cases h : a.requiredResourceTypes = []
  · simp [h, FirstUnserved]
  rcases hc : env.getClient with _ | err <;> simp [h, hc, listRequiredResourceTypes_eq_some]

/-- On a cluster with a control-plane version that the wrapper does not skip, a run whose
`reconcile` changed nothing leaves the state as it was, and returns what `reconcile` asked
for, or the enforcement interval, with the condition patch's error. -/
theorem reconcileRun_of_idle {c : Cluster} {s : State} (hv : c.status.controlPlaneVersion ≠ "")
    (hs : env.skips c = false) {r : Option Result} (h : exec (reconcile env c) s = (.ok r, s)) :
    reconcileRun env .found (.found c) s =
      ((r.getD (enforceResult env), env.conditionError true), s) := by
  rw [reconcileRun_cluster_found, if_neg hv, if_neg (by simp [hs]), h]

/-- **Runs that wait change nothing.** On a cluster with a control-plane version that the
wrapper does not skip, a run of `Reconcile` changes nothing, and asks to run again 10
seconds later while the API server is not up, or while a required type is not served; and
it changes nothing and asks to run again after the enforcement interval on an addon whose
resources were created and that does not carry the ensure label. A deleting addon keeps its
finalizer meanwhile. -/
theorem reconcileRun_waits (env : Env) (c : Cluster) (s : State)
    (hv : c.status.controlPlaneVersion ≠ "") (hs : env.skips c = false) :
    (c.status.apiserverHealth ≠ .up → reconcileRun env .found (.found c) s =
      (({ requeueAfter := 10 }, env.conditionError true), s)) ∧
    (c.status.apiserverHealth = .up → env.getClient = none →
      FirstUnserved env s.addon.requiredResourceTypes →
      reconcileRun env .found (.found c) s =
        (({ requeueAfter := 10 }, env.conditionError true), s)) ∧
    (c.status.apiserverHealth = .up → (s.addon.requiredResourceTypes = [] ∨
        env.getClient = none ∧ ∀ g ∈ s.addon.requiredResourceTypes, env.list g = .served) →
      s.addon.deletionTimestamp = false → addonResourcesCreated s.addon = true →
      hasEnsureResourcesLabel s.addon = false →
      reconcileRun env .found (.found c) s = ((enforceResult env, env.conditionError true), s)) := by
  refine ⟨fun hup => reconcileRun_of_idle (r := some _) hv hs (by simp [exec_reconcile, hup]),
    fun hup hc hfirst => reconcileRun_of_idle (r := some _) hv hs ?_,
    fun hup hserved hdel hcreated hlabel => reconcileRun_of_idle (r := none) hv hs ?_⟩
  · have hreq := ensureRequiredResourceTypesExist_eq_some.mpr ⟨rfl, hc, hfirst⟩
    simp [exec_reconcile, hup, hreq]
  · have hreq := ensureRequiredResourceTypesExist_eq_none.mpr hserved
    simp [exec_reconcile, hup, hreq, hdel, hcreated, hlabel]

end Kubermatic.Addon
