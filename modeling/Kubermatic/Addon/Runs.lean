import Kubermatic.Addon.Reconciler

/-!
# What a run of the addon reconciler does

One lemma per function of `Kubermatic.Addon.Reconciler`, each saying everything a run of
it can end in, so that the lifecycle results never unfold the code. A run of an `AddonM`
computation from a state is `exec`, and `exec_bind` computes a run of `m >>= f` from the
run of `m`.

The rendering steps of `setupManifestInteraction` call no file and write nothing;
`renderManifest` is what they compute, the combined manifest of the labelled objects. A
set-up that returns wrote it to the addon's manifest file, then the admin kubeconfig to
its own (`exec_setupManifestInteraction_eq_ok`). One that fails wrote nothing, part of the
manifest, the manifest, or the manifest and part of the admin kubeconfig, as the file
system answered (`exec_setupManifestInteraction_eq_error`); a kubeconfig write that fails
after creating the file leaves what it wrote, with no removal deferred
(`exec_setupManifestInteraction_of_kubeconfig_failed`). `LeavesFiles` says what a run may
do to the files under `/tmp`, and `ensureIsInstalled_spec`
and `cleanupManifests_spec` say what each of the two runs does to the files, the addon and
the log. `exec_reconcile` is the closed form of `reconcile` over these, and
`reconcileRun_state_cases` what a whole run of `Reconcile` can leave.
-/

namespace Kubermatic.Addon

/-! ## Running `AddonM` -/

/-- The called functions return `Except`s, chained with `bind`. -/
@[simp] theorem except_error_bind (e : String) (f : α → Except String β) :
    (Except.error e >>= f) = .error e := rfl

@[simp] theorem except_ok_bind (a : α) (f : α → Except String β) : (Except.ok a >>= f) = f a :=
  rfl

/-- A run of `m` from a state: what it returned, and the state it left. -/
def exec (m : AddonM α) (s : State) : Except String α × State := m.run.run s

section Monad

variable {α β : Type}

@[simp] theorem exec_pure (a : α) (s : State) : exec (pure a) s = (.ok a, s) := rfl

@[simp] theorem exec_throw (e : String) (s : State) :
    exec (throw e : AddonM α) s = (.error e, s) := rfl

@[simp] theorem exec_get (s : State) : exec get s = (.ok s, s) := rfl

@[simp] theorem exec_get_bind (f : State → AddonM α) (s : State) :
    exec (get >>= f) s = exec (f s) s := rfl

@[simp] theorem exec_modify (f : State → State) (s : State) : exec (modify f) s = (.ok (), f s) :=
  rfl

@[simp] theorem exec_liftExcept (r : Except String α) (s : State) :
    exec (liftExcept r) s = (r, s) := rfl

@[simp] theorem exec_map (f : α → β) (m : AddonM α) (s : State) :
    exec (f <$> m) s = ((exec m s).1.map f, (exec m s).2) := by
  simp only [exec, ExceptT.run_map, StateT.run_map]
  rfl

@[simp] theorem exec_wrapError (msg : String) (m : AddonM α) (s : State) :
    exec (wrapError msg m) s = ((exec m s).1.mapError (msg ++ ·), (exec m s).2) := rfl

theorem exec_bind_of_ok {m : AddonM α} {f : α → AddonM β} {s s₁ : State} {a : α}
    (h : exec m s = (.ok a, s₁)) : exec (m >>= f) s = exec (f a) s₁ := by
  simp only [exec, ExceptT.run_bind, StateT.run_bind] at h ⊢
  simp only [h]
  rfl

theorem exec_bind_of_error {m : AddonM α} {f : α → AddonM β} {s s₁ : State} {e : String}
    (h : exec m s = (.error e, s₁)) : exec (m >>= f) s = (.error e, s₁) := by
  simp only [exec, ExceptT.run_bind, StateT.run_bind] at h ⊢
  simp only [h]
  rfl

/-- A run of `m >>= f`, computed from the run of `m`. -/
theorem exec_bind (m : AddonM α) (f : α → AddonM β) (s : State) :
    exec (m >>= f) s = match exec m s with
      | (.ok a, s₁) => exec (f a) s₁
      | (.error e, s₁) => (.error e, s₁) := by
  rcases h : exec m s with ⟨e | a, s₁⟩
  · exact exec_bind_of_error h
  · exact exec_bind_of_ok h

end Monad

/-! ## The writes of the addon -/

@[simp] theorem applyWrite_log (s : State) (w : AddonWrite) :
    (s.applyWrite w).log = s.log ++ [.write w] := rfl

@[simp] theorem applyWrite_addon (s : State) (w : AddonWrite) :
    (s.applyWrite w).addon = w.apply s.addon := rfl

@[simp] theorem applyWrite_files (s : State) (w : AddonWrite) :
    (s.applyWrite w).files = s.files := rfl

@[simp] theorem putFile_files (s : State) (p q : String) (d : List Char) :
    (s.putFile p d).files q = if q = p then some d else s.files q := rfl


@[simp] theorem putFile_log (s : State) (p : String) (d : List Char) :
    (s.putFile p d).log = s.log := rfl

@[simp] theorem putFile_addon (s : State) (p : String) (d : List Char) :
    (s.putFile p d).addon = s.addon := rfl

namespace Reconciler

@[simp] theorem getFileDeleteFinalizer_files (env : Env) (p : String) (s : State) (q : String) :
    (getFileDeleteFinalizer env p s).files q =
      if q = p ∧ env.removeAll p = none then none else s.files q := rfl

@[simp] theorem getFileDeleteFinalizer_log (env : Env) (p : String) (s : State) :
    (getFileDeleteFinalizer env p s).log = s.log := rfl

@[simp] theorem getFileDeleteFinalizer_addon (env : Env) (p : String) (s : State) :
    (getFileDeleteFinalizer env p s).addon = s.addon := rfl

end Reconciler

@[simp] theorem mem_finalizers_apply {w : AddonWrite} {a : Addon} :
    cleanupFinalizerName ∈ (w.apply a).finalizers ↔
      w = .addFinalizer ∨ w ≠ .removeFinalizer ∧ cleanupFinalizerName ∈ a.finalizers := by
  cases w <;> simp [AddonWrite.apply]

/-! ## One lemma per function -/

namespace Reconciler

variable {env : Env}

theorem exec_patchAddon_of_refuses {w : AddonWrite} {e : String} (h : env.refuses w = some e)
    (s : State) : exec (patchAddon env w) s = (.error e, s) := by
  simp [patchAddon, h]

theorem exec_patchAddon_of_accepts {w : AddonWrite} (h : env.refuses w = none) (s : State) :
    exec (patchAddon env w) s = (.ok (), s.applyWrite w) := by
  simp [patchAddon, h]

theorem exec_removeCleanupFinalizer (s : State) :
    exec (removeCleanupFinalizer env) s =
      if cleanupFinalizerName ∈ s.addon.finalizers then exec (patchAddon env .removeFinalizer) s
      else (.ok (), s) := by
  by_cases h : cleanupFinalizerName ∈ s.addon.finalizers <;> simp [removeCleanupFinalizer, h]

theorem exec_ensureFinalizerIsSet (s : State) :
    exec (ensureFinalizerIsSet env) s =
      if cleanupFinalizerName ∈ s.addon.finalizers then (.ok (), s)
      else exec (patchAddon env .addFinalizer) s := by
  by_cases h : cleanupFinalizerName ∈ s.addon.finalizers <;> simp [ensureFinalizerIsSet, h]

theorem exec_ensureResourcesCreatedConditionIsSet (s : State) :
    exec (ensureResourcesCreatedConditionIsSet env) s =
      if s.addon.resourcesCreated then (.ok (), s)
      else exec (patchAddon env .setResourcesCreated) s := by
  by_cases h : s.addon.resourcesCreated <;> simp [ensureResourcesCreatedConditionIsSet, h]

theorem exec_osWriteFile (p : String) (d : List Char) (s : State) :
    exec (osWriteFile env p d) s = match env.writeFile p with
      | .written => (.ok (), s.putFile p d)
      | .openFailed e => (.error e, s)
      | .failed e n => (.error e, s.putFile p (d.take n)) := by
  cases h : env.writeFile p <;> simp [osWriteFile, h, exec_bind]

theorem exec_osReadFile (p : String) (s : State) :
    exec (osReadFile p) s = match s.files p with
      | some d => (.ok d, s)
      | none => (.error ("open " ++ p ++ ": no such file or directory"), s) := by
  cases h : s.files p <;> simp [osReadFile, h]

theorem exec_osReadFile_of_eq {p : String} {s : State} {d : List Char} (h : s.files p = some d) :
    exec (osReadFile p) s = (.ok d, s) := by
  rw [exec_osReadFile, h]

theorem exec_deferDone (kp mp : String) (body : AddonM α) (s : State) :
    exec (deferDone env kp mp body) s =
      ((exec body s).1, getFileDeleteFinalizer env mp (getFileDeleteFinalizer env kp (exec body s).2)) :=
  rfl

theorem exec_writeCombinedManifest (d : List Char) (a : Addon) (c : Cluster) (s : State) :
    exec (writeCombinedManifest env d a c) s =
      match env.writeFile (manifestFilename c.name a.name) with
      | .written =>
        (.ok (manifestFilename c.name a.name), s.putFile (manifestFilename c.name a.name) d)
      | .openFailed e =>
        (.error ("failed to write combined manifest to " ++ manifestFilename c.name a.name ++
          ": " ++ e), s)
      | .failed e n =>
        (.error ("failed to write combined manifest to " ++ manifestFilename c.name a.name ++
          ": " ++ e), s.putFile (manifestFilename c.name a.name) (d.take n)) := by
  cases h : env.writeFile (manifestFilename c.name a.name) <;>
    simp [writeCombinedManifest, exec_bind, exec_osWriteFile, h, Except.mapError, Except.map]

theorem exec_writeAdminKubeconfig (a : Addon) (c : Cluster) (s : State) :
    exec (writeAdminKubeconfig env a c) s =
      match env.getAdminKubeconfig, env.writeFile (kubeconfigFilename c.name a.name) with
      | .error e, _ =>
        (.error ("failed to get admin kubeconfig for cluster " ++ c.name ++ ": " ++ e), s)
      | .ok kc, .written =>
        (.ok (kubeconfigFilename c.name a.name),
          s.putFile (kubeconfigFilename c.name a.name) kc)
      | .ok _, .openFailed e =>
        (.error ("failed to write admin kubeconfig for cluster " ++ c.name ++ ": " ++ e), s)
      | .ok kc, .failed e n =>
        (.error ("failed to write admin kubeconfig for cluster " ++ c.name ++ ": " ++ e),
          s.putFile (kubeconfigFilename c.name a.name) (kc.take n)) := by
  cases h : env.getAdminKubeconfig <;>
    cases h' : env.writeFile (kubeconfigFilename c.name a.name) <;>
    simp [writeAdminKubeconfig, exec_bind, exec_osWriteFile, h, h', Except.mapError, Except.map]

end Reconciler

open Reconciler in
/-- What `setupManifestInteraction` renders before it writes a file: the combined manifest
of the addon's objects, each labelled, or the error it returns. -/
def renderManifest (env : Env) (addon : Addon) : Except String (List Char) :=
  match env.getAddonManifests with
  | .error e => .error ("failed to get addon manifests: " ++ e)
  | .ok manifests =>
    match ensureAddonLabelOnManifests env addon manifests with
    | .error e => .error ("failed to add the addon specific label to all addon resources: " ++ e)
    | .ok rawManifests => .ok (combineManifests rawManifests)

namespace Reconciler

variable {env : Env}

theorem exec_setupManifestInteraction (a : Addon) (c : Cluster) (s : State) :
    exec (setupManifestInteraction env a c) s =
      match renderManifest env a with
      | .error e => (.error e, s)
      | .ok d =>
        match exec (writeCombinedManifest env d a c) s with
        | (.error e, s₁) =>
          (.error ("failed to write all addon resources into a combined manifest file: " ++ e),
            s₁)
        | (.ok mp, s₁) =>
          match exec (writeAdminKubeconfig env a c) s₁ with
          | (.error e, s₂) =>
            (.error ("failed to write the admin kubeconfig to the local filesystem: " ++ e), s₂)
          | (.ok kp, s₂) => (.ok (kp, mp), s₂) := by
  unfold setupManifestInteraction renderManifest
  rcases hm : env.getAddonManifests with e | ms
  · simp [exec_bind, hm, Except.mapError]
  rcases hl : ensureAddonLabelOnManifests env a ms with e | raw
  · simp [exec_bind, hm, hl, Except.mapError]
  rcases h₁ : exec (writeCombinedManifest env (combineManifests raw) a c) s with
    ⟨e | mp, s₁⟩
  · simp [exec_bind, hm, hl, h₁, Except.mapError]
  rcases h₂ : exec (writeAdminKubeconfig env a c) s₁ with ⟨e | kp, s₂⟩ <;>
    simp [exec_bind, hm, hl, h₁, h₂, Except.mapError, Except.map]

theorem exec_writeCombinedManifest_eq_ok {d : List Char} {a : Addon} {c : Cluster}
    {s s' : State} {p : String} (h : exec (writeCombinedManifest env d a c) s = (.ok p, s')) :
    env.writeFile (manifestFilename c.name a.name) = .written ∧
      p = manifestFilename c.name a.name ∧ s' = s.putFile (manifestFilename c.name a.name) d := by
  rcases hw : env.writeFile (manifestFilename c.name a.name) with _ | e₁ | ⟨e₁, n₁⟩ <;>
    simp [exec_writeCombinedManifest, hw] at h
  exact ⟨rfl, h.1.symm, h.2.symm⟩

theorem exec_writeCombinedManifest_eq_error {d : List Char} {a : Addon} {c : Cluster}
    {s s' : State} {e : String} (h : exec (writeCombinedManifest env d a c) s = (.error e, s')) :
    s' = s ∨ ∃ e₁ n, env.writeFile (manifestFilename c.name a.name) = .failed e₁ n ∧
      s' = s.putFile (manifestFilename c.name a.name) (d.take n) := by
  rcases hw : env.writeFile (manifestFilename c.name a.name) with _ | e₁ | ⟨e₁, n₁⟩ <;>
    simp [exec_writeCombinedManifest, hw] at h
  · exact .inl h.2.symm
  · exact .inr ⟨e₁, n₁, rfl, h.2.symm⟩

theorem exec_writeAdminKubeconfig_eq_ok {a : Addon} {c : Cluster} {s s' : State} {p : String}
    (h : exec (writeAdminKubeconfig env a c) s = (.ok p, s')) :
    p = kubeconfigFilename c.name a.name ∧ ∃ kc, env.getAdminKubeconfig = .ok kc ∧
      s' = s.putFile (kubeconfigFilename c.name a.name) kc := by
  rcases hk : env.getAdminKubeconfig with e₂ | kc <;>
  rcases hw : env.writeFile (kubeconfigFilename c.name a.name) with _ | e₃ | ⟨e₃, n₃⟩ <;>
    simp [exec_writeAdminKubeconfig, hk, hw] at h
  exact ⟨h.1.symm, kc, rfl, h.2.symm⟩

theorem exec_writeAdminKubeconfig_eq_error {a : Addon} {c : Cluster} {s s' : State} {e : String}
    (h : exec (writeAdminKubeconfig env a c) s = (.error e, s')) :
    (∀ kc, env.getAdminKubeconfig = .ok kc →
      env.writeFile (kubeconfigFilename c.name a.name) ≠ .written) ∧
    (s' = s ∨ ∃ kc e₃ n, env.getAdminKubeconfig = .ok kc ∧
      env.writeFile (kubeconfigFilename c.name a.name) = .failed e₃ n ∧
      s' = s.putFile (kubeconfigFilename c.name a.name) (kc.take n)) := by
  rcases hk : env.getAdminKubeconfig with e₂ | kc <;>
  rcases hw : env.writeFile (kubeconfigFilename c.name a.name) with _ | e₃ | ⟨e₃, n₃⟩ <;>
    simp [exec_writeAdminKubeconfig, hk, hw] at h ⊢ <;>
    first
    | exact h.2.symm
    | exact .inr ⟨_, _, ⟨rfl, rfl⟩, h.2.symm⟩

/-- **A set-up that returns** rendered the manifest and wrote it, then the admin
kubeconfig, each to the addon's file, and returns the two paths. -/
theorem exec_setupManifestInteraction_eq_ok {a : Addon} {c : Cluster} {s s' : State}
    {kp mp : String} (h : exec (setupManifestInteraction env a c) s = (.ok (kp, mp), s')) :
    kp = kubeconfigFilename c.name a.name ∧ mp = manifestFilename c.name a.name ∧
      ∃ d kc, renderManifest env a = .ok d ∧ env.getAdminKubeconfig = .ok kc ∧
        s' = (s.putFile mp d).putFile kp kc := by
  rw [exec_setupManifestInteraction] at h
  rcases hr : renderManifest env a with e₀ | d <;> simp only [hr] at h
  · cases h
  rcases h₁ : exec (writeCombinedManifest env d a c) s with ⟨e₁ | mp', s₁⟩ <;>
    simp only [h₁] at h
  · cases h
  obtain ⟨-, rfl, rfl⟩ := exec_writeCombinedManifest_eq_ok h₁
  rcases h₂ : exec (writeAdminKubeconfig env a c) (s.putFile (manifestFilename c.name a.name) d)
    with ⟨e₂ | kp', s₂⟩ <;> simp only [h₂, Prod.mk.injEq, reduceCtorEq, false_and] at h
  obtain ⟨⟨rfl, rfl⟩, rfl⟩ := h
  obtain ⟨rfl, kc, hkc, rfl⟩ := exec_writeAdminKubeconfig_eq_ok h₂
  exact ⟨rfl, rfl, d, kc, rfl, hkc, rfl⟩

/-- **A set-up that fails** wrote nothing; or part of the manifest, when its write failed
after creating the file; or the manifest, when the admin kubeconfig could not be fetched or
its file not opened; or the manifest and part of the admin kubeconfig, when that write
failed after creating the file. -/
theorem exec_setupManifestInteraction_eq_error {a : Addon} {c : Cluster} {s s' : State}
    {e : String} (h : exec (setupManifestInteraction env a c) s = (.error e, s')) :
    s' = s ∨ ∃ d, renderManifest env a = .ok d ∧
      ((∃ e₁ n, env.writeFile (manifestFilename c.name a.name) = .failed e₁ n ∧
          s' = s.putFile (manifestFilename c.name a.name) (d.take n)) ∨
        env.writeFile (manifestFilename c.name a.name) = .written ∧
          (∀ kc, env.getAdminKubeconfig = .ok kc →
            env.writeFile (kubeconfigFilename c.name a.name) ≠ .written) ∧
          (s' = s.putFile (manifestFilename c.name a.name) d ∨
            ∃ kc e₃ n, env.getAdminKubeconfig = .ok kc ∧
              env.writeFile (kubeconfigFilename c.name a.name) = .failed e₃ n ∧
              s' = (s.putFile (manifestFilename c.name a.name) d).putFile
                (kubeconfigFilename c.name a.name) (kc.take n))) := by
  rw [exec_setupManifestInteraction] at h
  rcases hr : renderManifest env a with e₀ | d <;> simp only [hr, Prod.mk.injEq] at h
  · exact .inl h.2.symm
  rcases h₁ : exec (writeCombinedManifest env d a c) s with ⟨e₁ | mp', s₁⟩ <;>
    simp only [h₁, Prod.mk.injEq] at h
  · obtain rfl := h.2
    rcases exec_writeCombinedManifest_eq_error h₁ with rfl | hpart
    exacts [.inl rfl, .inr ⟨d, rfl, .inl hpart⟩]
  obtain ⟨hw, rfl, rfl⟩ := exec_writeCombinedManifest_eq_ok h₁
  rcases h₂ : exec (writeAdminKubeconfig env a c) (s.putFile (manifestFilename c.name a.name) d)
    with ⟨e₂ | kp', s₂⟩ <;> simp only [h₂, Prod.mk.injEq, reduceCtorEq, false_and] at h
  obtain rfl := h.2
  obtain ⟨hkw, rfl | ⟨kc, e₃, n, hkc, hw', rfl⟩⟩ := exec_writeAdminKubeconfig_eq_error h₂
  exacts [.inr ⟨d, rfl, .inr ⟨hw, hkw, .inl rfl⟩⟩,
    .inr ⟨d, rfl, .inr ⟨hw, hkw, .inr ⟨kc, e₃, n, hkc, hw', rfl⟩⟩⟩]

/-- **A kubeconfig write that fails after creating the file** makes the set-up return its
error with the rendered manifest in the manifest's file and the part of the admin
kubeconfig that was written in its own: no removal of either is deferred yet. -/
theorem exec_setupManifestInteraction_of_kubeconfig_failed {a : Addon} {c : Cluster}
    {d kc : List Char} {e : String} {n : Nat} (hd : renderManifest env a = .ok d)
    (hm : env.writeFile (manifestFilename c.name a.name) = .written)
    (hkc : env.getAdminKubeconfig = .ok kc)
    (hk : env.writeFile (kubeconfigFilename c.name a.name) = .failed e n) (s : State) :
    exec (setupManifestInteraction env a c) s =
      (.error ("failed to write the admin kubeconfig to the local filesystem: " ++
          ("failed to write admin kubeconfig for cluster " ++ c.name ++ ": " ++ e)),
        (s.putFile (manifestFilename c.name a.name) d).putFile (kubeconfigFilename c.name a.name)
          (kc.take n)) := by
  simp [exec_setupManifestInteraction, exec_writeCombinedManifest, exec_writeAdminKubeconfig,
    hd, hm, hkc, hk]

/-- The set-up writes files only: the addon and the log are as they were. -/
theorem exec_setupManifestInteraction_keeps (env : Env) (a : Addon) (c : Cluster) (s : State) :
    (exec (setupManifestInteraction env a c) s).2.addon = s.addon ∧
      (exec (setupManifestInteraction env a c) s).2.log = s.log := by
  rcases h : exec (setupManifestInteraction env a c) s with ⟨e | ⟨kp, mp⟩, s₁⟩
  · obtain rfl | ⟨d, -, ⟨-, -, -, rfl⟩ | ⟨-, -, rfl | ⟨-, -, -, -, -, rfl⟩⟩⟩ :=
      exec_setupManifestInteraction_eq_error h <;> exact ⟨rfl, rfl⟩
  · obtain ⟨rfl, rfl, d, kc, -, -, rfl⟩ := exec_setupManifestInteraction_eq_ok h
    exact ⟨rfl, rfl⟩

theorem exec_runKubectl (verb : KubectlVerb) (args : List String) (mp : String) (a : Addon)
    (c : Cluster) (s : State) :
    exec (runKubectl env verb args mp a c) s =
      (match env.kubectl args with
        | none => .ok ()
        | some (err, output) =>
          .error ("failed to execute \x27" ++ " ".intercalate args ++ "\x27 for addon " ++ a.name ++
            " of cluster " ++ c.name ++ ": " ++ err ++ "\n" ++ output),
        { s with
          log := s.log ++ [.kubectl verb args (s.files mp) (env.kubectl args).isNone] }) := by
  rcases h : env.kubectl args with _ | ⟨err, output⟩ <;>
    simp only [runKubectl, h, Option.isNone_none, Option.isNone_some, bind_pure_comp, id_map',
      exec_bind, exec_get, exec_modify, exec_throw]

theorem getApplyCommand_eq_ok {kp mp sel v : String} {args : List String} :
    getApplyCommand env kp mp sel v = .ok args ↔
      ∃ b, env.binaryForClusterVersion v = .ok b ∧ args = applyArgs b kp mp sel := by
  rcases h : env.binaryForClusterVersion v with e | b <;> simp [getApplyCommand, h]
  exact eq_comm

/-- A kubeconfig's path is never a manifest's: one ends in `g`, the other in `l`. -/
theorem kubeconfigFilename_ne_manifestFilename (clusterName addonName : String)
    (clusterName' addonName' : String) :
    kubeconfigFilename clusterName addonName ≠ manifestFilename clusterName' addonName' := by
  intro h
  have := congrArg (fun p => p.data.getLast?) h
  simp only [kubeconfigFilename, manifestFilename, String.data_append, List.getLast?_append] at this
  cases this

end Reconciler

/-! ## The files under `/tmp` -/

/-- Why a run may leave an admin kubeconfig under `/tmp`: its write failed after
`os.WriteFile` created the file, or `os.RemoveAll` could not remove it. -/
def KubeconfigLeft (env : Env) (kp : String) : Prop :=
  (∃ e n, env.writeFile kp = .failed e n) ∨ env.removeAll kp ≠ none

/-- Why a run may leave a manifest under `/tmp`: its write failed after creating the file;
the admin kubeconfig was not written, so that `setupManifestInteraction` returned before it
deferred any removal; or `os.RemoveAll` could not remove it. -/
def ManifestLeft (env : Env) (kp mp : String) : Prop :=
  (∃ e n, env.writeFile mp = .failed e n) ∨
    (∀ kc, env.getAdminKubeconfig = .ok kc → env.writeFile kp ≠ .written) ∨ env.removeAll mp ≠ none

/-- What a run may leave in one of the addon's files: nothing, what the file held before,
or, for the reason `why`, a prefix of the data meant for it. -/
def LeftAs (before after : Option (List Char)) (data : Except String (List Char)) (why : Prop) :
    Prop :=
  after = none ∨ after = before ∨ ∃ d d', data = .ok d ∧ after = some d' ∧ d' <+: d ∧ why

theorem LeftAs.trans {b m a : Option (List Char)} {data : Except String (List Char)} {why : Prop}
    (h₁ : LeftAs b m data why) (h₂ : LeftAs m a data why) : LeftAs b a data why := by
  rcases h₂ with h₂ | rfl | h₂
  exacts [.inl h₂, h₁, .inr (.inr h₂)]

/-- **What a run leaves under `/tmp`**, for one addon of one cluster: every other file is
as it was, and each of the addon's two files is gone, as it was, or holds a prefix of
what was meant for it (the admin kubeconfig, the rendered manifest) for a reason the file
system gave. -/
structure LeavesFiles (env : Env) (a : Addon) (c : Cluster) (s s' : State) : Prop where
  other : ∀ p, p ≠ kubeconfigFilename c.name a.name → p ≠ manifestFilename c.name a.name →
    s'.files p = s.files p
  kubeconfig : LeftAs (s.files (kubeconfigFilename c.name a.name))
    (s'.files (kubeconfigFilename c.name a.name)) env.getAdminKubeconfig
    (KubeconfigLeft env (kubeconfigFilename c.name a.name))
  manifest : LeftAs (s.files (manifestFilename c.name a.name))
    (s'.files (manifestFilename c.name a.name)) (renderManifest env a)
    (ManifestLeft env (kubeconfigFilename c.name a.name) (manifestFilename c.name a.name))

namespace LeavesFiles

variable {env : Env} {a : Addon} {c : Cluster} {s s₁ s₂ : State}

theorem of_files_eq (h : s₁.files = s.files) : LeavesFiles env a c s s₁ :=
  ⟨fun _ _ _ => by rw [h], .inr (.inl (by rw [h])), .inr (.inl (by rw [h]))⟩

theorem refl (s : State) : LeavesFiles env a c s s := of_files_eq rfl

theorem trans (h₁ : LeavesFiles env a c s s₁) (h₂ : LeavesFiles env a c s₁ s₂) :
    LeavesFiles env a c s s₂ :=
  ⟨fun p hk hm => (h₂.other p hk hm).trans (h₁.other p hk hm), h₁.kubeconfig.trans h₂.kubeconfig,
    h₁.manifest.trans h₂.manifest⟩

/-- The files of a run that wrote both files, left them so, and ran `done`. -/
theorem of_done {d kc : List Char} (hd : renderManifest env a = .ok d)
    (hkc : env.getAdminKubeconfig = .ok kc)
    (h : s₁.files = ((s.putFile (manifestFilename c.name a.name) d).putFile
      (kubeconfigFilename c.name a.name) kc).files) :
    LeavesFiles env a c s (Reconciler.getFileDeleteFinalizer env (manifestFilename c.name a.name)
      (Reconciler.getFileDeleteFinalizer env (kubeconfigFilename c.name a.name) s₁)) := by
  have hne := Reconciler.kubeconfigFilename_ne_manifestFilename c.name a.name c.name a.name
  refine ⟨fun p hk hm => by simp [h, hk, hm], ?_, ?_⟩
  · rcases hrm : env.removeAll (kubeconfigFilename c.name a.name) with _ | err
    · exact .inl (by simp [hrm, hne])
    · exact .inr (.inr ⟨kc, kc, hkc, by simp [h, hrm, hne], List.prefix_refl _, .inr (by simp [hrm])⟩)
  · rcases hrm : env.removeAll (manifestFilename c.name a.name) with _ | err
    · exact .inl (by simp [hrm])
    · exact .inr (.inr ⟨d, d, hd, by simp [h, hrm, Ne.symm hne], List.prefix_refl _,
        .inr (.inr (by simp [hrm]))⟩)

/-- The files of a set-up that failed. -/
theorem of_setup_error {e : String}
    (h : exec (Reconciler.setupManifestInteraction env a c) s = (.error e, s₁)) :
    LeavesFiles env a c s s₁ := by
  have hne := Reconciler.kubeconfigFilename_ne_manifestFilename c.name a.name c.name a.name
  rcases Reconciler.exec_setupManifestInteraction_eq_error h with
    rfl | ⟨d, hd, ⟨e₁, n, hw, rfl⟩ | ⟨hw, hkw, rfl | ⟨kc, e₃, n, hkc, hw', rfl⟩⟩⟩
  · exact .refl _
  · refine ⟨fun p _ hm => by simp [hm], .inr (.inl (by simp [hne])), .inr (.inr ?_)⟩
    exact ⟨d, d.take n, hd, by simp, List.take_prefix _ _, .inl ⟨e₁, n, hw⟩⟩
  · refine ⟨fun p _ hm => by simp [hm], .inr (.inl (by simp [hne])), .inr (.inr ?_)⟩
    exact ⟨d, d, hd, by simp, List.prefix_refl _, .inr (.inl hkw)⟩
  · refine ⟨fun p hk hm => by simp [hk, hm], .inr (.inr ?_), .inr (.inr ?_)⟩
    · exact ⟨kc, kc.take n, hkc, by simp, List.take_prefix _ _, .inl ⟨e₃, n, hw'⟩⟩
    · exact ⟨d, d, hd, by simp [Ne.symm hne], List.prefix_refl _, .inr (.inl hkw)⟩

end LeavesFiles

namespace Reconciler

variable {env : Env}

/-- **A run of `ensureIsInstalled`** leaves the addon as it was and its files as
`LeavesFiles` allows, and runs at most one `kubectl`: an `apply` of the rendered manifest,
from the addon's file and pruning by the addon's label; when that exits successfully, the
run returns. -/
theorem ensureIsInstalled_spec {a : Addon} {c : Cluster} {s s' : State} {r : Except String Unit}
    (h : exec (ensureIsInstalled env a c) s = (r, s')) :
    s'.addon = s.addon ∧ LeavesFiles env a c s s' ∧
      (s'.log = s.log ∨ ∃ d b ok, renderManifest env a = .ok d ∧
        env.binaryForClusterVersion c.status.controlPlaneVersion = .ok b ∧
        s'.log = s.log ++ [.kubectl .apply (applyArgs b (kubeconfigFilename c.name a.name)
          (manifestFilename c.name a.name) (addonSelector a)) (some d) ok] ∧
        (ok = true → r = .ok ())) := by
  rcases hs : exec (setupManifestInteraction env a c) s with ⟨e | ⟨kp, mp⟩, s₁⟩
  · rw [ensureIsInstalled, exec_bind_of_error hs] at h
    cases h
    have hkeep := exec_setupManifestInteraction_keeps env a c s
    rw [hs] at hkeep
    exact ⟨hkeep.1, .of_setup_error hs, .inl hkeep.2⟩
  obtain ⟨rfl, rfl, d, kc, hd, hkc, rfl⟩ := exec_setupManifestInteraction_eq_ok hs
  have hread : ((s.putFile (manifestFilename c.name a.name) d).putFile
      (kubeconfigFilename c.name a.name) kc).files (manifestFilename c.name a.name) = some d := by
    simp [Ne.symm (kubeconfigFilename_ne_manifestFilename _ _ _ _)]
  rw [ensureIsInstalled, exec_bind_of_ok hs] at h
  rw [exec_deferDone, exec_bind_of_ok (exec_osReadFile_of_eq hread)] at h
  cases hi : Addon.ensureIsInstalled d with
  | skip =>
    simp only [hi, exec_pure, Prod.mk.injEq] at h
    obtain ⟨rfl, rfl⟩ := h
    exact ⟨by simp, .of_done hd hkc rfl, .inl (by simp)⟩
  | apply m =>
    rcases hcmd : getApplyCommand env (kubeconfigFilename c.name a.name)
      (manifestFilename c.name a.name) (addonSelector a) c.status.controlPlaneVersion with
      err | args
    · simp only [hi, hcmd, exec_throw, Prod.mk.injEq] at h
      obtain ⟨rfl, rfl⟩ := h
      exact ⟨by simp, .of_done hd hkc rfl, .inl (by simp)⟩
    obtain ⟨b, hb, rfl⟩ := getApplyCommand_eq_ok.mp hcmd
    simp only [hi, hcmd, exec_runKubectl, hread, Prod.mk.injEq] at h
    obtain ⟨rfl, rfl⟩ := h
    refine ⟨by simp, .of_done hd hkc rfl, .inr ⟨d, b, _, hd, hb, rfl, fun hok => ?_⟩⟩
    simp only [Option.isNone_iff_eq_none.mp hok]

theorem exec_cleanupManifests (a : Addon) (c : Cluster) (s : State) :
    exec (cleanupManifests env a c) s =
      match exec (setupManifestInteraction env a c) s with
      | (.error e, s₁) =>
        (if stringsContains e "no such file or directory" then .ok () else .error e, s₁)
      | (.ok (kp, mp), s₁) =>
        exec (deferDone env kp mp
          (match env.binaryForClusterVersion c.status.controlPlaneVersion with
            | .error err => throw ("failed to determine kubectl binary to use: " ++ err)
            | .ok binary => runKubectl env .delete (deleteArgs binary kp mp) mp a c)) s₁ := by
  rcases h : exec (setupManifestInteraction env a c) s with ⟨e | ⟨kp, mp⟩, s₁⟩ <;>
  simp only [exec, cleanupManifests] at h ⊢ <;>
  simp only [ExceptT.run_mk, StateT.run_bind, h] <;>
  rfl

/-- **A run of `cleanupManifests`** leaves the addon as it was and its files as
`LeavesFiles` allows, and runs at most one `kubectl`: a `delete` of the rendered manifest,
from the addon's file. It returns without one only when the set-up failed with an error
that says `no such file or directory`, and with one only when that exited successfully. -/
theorem cleanupManifests_spec {a : Addon} {c : Cluster} {s s' : State} {r : Except String Unit}
    (h : exec (cleanupManifests env a c) s = (r, s')) :
    s'.addon = s.addon ∧ LeavesFiles env a c s s' ∧
      ((s'.log = s.log ∧ (r = .ok () →
          ∃ e, (exec (setupManifestInteraction env a c) s).1 = .error e ∧
            stringsContains e "no such file or directory" = true)) ∨
        ∃ d b ok, renderManifest env a = .ok d ∧
          env.binaryForClusterVersion c.status.controlPlaneVersion = .ok b ∧
          s'.log = s.log ++ [.kubectl .delete (deleteArgs b (kubeconfigFilename c.name a.name)
            (manifestFilename c.name a.name)) (some d) ok] ∧
          (r = .ok () → ok = true)) := by
  rw [exec_cleanupManifests] at h
  rcases hs : exec (setupManifestInteraction env a c) s with ⟨e | ⟨kp, mp⟩, s₁⟩
  · simp only [hs, Prod.mk.injEq] at h
    obtain ⟨rfl, rfl⟩ := h
    have hkeep := exec_setupManifestInteraction_keeps env a c s
    rw [hs] at hkeep
    refine ⟨hkeep.1, .of_setup_error hs, .inl ⟨hkeep.2, fun hok => ⟨e, rfl, ?_⟩⟩⟩
    by_contra hno
    simp [hno] at hok
  obtain ⟨rfl, rfl, d, kc, hd, hkc, rfl⟩ := exec_setupManifestInteraction_eq_ok hs
  have hread : ((s.putFile (manifestFilename c.name a.name) d).putFile
      (kubeconfigFilename c.name a.name) kc).files (manifestFilename c.name a.name) = some d := by
    simp [Ne.symm (kubeconfigFilename_ne_manifestFilename _ _ _ _)]
  simp only [hs, exec_deferDone] at h
  rcases hb : env.binaryForClusterVersion c.status.controlPlaneVersion with err | b
  · simp only [hb, exec_throw, Prod.mk.injEq] at h
    obtain ⟨rfl, rfl⟩ := h
    exact ⟨rfl, .of_done hd hkc rfl, .inl ⟨rfl, fun h => nomatch h⟩⟩
  simp only [hb, exec_runKubectl, hread, Prod.mk.injEq] at h
  obtain ⟨rfl, rfl⟩ := h
  refine ⟨by simp, .of_done hd hkc rfl, .inr ⟨d, b, _, hd, rfl, rfl, fun hok => ?_⟩⟩
  cases hk : env.kubectl (deleteArgs b (kubeconfigFilename c.name a.name)
    (manifestFilename c.name a.name))
  · rfl
  · simp only [hk] at hok
    cases hok

/-- **A run of `reconcile`**, from the runs of the functions it calls: it reads the addon
once, and either waits, or deletes the manifests and then removes the finalizer, or does
nothing, or installs the manifests, then adds the finalizer, then sets the condition. -/
theorem exec_reconcile (c : Cluster) (s : State) :
    exec (reconcile env c) s =
      if c.status.apiserverHealth ≠ .up then (.ok (some { requeueAfter := 10 }), s)
      else match ensureRequiredResourceTypesExist env s.addon with
        | .error e => (.error ("failed to check if all required resources exist: " ++ e), s)
        | .ok (some r) => (.ok (some r), s)
        | .ok none =>
          if s.addon.deletionTimestamp then
            match exec (cleanupManifests env s.addon c) s with
            | (.error e, s₁) => (.error ("failed to delete manifests from cluster: " ++ e), s₁)
            | (.ok (), s₁) =>
              match exec (removeCleanupFinalizer env) s₁ with
              | (.error e, s₂) =>
                (.error ("failed to ensure that the cleanup finalizer got removed from the addon: "
                  ++ e), s₂)
              | (.ok (), s₂) => (.ok none, s₂)
          else if addonResourcesCreated s.addon && !hasEnsureResourcesLabel s.addon then
            (.ok none, s)
          else
            match exec (ensureIsInstalled env s.addon c) s with
            | (.error e, s₁) =>
              (.error ("failed to deploy the addon manifests into the cluster: " ++ e), s₁)
            | (.ok (), s₁) =>
              match exec (ensureFinalizerIsSet env) s₁ with
              | (.error e, s₂) =>
                (.error ("failed to ensure that the cleanup finalizer exists on the addon: " ++ e),
                  s₂)
              | (.ok (), s₂) =>
                match exec (ensureResourcesCreatedConditionIsSet env) s₂ with
                | (.error e, s₃) =>
                  (.error ("failed to set add ResourcesCreated Condition: " ++ e), s₃)
                | (.ok (), s₃) => (.ok none, s₃) := by
  by_cases hup : c.status.apiserverHealth = .up
  swap
  · simp [reconcile, hup]
  simp only [reconcile, hup, ne_eq, not_true_eq_false, if_false, exec_get, exec_bind,
    exec_wrapError, exec_liftExcept]
  rcases hreq : ensureRequiredResourceTypesExist env s.addon with e | _ | r
  · rfl
  · simp only [Except.mapError]
    by_cases hdel : s.addon.deletionTimestamp = true
    · simp only [hdel, if_true]
      rcases h₁ : exec (cleanupManifests env s.addon c) s with ⟨e | ⟨⟩, s₁⟩
      · simp only [exec_bind, exec_wrapError, h₁, Except.mapError]
      rcases h₂ : exec (removeCleanupFinalizer env) s₁ with ⟨e | ⟨⟩, s₂⟩ <;>
        simp only [exec_bind, exec_wrapError, h₁, h₂, Except.mapError, exec_pure]
    · simp only [hdel, if_false, Bool.false_eq_true]
      split
      · rfl
      rcases h₁ : exec (ensureIsInstalled env s.addon c) s with ⟨e | ⟨⟩, s₁⟩
      · simp only [exec_bind, exec_wrapError, h₁, Except.mapError]
      rcases h₂ : exec (ensureFinalizerIsSet env) s₁ with ⟨e | ⟨⟩, s₂⟩
      · simp only [exec_bind, exec_wrapError, h₁, h₂, Except.mapError]
      rcases h₃ : exec (ensureResourcesCreatedConditionIsSet env) s₂ with
        ⟨e | ⟨⟩, s₃⟩ <;>
        simp only [exec_bind, exec_wrapError, h₁, h₂, h₃, Except.mapError, exec_pure]
  · rfl

/-- A run of `reconcile` that does not get past its waits (the API server is not up, a
required type is not served, or the check failed) changes nothing. -/
theorem exec_reconcile_state_of_waits {c : Cluster} {s : State}
    (h : ¬(c.status.apiserverHealth = .up ∧
      ensureRequiredResourceTypesExist env s.addon = .ok none)) :
    (exec (reconcile env c) s).2 = s := by
  rw [exec_reconcile]
  by_cases hup : c.status.apiserverHealth = .up
  · rcases hreq : ensureRequiredResourceTypesExist env s.addon with e | _ | r
    · simp [hup, hreq]
    · exact absurd ⟨hup, hreq⟩ h
    · simp [hup, hreq]
  · simp [hup]

/-- A write either goes through, or is refused and changes nothing. -/
theorem exec_patchAddon_cases (w : AddonWrite) (s : State) :
    exec (patchAddon env w) s = (.ok (), s.applyWrite w) ∨
      ∃ e, env.refuses w = some e ∧ exec (patchAddon env w) s = (.error e, s) := by
  rcases h : env.refuses w with _ | e
  · exact .inl (exec_patchAddon_of_accepts h s)
  · exact .inr ⟨e, rfl, exec_patchAddon_of_refuses h s⟩

/-- `removeCleanupFinalizer` changes nothing, or removes the finalizer it found. -/
theorem removeCleanupFinalizer_spec {s s' : State} {r : Except String Unit}
    (h : exec (removeCleanupFinalizer env) s = (r, s')) :
    s' = s ∨ r = .ok () ∧ s' = s.applyWrite .removeFinalizer := by
  rw [exec_removeCleanupFinalizer] at h
  split at h
  · rcases exec_patchAddon_cases .removeFinalizer s with h' | ⟨e, -, h'⟩ <;>
      rw [h'] at h <;> cases h
    · exact .inr ⟨rfl, rfl⟩
    · exact .inl rfl
  · cases h
    exact .inl rfl

/-- A run of `ensureFinalizerIsSet` that returns leaves the finalizer on the addon. -/
theorem mem_finalizers_ensureFinalizerIsSet {s s' : State}
    (h : exec (ensureFinalizerIsSet env) s = (.ok (), s')) :
    cleanupFinalizerName ∈ s'.addon.finalizers := by
  rw [exec_ensureFinalizerIsSet] at h
  split at h
  · cases h
    assumption
  · rcases exec_patchAddon_cases .addFinalizer s with h' | ⟨e, -, h'⟩ <;>
      rw [h'] at h <;> cases h
    simp

/-- A run of `ensureFinalizerIsSet` fails only when the finalizer is missing and the seed
API refuses to add it; nothing changes then. -/
theorem ensureFinalizerIsSet_eq_error {s s' : State} {e : String}
    (h : exec (ensureFinalizerIsSet env) s = (.error e, s')) :
    env.refuses .addFinalizer = some e ∧ cleanupFinalizerName ∉ s.addon.finalizers ∧
      s' = s := by
  rw [exec_ensureFinalizerIsSet] at h
  split at h
  · cases h
  · rcases exec_patchAddon_cases .addFinalizer s with h' | ⟨e', he', h'⟩ <;> rw [h'] at h <;>
      cases h
    exact ⟨he', ‹_›, rfl⟩

/-- `ensureFinalizerIsSet` changes nothing, or adds the finalizer. -/
theorem ensureFinalizerIsSet_state {s s' : State} {r : Except String Unit}
    (h : exec (ensureFinalizerIsSet env) s = (r, s')) :
    s' = s ∨ s' = s.applyWrite .addFinalizer := by
  rw [exec_ensureFinalizerIsSet] at h
  split at h
  · cases h
    exact .inl rfl
  · rcases exec_patchAddon_cases .addFinalizer s with h' | ⟨e, -, h'⟩ <;>
      rw [h'] at h <;> cases h
    · exact .inr rfl
    · exact .inl rfl

/-- `ensureResourcesCreatedConditionIsSet` changes nothing, or sets the condition. -/
theorem ensureResourcesCreatedConditionIsSet_spec {s s' : State} {r : Except String Unit}
    (h : exec (ensureResourcesCreatedConditionIsSet env) s = (r, s')) :
    s' = s ∨ r = .ok () ∧ s' = s.applyWrite .setResourcesCreated := by
  rw [exec_ensureResourcesCreatedConditionIsSet] at h
  split at h
  · cases h
    exact .inl rfl
  · rcases exec_patchAddon_cases .setResourcesCreated s with h' | ⟨e, -, h'⟩ <;>
      rw [h'] at h <;> cases h
    · exact .inr ⟨rfl, rfl⟩
    · exact .inl rfl

/-- Setting the condition keeps the finalizers. -/
theorem finalizers_ensureResourcesCreatedConditionIsSet {s s' : State} {r : Except String Unit}
    (h : exec (ensureResourcesCreatedConditionIsSet env) s = (r, s')) :
    s'.addon.finalizers = s.addon.finalizers := by
  rcases ensureResourcesCreatedConditionIsSet_spec h with rfl | ⟨-, rfl⟩ <;> rfl

/-- A run of `Reconciler.Reconcile` from a state: what it returned, and the state it
left. -/
def reconcileRun (env : Env) (fetched : Fetched) (lookup : ClusterLookup) (s : State) :
    (Result × Option String) × State :=
  (Reconcile env fetched lookup).run s

/-- The result of a run whose reconciler asked for no requeue: the enforcement interval. -/
def enforceResult (env : Env) : Result :=
  if env.addonEnforceInterval ≠ 0 then { requeueAfter := 60 * env.addonEnforceInterval } else {}

theorem reconcileRun_cluster_notFound (s : State) :
    reconcileRun env .found .notFound s =
      match exec (removeCleanupFinalizer env) s with
      | (.error e, s₁) => (({}, some ("failed to remove addon cleanup finalizer: " ++ e)), s₁)
      | (.ok (), s₁) => (({}, none), s₁) := by
  rcases h : exec (removeCleanupFinalizer env) s with ⟨e | ⟨⟩, s₁⟩ <;>
  simp only [exec] at h <;>
  simp only [reconcileRun, Reconcile, StateT.run_bind, h] <;>
  rfl

/-- **A run on a cluster found**: nothing while it has no control-plane version or the
wrapper skips it; otherwise the run of `reconcile`, whose error is returned, or else the
condition patch's, with the enforcement interval when it asked for no requeue. -/
theorem reconcileRun_cluster_found (c : Cluster) (s : State) :
    reconcileRun env .found (.found c) s =
      if c.status.controlPlaneVersion = "" then (({}, none), s)
      else if env.skips c then ((enforceResult env, none), s)
      else match exec (reconcile env c) s with
        | (.ok r, s₁) => ((r.getD (enforceResult env), env.conditionError true), s₁)
        | (.error e, s₁) => ((enforceResult env, some e), s₁) := by
  by_cases hv : c.status.controlPlaneVersion = ""
  · simp [reconcileRun, Reconcile, hv]
  by_cases hs : env.skips c
  · simp [reconcileRun, Reconcile, hv, hs, clusterReconcileWrapper, enforceResult]
  rcases h : exec (reconcile env c) s with ⟨e | r, s₁⟩ <;>
  simp only [exec] at h <;>
  simp [reconcileRun, Reconcile, hv, hs, clusterReconcileWrapper, enforceResult, h]

/-- On a cluster found, a run leaves what `reconcile` left, unless it did not call it. -/
theorem reconcileRun_cluster_found_state (c : Cluster) (s : State) :
    (reconcileRun env .found (.found c) s).2 =
      if c.status.controlPlaneVersion = "" ∨ env.skips c = true then s
      else (exec (reconcile env c) s).2 := by
  rw [reconcileRun_cluster_found]
  by_cases hv : c.status.controlPlaneVersion = ""
  · simp [hv]
  by_cases hs : env.skips c = true
  · simp [hv, hs]
  rcases exec (reconcile env c) s with ⟨e | r, s₁⟩ <;> simp [hv, hs]

/-- **What a run of `Reconcile` leaves**: nothing changed; the finalizer removed, when the
addon was found and its cluster was not; or what `reconcile` left, when both were found
and the cluster has a control-plane version and is not skipped. -/
theorem reconcileRun_state_cases (fetched : Fetched) (lookup : ClusterLookup) (s : State) :
    (reconcileRun env fetched lookup s).2 = s ∨
      fetched = .found ∧ lookup = .notFound ∧
        (reconcileRun env fetched lookup s).2 = s.applyWrite .removeFinalizer ∨
      ∃ c, fetched = .found ∧ lookup = .found c ∧ c.status.controlPlaneVersion ≠ "" ∧
        env.skips c = false ∧
        (reconcileRun env fetched lookup s).2 = (exec (reconcile env c) s).2 := by
  cases fetched with
  | notFound => exact .inl rfl
  | failed err => exact .inl rfl
  | found =>
    cases lookup with
    | failed err => exact .inl rfl
    | notFound =>
      rw [reconcileRun_cluster_notFound]
      rcases h : exec (removeCleanupFinalizer env) s with ⟨r, s₁⟩
      rcases removeCleanupFinalizer_spec h with rfl | ⟨rfl, rfl⟩
      · rcases r with e | ⟨⟨⟩⟩ <;> exact .inl rfl
      · exact .inr (.inl ⟨rfl, rfl, rfl⟩)
    | found c =>
      rw [reconcileRun_cluster_found_state]
      split_ifs with hskip
      · exact .inl rfl
      · rw [not_or, Bool.not_eq_true] at hskip
        exact .inr (.inr ⟨c, rfl, rfl, hskip.1, hskip.2, rfl⟩)

end Reconciler

end Kubermatic.Addon
