import Kubermatic.Cluster

/-!
# The vApp of a VMware Cloud Director cluster

The VMware Cloud Director provider keeps a cluster's machines in a vApp of the
organization VDC. `reconcileVApp` makes sure the cluster carries the vApp finalizer,
looks the vApp up under the name saved in the spec – or, when none is saved, under the
generated name `kubernetes-<cluster name>` – creates it when it is missing and then
saves its name in the spec. `reconcileNetwork` then looks the vApp up under the saved
name and attaches the organization VDC network to it.

A crash between creating the vApp and saving its name leaves a VDC that has the vApp
and a spec that names none. The next `reconcileVApp` finds the vApp under the generated
name and returns without saving it, so `reconcileNetwork` looks up the empty name and
fails, and every later pass does the same (`reconcileVApp_leaves_generated_name_unsaved`).
What does hold is that a successful run leaves the finalizer on, having put it there
before any vApp was created, and that the saved name names a vApp of the VDC in every
other case (`reconcileVApp_saves_existing_vapp`).

The VDC is part of the state; what its calls return beyond "found" and "not found" is a
parameter (`VdcCalls`), and so is the value of `vappFinalizer`, which is declared
outside the sources. Each function returns what the Go function returns, or its panic,
with the state after it.
-/

namespace Kubermatic.VMwareCloudDirector

/-! ## The VDC -/

/-- `fmt.Sprintf(resourceNamePattern, name)`. -/
def resourceName (name : String) : String := "kubernetes-" ++ name

/-- `fmt.Sprintf(vappDescriptionPattern, name)`. -/
def vappDescription (name : String) : String := "Kubernetes cluster " ++ name

/-- A vApp: its name, its description, and the names of the networks attached to it
(`NetworkConfigSection.NetworkNames()`, none when the section is nil). -/
structure VApp where
  name : String
  description : String := ""
  networks : List String := []
  deriving DecidableEq, Repr

/-- The organization VDC: its vApps and its organization VDC networks. -/
structure Vdc where
  vapps : List VApp
  orgVdcNetworks : List String := []
  deriving DecidableEq, Repr

/-- The error of a VDC lookup: `govcd.ErrorEntityNotFound`, or another. -/
inductive VdcError
  | entityNotFound
  | other (msg : String)
  deriving DecidableEq, Repr

/-- The text an error prints; `govcd.ErrorEntityNotFound` prints `[ENF] entity not found`. -/
def VdcError.msg : VdcError → String
  | .entityNotFound => "[ENF] entity not found"
  | .other m => m

/-- The failures of the VDC calls other than "not found", for one pass. -/
structure VdcCalls where
  getVAppFailure : Option String := none
  createRawVAppFailure : Option String := none
  getOrgVdcNetworkFailure : Option String := none
  addOrgNetworkFailure : Option String := none

section Calls

variable (calls : VdcCalls)

/-- `vdc.GetVAppByNameOrId(name, true)`. -/
def Vdc.getVAppByNameOrId (vdc : Vdc) (name : String) : Except VdcError VApp :=
  match calls.getVAppFailure with
  | some e => .error (.other e)
  | none =>
    match vdc.vapps.find? (·.name == name) with
    | some v => .ok v
    | none => .error .entityNotFound

/-- `vdc.GetOrgVdcNetworkByNameOrId(name, true)`. -/
def Vdc.getOrgVdcNetworkByNameOrId (vdc : Vdc) (name : String) : Except VdcError String :=
  match calls.getOrgVdcNetworkFailure with
  | some e => .error (.other e)
  | none => if vdc.orgVdcNetworks.contains name then .ok name else .error .entityNotFound

theorem Vdc.getVAppByNameOrId_eq_ok {vdc : Vdc} {name : String} {v : VApp}
    (h : vdc.getVAppByNameOrId calls name = .ok v) : v ∈ vdc.vapps ∧ v.name = name := by
  unfold Vdc.getVAppByNameOrId at h
  split at h <;> [cases h; skip]
  split at h <;> [skip; cases h]
  rename_i hfind
  cases h
  exact ⟨List.mem_of_find?_eq_some hfind, by simpa using List.find?_some hfind⟩

theorem Vdc.getVAppByNameOrId_eq_entityNotFound {vdc : Vdc} {name : String}
    (h : vdc.getVAppByNameOrId calls name = .error .entityNotFound) :
    name ∉ vdc.vapps.map (·.name) := by
  unfold Vdc.getVAppByNameOrId at h
  split at h <;> [cases h; skip]
  split at h <;> [cases h; skip]
  rename_i hfind
  simpa [List.find?_eq_none] using hfind

end Calls

/-- The name `reconcileVApp` looks a vApp up under is never empty. -/
theorem vAppName_ne_empty (vapp name : String) :
    (if vapp = "" then resourceName name else vapp) ≠ "" := by
  split
  · simp [resourceName, String.ext_iff]
  · assumption

/-- The VDC after `CreateRawVApp(name, description)` went through. -/
def Vdc.createRawVApp (vdc : Vdc) (name description : String) : Vdc :=
  { vdc with vapps := vdc.vapps ++ [{ name, description }] }

/-- The VDC after `vApp.AddOrgNetwork` attached the network to the vApp. -/
def Vdc.addOrgNetwork (vdc : Vdc) (vapp network : String) : Vdc :=
  { vdc with vapps := vdc.vapps.map fun v =>
      if v.name = vapp then { v with networks := v.networks ++ [network] } else v }

/-- `updatedCluster.Spec.Cloud.VMwareCloudDirector.VApp = vAppName`. The code reaches it
only for a cluster with the sub-spec; on one without, where Go would panic, the model
leaves the cluster as it is. -/
def setVApp (c : Cluster) (name : String) : Cluster :=
  { c with spec := { c.spec with cloud := { c.spec.cloud with
      vmwareCloudDirector :=
        c.spec.cloud.vmwareCloudDirector.map fun v => { v with vapp := name } } } }

@[simp] theorem setVApp_finalizers (c : Cluster) (name : String) :
    (setVApp c name).finalizers = c.finalizers := rfl

@[simp] theorem setVApp_name (c : Cluster) (name : String) : (setVApp c name).name = c.name :=
  rfl

@[simp] theorem setVApp_vmwareCloudDirector (c : Cluster) (name : String) :
    (setVApp c name).spec.cloud.vmwareCloudDirector =
      c.spec.cloud.vmwareCloudDirector.map fun v => { v with vapp := name } := rfl

/-! ## The code -/

/-- What the two functions read and change: the stored cluster, the VDC, and the
stored cluster's finalizers at each `CreateRawVApp` call made so far. -/
structure VcdState where
  stored : Cluster
  vdc : Vdc
  createCalls : List (List String) := []

section Code

variable (vappFinalizer : String) (calls : VdcCalls) (update : ClusterUpdater)

/-- The first block of `reconcileVApp`: the finalizer is added through the updater
unless the cluster carries it, and the updated cluster replaces the function's
`cluster`. -/
def ensureVAppFinalizer (cluster : Cluster) (s : VcdState) : Except String (Cluster × VcdState) :=
  if !hasFinalizer cluster.finalizers vappFinalizer then
    match update.update (·.addFinalizer vappFinalizer) s.stored with
    | .ok c => .ok (c, { s with stored := c })
    | .error e => .error ("failed to add finalizer: " ++ e)
  else .ok (cluster, s)

/-- **`reconcileVApp`**. -/
def reconcileVApp (cluster : Cluster) (s : VcdState) : GoResult (Except String Cluster) × VcdState :=
  match ensureVAppFinalizer vappFinalizer update cluster s with
  | .error e => (.returned (.error e), s)
  | .ok (cluster, s) =>
  match cluster.spec.cloud.vmwareCloudDirector with
  | none => (.nilDereference, s)
  | some vcd =>
  let vAppName := if vcd.vapp = "" then resourceName cluster.name else vcd.vapp
  match s.vdc.getVAppByNameOrId calls vAppName with
  | .error (.other e) =>
    (.returned (.error ("failed to get vApp \x27" ++ vAppName ++ "\x27: " ++ e)), s)
  | .error .entityNotFound =>
    let s := { s with createCalls := s.createCalls ++ [s.stored.finalizers] }
    match calls.createRawVAppFailure with
    | some e =>
      (.returned (.error ("failed to create vApp \x27" ++ vAppName ++ "\x27: " ++ e)), s)
    | none =>
      let s := { s with vdc := s.vdc.createRawVApp vAppName (vappDescription cluster.name) }
      match update.update (setVApp · vAppName) s.stored with
      | .ok c => (.returned (.ok c), { s with stored := c })
      | .error e => (.returned (.error e), s)
  | .ok _ => (.returned (.ok cluster), s)

/-- **`reconcileNetwork`**. -/
def reconcileNetwork (cluster : Cluster) (vdc : Vdc) : GoResult (Except String Cluster) × Vdc :=
  match cluster.spec.cloud.vmwareCloudDirector with
  | none => (.nilDereference, vdc)
  | some vcd =>
  match vdc.getOrgVdcNetworkByNameOrId calls vcd.ovdcNetwork with
  | .error e =>
    (.returned (.error ("failed to get organization VDC network \x27" ++ vcd.ovdcNetwork ++
      "\x27: " ++ e.msg)), vdc)
  | .ok ovdcNetwork =>
  match vdc.getVAppByNameOrId calls vcd.vapp with
  | .error e => (.returned (.error e.msg), vdc)
  | .ok vApp =>
  if !vApp.networks.contains ovdcNetwork then
    match calls.addOrgNetworkFailure with
    | some e =>
      (.returned (.error ("failed to attach organization VDC network \x27" ++ ovdcNetwork ++
        "\x27 to vApp \x27" ++ vcd.vapp ++ "\x27: " ++ e)), vdc)
    | none => (.returned (.ok cluster), vdc.addOrgNetwork vApp.name ovdcNetwork)
  else (.returned (.ok cluster), vdc)

end Code

/-! ## A successful run -/

section Run

variable {vappFinalizer : String} {calls : VdcCalls} {update : ClusterUpdater}

/-- After the first block the cluster carries the finalizer, is the stored one, and has
kept its name and spec. -/
theorem ensureVAppFinalizer_eq_ok {cluster c : Cluster} {s s' : VcdState}
    (h : ensureVAppFinalizer vappFinalizer update cluster s = .ok (c, s')) (hs : s.stored = cluster) :
    s' = { s with stored := c } ∧ vappFinalizer ∈ c.finalizers ∧ c.spec = cluster.spec ∧
      c.name = cluster.name := by
  unfold ensureVAppFinalizer at h
  split at h
  · split at h <;> [skip; cases h]
    rename_i c' hup
    obtain ⟨rfl, rfl⟩ := Prod.mk.inj (Except.ok.inj h)
    rw [update.update_ok hup, ← hs]
    simp
  · obtain ⟨rfl, rfl⟩ := Prod.mk.inj (Except.ok.inj h)
    rename_i hmem
    subst hs
    simpa using hmem

/-- **What a successful `reconcileVApp` does guarantee.** From any stored cluster with a
VMware Cloud Director spec and any VDC, a run that returns a cluster without error leaves
the vApp finalizer on it, put there before any `CreateRawVApp` call of the run; and
unless the spec saved no name while the generated vApp already existed, the returned
cluster saves a non-empty name that names a vApp of the VDC. -/
theorem reconcileVApp_saves_existing_vapp (cluster : Cluster) (vcd : VMwareCloudDirectorCloudSpec)
    (hvcd : cluster.spec.cloud.vmwareCloudDirector = some vcd) (vdc : Vdc) {c : Cluster}
    {s' : VcdState}
    (h : reconcileVApp vappFinalizer calls update cluster ⟨cluster, vdc, []⟩ =
      (.returned (.ok c), s')) :
    vappFinalizer ∈ c.finalizers ∧ (∀ fs ∈ s'.createCalls, vappFinalizer ∈ fs) ∧
    ((vcd.vapp ≠ "" ∨ resourceName cluster.name ∉ vdc.vapps.map (·.name)) →
      ∃ v ∈ s'.vdc.vapps, v.name ≠ "" ∧
        c.spec.cloud.vmwareCloudDirector.map (·.vapp) = some v.name) := by
  unfold reconcileVApp at h
  rcases hens : ensureVAppFinalizer vappFinalizer update cluster ⟨cluster, vdc, []⟩ with
    e | ⟨c₁, s₁⟩
  · rw [hens] at h
    simp at h
  obtain ⟨rfl, hf₁, hspec₁, hname₁⟩ := ensureVAppFinalizer_eq_ok hens rfl
  rw [hens] at h
  simp only [hspec₁, hvcd, hname₁] at h
  have hne := vAppName_ne_empty vcd.vapp cluster.name
  generalize hn : (if vcd.vapp = "" then resourceName cluster.name else vcd.vapp) = vAppName
    at h hne
  rcases hget : vdc.getVAppByNameOrId calls vAppName with (_ | e) | v <;>
    simp only [hget] at h
  · -- not found: the vApp is created and its name saved
    rcases hcreate : calls.createRawVAppFailure with _ | e <;> simp only [hcreate] at h
    · rcases hup : update.update (setVApp · vAppName) c₁ with e | c₂ <;> simp only [hup] at h
      · simp at h
      simp only [Prod.mk.injEq, GoResult.returned.injEq, Except.ok.injEq] at h
      obtain ⟨rfl, rfl⟩ := h
      rw [update.update_ok hup]
      have hcreated : ({ name := vAppName, description := vappDescription cluster.name } : VApp) ∈
          (vdc.createRawVApp vAppName (vappDescription cluster.name)).vapps := by
        simp [Vdc.createRawVApp]
      refine ⟨by simpa using hf₁, by simpa using hf₁, fun _ => ⟨_, hcreated, hne, ?_⟩⟩
      simp [hspec₁, hvcd]
    · simp at h
  · simp at h
  · -- found: nothing is saved
    simp only [Prod.mk.injEq, GoResult.returned.injEq, Except.ok.injEq] at h
    obtain ⟨rfl, rfl⟩ := h
    obtain ⟨hv, hvname⟩ := vdc.getVAppByNameOrId_eq_ok calls hget
    refine ⟨hf₁, by simp, fun hsaved => ⟨v, hv, hvname ▸ hne, ?_⟩⟩
    rw [hspec₁, hvcd, hvname, ← hn]
    by_cases hv' : vcd.vapp = ""
    · simp only [hv', ne_eq, not_true_eq_false, false_or] at hsaved
      rw [if_pos hv'] at hn
      exact absurd (hn ▸ hvname ▸ List.mem_map_of_mem (·.name) hv) hsaved
    · simp [hv']

/-- A cluster whose generated vApp exists and whose spec saves no vApp name is returned
as it is: `reconcileVApp` finds the vApp and saves nothing. -/
theorem reconcileVApp_of_generated_exists (cluster : Cluster) (vcd : VMwareCloudDirectorCloudSpec)
    (hvcd : cluster.spec.cloud.vmwareCloudDirector = some vcd) (hempty : vcd.vapp = "")
    (hfin : vappFinalizer ∈ cluster.finalizers) (hget : calls.getVAppFailure = none)
    {vdc : Vdc} (hexists : resourceName cluster.name ∈ vdc.vapps.map (·.name))
    (createCalls : List (List String)) :
    reconcileVApp vappFinalizer calls update cluster ⟨cluster, vdc, createCalls⟩ =
      (.returned (.ok cluster), ⟨cluster, vdc, createCalls⟩) := by
  have hfind : (vdc.vapps.find? (·.name == resourceName cluster.name)).isSome := by
    simpa [List.find?_isSome] using hexists
  obtain ⟨v, hv⟩ := Option.isSome_iff_exists.mp hfind
  simp [reconcileVApp, ensureVAppFinalizer, hfin, hvcd, hempty, Vdc.getVAppByNameOrId, hget, hv]

/-- `reconcileNetwork` on a cluster that saves no vApp name fails with "not found" once
the organization VDC network is found, as no vApp has the empty name. -/
theorem reconcileNetwork_of_vapp_empty (cluster : Cluster) (vcd : VMwareCloudDirectorCloudSpec)
    (hvcd : cluster.spec.cloud.vmwareCloudDirector = some vcd) (hempty : vcd.vapp = "")
    (hcalls : calls.getVAppFailure = none ∧ calls.getOrgVdcNetworkFailure = none) {vdc : Vdc}
    (hnet : vcd.ovdcNetwork ∈ vdc.orgVdcNetworks) (hnone : "" ∉ vdc.vapps.map (·.name)) :
    reconcileNetwork calls cluster vdc = (.returned (.error "[ENF] entity not found"), vdc) := by
  have hfind : vdc.vapps.find? (·.name == "") = none := by
    simpa [List.find?_eq_none] using hnone
  simp [reconcileNetwork, hvcd, hempty, Vdc.getOrgVdcNetworkByNameOrId, hcalls, hnet,
    Vdc.getVAppByNameOrId, hfind, VdcError.msg]

end Run

/-- A cluster `c` that carries the vApp finalizer and saves no vApp name yet. -/
def unsavedCluster (vappFinalizer : String) : Cluster :=
  { name := "c", finalizers := [vappFinalizer],
    spec := { cloud := { vmwareCloudDirector := some { ovdcNetwork := "net" } } } }

/-- The VDC once `kubernetes-c` has been created. -/
def vdcWithGeneratedVApp : Vdc :=
  { vapps := [{ name := "kubernetes-c", description := "Kubernetes cluster c" }],
    orgVdcNetworks := ["net"] }

/-- A first run on a cluster that carries the finalizer creates and saves `kubernetes-c`. -/
theorem reconcileVApp_saves_existing_vapp_first_run :
    "vapp" ∈ (setVApp (unsavedCluster "vapp") "kubernetes-c").finalizers ∧
    (∀ fs ∈ [["vapp"]], "vapp" ∈ fs) ∧
    (("" : String) ≠ "" ∨ resourceName "c" ∉ ([] : List VApp).map (·.name) →
      ∃ v ∈ vdcWithGeneratedVApp.vapps, v.name ≠ "" ∧
        (setVApp (unsavedCluster "vapp") "kubernetes-c").spec.cloud.vmwareCloudDirector.map
          (·.vapp) = some v.name) :=
  reconcileVApp_saves_existing_vapp (unsavedCluster "vapp") { ovdcNetwork := "net" } rfl
    { vapps := [], orgVdcNetworks := ["net"] }
    (show reconcileVApp "vapp" {} .accepting (unsavedCluster "vapp")
        ⟨unsavedCluster "vapp", { vapps := [], orgVdcNetworks := ["net"] }, []⟩ =
      (.returned (.ok (setVApp (unsavedCluster "vapp") "kubernetes-c")),
        ⟨setVApp (unsavedCluster "vapp") "kubernetes-c", vdcWithGeneratedVApp, [["vapp"]]⟩)
      from rfl)

/-- **A crash between creating the vApp and saving its name is never repaired.** The
first pass creates `kubernetes-c` and its spec update does not go through. A second pass
finds the vApp under the generated name and returns without error, with no name saved
and nothing changed, so every pass after it does the same; and `reconcileNetwork`, which
looks the vApp up under the saved, empty name, fails. -/
theorem reconcileVApp_leaves_generated_name_unsaved (vappFinalizer : String) :
    reconcileVApp vappFinalizer {} (.failing "write lost") (unsavedCluster vappFinalizer)
        ⟨unsavedCluster vappFinalizer, { vapps := [], orgVdcNetworks := ["net"] }, []⟩ =
      (.returned (.error "write lost"),
        ⟨unsavedCluster vappFinalizer, vdcWithGeneratedVApp, [[vappFinalizer]]⟩) ∧
    reconcileVApp vappFinalizer {} .accepting (unsavedCluster vappFinalizer)
        ⟨unsavedCluster vappFinalizer, vdcWithGeneratedVApp, []⟩ =
      (.returned (.ok (unsavedCluster vappFinalizer)),
        ⟨unsavedCluster vappFinalizer, vdcWithGeneratedVApp, []⟩) ∧
    (unsavedCluster vappFinalizer).spec.cloud.vmwareCloudDirector.map (·.vapp) = some "" ∧
    reconcileNetwork {} (unsavedCluster vappFinalizer) vdcWithGeneratedVApp =
      (.returned (.error "[ENF] entity not found"), vdcWithGeneratedVApp) := by
  refine ⟨?_, reconcileVApp_of_generated_exists _ _ rfl rfl (by simp [unsavedCluster]) rfl
      (by simp [unsavedCluster, vdcWithGeneratedVApp, resourceName]) [],
    rfl, reconcileNetwork_of_vapp_empty _ _ rfl rfl ⟨rfl, rfl⟩ (by decide) (by decide)⟩
  simp [reconcileVApp, ensureVAppFinalizer, unsavedCluster, Vdc.getVAppByNameOrId,
    Vdc.createRawVApp, vdcWithGeneratedVApp, resourceName, vappDescription, ClusterUpdater.failing]

end Kubermatic.VMwareCloudDirector
