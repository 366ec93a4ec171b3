import Mathlib.Data.List.Infix
import Kubermatic.Addon.Manifest
import Kubermatic.Cluster

/-!
# The addon controller's reconciler

`Reconciler.Reconcile` (`pkg/controller/user-cluster-controller-manager/addon`, file
`part_008` of the sources) keeps one addon's manifests applied in its user cluster. It
fetches the addon and its cluster; a cluster that is gone only costs the addon its
cleanup finalizer, and a cluster without a control-plane version is skipped. Otherwise,
inside `ClusterReconcileWrapper`, `reconcile` waits for the API server, then for every
required resource type to be served, and then either

* deletes the addon's manifests with `kubectl delete` and removes the cleanup finalizer,
  when the addon is being deleted;
* does nothing, when the resources were created and the addon does not ask for them to
  be enforced;
* or renders, labels and combines the manifests, applies them with `kubectl apply
  --prune` scoped to the addon's label, and then adds the cleanup finalizer and sets the
  condition `ResourcesCreated`.

Rendering and `kubectl` go through two files under `/tmp`, named after the cluster and
the addon, which are removed when the function that wrote them returns. `os.WriteFile`
creates or truncates its file before it writes, so a write that fails can leave the file
with part of the data; a kubeconfig write that fails so returns before the removal is
deferred, and so does a manifest write. The removal itself is `os.RemoveAll`, whose error
is only logged.

The model:

* `State` holds the addon the seed stores, the files under `/tmp`, and a log of what took
  effect: each `kubectl` run, with the manifest file it read, and each write of the
  addon;
* `AddonM` is the reconciler on that state; a Go `return err` is an exception carrying
  the error's text, with every message of the code;
* `Env` gathers what the code calls but does not define: the seed API's answer to each
  write of the addon, `ClusterReconcileWrapper`'s, the user-cluster client, the template
  rendering, the unstructured and YAML encoders, the admin kubeconfig, the file system's
  writes and removals, the choice of the `kubectl` binary, and what each `kubectl` run
  answers. A result over every `Env` holds whatever they do.

The Go methods are in the namespace `Reconciler`. The decision `Reconciler.ensureIsInstalled`
takes on the file it read back is `Addon.ensureIsInstalled` of `Kubermatic.Addon.Manifest`.
What a run does is in `Kubermatic.Addon.Runs`, and what runs do to the addon's lifecycle
in `Kubermatic.Addon.Lifecycle`.
-/

namespace Kubermatic

/-- `kubermaticv1.GroupVersionKind`. -/
structure GroupVersionKind where
  group : String
  version : String
  kind : String
  deriving DecidableEq, Repr

/-- The part of `kubermaticv1.Addon` the reconciler reads and writes. `name` is the
object's name and `specName` is `Spec.Name`, the addon's template directory;
`deletionTimestamp` is `DeletionTimestamp != nil`, and `resourcesCreated` whether the
condition `AddonResourcesCreated` has status `True`. -/
structure Addon where
  name : String := ""
  labels : List (String × String) := []
  finalizers : List String := []
  deletionTimestamp : Bool := false
  specName : String := ""
  requiredResourceTypes : List GroupVersionKind := []
  resourcesCreated : Bool := false
  deriving DecidableEq, Repr

end Kubermatic

namespace Kubermatic.Addon

/-! ## The addon -/

def addonLabelKey : String := "kubermatic-addon"
def cleanupFinalizerName : String := "cleanup-manifests"
def addonEnsureLabelKey : String := "addons.kubermatic.io/ensure"

/-- `formatGVK`. -/
def formatGVK (gvk : GroupVersionKind) : String :=
  gvk.group ++ "/" ++ gvk.version ++ " " ++ gvk.kind

/-- `addonResourcesCreated`. -/
def addonResourcesCreated (addon : Addon) : Bool := addon.resourcesCreated

/-- `hasEnsureResourcesLabel`: `addon.Labels[addonEnsureLabelKey] == "true"`. -/
def hasEnsureResourcesLabel (addon : Addon) : Bool :=
  (addon.labels.lookup addonEnsureLabelKey).getD "" == "true"

/-- `getAddonLabel`. -/
def getAddonLabel (addon : Addon) : List (String × String) := [(addonLabelKey, addon.specName)]

/-- `labels.SelectorFromSet(r.getAddonLabel(addon)).String()`, the selector of a set with
one label. -/
def addonSelector (addon : Addon) : String := addonLabelKey ++ "=" ++ addon.specName

/-- `strings.Contains`. -/
def stringsContains (s substr : String) : Bool :=
  decide (substr.toList <:+: s.toList)

/-- The combined manifest's file: `path.Join("/tmp", fmt.Sprintf("cluster-%s-%s.yaml",
cluster.Name, addon.Name))`, which `path.Join` leaves as it is for Kubernetes names. -/
def manifestFilename (clusterName addonName : String) : String :=
  "/tmp/cluster-" ++ clusterName ++ "-" ++ addonName ++ ".yaml"

/-- The admin kubeconfig's file: `path.Join("/tmp",
fmt.Sprintf("cluster-%s-addon-%s-kubeconfig", cluster.Name, addon.Name))`. -/
def kubeconfigFilename (clusterName addonName : String) : String :=
  "/tmp/cluster-" ++ clusterName ++ "-addon-" ++ addonName ++ "-kubeconfig"

/-! ## What the code calls -/

/-- `metav1unstructured.Unstructured`: its labels, and the rest of the object. -/
structure Unstructured where
  labels : List (String × String)
  rest : String
  deriving DecidableEq, Repr

/-- `existingLabels[k] = v` for every wanted label. -/
def setLabels (existing wanted : List (String × String)) : List (String × String) :=
  wanted.foldl (fun ls (k, v) => (k, v) :: ls.filter (·.1 ≠ k)) existing

/-- The writes of the addon, each a merge patch. -/
inductive AddonWrite
  | addFinalizer | removeFinalizer | setResourcesCreated
  deriving DecidableEq, Repr

/-- What a write does to the stored addon: `kuberneteshelper.TryAddFinalizer` and
`TryRemoveFinalizer` (modelled from the spec) edit the cleanup finalizer, and
`setAddonCodition` sets `ResourcesCreated` to `True`. -/
def AddonWrite.apply : AddonWrite → Addon → Addon
  | .addFinalizer, a =>
    { a with finalizers := Kubermatic.addFinalizer a.finalizers cleanupFinalizerName }
  | .removeFinalizer, a =>
    { a with finalizers := Kubermatic.removeFinalizer a.finalizers [cleanupFinalizerName] }
  | .setResourcesCreated, a => { a with resourcesCreated := true }

/-- What listing a required resource type, with a limit of one, answered. -/
inductive ListResult
  | served
  | noMatch
  | failed (err : String)
  deriving DecidableEq, Repr

/-- The two `kubectl` commands. -/
inductive KubectlVerb
  | apply | delete
  deriving DecidableEq, Repr

/-- What `os.WriteFile(path, data, 0644)` did. It opens the file with `O_CREATE|O_TRUNC`,
writes, and closes: the whole data reached the file; opening failed and the file is as
it was; or the file was created or truncated and the first `written` bytes of the data
reached it before the call failed, on a write that ran out of space or on a `Close` that
failed after every byte. -/
inductive WriteAnswer
  | written
  | openFailed (err : String)
  | failed (err : String) (written : Nat)
  deriving DecidableEq, Repr

/-- What the code calls but does not define. -/
structure Env where
  /-- The seed API's answer to a write of the addon: its error, if any. -/
  refuses : AddonWrite → Option String
  /-- Whether `ClusterReconcileWrapper` leaves the cluster alone: paused, or another
  worker's. -/
  skips : Cluster → Bool
  /-- The error of the wrapper's patch setting the cluster's condition
  `AddonControllerReconcilingSuccess` to the given status. -/
  conditionError : Bool → Option String
  /-- `addonEnforceInterval`, in minutes; the flag is not negative. -/
  addonEnforceInterval : Nat
  /-- `KubeconfigProvider.GetClient` for the user cluster: its error, if any. -/
  getClient : Option String
  /-- `userClusterClient.List` of a required resource type. -/
  list : GroupVersionKind → ListResult
  /-- `getAddonManifests`: the raw manifests rendered from the addon's templates. -/
  getAddonManifests : Except String (List String)
  /-- `UnstructuredJSONScheme.Decode`. -/
  decode : String → Except String Unstructured
  /-- `UnstructuredJSONScheme.Encode`. -/
  encode : Unstructured → Except String String
  /-- `yaml.JSONToYAML`. -/
  jsonToYAML : String → Except String (List Char)
  /-- `KubeconfigProvider.GetAdminKubeconfig`. -/
  getAdminKubeconfig : Except String (List Char)
  /-- `os.WriteFile` of a path. -/
  writeFile : String → WriteAnswer
  /-- `os.RemoveAll` of a path: its error, if any. -/
  removeAll : String → Option String
  /-- `kubectl.BinaryForClusterVersion`. -/
  binaryForClusterVersion : String → Except String String
  /-- `cmd.CombinedOutput()` of a `kubectl` command line: `none` when it exits
  successfully, otherwise the error and the output. -/
  kubectl : List String → Option (String × String)

/-- What took effect. -/
inductive Event
  /-- `kubectl` ran, reading the manifest file as it then was; `ok` is whether it exited
  successfully. -/
  | kubectl (verb : KubectlVerb) (args : List String) (manifest : Option (List Char)) (ok : Bool)
  /-- A write of the addon went through. -/
  | write (w : AddonWrite)
  deriving DecidableEq, Repr

/-- The addon the seed stores, the files under `/tmp` by path, and what took effect,
oldest first. -/
structure State where
  addon : Addon
  files : String → Option (List Char) := fun _ => none
  log : List Event := []

/-- The file stored under a path, replacing what was there. -/
def State.putFile (s : State) (path : String) (data : List Char) : State :=
  { s with files := fun p => if p = path then some data else s.files p }

/-- A write of the addon that went through: stored, and recorded. -/
def State.applyWrite (s : State) (w : AddonWrite) : State :=
  { s with addon := w.apply s.addon, log := s.log ++ [.write w] }

/-- The reconciler on its state; a `return err` is an exception carrying the error. -/
abbrev AddonM := ExceptT String (StateM State)

/-- `fmt.Errorf(msg + "%w", err)`. -/
def wrapError (msg : String) (m : AddonM α) : AddonM α :=
  ExceptT.adapt (msg ++ ·) m

/-- An `Except` of a called function, returned as the caller's error. -/
def liftExcept (r : Except String α) : AddonM α :=
  ExceptT.mk (pure r)

/-! ## The code -/

namespace Reconciler

variable (env : Env)

/-- A merge patch of the addon: refused, its error is returned; accepted, the write is
stored and recorded. -/
def patchAddon (w : AddonWrite) : AddonM Unit :=
  match env.refuses w with
  | some err => throw err
  | none => modify (·.applyWrite w)

/-- **`removeCleanupFinalizer`**: `kuberneteshelper.TryRemoveFinalizer`, modelled from the
spec: the finalizer removed from a copy, and a patch sent when that changed the list. -/
def removeCleanupFinalizer : AddonM Unit := do
  if hasFinalizer (← get).addon.finalizers cleanupFinalizerName then
    patchAddon env .removeFinalizer
  else pure ()

/-- **`ensureFinalizerIsSet`**: `kuberneteshelper.TryAddFinalizer`, modelled from the
spec. -/
def ensureFinalizerIsSet : AddonM Unit := do
  if hasFinalizer (← get).addon.finalizers cleanupFinalizerName then pure ()
  else
    patchAddon env .addFinalizer

/-- **`ensureResourcesCreatedConditionIsSet`**. -/
def ensureResourcesCreatedConditionIsSet : AddonM Unit := do
  if (← get).addon.resourcesCreated then pure ()
  else patchAddon env .setResourcesCreated

/-- The loop of `ensureRequiredResourceTypesExist` over the required types. -/
def listRequiredResourceTypes : List GroupVersionKind → Except String (Option Result)
  | [] => .ok none
  | gvk :: gvks =>
    match env.list gvk with
    | .served => listRequiredResourceTypes gvks
    | .noMatch => .ok (some { requeueAfter := 10 })
    | .failed err =>
      .error ("failed to check if type " ++ goQuote (formatGVK gvk) ++ " is served: " ++ err)

/-- **`ensureRequiredResourceTypesExist`**. -/
def ensureRequiredResourceTypesExist (addon : Addon) : Except String (Option Result) :=
  if addon.requiredResourceTypes.length = 0 then .ok none
  else
    match env.getClient with
    | some err => .error ("failed to get client for usercluster: " ++ err)
    | none => listRequiredResourceTypes env addon.requiredResourceTypes

/-- The body of the loop of `ensureAddonLabelOnManifests`, on one manifest: decoded, given
the addon's label, encoded, and turned back into YAML. -/
def labelManifest (addon : Addon) (m : String) : Except String (List Char) := do
  let obj ← (env.decode m).mapError ("parsing unstructured failed: " ++ ·)
  let obj := { obj with labels := setLabels obj.labels (getAddonLabel addon) }
  let json ← (env.encode obj).mapError ("encoding json failed: " ++ ·)
  env.jsonToYAML json

/-- **`ensureAddonLabelOnManifests`**: the loop over the manifests, in order, returning at
the first error. -/
def ensureAddonLabelOnManifests (addon : Addon) (manifests : List String) :
    Except String (List (List Char)) :=
  manifests.mapM (labelManifest env addon)

/-- `os.WriteFile(path, data, 0644)`. -/
def osWriteFile (path : String) (data : List Char) : AddonM Unit :=
  match env.writeFile path with
  | .written => modify (·.putFile path data)
  | .openFailed err => throw err
  | .failed err written => do
    modify (·.putFile path (data.take written))
    throw err

/-- `os.ReadFile(path)`, whose error on a missing file is Go's `*PathError`. -/
def osReadFile (path : String) : AddonM (List Char) := do
  match (← get).files path with
  | some d => pure d
  | none => throw ("open " ++ path ++ ": no such file or directory")

/-- **`writeCombinedManifest`**: the file's path. -/
def writeCombinedManifest (manifest : List Char) (addon : Addon) (cluster : Cluster) :
    AddonM String := do
  let path := manifestFilename cluster.name addon.name
  wrapError ("failed to write combined manifest to " ++ path ++ ": ")
    (osWriteFile env path manifest)
  pure path

/-- **`writeAdminKubeconfig`**: the file's path. -/
def writeAdminKubeconfig (addon : Addon) (cluster : Cluster) : AddonM String := do
  let kubeconfig ← wrapError ("failed to get admin kubeconfig for cluster " ++ cluster.name ++
    ": ") (liftExcept env.getAdminKubeconfig)
  let path := kubeconfigFilename cluster.name addon.name
  wrapError ("failed to write admin kubeconfig for cluster " ++ cluster.name ++ ": ")
    (osWriteFile env path kubeconfig)
  pure path

/-- **`setupManifestInteraction`**: the kubeconfig's path and the manifest's. The
returned `done` is `deferDone` of the two. -/
def setupManifestInteraction (addon : Addon) (cluster : Cluster) : AddonM (String × String) := do
  let manifests ← wrapError "failed to get addon manifests: " (liftExcept env.getAddonManifests)
  let rawManifests ← wrapError "failed to add the addon specific label to all addon resources: "
    (liftExcept (ensureAddonLabelOnManifests env addon manifests))
  let rawManifest := combineManifests rawManifests
  let manifestFilename ← wrapError
    "failed to write all addon resources into a combined manifest file: "
    (writeCombinedManifest env rawManifest addon cluster)
  let kubeconfigFilename ← wrapError
    "failed to write the admin kubeconfig to the local filesystem: "
    (writeAdminKubeconfig env addon cluster)
  pure (kubeconfigFilename, manifestFilename)

/-- The function `getFileDeleteFinalizer(log, filename)` returns, run on the state:
`os.RemoveAll` of the file, whose error is only logged, so that a file it could not remove
stays. -/
def getFileDeleteFinalizer (filename : String) (s : State) : State :=
  { s with files := fun p =>
      if p = filename ∧ env.removeAll filename = none then none else s.files p }

/-- `defer done()`: the body runs, and then, whether it returned an error or not,
`kubeconfigDone()` and `manifestDone()` remove the two files. -/
def deferDone (kubeconfigFilename manifestFilename : String) (body : AddonM α) : AddonM α :=
  ExceptT.mk do
    let r ← body.run
    modify (getFileDeleteFinalizer env kubeconfigFilename)
    modify (getFileDeleteFinalizer env manifestFilename)
    pure r

/-- `cmd.CombinedOutput()` of a `kubectl` command line, recorded with the manifest file
it reads; a failure is `failed to execute '%s' for addon %s of cluster %s: %w\n%s`. -/
def runKubectl (verb : KubectlVerb) (args : List String) (manifestFilename : String)
    (addon : Addon) (cluster : Cluster) : AddonM Unit := do
  let manifest := (← get).files manifestFilename
  let out := env.kubectl args
  modify fun s => { s with log := s.log ++ [.kubectl verb args manifest out.isNone] }
  match out with
  | none => pure ()
  | some (err, output) =>
    throw ("failed to execute \x27" ++ " ".intercalate args ++ "\x27 for addon " ++ addon.name ++
      " of cluster " ++ cluster.name ++ ": " ++ err ++ "\n" ++ output)

/-- The `kubectl apply` command line of `getApplyCommand`. -/
def applyArgs (binary kubeconfigFilename manifestFilename selector : String) : List String :=
  [binary, "--kubeconfig", kubeconfigFilename, "apply", "--prune", "--filename", manifestFilename,
    "--selector", selector]

/-- **`getApplyCommand`**: the command line. -/
def getApplyCommand (kubeconfigFilename manifestFilename selector clusterVersion : String) :
    Except String (List String) :=
  match env.binaryForClusterVersion clusterVersion with
  | .error err => .error ("failed to determine kubectl binary to use: " ++ err)
  | .ok binary => .ok (applyArgs binary kubeconfigFilename manifestFilename selector)

/-- **`Reconciler.ensureIsInstalled`**. -/
def ensureIsInstalled (addon : Addon) (cluster : Cluster) : AddonM Unit := do
  let (kubeconfigFilename, manifestFilename) ← setupManifestInteraction env addon cluster
  deferDone env kubeconfigFilename manifestFilename do
    let d ← osReadFile manifestFilename
    match Addon.ensureIsInstalled d with
    | .skip => pure ()
    | .apply _ =>
      match getApplyCommand env kubeconfigFilename manifestFilename (addonSelector addon)
          cluster.status.controlPlaneVersion with
      | .error err => throw ("failed to create command: " ++ err)
      | .ok args => runKubectl env .apply args manifestFilename addon cluster

/-- The `kubectl delete` command line of `cleanupManifests`. -/
def deleteArgs (binary kubeconfigFilename manifestFilename : String) : List String :=
  [binary, "--kubeconfig", kubeconfigFilename, "delete", "-f", manifestFilename,
    "--ignore-not-found"]

/-- **`cleanupManifests`**. A set-up error that says `no such file or directory` means
the manifests are already gone, and is no error. -/
def cleanupManifests (addon : Addon) (cluster : Cluster) : AddonM Unit :=
  ExceptT.mk do
    match ← (setupManifestInteraction env addon cluster).run with
    | .error err =>
      pure (if stringsContains err "no such file or directory" then .ok () else .error err)
    | .ok (kubeconfigFilename, manifestFilename) =>
      (deferDone env kubeconfigFilename manifestFilename do
        match env.binaryForClusterVersion cluster.status.controlPlaneVersion with
        | .error err => throw ("failed to determine kubectl binary to use: " ++ err)
        | .ok binary =>
          runKubectl env .delete (deleteArgs binary kubeconfigFilename manifestFilename)
            manifestFilename addon cluster).run

/-- **`Reconciler.reconcile`**. -/
def reconcile (cluster : Cluster) : AddonM (Option Result) :=
  if cluster.status.apiserverHealth ≠ .up then pure (some { requeueAfter := 10 })
  else do
    let addon := (← get).addon
    match ← wrapError "failed to check if all required resources exist: "
        (liftExcept (ensureRequiredResourceTypesExist env addon)) with
    | some requeueAfter => pure (some requeueAfter)
    | none =>
      if addon.deletionTimestamp then do
        wrapError "failed to delete manifests from cluster: " (cleanupManifests env addon cluster)
        wrapError "failed to ensure that the cleanup finalizer got removed from the addon: "
          (removeCleanupFinalizer env)
        pure none
      else if addonResourcesCreated addon && !hasEnsureResourcesLabel addon then pure none
      else do
        wrapError "failed to deploy the addon manifests into the cluster: "
          (ensureIsInstalled env addon cluster)
        wrapError "failed to ensure that the cleanup finalizer exists on the addon: "
          (ensureFinalizerIsSet env)
        wrapError "failed to set add ResourcesCreated Condition: "
          (ensureResourcesCreatedConditionIsSet env)
        pure none

/-- `kubermaticv1helper.ClusterReconcileWrapper`, modelled from the spec: a skipped
cluster is not reconciled; otherwise the condition records the outcome, and the error
returned is the reconciler's, or else the condition patch's. -/
def clusterReconcileWrapper (cluster : Cluster) (inner : AddonM (Option Result)) :
    StateM State (Option Result × Option String) :=
  if env.skips cluster then pure (none, none)
  else do
    match ← inner.run with
    | .ok result => pure (result, env.conditionError true)
    | .error err => pure (none, some err)

/-- What `r.Get` of the addon's cluster answered. -/
inductive ClusterLookup
  | found (cluster : Cluster)
  | notFound
  | failed (err : String)

/-- **`Reconciler.Reconcile`**, on what `r.Get` answered for the addon and for its
cluster. -/
def Reconcile : Fetched → ClusterLookup → StateM State (Result × Option String)
  | .notFound, _ => pure ({}, none)
  | .failed err, _ => pure ({}, some err)
  | .found, .failed err => pure ({}, some err)
  | .found, .notFound => do
    match ← (removeCleanupFinalizer env).run with
    | .error err => pure ({}, some ("failed to remove addon cleanup finalizer: " ++ err))
    | .ok () => pure ({}, none)
  | .found, .found cluster =>
    if cluster.status.controlPlaneVersion = "" then pure ({}, none)
    else do
      let (result, err) ← clusterReconcileWrapper env cluster (reconcile env cluster)
      pure (result.getD
        (if env.addonEnforceInterval ≠ 0 then { requeueAfter := 60 * env.addonEnforceInterval }
          else {}), err)

end Reconciler

end Kubermatic.Addon
