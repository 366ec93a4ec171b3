import Kubermatic.Cluster
import Kubermatic.RBAC.Bindings
import Kubermatic.Reconciling.Ensure

/-!
# The KubeVirt objects of a cluster's namespace

The KubeVirt provider (`pkg/provider/cloud/kubevirt/storage.go`) converges two sets of
objects through the reconciler helper: the Role and RoleBinding its CSI driver needs
(`reconcileCSIRoleRoleBinding`), and one CDI DataVolume per pre-allocated data volume of
the cluster's spec (`reconcilePreAllocatedDataVolumes`), each DataVolume imported from the
volume's URL into a claim of its size and storage class. The kinds are rows of the
generator's table, and `ReconcileRoles`, `ReconcileRoleBindings` and
`ReconcileCDIv1beta1DataVolumes` are the template at those rows.

The loop of `reconcilePreAllocatedDataVolumes` calls `ReconcileCDIv1beta1DataVolumes`
once per volume, after parsing the volume's size. When every size parses it is the
template's loop over the volumes' creators (`ensurePreAllocatedDataVolumes_refines`), so
the helper's results carry over: with distinct names, a second run writes nothing
(`ensurePreAllocatedDataVolumes_converges`), and an existing DataVolume keeps the status
CDI gave it (`ensurePreAllocatedDataVolumes_keeps_status`).

Nothing in the sources keeps two pre-allocated volumes from sharing a name, and then the
loop never settles: `ensurePreAllocatedDataVolumes_never_settles` shows that when two
volumes of one name differ in URL, storage class or size, every successful run writes the
DataVolume, whatever was stored before.
-/

namespace Kubermatic.Kubevirt

open Reconciling

/-! ## The objects -/

/-- `rbacv1.PolicyRule`. -/
structure PolicyRule where
  apiGroups : List String
  resources : List String
  verbs : List String
  deriving DecidableEq, Repr

/-- `rbacv1.Role`. -/
structure Role where
  meta : ObjectMeta := {}
  rules : List PolicyRule := []
  deriving DecidableEq, Repr

/-- `rbacv1.RoleRef`. -/
structure RoleRef where
  apiGroup : String := ""
  kind : String := ""
  name : String := ""
  deriving DecidableEq, Repr

/-- `rbacv1.RoleBinding`. -/
structure RoleBinding where
  meta : ObjectMeta := {}
  subjects : List RBAC.Subject := []
  roleRef : RoleRef := {}
  deriving DecidableEq, Repr

/-- `resource.Quantity`, by its value in thousandths (`MilliValue`), which is what
`equality.Semantic.DeepEqual` compares. -/
structure Quantity where
  milliValue : Int
  deriving DecidableEq, Repr

/-- `cdiv1beta1.DataVolumeSourceHTTP`. -/
structure DataVolumeSourceHTTP where
  url : String
  deriving DecidableEq, Repr

/-- `cdiv1beta1.DataVolumeSource`, of which the provider sets the HTTP source. -/
structure DataVolumeSource where
  http : Option DataVolumeSourceHTTP := none
  deriving DecidableEq, Repr

/-- `corev1.PersistentVolumeClaimSpec`: the storage class, the access modes, and the
requests of `Resources`. -/
structure PersistentVolumeClaimSpec where
  storageClassName : Option String := none
  accessModes : List String := []
  requests : List (String × Quantity) := []
  deriving DecidableEq, Repr

/-- `cdiv1beta1.DataVolumeSpec`. -/
structure DataVolumeSpec where
  source : Option DataVolumeSource := none
  pvc : Option PersistentVolumeClaimSpec := none
  deriving DecidableEq, Repr

/-- `cdiv1beta1.DataVolumeStatus`, which CDI writes: the phase of the import. -/
structure DataVolumeStatus where
  phase : String := ""
  deriving DecidableEq, Repr

/-- `cdiv1beta1.DataVolume`. -/
structure DataVolume where
  meta : ObjectMeta := {}
  spec : DataVolumeSpec := {}
  status : DataVolumeStatus := {}
  deriving DecidableEq, Repr

/-! ## The kinds, as rows of the generator's table -/

/-- The table's row of `Role`. -/
def roleData : ReconcileFunctionData := { resourceName := "Role", importAlias := "rbacv1" }

/-- The table's row of `RoleBinding`. -/
def roleBindingData : ReconcileFunctionData :=
  { resourceName := "RoleBinding", importAlias := "rbacv1" }

/-- The table's row of `DataVolume`. -/
def dataVolumeData : ReconcileFunctionData :=
  { resourceName := "DataVolume", importAlias := "cdiv1beta1", apiVersionPrefix := "CDIv1beta1" }

def roleKind : ResourceKind Role :=
  .ofMeta roleData {} Role.meta fun m r => { r with meta := m }

def roleBindingKind : ResourceKind RoleBinding :=
  .ofMeta roleBindingData {} RoleBinding.meta fun m rb => { rb with meta := m }

def dataVolumeKind : ResourceKind DataVolume :=
  .ofMeta dataVolumeData {} DataVolume.meta fun m dv => { dv with meta := m }

/-- `reconciling.ReconcileRoles`. -/
def ReconcileRoles := ReconcileObjects roleKind

/-- `reconciling.ReconcileRoleBindings`. -/
def ReconcileRoleBindings := ReconcileObjects roleBindingKind

/-- `reconciling.ReconcileCDIv1beta1DataVolumes`. -/
def ReconcileCDIv1beta1DataVolumes := ReconcileObjects dataVolumeKind

/-! ## The CSI driver's Role and RoleBinding -/

/-- `csiServiceAccountNamespace`, `metav1.NamespaceDefault`. -/
def csiServiceAccountNamespace : String := "default"

/-- `csiResourceName`. -/
def csiResourceName : String := "kubevirt-csi"

/-- `csiRoleCreator`: the rules on DataVolumes, VirtualMachineInstances and their volume
subresources. -/
def csiRoleCreator (name : String) : NamedCreatorGetter Role :=
  (name, fun r => .ok { r with rules := [
    ⟨["cdi.kubevirt.io"], ["datavolumes"], ["get", "create", "delete"]⟩,
    ⟨["kubevirt.io"], ["virtualmachineinstances"], ["list"]⟩,
    ⟨["subresources.kubevirt.io"],
      ["virtualmachineinstances/addvolume", "virtualmachineinstances/removevolume"], ["update"]⟩] })

/-- `csiRoleBindingCreator`: the service account of the name in the namespace, bound to
the Role of the name. -/
def csiRoleBindingCreator (name ns : String) : NamedCreatorGetter RoleBinding :=
  (name, fun rb => .ok { rb with
    subjects := [{ kind := "ServiceAccount", name := name, ns := ns }],
    roleRef := { apiGroup := "rbac.authorization.k8s.io", kind := "Role", name := name } })

/-- `reconcileCSIRoleRoleBinding`: the Role, then, if it went through, the RoleBinding, both
in the namespace. -/
def reconcileCSIRoleRoleBinding (ns : String) (client : Client) (roles : Store Role)
    (bindings : Store RoleBinding) : Except GoError Unit × Store Role × Store RoleBinding :=
  match ReconcileRoles [csiRoleCreator csiResourceName] ns client [] roles with
  | (.error err, roles') => (.error err, roles', bindings)
  | (.ok (), roles') =>
    let r := ReconcileRoleBindings [csiRoleBindingCreator csiResourceName csiServiceAccountNamespace]
      ns client [] bindings
    (r.1, roles', r.2)

@[simp] theorem objectCreator_roleKind (ns : String) (get : NamedCreatorGetter Role)
    (x : Option Role) :
    objectCreator roleKind ns [] get x =
      (get.2 (x.getD {})).map fun r => { r with meta := ⟨get.1, ns⟩ } := by
  refine objectCreator_ofMeta ?_ ?_ ?_ ns get x <;> intros <;> rfl

@[simp] theorem objectCreator_roleBindingKind (ns : String) (get : NamedCreatorGetter RoleBinding)
    (x : Option RoleBinding) :
    objectCreator roleBindingKind ns [] get x =
      (get.2 (x.getD {})).map fun rb => { rb with meta := ⟨get.1, ns⟩ } := by
  refine objectCreator_ofMeta ?_ ?_ ?_ ns get x <;> intros <;> rfl

theorem csiRoleCreator_idempotent (name ns : String) :
    Idempotent (objectCreator roleKind ns [] (csiRoleCreator name)) := by
  intro x obj h
  simp only [objectCreator_roleKind, csiRoleCreator, Except.map, Except.ok.injEq] at h ⊢
  rw [← h]

theorem csiRoleBindingCreator_idempotent (name sans ns : String) :
    Idempotent (objectCreator roleBindingKind ns [] (csiRoleBindingCreator name sans)) := by
  intro x obj h
  simp only [objectCreator_roleBindingKind, csiRoleBindingCreator, Except.map,
    Except.ok.injEq] at h ⊢
  rw [← h]

theorem csiRole_of_settled {name ns : String} {key : NamespacedName} {s : Store Role}
    (h : Settled roleKind (objectCreator roleKind ns [] (csiRoleCreator name)) key s) :
    ∃ r, s.objects key = some r ∧ (csiRoleCreator name).2 r = .ok r := by
  obtain ⟨r, r', hr, hc, hmeta⟩ := Settled.ofMeta h rfl (fun _ _ => rfl) (fun _ _ _ => rfl)
  simp only [csiRoleCreator, Except.ok.injEq] at hc
  subst hc
  exact ⟨r, hr, by rw [← hmeta]; rfl⟩

theorem csiRoleBinding_of_settled {name sans ns : String} {key : NamespacedName}
    {s : Store RoleBinding}
    (h : Settled roleBindingKind (objectCreator roleBindingKind ns [] (csiRoleBindingCreator name sans))
      key s) :
    ∃ rb, s.objects key = some rb ∧
      rb.subjects = [{ kind := "ServiceAccount", name := name, ns := sans }] ∧
      rb.roleRef = { apiGroup := "rbac.authorization.k8s.io", kind := "Role", name := name } := by
  obtain ⟨rb, rb', hrb, hc, hmeta⟩ := Settled.ofMeta h rfl (fun _ _ => rfl) (fun _ _ _ => rfl)
  simp only [csiRoleBindingCreator, Except.ok.injEq] at hc
  subst hc
  exact ⟨rb, hrb, by rw [← hmeta], by rw [← hmeta]⟩

/-- The run of the Role, then of the RoleBinding, as the two calls the code makes. -/
theorem reconcileCSIRoleRoleBinding_eq (ns : String) (client : Client) (roles : Store Role)
    (bindings : Store RoleBinding) :
    reconcileCSIRoleRoleBinding ns client roles bindings =
      match ReconcileObjects roleKind [csiRoleCreator csiResourceName] ns client [] roles with
      | (.error err, roles') => (.error err, roles', bindings)
      | (.ok (), roles') =>
        let r := ReconcileObjects roleBindingKind
          [csiRoleBindingCreator csiResourceName csiServiceAccountNamespace] ns client [] bindings
        (r.1, roles', r.2) := rfl

/-- **The CSI RoleBinding binds a Role that is there.** After a successful run, the
RoleBinding `kubevirt-csi` of the namespace binds the service account `kubevirt-csi` of the
`default` namespace to a Role of its own namespace, and that Role is stored with the rules
the driver needs. -/
theorem reconcileCSIRoleRoleBinding_binds_role {ns : String} {client : Client}
    {roles : Store Role} {bindings : Store RoleBinding}
    (hok : (reconcileCSIRoleRoleBinding ns client roles bindings).1 = .ok ()) :
    ∃ rb r,
      (reconcileCSIRoleRoleBinding ns client roles bindings).2.2.objects ⟨ns, csiResourceName⟩ =
        some rb ∧
      rb.subjects =
        [{ kind := "ServiceAccount", name := csiResourceName, ns := csiServiceAccountNamespace }] ∧
      rb.roleRef.kind = "Role" ∧
      (reconcileCSIRoleRoleBinding ns client roles bindings).2.1.objects ⟨ns, rb.roleRef.name⟩ =
        some r ∧
      (csiRoleCreator csiResourceName).2 r = .ok r := by
  rw [reconcileCSIRoleRoleBinding_eq] at hok ⊢
  rcases hr : ReconcileObjects roleKind [csiRoleCreator csiResourceName] ns client [] roles with
    ⟨_ | ⟨⟩, roles'⟩ <;> simp only [hr] at hok ⊢
  · cases hok
  have hrole := @ReconcileObjects_settles _ roleKind ns client [] [csiRoleCreator csiResourceName] roles (List.nodup_singleton _)
    (fun _ hg => List.mem_singleton.mp hg ▸ csiRoleCreator_idempotent _ ns) (by rw [hr]) _
    (List.mem_singleton_self _)
  rw [hr] at hrole
  obtain ⟨r, hr', hc⟩ := csiRole_of_settled hrole
  obtain ⟨rb, hrb, hsub, href⟩ := csiRoleBinding_of_settled
    (@ReconcileObjects_settles _ roleBindingKind ns client []
      [csiRoleBindingCreator csiResourceName csiServiceAccountNamespace] bindings (List.nodup_singleton _)
      (fun _ hg => List.mem_singleton.mp hg ▸ csiRoleBindingCreator_idempotent _ _ ns) hok _
      (List.mem_singleton_self _))
  exact ⟨rb, r, hrb, hsub, by rw [href], by rw [href]; exact hr', hc⟩

/-- **The CSI objects converge.** After a successful run, a second run on the stores it
left, against an API server whose reads of the two objects succeed, succeeds and writes
nothing. -/
theorem reconcileCSIRoleRoleBinding_converges {ns : String} {client : Client}
    {roles : Store Role} {bindings : Store RoleBinding}
    (hok : (reconcileCSIRoleRoleBinding ns client roles bindings).1 = .ok ()) (client' : Client)
    (hrole : client'.getError roleData ⟨ns, csiResourceName⟩ = none)
    (hbinding : client'.getError roleBindingData ⟨ns, csiResourceName⟩ = none) :
    reconcileCSIRoleRoleBinding ns client' (reconcileCSIRoleRoleBinding ns client roles bindings).2.1
        (reconcileCSIRoleRoleBinding ns client roles bindings).2.2 =
      (.ok (), (reconcileCSIRoleRoleBinding ns client roles bindings).2) := by
  rw [reconcileCSIRoleRoleBinding_eq] at hok
  rw [reconcileCSIRoleRoleBinding_eq ns client]
  rcases hr : ReconcileObjects roleKind [csiRoleCreator csiResourceName] ns client [] roles with
    ⟨_ | ⟨⟩, roles'⟩ <;> simp only [hr] at hok ⊢
  · cases hok
  have hroles := @ReconcileObjects_converges _ roleKind ns client []
    [csiRoleCreator csiResourceName] roles (List.nodup_singleton _)
    (fun _ hg => List.mem_singleton.mp hg ▸ csiRoleCreator_idempotent _ ns) (by rw [hr]) client'
    (fun _ hg => List.mem_singleton.mp hg ▸ hrole)
  have hbindings := @ReconcileObjects_converges _ roleBindingKind ns client []
    [csiRoleBindingCreator csiResourceName csiServiceAccountNamespace] bindings
    (List.nodup_singleton _)
    (fun _ hg => List.mem_singleton.mp hg ▸ csiRoleBindingCreator_idempotent _ _ ns) hok client'
    (fun _ hg => List.mem_singleton.mp hg ▸ hbinding)
  rw [hr] at hroles
  rw [reconcileCSIRoleRoleBinding_eq, hroles]
  simp only [hbindings]

/-! ## The pre-allocated DataVolumes -/

section DataVolumes

-- `resource.ParseQuantity`, which is not among the sources.
variable (parseQuantity : String → Except String Quantity)

/-- `createPreAllocatedDataVolume`: the DataVolume of the volume's name in the namespace,
importing from the URL into a `ReadWriteOnce` claim of the storage class and the size. -/
def createPreAllocatedDataVolume (dv : PreAllocatedDataVolume) (ns : String) :
    Except String DataVolume :=
  match parseQuantity dv.size with
  | .error err => .error err
  | .ok dvSize => .ok {
      meta := { name := dv.name, ns := ns },
      spec := {
        source := some { http := some ⟨dv.url⟩ },
        pvc := some {
          storageClassName := some dv.storageClass,
          accessModes := ["ReadWriteOnce"],
          requests := [("storage", dvSize)] } } }

/-- `dataVolumeCreator`: the DataVolume's name, and a creator that sets its spec. -/
def dataVolumeCreator (datavolume : DataVolume) : NamedCreatorGetter DataVolume :=
  (datavolume.meta.name, fun dv => .ok { dv with spec := datavolume.spec })

/-- The loop of `reconcilePreAllocatedDataVolumes` over the volumes, in the namespace: a
size that does not parse is the error, and a DataVolume that cannot be ensured is the
error under `failed to reconcile Allocated DataVolume: `. -/
def ensurePreAllocatedDataVolumes (client : Client) (ns : String) :
    List PreAllocatedDataVolume → Store DataVolume → Except GoError Unit × Store DataVolume
  | [], s => (.ok (), s)
  | d :: rest, s =>
    match createPreAllocatedDataVolume parseQuantity d ns with
    | .error err => (.error (.msg err), s)
    | .ok dv =>
      match ReconcileCDIv1beta1DataVolumes [dataVolumeCreator dv] ns client [] s with
      | (.error err, s') => (.error (.wrapped "failed to reconcile Allocated DataVolume: " err), s')
      | (.ok (), s') => ensurePreAllocatedDataVolumes client ns rest s'

/-- `reconcilePreAllocatedDataVolumes`: the loop over the cluster's pre-allocated volumes in
its namespace; a cluster without a KubeVirt spec makes the code dereference a nil pointer. -/
def reconcilePreAllocatedDataVolumes (cluster : Cluster) (client : Client) (s : Store DataVolume) :
    GoResult (Except GoError Unit × Store DataVolume) :=
  match cluster.spec.cloud.kubevirt with
  | none => .nilDereference
  | some kubevirt =>
    .returned (ensurePreAllocatedDataVolumes parseQuantity client cluster.status.namespaceName
      kubevirt.preAllocatedDataVolumes s)

/-- The DataVolumes of the volumes, when every size parses: what the loop hands
`ReconcileCDIv1beta1DataVolumes`, one volume at a time. -/
def createPreAllocatedDataVolumes (ns : String) :
    List PreAllocatedDataVolume → Except String (List DataVolume)
  | [] => .ok []
  | d :: rest =>
    match createPreAllocatedDataVolume parseQuantity d ns with
    | .error err => .error err
    | .ok dv => (createPreAllocatedDataVolumes ns rest).map (dv :: ·)

/-- The spec `createPreAllocatedDataVolume` gives a volume's DataVolume, for its parsed
size. -/
def preAllocatedDataVolumeSpec (dv : PreAllocatedDataVolume) (dvSize : Quantity) :
    DataVolumeSpec :=
  { source := some { http := some ⟨dv.url⟩ },
    pvc := some {
      storageClassName := some dv.storageClass,
      accessModes := ["ReadWriteOnce"],
      requests := [("storage", dvSize)] } }

variable {parseQuantity}

/-- What the helper hands `EnsureNamedObject` for a DataVolume: the existing object (or
the zero value) with the spec set, under the DataVolume's name and the namespace. -/
@[simp] theorem objectCreator_dataVolumeCreator (datavolume : DataVolume) (ns : String)
    (x : Option DataVolume) :
    objectCreator dataVolumeKind ns [] (dataVolumeCreator datavolume) x =
      .ok { x.getD {} with spec := datavolume.spec, meta := ⟨datavolume.meta.name, ns⟩ } := by
  cases x <;> rfl

theorem dataVolumeCreator_idempotent (datavolume : DataVolume) (ns : String) :
    Idempotent (objectCreator dataVolumeKind ns [] (dataVolumeCreator datavolume)) := by
  intro x obj h
  simp only [objectCreator_dataVolumeCreator, Except.ok.injEq] at h
  subst h
  simp

theorem createPreAllocatedDataVolume_ok {d : PreAllocatedDataVolume} {ns : String}
    {dv : DataVolume} (h : createPreAllocatedDataVolume parseQuantity d ns = .ok dv) :
    ∃ dvSize, parseQuantity d.size = .ok dvSize ∧ dv.meta = ⟨d.name, ns⟩ ∧
      dv.spec = preAllocatedDataVolumeSpec d dvSize := by
  unfold createPreAllocatedDataVolume at h
  split at h
  · cases h
  · rename_i dvSize hq
    cases h
    exact ⟨dvSize, hq, rfl, rfl⟩

theorem createPreAllocatedDataVolumes_cons_eq_ok {ns : String} {d : PreAllocatedDataVolume}
    {rest : List PreAllocatedDataVolume} {dvs : List DataVolume} :
    createPreAllocatedDataVolumes parseQuantity ns (d :: rest) = .ok dvs ↔
      ∃ dv dvs', createPreAllocatedDataVolume parseQuantity d ns = .ok dv ∧
        createPreAllocatedDataVolumes parseQuantity ns rest = .ok dvs' ∧ dvs = dv :: dvs' := by
  rw [createPreAllocatedDataVolumes]
  rcases createPreAllocatedDataVolume parseQuantity d ns with _ | dv <;>
    rcases createPreAllocatedDataVolumes parseQuantity ns rest with _ | dvs' <;>
    simp [Except.map, eq_comm]

theorem mem_createPreAllocatedDataVolumes {ns : String} {volumes : List PreAllocatedDataVolume}
    {dvs : List DataVolume} (h : createPreAllocatedDataVolumes parseQuantity ns volumes = .ok dvs)
    {d : PreAllocatedDataVolume} (hd : d ∈ volumes) :
    ∃ dv ∈ dvs, createPreAllocatedDataVolume parseQuantity d ns = .ok dv := by
  induction volumes generalizing dvs with
  | nil => cases hd
  | cons d' rest ih =>
    obtain ⟨dv, dvs', hdv, hrest, rfl⟩ := createPreAllocatedDataVolumes_cons_eq_ok.mp h
    rcases List.mem_cons.mp hd with rfl | hd
    · exact ⟨dv, List.mem_cons_self _ _, hdv⟩
    · obtain ⟨dv', hmem, h'⟩ := ih hrest hd
      exact ⟨dv', List.mem_cons_of_mem _ hmem, h'⟩

theorem names_createPreAllocatedDataVolumes {ns : String} {volumes : List PreAllocatedDataVolume}
    {dvs : List DataVolume} (h : createPreAllocatedDataVolumes parseQuantity ns volumes = .ok dvs) :
    (dvs.map dataVolumeCreator).map Prod.fst = volumes.map (·.name) := by
  induction volumes generalizing dvs with
  | nil => cases h; rfl
  | cons d rest ih =>
    obtain ⟨dv, dvs', hdv, hrest, rfl⟩ := createPreAllocatedDataVolumes_cons_eq_ok.mp h
    obtain ⟨-, -, hmeta, -⟩ := createPreAllocatedDataVolume_ok hdv
    simp [dataVolumeCreator, hmeta, ← ih hrest]

/-- **The loop is the template's loop over the volumes' DataVolumes** when every size
parses: it leaves the same store, and succeeds when that loop does. -/
theorem ensurePreAllocatedDataVolumes_refines {ns : String}
    {volumes : List PreAllocatedDataVolume} {dvs : List DataVolume}
    (h : createPreAllocatedDataVolumes parseQuantity ns volumes = .ok dvs) (client : Client)
    (s : Store DataVolume) :
    (ensurePreAllocatedDataVolumes parseQuantity client ns volumes s).2 =
        (ReconcileCDIv1beta1DataVolumes (dvs.map dataVolumeCreator) ns client [] s).2 ∧
      ((ensurePreAllocatedDataVolumes parseQuantity client ns volumes s).1 = .ok () ↔
        (ReconcileCDIv1beta1DataVolumes (dvs.map dataVolumeCreator) ns client [] s).1 = .ok ()) := by
  induction volumes generalizing dvs s with
  | nil => cases h; exact ⟨rfl, Iff.rfl⟩
  | cons d rest ih =>
    obtain ⟨dv, dvs', hdv, hrest, rfl⟩ := createPreAllocatedDataVolumes_cons_eq_ok.mp h
    simp only [ensurePreAllocatedDataVolumes, hdv, List.map_cons, ReconcileCDIv1beta1DataVolumes,
      ReconcileObjects]
    rcases EnsureNamedObject dataVolumeKind ⟨ns, (dataVolumeCreator dv).1⟩
        (objectCreator dataVolumeKind ns [] (dataVolumeCreator dv)) client
        dataVolumeKind.data.requiresRecreate s with ⟨_ | ⟨⟩, s'⟩
    · simp
    · exact ih hrest s'

/-- A successful loop parsed every size. -/
theorem createPreAllocatedDataVolumes_of_ok {client : Client} {ns : String}
    {volumes : List PreAllocatedDataVolume} {s : Store DataVolume}
    (hok : (ensurePreAllocatedDataVolumes parseQuantity client ns volumes s).1 = .ok ()) :
    ∃ dvs, createPreAllocatedDataVolumes parseQuantity ns volumes = .ok dvs := by
  induction volumes generalizing s with
  | nil => exact ⟨[], rfl⟩
  | cons d rest ih =>
    unfold ensurePreAllocatedDataVolumes at hok
    rcases hdv : createPreAllocatedDataVolume parseQuantity d ns with _ | dv <;>
      simp only [hdv] at hok
    · cases hok
    rcases hr : ReconcileCDIv1beta1DataVolumes [dataVolumeCreator dv] ns client [] s with
      ⟨_ | ⟨⟩, s'⟩ <;> simp only [hr] at hok
    · cases hok
    obtain ⟨dvs, h⟩ := ih hok
    exact ⟨dv :: dvs, createPreAllocatedDataVolumes_cons_eq_ok.mpr ⟨dv, dvs, hdv, h, rfl⟩⟩

/-- **With distinct names, the DataVolumes converge.** After a successful run, a second run
on the store it left, against an API server whose reads of the DataVolumes succeed,
succeeds and writes nothing. -/
theorem ensurePreAllocatedDataVolumes_converges {client : Client} {ns : String}
    {volumes : List PreAllocatedDataVolume} {s : Store DataVolume}
    (hnames : (volumes.map (·.name)).Nodup)
    (hok : (ensurePreAllocatedDataVolumes parseQuantity client ns volumes s).1 = .ok ())
    (client' : Client) (hget : ∀ d ∈ volumes, client'.getError dataVolumeData ⟨ns, d.name⟩ = none) :
    ensurePreAllocatedDataVolumes parseQuantity client' ns volumes
        (ensurePreAllocatedDataVolumes parseQuantity client ns volumes s).2 =
      (.ok (), (ensurePreAllocatedDataVolumes parseQuantity client ns volumes s).2) := by
  obtain ⟨dvs, hdvs⟩ := createPreAllocatedDataVolumes_of_ok hok
  have hnames' := names_createPreAllocatedDataVolumes hdvs
  obtain ⟨hstore, hiff⟩ := ensurePreAllocatedDataVolumes_refines hdvs client s
  have hconv := @ReconcileObjects_converges _ dataVolumeKind ns client [] _ s
    (hnames'.symm ▸ hnames) (fun g hg => by
      obtain ⟨dv, -, rfl⟩ := List.mem_map.mp hg
      exact dataVolumeCreator_idempotent dv ns) (hiff.mp hok) client' (fun g hg => by
        obtain ⟨d, hd, hgd⟩ : ∃ d ∈ volumes, d.name = g.1 := by
          have : g.1 ∈ volumes.map (·.name) := hnames' ▸ List.mem_map_of_mem _ hg
          simpa using this
        exact hgd ▸ hget d hd)
  obtain ⟨hstore', hiff'⟩ := ensurePreAllocatedDataVolumes_refines hdvs client'
    (ensurePreAllocatedDataVolumes parseQuantity client ns volumes s).2
  rw [hstore] at hstore' hiff' ⊢
  unfold ReconcileCDIv1beta1DataVolumes at hstore' hiff'
  rw [hconv] at hstore' hiff'
  exact Prod.ext (hiff'.mpr rfl) hstore'

theorem ensurePreAllocatedDataVolumes_converges_refusing_writes :
    (ensurePreAllocatedDataVolumes (fun _ => .ok ⟨10000⟩) ⟨fun _ _ => none, fun _ _ _ => none⟩
      "cluster-a" [⟨"disk-a", "http://images/a.img", "10Gi", "standard"⟩,
        ⟨"disk-b", "http://images/b.img", "10Gi", "standard"⟩] ⟨fun _ => none, []⟩).1 = .ok () ∧
    ensurePreAllocatedDataVolumes (fun _ => .ok ⟨10000⟩)
        ⟨fun _ _ => none, fun _ _ _ => some "forbidden"⟩ "cluster-a"
        [⟨"disk-a", "http://images/a.img", "10Gi", "standard"⟩,
          ⟨"disk-b", "http://images/b.img", "10Gi", "standard"⟩]
        (ensurePreAllocatedDataVolumes (fun _ => .ok ⟨10000⟩) ⟨fun _ _ => none, fun _ _ _ => none⟩
          "cluster-a" [⟨"disk-a", "http://images/a.img", "10Gi", "standard"⟩,
            ⟨"disk-b", "http://images/b.img", "10Gi", "standard"⟩] ⟨fun _ => none, []⟩).2 =
      (.ok (), (ensurePreAllocatedDataVolumes (fun _ => .ok ⟨10000⟩)
        ⟨fun _ _ => none, fun _ _ _ => none⟩ "cluster-a"
        [⟨"disk-a", "http://images/a.img", "10Gi", "standard"⟩,
          ⟨"disk-b", "http://images/b.img", "10Gi", "standard"⟩] ⟨fun _ => none, []⟩).2) :=
  ⟨rfl, ensurePreAllocatedDataVolumes_converges (by decide) (by rfl) _ fun _ _ => rfl⟩

/-- A DataVolume settled for a creator has the creator's spec. -/
theorem spec_of_settled {dv : DataVolume} {ns : String} {s : Store DataVolume}
    (h : Settled dataVolumeKind (objectCreator dataVolumeKind ns [] (dataVolumeCreator dv))
      ⟨ns, dv.meta.name⟩ s) :
    ∃ x, s.objects ⟨ns, dv.meta.name⟩ = some x ∧ x.spec = dv.spec := by
  obtain ⟨x, obj, hx, hc, he⟩ := h
  simp only [objectCreator_dataVolumeCreator, Option.getD_some, Except.ok.injEq] at hc
  subst hc
  have heq := of_decide_eq_true he
  exact ⟨x, hx, by rw [← heq]⟩

/-- **Two volumes of one name never settle.** When two pre-allocated volumes share a name
but differ in URL, storage class or size, every successful run of the loop writes a
DataVolume, from whatever store: the two creators keep overwriting each other's spec. -/
theorem ensurePreAllocatedDataVolumes_never_settles {client : Client} {ns : String}
    {volumes : List PreAllocatedDataVolume} {d₁ d₂ : PreAllocatedDataVolume}
    (h₁ : d₁ ∈ volumes) (h₂ : d₂ ∈ volumes) (hname : d₁.name = d₂.name)
    (hdiff : d₁.url ≠ d₂.url ∨ d₁.storageClass ≠ d₂.storageClass ∨
      parseQuantity d₁.size ≠ parseQuantity d₂.size)
    {s : Store DataVolume}
    (hok : (ensurePreAllocatedDataVolumes parseQuantity client ns volumes s).1 = .ok ()) :
    (ensurePreAllocatedDataVolumes parseQuantity client ns volumes s).2.writes ≠ s.writes := by
  intro hw
  obtain ⟨dvs, hdvs⟩ := createPreAllocatedDataVolumes_of_ok hok
  obtain ⟨hstore, hiff⟩ := ensurePreAllocatedDataVolumes_refines hdvs client s
  obtain ⟨-, hsettled⟩ := ReconcileObjects_settled_of_writes
    (Prod.ext (hiff.mp hok) hstore.symm) hw
  -- the one object stored under the name has the spec of each volume's DataVolume
  have hspec : ∀ d ∈ volumes, ∃ dvSize x, parseQuantity d.size = .ok dvSize ∧
      s.objects ⟨ns, d.name⟩ = some x ∧
      x.spec = preAllocatedDataVolumeSpec d dvSize := by
    intro d hd
    obtain ⟨dv, hmem, hdv⟩ := mem_createPreAllocatedDataVolumes hdvs hd
    obtain ⟨dvSize, hq, hmeta, hdvspec⟩ := createPreAllocatedDataVolume_ok hdv
    obtain ⟨x, hx, hxspec⟩ := spec_of_settled (hsettled _ (List.mem_map_of_mem _ hmem))
    rw [hmeta] at hx
    exact ⟨dvSize, x, hq, hx, hxspec.trans hdvspec⟩
  obtain ⟨q₁, x₁, hq₁, hx₁, hs₁⟩ := hspec d₁ h₁
  obtain ⟨q₂, x₂, hq₂, hx₂, hs₂⟩ := hspec d₂ h₂
  rw [← hname, hx₁, Option.some.injEq] at hx₂
  subst hx₂
  rw [hs₁] at hs₂
  simp only [preAllocatedDataVolumeSpec, DataVolumeSpec.mk.injEq, Option.some.injEq,
    DataVolumeSource.mk.injEq, DataVolumeSourceHTTP.mk.injEq, PersistentVolumeClaimSpec.mk.injEq,
    List.cons.injEq, Prod.mk.injEq, true_and, and_true] at hs₂
  obtain ⟨hurl, hsc, hq⟩ := hs₂
  rcases hdiff with h | h | h
  · exact h hurl
  · exact h hsc
  · exact h (by rw [hq₁, hq₂, hq])

theorem ensurePreAllocatedDataVolumes_never_settles_same_name :
    (ensurePreAllocatedDataVolumes (fun _ => .ok ⟨10000⟩) ⟨fun _ _ => none, fun _ _ _ => none⟩
      "cluster-a" [⟨"disk", "http://images/a.img", "10Gi", "standard"⟩,
        ⟨"disk", "http://images/b.img", "10Gi", "standard"⟩] ⟨fun _ => none, []⟩).1 = .ok () ∧
    (ensurePreAllocatedDataVolumes (fun _ => .ok ⟨10000⟩) ⟨fun _ _ => none, fun _ _ _ => none⟩
      "cluster-a" [⟨"disk", "http://images/a.img", "10Gi", "standard"⟩,
        ⟨"disk", "http://images/b.img", "10Gi", "standard"⟩] ⟨fun _ => none, []⟩).2.writes ≠
      (⟨fun _ => none, []⟩ : Store DataVolume).writes :=
  ⟨rfl, @ensurePreAllocatedDataVolumes_never_settles _ _ _ _
    ⟨"disk", "http://images/a.img", "10Gi", "standard"⟩
    ⟨"disk", "http://images/b.img", "10Gi", "standard"⟩
    (by decide) (by decide) rfl (.inl (by decide)) _ rfl⟩

/-- **An existing DataVolume keeps the status CDI gave it.** Over any run of the loop, failed
or not, a DataVolume stored before the run that is still stored after it has the same
status: the creators set only the spec, the name and the namespace. -/
theorem ensurePreAllocatedDataVolumes_keeps_status {client : Client} {ns : String}
    {volumes : List PreAllocatedDataVolume} {s : Store DataVolume} {k : NamespacedName}
    {x y : DataVolume} (hx : s.objects k = some x)
    (hy : (ensurePreAllocatedDataVolumes parseQuantity client ns volumes s).2.objects k = some y) :
    y.status = x.status := by
  have hkeep : ∀ dv, ∀ get ∈ [dataVolumeCreator dv], ∀ x y,
      objectCreator dataVolumeKind ns [] get (some x) = .ok y → y.status = x.status := by
    intro dv get hget x y h
    rw [List.mem_singleton.mp hget, objectCreator_dataVolumeCreator, Except.ok.injEq] at h
    rw [← h]
    rfl
  induction volumes generalizing s x with
  | nil =>
    rw [show (ensurePreAllocatedDataVolumes parseQuantity client ns [] s).2 = s from rfl, hx] at hy
    cases hy
    rfl
  | cons d rest ih =>
    unfold ensurePreAllocatedDataVolumes at hy
    rcases hdv : createPreAllocatedDataVolume parseQuantity d ns with _ | dv <;> simp only [hdv] at hy
    · rw [hx] at hy
      cases hy
      rfl
    rcases hr : ReconcileObjects dataVolumeKind [dataVolumeCreator dv] ns client [] s with
      ⟨_ | ⟨⟩, s'⟩ <;> simp only [ReconcileCDIv1beta1DataVolumes, hr] at hy
    · exact ReconcileObjects_keeps DataVolume.status (hkeep dv) hx (by rw [hr]; exact hy)
    · obtain ⟨x', hx', hf⟩ := ReconcileObjects_ok_keeps DataVolume.status (hkeep dv) hx (by rw [hr])
      rw [hr] at hx'
      exact (ih hx' hy).trans hf

theorem ensurePreAllocatedDataVolumes_keeps_status_succeeded :
    (⟨fun k => if k = ⟨"cluster-a", "disk"⟩ then
        some { meta := ⟨"disk", "cluster-a"⟩, status := ⟨"Succeeded"⟩ } else none, []⟩ :
      Store DataVolume).objects ⟨"cluster-a", "disk"⟩ =
        some { meta := ⟨"disk", "cluster-a"⟩, status := ⟨"Succeeded"⟩ } ∧
    (ensurePreAllocatedDataVolumes (fun _ => .ok ⟨10000⟩) ⟨fun _ _ => none, fun _ _ _ => none⟩
      "cluster-a" [⟨"disk", "http://images/a.img", "10Gi", "standard"⟩]
      ⟨fun k => if k = ⟨"cluster-a", "disk"⟩ then
        some { meta := ⟨"disk", "cluster-a"⟩, status := ⟨"Succeeded"⟩ } else none, []⟩).2.objects
        ⟨"cluster-a", "disk"⟩ =
      some { meta := ⟨"disk", "cluster-a"⟩,
             spec := preAllocatedDataVolumeSpec ⟨"disk", "http://images/a.img", "10Gi", "standard"⟩
               ⟨10000⟩,
             status := ⟨"Succeeded"⟩ } ∧
    ({ meta := ⟨"disk", "cluster-a"⟩,
       spec := preAllocatedDataVolumeSpec ⟨"disk", "http://images/a.img", "10Gi", "standard"⟩ ⟨10000⟩,
       status := ⟨"Succeeded"⟩ } : DataVolume).status =
      ({ meta := ⟨"disk", "cluster-a"⟩, status := ⟨"Succeeded"⟩ } : DataVolume).status :=
  by refine ⟨?hx, ?hy, ensurePreAllocatedDataVolumes_keeps_status ?hx ?hy⟩ <;> rfl

end DataVolumes


end Kubermatic.Kubevirt
