import Kubermatic.Finalizer
import Kubermatic.RBAC.Bindings

/-!
# The RBAC controller of projects

`projectController` of the master controller manager
(`pkg/controller/master-controller-manager/rbac/sync_project.go`) keeps, for every
project, the (Cluster)Roles and (Cluster)RoleBindings that give the project's groups
access to the project's resources, on the master and on the seeds; when the project is
deleted it takes the project's groups out of those bindings again.

Its binding loops all have one shape. For every project resource of the loop's scope –
the cluster-scoped ones or the namespaced ones – the loop asks the REST mapper for the
resource's mapping, and for every group prefix it skips the group, or returns the error of
the `shouldSkip…RoleBindingFor` check, or makes one call on the master or on every seed.
The ensure loops of a sync and the cleanup loops of a deletion differ only in that call,
so they are one definition, `forBindings`, with the call as a parameter.
`forBindings_eq` writes a loop as the list of the steps it takes, `loopSteps`. What a loop
keeps, when it fails, when it succeeds and what it leaves behind then follow from four
facts about `List.forM` in the sync monad, stated once here.

The controller as one sync sees it – its project resources, its seeds, what its REST
mapper answers during the sync, and the generators of group names, roles and bindings,
none of which are among the sources – is a `ProjectController`; the master and seed API
servers, how they answer, and the stored project are the `World` a sync runs on. Every
call on a server may fail: the server's answers say when, and a failed call leaves the
server as it was.
-/

namespace Kubermatic.RBAC

/-! ## The controller and its world -/

def CleanupFinalizerName : String := "kubermatic.k8c.io/controller-manager-rbac-cleanup"

/-- `kubermaticv1.ProjectPhase`. -/
inductive ProjectPhase
  | inactive | active | terminating
  deriving DecidableEq, Repr

/-- `kubermaticv1.Project`: its name, finalizers, phase, and whether it is being
deleted. -/
structure Project where
  name : String
  finalizers : List String := []
  phase : Option ProjectPhase := none
  /-- Whether `DeletionTimestamp` is set. -/
  deletionTimestamp : Bool := false
  deriving DecidableEq, Repr

/-- Where a project resource's roles and bindings live. -/
inductive Destination
  | master | seed
  deriving DecidableEq, Repr

/-- `schema.GroupVersionResource`, without the version, which the loops do not read. -/
structure GroupVersionResource where
  group : String := ""
  resource : String
  deriving DecidableEq, Repr

/-- An entry of `c.projectResources`: the kind of the object, its namespace (empty for a
cluster-scoped one) and its destination. -/
structure ProjectResource where
  kind : String
  /-- `namespace`. -/
  ns : String := ""
  destination : Destination := .master

/-- `rbacv1.PolicyRule`; `equality.Semantic.DeepEqual` on rules is equality. -/
structure PolicyRule where
  verbs : List String
  apiGroups : List String := []
  resources : List String := []
  resourceNames : List String := []
  deriving DecidableEq, Repr

/-- A generated ClusterRole or Role: its namespace, name and rules. -/
structure Role where
  /-- `Namespace`. -/
  ns : String := ""
  name : String
  rules : List PolicyRule
  deriving DecidableEq, Repr

/-- The rules of the (Cluster)Roles an API server stores, by key, and how it answers the
calls on them it does not carry out: the error of a `Get` that fails other than with the
`NotFound` of a missing role, and of a `Create` or an `Update` of the role under a key that
it refuses. -/
structure RoleStore where
  rules : BindingKey → Option (List PolicyRule)
  getError : BindingKey → Option String := fun _ => none
  writeError : BindingKey → Option String := fun _ => none

/-- **The project controller**: its project resources, its seeds in the order the loops
over `seedClientMap` visit them, and what it uses that is declared outside the
sources. -/
structure ProjectController where
  projectResources : List ProjectResource
  seeds : List String
  /-- `c.restMapper.RESTMapping` of the kind and version of a resource's object: the
  mapping, or the mapper's error, as the mapper answers during the sync. The mapper is
  asked again on every sync, and its answers may change from one sync to the next
  (`SystemStep`). -/
  restMapping : ProjectResource → Except String GroupVersionResource
  /-- `AllGroupsPrefixes`. -/
  allGroupsPrefixes : List String
  /-- `kubermaticv1.SchemeGroupVersion.Group`. -/
  schemeGroup : String
  /-- `GenerateActualGroupNameFor(projectName, groupPrefix)`. -/
  generateActualGroupNameFor : String → String → String
  /-- `generateClusterRBACRoleForResource(groupName, resource, apiGroup, kind)`: the
  ClusterRole, none, or the error. -/
  generateClusterRBACRoleForResource : String → String → String → String → Except String (Option Role)
  /-- `generateRBACRoleForResource(groupName, resource, apiGroup, kind, namespace)`. -/
  generateRBACRoleForResource :
    String → String → String → String → String → Except String (Option Role)
  /-- `generateClusterRBACRoleBindingForResource(resource, groupName)`. -/
  generateClusterRBACRoleBindingForResource : String → String → Binding
  /-- `generateRBACRoleBindingForResource(resource, groupName, namespace)`. -/
  generateRBACRoleBindingForResource : String → String → String → Binding
  /-- `ensureClusterRBACRoleForNamedResource` for the project itself, on the master's
  roles. -/
  ensureClusterRBACRoleForNamedResource : String → RoleStore → Except GoError Unit × RoleStore
  /-- `ensureClusterRBACRoleBindingForNamedResource` for the project itself, on the
  master's bindings. -/
  ensureClusterRBACRoleBindingForNamedResource : String → Store → Except GoError Unit × Store

/-- An API server the controller writes to. -/
inductive Target
  | master
  | seed (name : String)
  deriving DecidableEq, Repr

/-- A patch of the stored project: the `Status().Patch` of its phase, or the patch
`kuberneteshelper.TryAddFinalizer` or `TryRemoveFinalizer` sends (modelled from the
spec). -/
inductive ProjectPatch
  | phase (phase : ProjectPhase)
  | addFinalizer (name : String)
  | removeFinalizer (name : String)
  deriving DecidableEq, Repr

/-- What a patch that went through does to the project. -/
def ProjectPatch.apply : ProjectPatch → Project → Project
  | .phase ph, p => { p with phase := some ph }
  | .addFinalizer n, p => { p with finalizers := Kubermatic.addFinalizer p.finalizers n }
  | .removeFinalizer n, p => { p with finalizers := Kubermatic.removeFinalizer p.finalizers [n] }

@[simp] theorem ProjectPatch.apply_name (patch : ProjectPatch) (p : Project) :
    (patch.apply p).name = p.name := by
  cases patch <;> rfl

/-- How the master answers the calls on the stored project it does not carry out: the
error of the `Get` of the project other than `NotFound`, and of a patch it refuses. By
default it carries out every call. -/
structure ProjectAnswers where
  getError : Option String := none
  patchError : ProjectPatch → Option String := fun _ => none

/-- What a sync reads and writes: the stored project, the API servers' bindings and
their roles, and how the master answers the calls on the project. -/
structure World where
  project : Project
  master : Store
  seed : String → Store
  roles : Target → RoleStore
  projectAnswers : ProjectAnswers := {}

def World.store (w : World) : Target → Store
  | .master => w.master
  | .seed n => w.seed n

def World.setStore (w : World) : Target → Store → World
  | .master, s => { w with master := s }
  | .seed n, s => { w with seed := Function.update w.seed n s }

def World.setRoles (w : World) (t : Target) (r : RoleStore) : World :=
  { w with roles := Function.update w.roles t r }

@[simp] theorem World.setStore_project (w : World) (t : Target) (s : Store) :
    (w.setStore t s).project = w.project := by
  cases t <;> rfl

@[simp] theorem World.setStore_projectAnswers (w : World) (t : Target) (s : Store) :
    (w.setStore t s).projectAnswers = w.projectAnswers := by
  cases t <;> rfl

/-- Storing back what a server stores changes nothing. -/
@[simp] theorem World.setStore_store (w : World) (t : Target) : w.setStore t (w.store t) = w := by
  cases t <;> simp [World.setStore, World.store]

@[simp] theorem World.setStore_roles (w : World) (t : Target) (s : Store) :
    (w.setStore t s).roles = w.roles := by
  cases t <;> rfl

@[simp] theorem World.store_setStore (w : World) (t : Target) (s : Store) :
    (w.setStore t s).store t = s := by
  cases t <;> simp [World.setStore, World.store]

theorem World.store_setStore_of_ne {t t' : Target} (h : t' ≠ t) (w : World) (s : Store) :
    (w.setStore t' s).store t = w.store t := by
  cases t <;> cases t' <;> simp_all [World.setStore, World.store, Function.update_noteq, Ne.symm]

@[simp] theorem World.setRoles_project (w : World) (t : Target) (r : RoleStore) :
    (w.setRoles t r).project = w.project := rfl

@[simp] theorem World.store_setRoles (w : World) (t t' : Target) (r : RoleStore) :
    (w.setRoles t r).store t' = w.store t' := by
  cases t' <;> rfl

@[simp] theorem World.roles_setRoles (w : World) (t : Target) (r : RoleStore) :
    (w.setRoles t r).roles t = r := by
  simp [World.setRoles]

/-- Editing the stored project leaves the servers alone. -/
@[simp] theorem World.store_withProject (w : World) (p : Project) (t : Target) :
    ({ w with project := p } : World).store t = w.store t := by
  cases t <;> rfl

/-- **The servers carry out every call**: every server every call on bindings, and the
master every call on the project. -/
structure World.Accepting (w : World) : Prop where
  stores : ∀ t, (w.store t).answers = {}
  project : w.projectAnswers = {}

/-- A sync: it edits the world and returns at the first error. -/
abbrev SyncM := ExceptT GoError (StateM World)

/-- A call on the bindings of the API server `t`. -/
def onTarget (t : Target) (f : Store → Except GoError Unit × Store) : SyncM Unit :=
  ExceptT.mk fun w => ((f (w.store t)).1, w.setStore t (f (w.store t)).2)

/-- A call on the roles of the API server `t`. -/
def onRoles (t : Target) (f : RoleStore → Except GoError Unit × RoleStore) : SyncM Unit :=
  ExceptT.mk fun w => ((f (w.roles t)).1, w.setRoles t (f (w.roles t)).2)

/-- `return err` of an error that is not an API error. -/
def throwMsg (e : String) : SyncM α := throw (.msg e)

/-- `fmt.Errorf(context + ": %w", err)` around the error `m` returns. -/
def wrapError (context : String) (m : SyncM Unit) : SyncM Unit :=
  ExceptT.mk ((fun r => r.mapError (.wrapped context)) <$> m.run)

/-! ## Runs of a sync -/

@[simp] theorem syncM_pure_run (a : α) (w : World) :
    (pure a : SyncM α).run.run w = (.ok a, w) := rfl

@[simp] theorem throwMsg_run (e : String) (w : World) :
    (throwMsg e : SyncM α).run.run w = (.error (.msg e), w) := rfl

@[simp] theorem syncM_get_run (w : World) : (get : SyncM World).run.run w = (.ok w, w) := rfl

@[simp] theorem syncM_modify_run (f : World → World) (w : World) :
    (modify f : SyncM Unit).run.run w = (.ok (), f w) := rfl

@[simp] theorem onTarget_run (t : Target) (f : Store → Except GoError Unit × Store) (w : World) :
    (onTarget t f).run.run w = ((f (w.store t)).1, w.setStore t (f (w.store t)).2) := rfl

@[simp] theorem onRoles_run (t : Target) (f : RoleStore → Except GoError Unit × RoleStore)
    (w : World) : (onRoles t f).run.run w = ((f (w.roles t)).1, w.setRoles t (f (w.roles t)).2) :=
  rfl

@[simp] theorem wrapError_run (context : String) (m : SyncM Unit) (w : World) :
    (wrapError context m).run.run w =
      (((m.run.run w).1).mapError (.wrapped context), (m.run.run w).2) := rfl

theorem syncM_run_bind_of_ok {m : SyncM α} {f : α → SyncM β} {w w₁ : World} {a : α}
    (h : m.run.run w = (.ok a, w₁)) : (m >>= f).run.run w = (f a).run.run w₁ := by
  simp only [ExceptT.run_bind, StateT.run_bind, h]
  rfl

theorem syncM_run_bind_of_error {m : SyncM α} {f : α → SyncM β} {w w₁ : World} {e : GoError}
    (h : m.run.run w = (.error e, w₁)) : (m >>= f).run.run w = (.error e, w₁) := by
  simp only [ExceptT.run_bind, StateT.run_bind, h]
  rfl

/-- `m` keeps `P` of the world, whatever it returns. -/
def Preserves (P : World → Prop) (m : SyncM α) : Prop :=
  ∀ w, P w → P (m.run.run w).2

/-- From every world where `P` holds, `m` returns an error. -/
def FailsFrom (P : World → Prop) (m : SyncM α) : Prop :=
  ∀ w, P w → ∃ e, (m.run.run w).1 = .error e

/-- From every world where `P` holds, `m` returns no error, and `P` still holds. -/
def SucceedsFrom (P : World → Prop) (m : SyncM Unit) : Prop :=
  ∀ w, P w → (m.run.run w).1 = .ok () ∧ P (m.run.run w).2

/-- Whenever `m` returns no error, `Q` holds of the world it leaves. -/
def Establishes (Q : World → Prop) (m : SyncM α) : Prop :=
  ∀ w a, (m.run.run w).1 = .ok a → Q (m.run.run w).2

namespace Preserves

variable {P : World → Prop}

theorem pure (a : α) : Preserves P (pure a : SyncM α) := fun _ h => h

theorem throwMsg (e : String) : Preserves P (throwMsg e : SyncM α) := fun _ h => h

theorem wrapError {m : SyncM Unit} (context : String) (hm : Preserves P m) :
    Preserves P (wrapError context m) := hm

theorem bind {m : SyncM α} {f : α → SyncM β} (hm : Preserves P m)
    (hf : ∀ a, Preserves P (f a)) : Preserves P (m >>= f) := by
  intro w hw
  have h₁ := hm w hw
  rcases h : m.run.run w with ⟨e | a, w₁⟩
  · rw [syncM_run_bind_of_error h]
    rwa [h] at h₁
  · rw [syncM_run_bind_of_ok h]
    exact hf a w₁ (by rwa [h] at h₁)

theorem forM {l : List β} {f : β → SyncM PUnit} (hf : ∀ b ∈ l, Preserves P (f b)) :
    Preserves P (l.forM f) := by
  induction l with
  | nil => exact .pure _
  | cons b l ih =>
    exact (hf b (List.mem_cons_self _ _)).bind fun _ => ih fun b' hb' => hf b' (List.mem_cons_of_mem _ hb')

/-- A `P` that a result of a run satisfies at its start, it satisfies at its end. -/
theorem of_run {m : SyncM α} (hm : Preserves P m) {w w' : World} {r : Except GoError α}
    (h : m.run.run w = (r, w')) (hw : P w) : P w' := by
  simpa [h] using hm w hw

/-- A call that does what `g` does or fails and leaves the server as it was keeps what
`g` keeps. -/
theorem onTarget_of_cases {t : Target} {f g : Store → Except GoError Unit × Store}
    (h : ∀ s, f s = g s ∨ ∃ e, f s = (.error e, s)) (hg : Preserves P (onTarget t g)) :
    Preserves P (onTarget t f) := by
  intro w hw
  rcases h (w.store t) with h | ⟨e, h⟩
  · simpa [h] using hg w hw
  · simpa [h] using hw

end Preserves

namespace FailsFrom

variable {P : World → Prop}

theorem wrapError {m : SyncM Unit} (context : String) (hm : FailsFrom P m) :
    FailsFrom P (wrapError context m) := by
  intro w hw
  obtain ⟨e, he⟩ := hm w hw
  exact ⟨.wrapped context e, by simp [he, Except.mapError]⟩

theorem bind_left {m : SyncM α} {f : α → SyncM β} (hm : FailsFrom P m) :
    FailsFrom P (m >>= f) := by
  intro w hw
  obtain ⟨e, he⟩ := hm w hw
  exact ⟨e, by rw [syncM_run_bind_of_error (Prod.ext he rfl)]⟩

theorem bind_right {m : SyncM α} {f : α → SyncM β} (hm : Preserves P m)
    (hf : ∀ a, FailsFrom P (f a)) : FailsFrom P (m >>= f) := by
  intro w hw
  have h₁ := hm w hw
  rcases h : m.run.run w with ⟨e | a, w₁⟩
  · exact ⟨e, by rw [syncM_run_bind_of_error h]⟩
  · rw [syncM_run_bind_of_ok h]
    exact hf a w₁ (by rwa [h] at h₁)

/-- A loop fails when one of its bodies fails and the bodies keep `P`. -/
theorem forM {l : List β} {f : β → SyncM PUnit} {b : β} (hb : b ∈ l)
    (hfb : FailsFrom P (f b)) (hf : ∀ b ∈ l, Preserves P (f b)) : FailsFrom P (l.forM f) := by
  induction l with
  | nil => cases hb
  | cons b' l ih =>
    rcases List.mem_cons.mp hb with rfl | hb
    · exact hfb.bind_left
    · exact bind_right (hf b' (List.mem_cons_self _ _)) fun _ =>
        ih hb fun b'' hb'' => hf b'' (List.mem_cons_of_mem _ hb'')

end FailsFrom

namespace SucceedsFrom

variable {P : World → Prop}

theorem pure : SucceedsFrom P (pure () : SyncM Unit) := fun _ h => ⟨rfl, h⟩

theorem of_preserves {m : SyncM Unit} (hok : ∀ w, (m.run.run w).1 = .ok ()) (hm : Preserves P m) :
    SucceedsFrom P m := fun w hw => ⟨hok w, hm w hw⟩

theorem wrapError {m : SyncM Unit} (context : String) (hm : SucceedsFrom P m) :
    SucceedsFrom P (wrapError context m) := by
  intro w hw
  obtain ⟨hok, hP⟩ := hm w hw
  exact ⟨by simp [hok, Except.mapError], hP⟩

theorem bind {m : SyncM Unit} {f : Unit → SyncM Unit} (hm : SucceedsFrom P m)
    (hf : ∀ a, SucceedsFrom P (f a)) : SucceedsFrom P (m >>= f) := by
  intro w hw
  obtain ⟨hok, hP⟩ := hm w hw
  rw [syncM_run_bind_of_ok (Prod.ext hok rfl)]
  exact hf () _ hP

theorem forM {l : List β} {f : β → SyncM PUnit} (hf : ∀ b ∈ l, SucceedsFrom P (f b)) :
    SucceedsFrom P (l.forM f) := by
  induction l with
  | nil => exact pure
  | cons b l ih =>
    exact (hf b (List.mem_cons_self _ _)).bind fun _ =>
      ih fun b' hb' => hf b' (List.mem_cons_of_mem _ hb')

end SucceedsFrom

namespace Establishes

variable {Q : World → Prop}

theorem wrapError {m : SyncM Unit} (context : String) (hm : Establishes Q m) :
    Establishes Q (wrapError context m) := by
  intro w a hok
  cases h : (m.run.run w).1 with
  | error e => simp [h, Except.mapError] at hok
  | ok a' => exact hm w a' h

theorem bind_left {m : SyncM α} {f : α → SyncM β} (hm : Establishes Q m)
    (hf : ∀ a, Preserves Q (f a)) : Establishes Q (m >>= f) := by
  intro w b hok
  rcases h : m.run.run w with ⟨e | a, w₁⟩
  · rw [syncM_run_bind_of_error h] at hok ⊢
    cases hok
  · rw [syncM_run_bind_of_ok h] at hok ⊢
    exact hf a w₁ (by simpa [h] using hm w a (by rw [h]))

theorem bind_right {m : SyncM α} {f : α → SyncM β} (hf : ∀ a, Establishes Q (f a)) :
    Establishes Q (m >>= f) := by
  intro w b hok
  rcases h : m.run.run w with ⟨e | a, w₁⟩
  · rw [syncM_run_bind_of_error h] at hok
    cases hok
  · rw [syncM_run_bind_of_ok h] at hok ⊢
    exact hf a w₁ b hok

/-- A call that does what `g` does or fails establishes what `g` establishes. -/
theorem onTarget_of_cases {t : Target} {f g : Store → Except GoError Unit × Store}
    (h : ∀ s, f s = g s ∨ ∃ e, f s = (.error e, s)) (hg : Establishes Q (onTarget t g)) :
    Establishes Q (onTarget t f) := by
  intro w a hok
  rcases h (w.store t) with h | ⟨e, h⟩
  · simp only [onTarget_run, h] at hok ⊢
    exact hg w a (by simpa using hok)
  · simp [h] at hok

/-- A loop that succeeds establishes what one of its bodies does, when the bodies after
it keep it. -/
theorem forM_append (l₁ l₂ : List β) {f : β → SyncM PUnit} {b : β} (hb : Establishes Q (f b))
    (hl₂ : ∀ b ∈ l₂, Preserves Q (f b)) : Establishes Q ((l₁ ++ b :: l₂).forM f) := by
  rw [List.forM_append]
  exact bind_right fun _ => hb.bind_left fun _ => .forM hl₂

end Establishes

/-! ## The code -/

/-- Which of the two kinds of loops over the project resources: those over the
cluster-scoped resources and their ClusterRoles and ClusterRoleBindings, or those over
the namespaced ones and their Roles and RoleBindings. -/
inductive Scope
  | cluster | namespaced
  deriving DecidableEq, Repr

/-- Whether the loops of a scope visit a resource: the cluster-scoped loops skip it by
`if len(projectResource.namespace) > 0 { continue }`, the namespaced ones by
`if len(projectResource.namespace) == 0 { continue }`. -/
def Scope.visits : Scope → ProjectResource → Bool
  | .cluster, pr => !decide (pr.ns.length > 0)
  | .namespaced, pr => !decide (pr.ns.length = 0)

/-- The answer of both `shouldSkip…RoleBindingFor` functions for what the role generator
returned: skip the binding when no role is generated, and return the generator's
error. -/
def shouldSkipFor (generated : Except String (Option Role)) : Bool × Option String :=
  match generated with
  | .error e => (false, some e)
  | .ok none => (true, none)
  | .ok (some _) => (false, none)

section Code

variable (c : ProjectController)

/-- `shouldSkipClusterRBACRoleBindingFor`. -/
def shouldSkipClusterRBACRoleBindingFor (groupName policyResource policyAPIGroups _projectName
    kind : String) : Bool × Option String :=
  shouldSkipFor (c.generateClusterRBACRoleForResource groupName policyResource policyAPIGroups kind)

/-- `shouldSkipRBACRoleBindingFor`. -/
def shouldSkipRBACRoleBindingFor (groupName policyResource policyAPIGroups _projectName kind
    ns : String) : Bool × Option String :=
  shouldSkipFor (c.generateRBACRoleForResource groupName policyResource policyAPIGroups kind ns)

/-- A patch of the stored project: refused, the master's error is returned; accepted, it
is stored. -/
def patchProject (patch : ProjectPatch) : SyncM Unit := do
  match (← get).projectAnswers.patchError patch with
  | some e => throwMsg e
  | none => modify fun w => { w with project := patch.apply w.project }

/-- `ensureProjectPhase`: the status patch, sent when the phase differs. -/
def ensureProjectPhase (phase : ProjectPhase) : SyncM Unit := do
  if (← get).project.phase ≠ some phase then patchProject (.phase phase) else pure ()

/-- A call on every server of a destination: the master, or each seed of
`seedClientMap` in turn. -/
def onDestination (d : Destination) (call : Target → SyncM Unit) : SyncM Unit :=
  match d with
  | .seed => c.seeds.forM fun seed => call (.seed seed)
  | .master => call .master

/-- The `shouldSkip…RoleBindingFor` check the binding loops of a scope make for a group
and a resource of `pr`. -/
def shouldSkipBindingFor (projectName : String) :
    Scope → String → String → ProjectResource → Bool × Option String
  | .cluster, groupName, resource, pr =>
    shouldSkipClusterRBACRoleBindingFor c groupName resource c.schemeGroup projectName pr.kind
  | .namespaced, groupName, resource, pr =>
    shouldSkipRBACRoleBindingFor c groupName resource c.schemeGroup projectName pr.kind pr.ns

/-- The binding the calls of a scope generate for a group and a resource of `pr`. -/
def generatedBinding : Scope → String → String → ProjectResource → Binding
  | .cluster, groupName, resource, _ =>
    c.generateClusterRBACRoleBindingForResource resource groupName
  | .namespaced, groupName, resource, pr =>
    c.generateRBACRoleBindingForResource resource groupName pr.ns

/-- The call a sync makes on a group's binding: `ensureClusterRBACRoleBindingForResource`
or `ensureRBACRoleBindingForResource`. -/
def ensureBindingCall :
    Scope → String → String → ProjectResource → Store → Except GoError Unit × Store
  | .cluster, groupName, resource, _ =>
    ensureClusterRBACRoleBindingForResource c.generateClusterRBACRoleBindingForResource
      groupName resource
  | .namespaced, groupName, resource, pr =>
    ensureRBACRoleBindingForResource c.generateRBACRoleBindingForResource groupName resource
      pr.ns

/-- The call a deletion makes on a group's binding: `cleanUpClusterRBACRoleBindingFor`
or `cleanUpRBACRoleBindingFor`. -/
def cleanUpBindingCall :
    Scope → String → String → ProjectResource → Store → Except GoError Unit × Store
  | .cluster, groupName, resource, _ =>
    cleanUpClusterRBACRoleBindingFor c.generateClusterRBACRoleBindingForResource groupName
      resource
  | .namespaced, groupName, resource, pr =>
    cleanUpRBACRoleBindingFor c.generateRBACRoleBindingForResource groupName resource pr.ns

/-- The key `ensureBindingCall` reads and writes: the generated binding's name, and for
a RoleBinding the generated binding's namespace. -/
def ensureKey : Scope → String → String → ProjectResource → BindingKey
  | .cluster, groupName, resource, pr =>
    { name := (generatedBinding c .cluster groupName resource pr).name }
  | .namespaced, groupName, resource, pr =>
    { ns := (generatedBinding c .namespaced groupName resource pr).ns,
      name := (generatedBinding c .namespaced groupName resource pr).name }

/-- The key `cleanUpBindingCall` reads and writes: for a RoleBinding, under the
resource's namespace. -/
def cleanUpKey : Scope → String → String → ProjectResource → BindingKey
  | .cluster, groupName, resource, pr =>
    { name := (generatedBinding c .cluster groupName resource pr).name }
  | .namespaced, groupName, resource, pr =>
    { ns := pr.ns, name := (generatedBinding c .namespaced groupName resource pr).name }

/-- One group of a binding loop, once `shouldSkip…RoleBindingFor` has answered `skip`:
skip the group, return the error, or make the call on every server of the resource's
destination. -/
def forGroup (skip : Bool × Option String) (d : Destination) (call : Target → SyncM Unit) :
    SyncM Unit :=
  match skip with
  | (true, _) => pure ()
  | (false, some e) => throwMsg e
  | (false, none) => onDestination c d call

/-- The body of a binding loop of scope `s` for the project `projectName`: the bindings
of one project resource. -/
def bindingsOf (s : Scope) (projectName : String)
    (call : String → String → ProjectResource → Store → Except GoError Unit × Store)
    (pr : ProjectResource) : SyncM Unit :=
  if s.visits pr then
    match c.restMapping pr with
    | .error e => throwMsg e
    | .ok gvr => c.allGroupsPrefixes.forM fun groupPrefix =>
      let groupName := c.generateActualGroupNameFor projectName groupPrefix
      forGroup c (shouldSkipBindingFor c projectName s groupName gvr.resource pr) pr.destination
        fun t => onTarget t (call groupName gvr.resource pr)
  else pure ()

/-- **The binding loops** `ensureClusterRBACRoleBindingForResources`,
`ensureRBACRoleBindingForResources` and the two loops of `ensureProjectCleanup`, with the
call they make on a group's binding as a parameter. -/
def forBindings (s : Scope) (projectName : String)
    (call : String → String → ProjectResource → Store → Except GoError Unit × Store) :
    SyncM Unit :=
  c.projectResources.forM (bindingsOf c s projectName call)

end Code

/-! ## The patches of the project -/

section Patches

variable {P : World → Prop} (patch : ProjectPatch) (phase : ProjectPhase) (w : World)

theorem patchProject_run : (patchProject patch).run.run w =
    match w.projectAnswers.patchError patch with
    | some e => (.error (.msg e), w)
    | none => (.ok (), { w with project := patch.apply w.project }) := by
  rw [patchProject, syncM_run_bind_of_ok (syncM_get_run w)]
  cases w.projectAnswers.patchError patch <;> rfl

/-- A patch either goes through or fails and leaves the world as it was. -/
theorem patchProject_cases :
    (patchProject patch).run.run w = (.ok (), { w with project := patch.apply w.project }) ∨
      ∃ e, (patchProject patch).run.run w = (.error e, w) := by
  rw [patchProject_run]
  cases w.projectAnswers.patchError patch
  · exact .inl rfl
  · exact .inr ⟨_, rfl⟩

/-- What `ensureProjectPhase` can do: set the phase, find it set, or fail and leave the
world as it was. -/
theorem ensureProjectPhase_cases :
    (ensureProjectPhase phase).run.run w =
        (.ok (), { w with project := (ProjectPatch.phase phase).apply w.project }) ∨
      (w.project.phase = some phase ∧ (ensureProjectPhase phase).run.run w = (.ok (), w)) ∨
      ∃ e, (ensureProjectPhase phase).run.run w = (.error e, w) := by
  rw [ensureProjectPhase, syncM_run_bind_of_ok (syncM_get_run w)]
  split
  · rcases patchProject_cases (.phase phase) w with h | h
    · exact .inl h
    · exact .inr (.inr h)
  · exact .inr (.inl ⟨not_not.mp ‹_›, rfl⟩)

/-- On a master that carries out the patch, `ensureProjectPhase` returns no error. -/
theorem ensureProjectPhase_ok (h : w.projectAnswers.patchError (.phase phase) = none) :
    ((ensureProjectPhase phase).run.run w).1 = .ok () := by
  rw [ensureProjectPhase, syncM_run_bind_of_ok (syncM_get_run w)]
  split
  · simp [patchProject_run, h]
  · rfl

variable {patch phase}

theorem Preserves.patchProject (h : ∀ w, P w → P { w with project := patch.apply w.project }) :
    Preserves P (patchProject patch) := fun w hw => by
  rcases patchProject_cases patch w with h' | ⟨e, h'⟩ <;> simp only [h']
  exacts [h w hw, hw]

theorem Preserves.ensureProjectPhase
    (h : ∀ w, P w → P { w with project := (ProjectPatch.phase phase).apply w.project }) :
    Preserves P (ensureProjectPhase phase) := fun w hw => by
  rcases ensureProjectPhase_cases phase w with h' | ⟨-, h'⟩ | ⟨e, h'⟩ <;> simp only [h']
  exacts [h w hw, hw, hw]

theorem establishes_ensureProjectPhase :
    Establishes (fun w => w.project.phase = some phase) (ensureProjectPhase phase) := by
  intro w _ hok
  rcases ensureProjectPhase_cases phase w with h | ⟨hset, h⟩ | ⟨e, h⟩ <;> rw [h] at hok ⊢
  · rfl
  · exact hset
  · cases hok

end Patches

/-! ## A loop as the list of its steps -/

/-- A step of a binding loop once its checks are made: return an error, or make the call
for a group and a resource of a project resource on a server. -/
inductive LoopStep
  | fail (e : String)
  | call (t : Target) (groupName resource : String) (pr : ProjectResource)

/-- The step's run, for the loop's call. -/
def LoopStep.run (call : String → String → ProjectResource → Store → Except GoError Unit × Store) :
    LoopStep → SyncM Unit
  | .fail e => throwMsg e
  | .call t groupName resource pr => onTarget t (call groupName resource pr)

section Steps

variable (c : ProjectController)

/-- The servers a call after destination `d` goes to. -/
def targets : Destination → List Target
  | .master => [.master]
  | .seed => c.seeds.map .seed

/-- The steps of `forGroup`. -/
def groupSteps (skip : Bool × Option String) (d : Destination) (step : Target → LoopStep) :
    List LoopStep :=
  match skip with
  | (true, _) => []
  | (false, some e) => [.fail e]
  | (false, none) => (targets c d).map step

/-- The steps of `bindingsOf`. -/
def bindingSteps (s : Scope) (projectName : String) (pr : ProjectResource) : List LoopStep :=
  if s.visits pr then
    match c.restMapping pr with
    | .error e => [.fail e]
    | .ok gvr => c.allGroupsPrefixes.flatMap fun groupPrefix =>
      let groupName := c.generateActualGroupNameFor projectName groupPrefix
      groupSteps c (shouldSkipBindingFor c projectName s groupName gvr.resource pr) pr.destination
        fun t => .call t groupName gvr.resource pr
  else []

/-- The steps of the binding loops of scope `s` for the project `projectName`, in
order. -/
def loopSteps (s : Scope) (projectName : String) : List LoopStep :=
  c.projectResources.flatMap (bindingSteps c s projectName)

theorem forM_map {m : Type → Type} [Monad m] [LawfulMonad m] (l : List α) (g : α → β)
    (f : β → m PUnit) : (l.map g).forM f = l.forM (f ∘ g) := by
  induction l <;> simp [*]

theorem forM_flatMap {m : Type → Type} [Monad m] [LawfulMonad m] (l : List α)
    (g : α → List β) (f : β → m PUnit) : (l.flatMap g).forM f = l.forM fun a => (g a).forM f := by
  induction l <;> simp [*]

theorem onDestination_eq (d : Destination) (call : Target → SyncM Unit) :
    onDestination c d call = (targets c d).forM call := by
  cases d <;> simp only [onDestination, targets, forM_map, Function.comp_def, List.forM_cons',
    List.forM_nil', bind_pure_comp, id_map']

variable {c} (call : String → String → ProjectResource → Store → Except GoError Unit × Store)

theorem forGroup_eq (skip : Bool × Option String) (d : Destination) (step : Target → LoopStep) :
    forGroup c skip d (fun t => (step t).run call) = (groupSteps c skip d step).forM (LoopStep.run call) := by
  rcases skip with ⟨_ | _, _ | e⟩ <;>
    simp only [forGroup, groupSteps, onDestination_eq, forM_map, Function.comp_def, LoopStep.run,
      List.forM_cons', List.forM_nil', bind_pure_comp, id_map']

theorem bindingsOf_eq (s : Scope) (projectName : String) (pr : ProjectResource) :
    bindingsOf c s projectName call pr = (bindingSteps c s projectName pr).forM (LoopStep.run call) := by
  unfold bindingsOf bindingSteps
  split
  · split
    · simp only [List.forM_cons', LoopStep.run, List.forM_nil', bind_pure_comp, id_map']
    · rw [forM_flatMap]
      exact congrArg _ (funext fun _ => forGroup_eq call _ _ fun t => .call t _ _ pr)
  · rfl

/-- **A binding loop is the list of its steps**, run one after the other until the first
error. -/
theorem forBindings_eq (s : Scope) (projectName : String) :
    forBindings c s projectName call = (loopSteps c s projectName).forM (LoopStep.run call) := by
  rw [loopSteps, forM_flatMap]
  exact congrArg _ (funext (bindingsOf_eq call s projectName))

end Steps

/-! ## What a loop keeps, when it fails and when it succeeds -/

section Loops

variable {c : ProjectController} {call : String → String → ProjectResource → Store → Except GoError Unit × Store}
  {s : Scope} {projectName : String} {P : World → Prop}

theorem preserves_forBindings (h : ∀ t groupName resource pr, Preserves P (onTarget t (call groupName resource pr))) :
    Preserves P (forBindings c s projectName call) := by
  rw [forBindings_eq]
  exact .forM fun
    | .fail _, _ => .throwMsg _
    | .call .., _ => h _ _ _ _

theorem failsFrom_forBindings {t : Target} {groupName resource : String} {pr : ProjectResource}
    (hstep : .call t groupName resource pr ∈ loopSteps c s projectName)
    (hfail : FailsFrom P (onTarget t (call groupName resource pr)))
    (h : ∀ t groupName resource pr, Preserves P (onTarget t (call groupName resource pr))) :
    FailsFrom P (forBindings c s projectName call) := by
  rw [forBindings_eq]
  exact .forM hstep hfail fun
    | .fail _, _ => .throwMsg _
    | .call .., _ => h _ _ _ _

/-- A loop with an error step fails from every world: its REST mappings and its
`shouldSkip…` checks do not depend on the servers. -/
theorem failsFrom_forBindings_of_fail {e : String} (he : .fail e ∈ loopSteps c s projectName) :
    FailsFrom (fun _ => True) (forBindings c s projectName call) := by
  rw [forBindings_eq]
  exact .forM he (fun _ _ => ⟨_, rfl⟩) fun _ _ _ h => h

theorem succeedsFrom_forBindings (hfail : ∀ e, .fail e ∉ loopSteps c s projectName)
    (hcall : ∀ t groupName resource pr, .call t groupName resource pr ∈ loopSteps c s projectName →
      SucceedsFrom P (onTarget t (call groupName resource pr))) :
    SucceedsFrom P (forBindings c s projectName call) := by
  rw [forBindings_eq]
  exact .forM fun
    | .fail e, he => absurd he (hfail e)
    | .call .., h => hcall _ _ _ _ h

theorem establishes_forBindings {t : Target} {groupName resource : String} {pr : ProjectResource}
    (hstep : .call t groupName resource pr ∈ loopSteps c s projectName)
    (hest : Establishes P (onTarget t (call groupName resource pr)))
    (h : ∀ t groupName resource pr, Preserves P (onTarget t (call groupName resource pr))) :
    Establishes P (forBindings c s projectName call) := by
  rw [forBindings_eq]
  obtain ⟨l₁, l₂, hl⟩ := List.append_of_mem hstep
  rw [hl]
  exact .forM_append l₁ l₂ hest fun
    | .fail _, _ => .throwMsg _
    | .call .., _ => h _ _ _ _

end Loops

/-! ## The calls on a group's binding -/

section Calls

variable (c : ProjectController) (s : Scope) (groupName resource : String) (pr : ProjectResource)

theorem ensureBindingCall_eq : ensureBindingCall c s groupName resource pr =
    tryEnsureBinding (ensureKey c s groupName resource pr) (generatedBinding c s groupName resource pr).subjects := by
  cases s <;> rfl

theorem cleanUpBindingCall_eq : cleanUpBindingCall c s groupName resource pr =
    tryCleanUpBinding (cleanUpKey c s groupName resource pr) (generatedBinding c s groupName resource pr).subjects := by
  cases s <;> rfl

/-- The cleanup reads the binding the sync writes as long as the generator puts a
RoleBinding in the namespace it is asked for. -/
theorem cleanUpKey_eq_ensureKey
    (hns : ∀ resource groupName ns, (c.generateRBACRoleBindingForResource resource groupName ns).ns = ns) :
    cleanUpKey c s groupName resource pr = ensureKey c s groupName resource pr := by
  cases s
  · rfl
  · simp [cleanUpKey, ensureKey, generatedBinding, hns]

end Calls

/-- `ensureBinding` never fails, and leaves the binding under its key with every generated
subject. -/
theorem ensureBinding_run (key : BindingKey) (generated : List Subject) (s : Store) :
    (ensureBinding key generated s).1 = .ok () ∧
      ∃ stored, (ensureBinding key generated s).2.bindings key = some stored ∧
        ∀ x ∈ generated, x ∈ stored := by
  unfold ensureBinding
  split
  · exact ⟨rfl, generated, by simp [Store.write]⟩
  · rename_i existing _
    split
    · rename_i hlen
      refine ⟨rfl, existing, by assumption, fun x hx => ?_⟩
      by_contra hmissing
      have : x ∈ subjectsToAdd existing generated := mem_subjectsToAdd.mpr ⟨hx, hmissing⟩
      simp_all [List.length_eq_zero]
    · refine ⟨rfl, existing ++ subjectsToAdd existing generated, by simp, fun x hx => ?_⟩
      by_cases hmem : x ∈ existing <;> simp [hmem, hx]

/-- `ensureBinding` only adds: a stored binding keeps its subjects. -/
theorem ensureBinding_keeps {key k : BindingKey} {generated : List Subject} {s : Store}
    {stored : List Subject} (h : s.bindings k = some stored) :
    ∃ stored', (ensureBinding key generated s).2.bindings k = some stored' ∧ stored ⊆ stored' := by
  unfold ensureBinding
  by_cases hk : k = key
  · subst hk
    simp only [h]
    split
    · exact ⟨stored, h, List.Subset.refl _⟩
    · exact ⟨stored ++ subjectsToAdd stored generated, by simp, List.subset_append_left _ _⟩
  · split
    · exact ⟨stored, by simp [Store.write, Function.update_noteq hk, h], List.Subset.refl _⟩
    · split
      · exact ⟨stored, h, List.Subset.refl _⟩
      · exact ⟨stored, by simp [Function.update_noteq hk, h], List.Subset.refl _⟩

/-- `ensureBinding` never removes a binding. -/
theorem ensureBinding_bindings_ne_none {key k : BindingKey} {generated : List Subject} {s : Store}
    (h : s.bindings k ≠ none) : (ensureBinding key generated s).2.bindings k ≠ none := by
  obtain ⟨stored, hstored⟩ := Option.ne_none_iff_exists'.mp h
  obtain ⟨stored', h', -⟩ := @ensureBinding_keeps key k generated s stored hstored
  simp [h']

/-- `cleanUpBinding` never removes a binding: a stored one stays stored. -/
theorem cleanUpBinding_bindings_ne_none {key k : BindingKey} {generated : List Subject} {s : Store}
    (h : s.bindings k ≠ none) : (cleanUpBinding key generated s).2.bindings k ≠ none := by
  unfold cleanUpBinding
  split
  · exact h
  · by_cases hk : k = key
    · simp [hk]
    · simpa [Function.update_noteq hk] using h

/-- `cleanUpBinding` succeeds on a stored binding. -/
theorem cleanUpBinding_run_of_ne_none {key : BindingKey} {generated : List Subject} {s : Store}
    (h : s.bindings key ≠ none) : (cleanUpBinding key generated s).1 = .ok () := by
  unfold cleanUpBinding
  split
  · contradiction
  · rfl

end Kubermatic.RBAC
