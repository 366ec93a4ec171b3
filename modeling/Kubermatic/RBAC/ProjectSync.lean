import Mathlib.Logic.Relation
import Kubermatic.RBAC.ProjectCleanup

/-!
# Syncing a project, and deleting it again

`projectController.sync` reads the stored project and reconciles it. For a project that
is being deleted it runs `ensureProjectCleanup`; for any other it makes nine calls, each of
whose errors it wraps in its own context and returns: it sets the initial phase, adds
`CleanupFinalizerName`, ensures the project's own ClusterRole and ClusterRoleBinding, then
the ClusterRoles and ClusterRoleBindings of the cluster-scoped project resources and the
Roles and RoleBindings of the namespaced ones, and last sets the phase to active.

A sync that returns no error leaves the project `Synced`: it carries the finalizer, it is
active, and every binding the sync's loops visit holds the subjects of the project's
groups (`sync_synced`). That is what the cleanup needs. No step of the controller ever
deletes a binding, whichever of its calls fail (`preserves_sync`), so once a sync of the
project succeeded, its deletion goes through on the next reconcile that the servers answer
and in which the REST mapper answers as it did then, however many reconciles of this and
other projects, failed calls and changed answers come in between
(`sync_deletes_synced_project`) – unlike the deletion of a project whose first sync failed
half-way, which `ensureProjectCleanup_fails_on_missing_binding` shows stuck.

Two assumptions on code outside the sources are hypotheses of that theorem: the
generator of RoleBindings puts them in the namespace it is asked for (the sync reads a
RoleBinding under the generated namespace, the cleanup under the resource's), and the
ensure function of the project's own ClusterRoleBinding deletes no binding.
-/

namespace Kubermatic.RBAC

/-! ## The code -/

/-- The `Get` of the stored project `sync` starts with: the project, or the master's
error. -/
def getProject : SyncM Project := do
  match (← get).projectAnswers.getError with
  | some e => throwMsg e
  | none => return (← get).project

/-- Modelled from the spec: `kuberneteshelper.TryAddFinalizer` on the stored project, the
finalizer added to a copy and a patch sent when that changed the list. -/
def tryAddFinalizer (name : String) : SyncM Unit := do
  if hasFinalizer (← get).project.finalizers name then pure ()
  else patchProject (.addFinalizer name)

/-- `ensureCleanupFinalizerExists`. -/
def ensureCleanupFinalizerExists : SyncM Unit :=
  tryAddFinalizer CleanupFinalizerName

/-- A `Create` or an `Update` of the role under `key`: carried out, or refused with the
server's error. -/
def RoleStore.tryWrite (roles : RoleStore) (key : BindingKey) (rules : List PolicyRule) :
    Except GoError Unit × RoleStore :=
  match roles.writeError key with
  | some e => (.error (.msg e), roles)
  | none => (.ok (), { roles with rules := Function.update roles.rules key (some rules) })

/-- The body of `ensureClusterRBACRoleForResource` and `ensureRBACRoleForResource` after
the generator, on the role stored under `key`: the `NotFound` of the `Get` of a missing
role is answered by the `Create` of the generated one, and another error of the `Get` is
returned; an existing role whose rules differ gets the generated rules by an `Update`. -/
def ensureRole (key : BindingKey) (rules : List PolicyRule) (roles : RoleStore) :
    Except GoError Unit × RoleStore :=
  match roles.getError key, roles.rules key with
  | some e, _ => (.error (.msg e), roles)
  | none, none => roles.tryWrite key rules
  | none, some existing => if existing = rules then (.ok (), roles) else roles.tryWrite key rules

/-- The two `ensure…RoleForResource` functions, for what the generator returned and the
key the role is read under: the generator's error, nothing when no role is generated, or
`ensureRole` on the server. -/
def ensureGeneratedRole (generated : Except String (Option Role)) (key : Role → BindingKey)
    (t : Target) : SyncM Unit :=
  match generated with
  | .error e => throwMsg e
  | .ok none => pure ()
  | .ok (some role) => onRoles t (ensureRole (key role) role.rules)

section Code

variable (c : ProjectController)

/-- `ensureClusterRBACRoleForResource`: the ClusterRole is read under its name. -/
def ensureClusterRBACRoleForResource (groupName resource kind : String) (t : Target) :
    SyncM Unit :=
  ensureGeneratedRole (c.generateClusterRBACRoleForResource groupName resource c.schemeGroup kind)
    (fun role => { name := role.name }) t

/-- `ensureRBACRoleForResource`: the Role is read under its namespace and name, and is
generated for the API group of the REST mapping. -/
def ensureRBACRoleForResource (groupName : String) (gvr : GroupVersionResource)
    (kind ns : String) (t : Target) : SyncM Unit :=
  ensureGeneratedRole (c.generateRBACRoleForResource groupName gvr.resource gvr.group kind ns)
    (fun role => { ns := role.ns, name := role.name }) t

/-- The role loops `ensureClusterRBACRoleForResources` and `ensureRBACRoleForResources`:
unlike the binding loops, they make their call for the group prefix itself, with no check
before it. -/
def forRoles (s : Scope)
    (call : String → GroupVersionResource → ProjectResource → Target → SyncM Unit) : SyncM Unit :=
  c.projectResources.forM fun pr =>
    if s.visits pr then
      match c.restMapping pr with
      | .error e => throwMsg e
      | .ok gvr => c.allGroupsPrefixes.forM fun groupPrefix =>
        onDestination c pr.destination (call groupPrefix gvr pr)
    else pure ()

/-- `ensureClusterRBACRoleForResources`. -/
def ensureClusterRBACRoleForResources : SyncM Unit :=
  forRoles c .cluster fun groupPrefix gvr pr =>
    ensureClusterRBACRoleForResource c groupPrefix gvr.resource pr.kind

/-- `ensureRBACRoleForResources`. -/
def ensureRBACRoleForResources : SyncM Unit :=
  forRoles c .namespaced fun groupPrefix gvr pr =>
    ensureRBACRoleForResource c groupPrefix gvr pr.kind pr.ns

/-- `ensureClusterRBACRoleBindingForResources`. -/
def ensureClusterRBACRoleBindingForResources (projectName : String) : SyncM Unit :=
  forBindings c .cluster projectName (ensureBindingCall c .cluster)

/-- `ensureRBACRoleBindingForResources`. -/
def ensureRBACRoleBindingForResources (projectName : String) : SyncM Unit :=
  forBindings c .namespaced projectName (ensureBindingCall c .namespaced)

/-- The calls `sync` makes for a project that is not being deleted, each under the
context its error is wrapped in, in the order of the source. -/
def syncCalls (project : Project) : List (SyncM Unit) :=
  [if project.phase = none then
      wrapError "failed to set initial project phase" (ensureProjectPhase .inactive)
    else pure (),
   wrapError "failed to ensure that the cleanup finalizer exists on the project"
     ensureCleanupFinalizerExists,
   wrapError "failed to ensure that the RBAC Role for the project exists"
     (onRoles .master (c.ensureClusterRBACRoleForNamedResource project.name)),
   wrapError "failed to ensure that the RBAC RoleBinding for the project exists"
     (onTarget .master (c.ensureClusterRBACRoleBindingForNamedResource project.name)),
   wrapError "failed to ensure that the RBAC ClusterRoles for the project\x27s resources exists"
     (ensureClusterRBACRoleForResources c),
   wrapError
     "failed to ensure that the RBAC ClusterRoleBindings for the project\x27s resources exists"
     (ensureClusterRBACRoleBindingForResources c project.name),
   wrapError "failed to ensure that the RBAC Roles for the project\x27s resources exists"
     (ensureRBACRoleForResources c),
   wrapError "failed to ensure that the RBAC RolesBindings for the project\x27s resources exists"
     (ensureRBACRoleBindingForResources c project.name),
   wrapError "failed to set project phase to active" (ensureProjectPhase .active)]

/-- **`projectController.sync`** of the stored project: after its `Get`, the cleanup of a
project being deleted, and the calls of `syncCalls` one after the other, until the first
error, for any other. -/
def sync : SyncM Unit := do
  let project ← getProject
  if project.deletionTimestamp then
    wrapError "failed to cleanup project" (ensureProjectCleanup c project)
  else
    (syncCalls c project).forM id

theorem getProject_run (w : World) : getProject.run.run w =
    match w.projectAnswers.getError with
    | some e => (.error (.msg e), w)
    | none => (.ok w.project, w) := by
  rw [getProject, syncM_run_bind_of_ok (syncM_get_run w)]
  cases w.projectAnswers.getError <;> rfl

theorem sync_run_of_getError {w : World} {e : String} (h : w.projectAnswers.getError = some e) :
    (sync c).run.run w = (.error (.msg e), w) := by
  rw [sync, syncM_run_bind_of_error (by rw [getProject_run, h])]

theorem sync_run_of_live {w : World} (hget : w.projectAnswers.getError = none)
    (h : w.project.deletionTimestamp = false) :
    (sync c).run.run w = ((syncCalls c w.project).forM id).run.run w := by
  rw [sync, syncM_run_bind_of_ok (by rw [getProject_run, hget])]
  simp only [h, Bool.false_eq_true, ite_false]

theorem sync_run_of_deleting {w : World} (hget : w.projectAnswers.getError = none)
    (h : w.project.deletionTimestamp = true) :
    (sync c).run.run w =
      (wrapError "failed to cleanup project" (ensureProjectCleanup c w.project)).run.run w := by
  rw [sync, syncM_run_bind_of_ok (by rw [getProject_run, hget])]
  simp only [h, ite_true]

theorem getError_eq_none_of_sync_ok {w : World} (hok : ((sync c).run.run w).1 = .ok ()) :
    w.projectAnswers.getError = none := by
  cases hget : w.projectAnswers.getError with
  | none => rfl
  | some e => rw [sync_run_of_getError c hget] at hok; cases hok

end Code

/-- What `tryAddFinalizer` can do: find the finalizer there, add it, or fail and leave the
world as it was. -/
theorem tryAddFinalizer_cases (name : String) (w : World) :
    (name ∈ w.project.finalizers ∧ (tryAddFinalizer name).run.run w = (.ok (), w)) ∨
      (tryAddFinalizer name).run.run w =
        (.ok (), { w with project := (ProjectPatch.addFinalizer name).apply w.project }) ∨
      ∃ e, (tryAddFinalizer name).run.run w = (.error e, w) := by
  rw [tryAddFinalizer, syncM_run_bind_of_ok (syncM_get_run w)]
  split
  · rename_i h
    exact .inl ⟨by simpa using h, rfl⟩
  · exact .inr (patchProject_cases _ w)

/-! ## What the calls of a sync keep -/

theorem Preserves.tryAddFinalizer {P : World → Prop} {name : String}
    (h : ∀ w, P w → P { w with project := (ProjectPatch.addFinalizer name).apply w.project }) :
    Preserves P (tryAddFinalizer name) := fun w hw => by
  rcases tryAddFinalizer_cases name w with ⟨-, h'⟩ | h' | ⟨e, h'⟩ <;> simp only [h']
  exacts [hw, h w hw, hw]

theorem Preserves.getProject {P : World → Prop} : Preserves P getProject := fun w hw => by
  rw [getProject_run]
  cases w.projectAnswers.getError <;> exact hw

section Keeps

variable {c : ProjectController} {P : World → Prop}
  (hroles : ∀ w t r, P w → P (w.setRoles t r))
include hroles

theorem preserves_onRoles (t : Target) (f : RoleStore → Except GoError Unit × RoleStore) :
    Preserves P (onRoles t f) :=
  fun w hw => hroles w t _ hw

theorem preserves_ensureGeneratedRole (generated : Except String (Option Role))
    (key : Role → BindingKey) (t : Target) : Preserves P (ensureGeneratedRole generated key t) := by
  unfold ensureGeneratedRole
  split
  · exact .throwMsg _
  · exact .pure _
  · exact preserves_onRoles hroles _ _

/-- The role loops only edit roles. -/
theorem preserves_forRoles (s : Scope) (generated : String → GroupVersionResource →
      ProjectResource → Except String (Option Role))
    (key : String → GroupVersionResource → ProjectResource → Role → BindingKey) :
    Preserves P (forRoles c s fun groupPrefix gvr pr =>
      ensureGeneratedRole (generated groupPrefix gvr pr) (key groupPrefix gvr pr)) := by
  refine .forM fun pr _ => ?_
  split
  · split
    · exact .throwMsg _
    · refine .forM fun _ _ => ?_
      rw [onDestination_eq]
      exact .forM fun _ _ => preserves_ensureGeneratedRole hroles _ _ _
  · exact .pure _

end Keeps

/-- Each call of a live sync keeps what the phase updates, the finalizer addition, role
edits, binding ensures and the ensure function of the project's own ClusterRoleBinding
keep. -/
theorem preserves_syncCalls (c : ProjectController) (project : Project) {P : World → Prop}
    (hphase : ∀ phase, Preserves P (ensureProjectPhase phase))
    (hadd : Preserves P ensureCleanupFinalizerExists)
    (hroles : ∀ w t r, P w → P (w.setRoles t r))
    (hensure : ∀ t key generated, Preserves P (onTarget t (ensureBinding key generated)))
    (hnamed : Preserves P (onTarget .master (c.ensureClusterRBACRoleBindingForNamedResource project.name))) :
    ∀ b ∈ syncCalls c project, Preserves P b := by
  have hbindings (s : Scope) : Preserves P (forBindings c s project.name (ensureBindingCall c s)) :=
    preserves_forBindings fun _ _ _ _ => by
      rw [ensureBindingCall_eq]
      exact .onTarget_of_cases (tryEnsureBinding_cases _ _) (hensure _ _ _)
  intro b hb
  simp only [syncCalls, List.mem_cons, List.mem_singleton, List.not_mem_nil, or_false] at hb
  rcases hb with rfl | rfl | rfl | rfl | rfl | rfl | rfl | rfl | rfl
  · split
    · exact .wrapError _ (hphase _)
    · exact .pure _
  · exact .wrapError _ hadd
  · exact .wrapError _ (preserves_onRoles hroles _ _)
  · exact .wrapError _ hnamed
  · exact .wrapError _ (preserves_forRoles hroles _ _ _)
  · exact .wrapError _ (hbindings _)
  · exact .wrapError _ (preserves_forRoles hroles _ _ _)
  · exact .wrapError _ (hbindings _)
  · exact .wrapError _ (hphase _)

/-- **What a step of the controller can do**, said once: a sync edits the stored project
without renaming it, edits roles, ensures and cleans up bindings, and calls the ensure
function of the project's own ClusterRoleBinding; each of its other calls that fails
leaves the world as it was. Whatever all of these keep, a sync keeps. -/
theorem preserves_sync (c : ProjectController) {P : World → Prop}
    (hproject : ∀ w (p : Project), p.name = w.project.name → P w → P { w with project := p })
    (hroles : ∀ w t r, P w → P (w.setRoles t r))
    (hensure : ∀ t key generated, Preserves P (onTarget t (ensureBinding key generated)))
    (hcleanUp : ∀ t key generated, Preserves P (onTarget t (cleanUpBinding key generated)))
    (hnamed : ∀ n, Preserves P (onTarget .master (c.ensureClusterRBACRoleBindingForNamedResource n))) :
    Preserves P (sync c) := by
  have hphase (phase : ProjectPhase) : Preserves P (ensureProjectPhase phase) :=
    .ensureProjectPhase fun _ hw => hproject _ _ rfl hw
  have hcleanUps (s : Scope) (n : String) :
      Preserves P (forBindings c s n (cleanUpBindingCall c s)) :=
    preserves_forBindings fun _ _ _ _ => by
      rw [cleanUpBindingCall_eq]
      exact .onTarget_of_cases (tryCleanUpBinding_cases _ _) (hcleanUp _ _ _)
  refine Preserves.getProject.bind fun project => ?_
  split
  · exact .wrapError _ <| .bind (.wrapError _ (hphase _)) fun _ =>
      .bind (hcleanUps _ _) fun _ => .bind (hcleanUps _ _) fun _ =>
      .tryRemoveFinalizer fun _ hw => hproject _ _ rfl hw
  · exact .forM (preserves_syncCalls c _ hphase (.tryAddFinalizer fun _ hw => hproject _ _ rfl hw)
      hroles hensure (hnamed _))

/-! ## What a successful sync leaves -/

/-- The binding under `key` is stored with every subject of `subjects`. -/
def Store.Holds (key : BindingKey) (subjects : List Subject) (st : Store) : Prop :=
  ∃ stored, st.bindings key = some stored ∧ ∀ x ∈ subjects, x ∈ stored

/-- The binding the sync's call for a group and a resource of `pr` reads on `t` is stored,
with every subject of the binding generated for them. -/
def HoldsBinding (c : ProjectController) (s : Scope) (t : Target) (groupName resource : String)
    (pr : ProjectResource) (w : World) : Prop :=
  (w.store t).Holds (ensureKey c s groupName resource pr)
    (generatedBinding c s groupName resource pr).subjects

/-- **A synced project**: it carries the cleanup finalizer, it is active, and every
binding the sync's loops visit for it holds the subjects of the binding generated for
it. -/
structure Synced (c : ProjectController) (projectName : String) (w : World) : Prop where
  finalizer : CleanupFinalizerName ∈ w.project.finalizers
  active : w.project.phase = some .active
  bindings : ∀ s t groupName resource pr,
    .call t groupName resource pr ∈ loopSteps c s projectName →
      HoldsBinding c s t groupName resource pr w

theorem establishes_ensureCleanupFinalizerExists :
    Establishes (fun w => CleanupFinalizerName ∈ w.project.finalizers) ensureCleanupFinalizerExists := by
  intro w _ hok
  rcases tryAddFinalizer_cases CleanupFinalizerName w with ⟨hin, h⟩ | h | ⟨e, h⟩ <;>
    simp only [ensureCleanupFinalizerExists, h] at hok ⊢
  · exact hin
  · simp [ProjectPatch.apply]
  · cases hok

section Synced

variable (c : ProjectController) {project : Project} {w : World}

theorem preserves_holdsBinding_ensure (s : Scope) (t : Target) (groupName resource : String)
    (pr : ProjectResource) (t' : Target) (key : BindingKey) (generated : List Subject) :
    Preserves (HoldsBinding c s t groupName resource pr) (onTarget t' (ensureBinding key generated)) :=
  preserves_store_onTarget (Q := Store.Holds _ _) (fun _ ⟨_, h, hall⟩ =>
    let ⟨stored', h', hsub⟩ := ensureBinding_keeps h
    ⟨stored', h', fun x hx => hsub (hall x hx)⟩) t' t

theorem preserves_holdsBinding_phase (s : Scope) (t : Target) (groupName resource : String)
    (pr : ProjectResource) (phase : ProjectPhase) :
    Preserves (HoldsBinding c s t groupName resource pr) (ensureProjectPhase phase) :=
  preserves_store_ensureProjectPhase (Store.Holds _ _) t phase

/-- A binding loop of a sync leaves every binding it visited with its generated
subjects. -/
theorem establishes_holdsBinding {s : Scope} {t : Target} {groupName resource : String}
    {pr : ProjectResource} (hstep : .call t groupName resource pr ∈ loopSteps c s project.name) :
    Establishes (HoldsBinding c s t groupName resource pr)
      (forBindings c s project.name (ensureBindingCall c s)) := by
  refine establishes_forBindings hstep ?_ fun t' _ _ _ => ?_ <;> rw [ensureBindingCall_eq]
  · exact .onTarget_of_cases (tryEnsureBinding_cases _ _) fun w _ _ => by
      simpa [HoldsBinding] using (ensureBinding_run _ _ _).2
  · exact .onTarget_of_cases (tryEnsureBinding_cases _ _) (preserves_holdsBinding_ensure c _ _ _ _ _ _ _ _)

/-- A live sync keeps the cleanup finalizer once it added it. -/
theorem establishes_finalizer_syncCalls (project : Project) :
    Establishes (fun w => CleanupFinalizerName ∈ w.project.finalizers) ((syncCalls c project).forM id) :=
  have hfin := preserves_syncCalls c project (fun _ => .ensureProjectPhase fun _ hw => hw)
    (.tryAddFinalizer fun _ hw => by simp [ProjectPatch.apply, hw])
    (fun _ _ _ hw => hw) (fun _ _ _ _ hw => by simpa using hw) fun _ hw => by simpa using hw
  Establishes.forM_append [_] _ (.wrapError _ establishes_ensureCleanupFinalizerExists)
    fun b hb => hfin b (List.mem_cons_of_mem _ (List.mem_cons_of_mem _ hb))

/-- A live sync ends by setting the phase to active. -/
theorem establishes_active_syncCalls (project : Project) :
    Establishes (fun w => w.project.phase = some .active) ((syncCalls c project).forM id) :=
  Establishes.forM_append [_, _, _, _, _, _, _, _] []
    (.wrapError _ establishes_ensureProjectPhase) fun _ h => absurd h (List.not_mem_nil _)

/-- A live sync leaves every binding its loops visit with its generated subjects: the
calls after the binding loop only edit roles, ensure bindings or set the phase. -/
theorem establishes_holdsBinding_syncCalls {s : Scope} {t : Target} {groupName resource : String}
    {pr : ProjectResource} (hstep : .call t groupName resource pr ∈ loopSteps c s project.name) :
    Establishes (HoldsBinding c s t groupName resource pr) ((syncCalls c project).forM id) := by
  have hroles : ∀ w t' r, HoldsBinding c s t groupName resource pr w →
      HoldsBinding c s t groupName resource pr (w.setRoles t' r) := fun _ _ _ hw => by
    simpa [HoldsBinding] using hw
  have hphase := (preserves_holdsBinding_phase c s t groupName resource pr .active).wrapError
    "failed to set project phase to active"
  have hloop := (establishes_holdsBinding c hstep).wrapError
  cases s with
  | cluster =>
    refine Establishes.forM_append [_, _, _, _, _] _ (hloop _) ?_
    simp only [List.forall_mem_cons, List.not_mem_nil, IsEmpty.forall_iff, forall_const,
      and_true, id]
    exact ⟨.wrapError _ (preserves_forRoles hroles _ _ _),
      .wrapError _ (preserves_forBindings fun _ _ _ _ => by
        rw [ensureBindingCall_eq]
        exact .onTarget_of_cases (tryEnsureBinding_cases _ _)
          (preserves_holdsBinding_ensure c _ _ _ _ _ _ _ _)), hphase⟩
  | namespaced =>
    refine Establishes.forM_append [_, _, _, _, _, _, _] _ (hloop _) ?_
    simpa only [List.forall_mem_cons, List.not_mem_nil, IsEmpty.forall_iff, forall_const,
      and_true, id] using hphase

/-- A live sync that returned no error leaves the project synced. -/
theorem synced_of_syncCalls_ok (hok : (((syncCalls c project).forM id).run.run w).1 = .ok ()) :
    Synced c project.name (((syncCalls c project).forM id).run.run w).2 :=
  ⟨establishes_finalizer_syncCalls c project w () hok, establishes_active_syncCalls c project w () hok,
    fun _ _ _ _ _ hstep => establishes_holdsBinding_syncCalls c hstep w () hok⟩

/-- A live sync that returned no error got through every REST mapping and
`shouldSkip…` check of its binding loops. -/
theorem fail_not_mem_of_syncCalls_ok (hok : (((syncCalls c project).forM id).run.run w).1 = .ok ())
    (s : Scope) (e : String) : .fail e ∉ loopSteps c s project.name := by
  intro he
  have hloop : FailsFrom (fun _ => True) (forBindings c s project.name (ensureBindingCall c s)) :=
    failsFrom_forBindings_of_fail he
  obtain ⟨context, hmem⟩ : ∃ context,
      wrapError context (forBindings c s project.name (ensureBindingCall c s)) ∈ syncCalls c project := by
    cases s
    · exact ⟨_, List.mem_append_right [_, _, _, _, _] (List.mem_cons_self _ _)⟩
    · exact ⟨_, List.mem_append_right [_, _, _, _, _, _, _] (List.mem_cons_self _ _)⟩
  obtain ⟨e', he'⟩ :=
    FailsFrom.forM (f := id) hmem (hloop.wrapError context) (fun _ _ _ h => h) w trivial
  rw [hok] at he'
  cases he'

end Synced

/-- **A successful sync leaves the project synced.** When `sync` returns no error for a
project that is not being deleted, the project carries `CleanupFinalizerName` and is
active, every binding the sync's loops visit holds the subjects generated for it, and
every REST mapping and `shouldSkip…` check of those loops went through. -/
theorem sync_synced (c : ProjectController) {w : World} (hlive : w.project.deletionTimestamp = false)
    (hok : ((sync c).run.run w).1 = .ok ()) :
    Synced c w.project.name ((sync c).run.run w).2 ∧ ∀ s e, .fail e ∉ loopSteps c s w.project.name := by
  have hget := getError_eq_none_of_sync_ok c hok
  rw [sync_run_of_live c hget hlive] at hok ⊢
  exact ⟨synced_of_syncCalls_ok c hok, fail_not_mem_of_syncCalls_ok c hok⟩

/-- The project `p` before its first sync, on servers with no bindings and no roles. -/
def sampleLiveWorld : World where
  project := { name := "p" }
  master := { bindings := fun _ => none }
  seed _ := { bindings := fun _ => none }
  roles _ := { rules := fun _ => none }

theorem sync_synced_sample :
    Synced sampleProjectController "p" ((sync sampleProjectController).run.run sampleLiveWorld).2 ∧
      ∀ s e, .fail e ∉ loopSteps sampleProjectController s "p" :=
  sync_synced sampleProjectController (w := sampleLiveWorld) rfl rfl

/-! ## Deleting a synced project -/

/-- A step of the system around one stored project: the controller reconciles the
project, or another project, whose sync edits only that project and the servers the two
share, each sync with what the REST mapper answers `m` then; the project is deleted; or
the world changes in anything but the stored project and the bindings: the servers
answer the calls otherwise, roles are edited. -/
inductive SystemStep (c : ProjectController) : World → World → Prop
  | reconcile (m : ProjectResource → Except String GroupVersionResource) (w : World) :
      SystemStep c w ((sync { c with restMapping := m }).run.run w).2
  | reconcileOther (m : ProjectResource → Except String GroupVersionResource) (w : World)
      (other : Project) :
      SystemStep c w
        { ((sync { c with restMapping := m }).run.run { w with project := other }).2 with
          project := w.project }
  | delete (w : World) :
      SystemStep c w { w with project := { w.project with deletionTimestamp := true } }
  | environment (w w' : World) (hproject : w'.project = w.project)
      (hbindings : ∀ t, (w'.store t).bindings = (w.store t).bindings) : SystemStep c w w'

section Deletion

variable (c : ProjectController)

/-- No sync renames the stored project. -/
theorem preserves_name_sync (n : String) : Preserves (fun w => w.project.name = n) (sync c) :=
  preserves_sync c (fun _ _ hp hw => hp.trans hw) (fun _ _ _ hw => hw)
    (fun _ _ _ _ hw => by simpa using hw) (fun _ _ _ _ hw => by simpa using hw)
    fun _ _ hw => by simpa using hw

/-- No sync deletes a binding, as long as the ensure function of the project's own
ClusterRoleBinding deletes none. -/
theorem preserves_bound_sync
    (hnamed : ∀ n s key, s.bindings key ≠ none →
      (c.ensureClusterRBACRoleBindingForNamedResource n s).2.bindings key ≠ none)
    (t : Target) (key : BindingKey) :
    Preserves (fun w => (w.store t).bindings key ≠ none) (sync c) :=
  preserves_sync c (fun _ _ _ hw => by simpa using hw) (fun _ _ _ hw => by simpa using hw)
    (fun t' _ _ => preserves_store_onTarget (Q := fun st => st.bindings key ≠ none)
      (fun _ => ensureBinding_bindings_ne_none) t' t)
    (fun t' _ _ => preserves_store_onTarget (Q := fun st => st.bindings key ≠ none)
      (fun _ => cleanUpBinding_bindings_ne_none) t' t)
    fun n => preserves_store_onTarget (Q := fun st => st.bindings key ≠ none)
      (fun s => hnamed n s key) .master t

/-- What the deletion of the project `projectName` needs of a world: the stored project
still has its name, and every binding the sync's loops visit for it is stored. -/
def DeletableAs (projectName : String) (w : World) : Prop :=
  w.project.name = projectName ∧ ∀ s t groupName resource pr,
    .call t groupName resource pr ∈ loopSteps c s projectName →
      (w.store t).bindings (ensureKey c s groupName resource pr) ≠ none

/-- Every step of the system keeps a project deletable. -/
theorem SystemStep.deletableAs
    (hnamed : ∀ n s key, s.bindings key ≠ none →
      (c.ensureClusterRBACRoleBindingForNamedResource n s).2.bindings key ≠ none)
    {n : String} {w w' : World} (hstep : SystemStep c w w') (h : DeletableAs c n w) :
    DeletableAs c n w' := by
  obtain ⟨hname, hbound⟩ := h
  cases hstep with
  | reconcile m =>
    exact ⟨preserves_name_sync _ n w hname, fun s t g r pr hs =>
      preserves_bound_sync { c with restMapping := m } hnamed t _ w (hbound s t g r pr hs)⟩
  | reconcileOther m _ other =>
    exact ⟨hname, fun s t g r pr hs => by
      simpa using preserves_bound_sync { c with restMapping := m } hnamed t _
        { w with project := other } (by simpa using hbound s t g r pr hs)⟩
  | delete => exact ⟨hname, fun s t g r pr hs => by simpa using hbound s t g r pr hs⟩
  | environment _ w' hproject hbindings =>
    exact ⟨hproject.symm ▸ hname, fun s t g r pr hs => hbindings t ▸ hbound s t g r pr hs⟩

/-- **A synced project can always be deleted.** Once a sync of a project that is not
being deleted returned no error, then however the system goes on – reconciles of this
project and of any other, with any answers of the REST mapper, failed calls and changed
answers of the servers, any number of them – once the project is deleted, its next
reconcile in which the servers carry out the calls and the REST mapper answers as in that
first sync returns no error and removes `CleanupFinalizerName` and no other finalizer. -/
theorem sync_deletes_synced_project
    (hns : ∀ resource groupName ns, (c.generateRBACRoleBindingForResource resource groupName ns).ns = ns)
    (hnamed : ∀ n s key, s.bindings key ≠ none →
      (c.ensureClusterRBACRoleBindingForNamedResource n s).2.bindings key ≠ none)
    {w₀ w : World} (hlive : w₀.project.deletionTimestamp = false)
    (hok : ((sync c).run.run w₀).1 = .ok ())
    (hrun : Relation.ReflTransGen (SystemStep c) ((sync c).run.run w₀).2 w)
    (hdel : w.project.deletionTimestamp = true) (hacc : w.Accepting) :
    ((sync c).run.run w).1 = .ok () ∧
      ((sync c).run.run w).2.project.finalizers =
        removeFinalizer w.project.finalizers [CleanupFinalizerName] := by
  have hlive' := sync_run_of_live c (getError_eq_none_of_sync_ok c hok) hlive
  rw [hlive'] at hok
  have hstart : DeletableAs c w₀.project.name ((sync c).run.run w₀).2 := by
    refine ⟨preserves_name_sync c _ w₀ rfl, fun s t g r pr hs => ?_⟩
    obtain ⟨stored, h, -⟩ := (synced_of_syncCalls_ok c hok).bindings s t g r pr hs
    simp [hlive', h]
  have hinv : DeletableAs c w₀.project.name w := by
    clear hdel hacc
    induction hrun with
    | refl => exact hstart
    | tail _ hstep ih => exact hstep.deletableAs c hnamed ih
  obtain ⟨hname, hbound⟩ := hinv
  have hfail := fail_not_mem_of_syncCalls_ok c hok
  rw [← hname] at hfail hbound
  have hclean : ((ensureProjectCleanup c w.project).run.run w).1 = .ok () := by
    refine ensureProjectCleanup_succeeds c w.project hfail hacc fun t key hkey => ?_
    obtain ⟨hs⟩ := hkey
    rw [cleanUpKey_eq_ensureKey c _ _ _ _ hns]
    exact hbound _ _ _ _ _ hs
  rw [sync_run_of_deleting c (by rw [hacc.project]) hdel]
  exact ⟨by simp [hclean, Except.mapError],
    by simpa using (removesOnSuccess_ensureProjectCleanup c w.project w).1 hclean⟩

/-- No sync changes how the servers answer, as long as the ensure function of the
project's own ClusterRoleBinding does not. -/
theorem preserves_accepting_sync
    (hnamed : ∀ n s, (c.ensureClusterRBACRoleBindingForNamedResource n s).2.answers = s.answers) :
    Preserves World.Accepting (sync c) :=
  preserves_sync c (fun _ _ _ hw => hw.withProject _)
    (fun _ _ _ hw => ⟨fun t => by simpa using hw.stores t, hw.project⟩)
    (fun t _ _ => preserves_accepting_onTarget (ensureBinding_answers _ _) t)
    (fun t _ _ => preserves_accepting_onTarget (cleanUpBinding_answers _ _) t)
    fun n => preserves_accepting_onTarget (hnamed n) .master

end Deletion

/-- The sample project after its first sync, which succeeds. -/
def sampleSyncedWorld : World :=
  ((sync sampleProjectController).run.run sampleLiveWorld).2

/-- The sample project once it is deleted after its first sync. -/
def sampleDeletedWorld : World :=
  { sampleSyncedWorld with project := { sampleSyncedWorld.project with deletionTimestamp := true } }

theorem sync_deletes_synced_sample_project :
    ((sync sampleProjectController).run.run sampleDeletedWorld).1 = .ok () ∧
      ((sync sampleProjectController).run.run sampleDeletedWorld).2.project.finalizers =
        removeFinalizer sampleDeletedWorld.project.finalizers [CleanupFinalizerName] :=
  @sync_deletes_synced_project sampleProjectController (fun _ _ _ => rfl) (fun _ _ _ h => h)
    sampleLiveWorld sampleDeletedWorld rfl rfl (.single (.delete _)) rfl
    ((preserves_accepting_sync sampleProjectController (fun _ _ => rfl) sampleLiveWorld
      ⟨fun t => by cases t <;> rfl, rfl⟩).withProject _)

end Kubermatic.RBAC
