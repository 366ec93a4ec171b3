import Kubermatic.RBAC.Controller

/-!
# Cleaning up a deleted project's bindings

When a project is deleted, `projectController.ensureProjectCleanup` sets its phase to
terminating, removes the project's groups from every shared binding of a project
resource – the ClusterRoleBindings of the cluster-scoped resources first, then the
RoleBindings of the namespaced ones, on the master or on every seed – and only then
removes `CleanupFinalizerName`, so that the project object can go.

The code keeps the finalizer's contract: it removes the finalizer exactly when it
returns no error (`ensureProjectCleanup_removes_finalizer_only_on_success`), whichever of
its calls fail. A binding that was never created makes the cleanup fail:
`tryCleanUpBinding` returns the `NotFound` of its `Get`, `ensureProjectCleanup` returns it,
and the finalizer stays, on every retry (`ensureProjectCleanup_fails_on_missing_binding`).
A project whose first sync added the finalizer and failed before creating every binding
is therefore never deleted (`ensureProjectCleanup_missing_binding_keeps_finalizer`). When
every binding is there and the servers carry out the calls, the cleanup succeeds
(`ensureProjectCleanup_succeeds`); when it succeeds, it took every subject of the
project's groups out of them (`ensureProjectCleanup_removes_subjects`).
-/

namespace Kubermatic.RBAC

/-! ## The code -/

/-- Modelled from the spec: `kuberneteshelper.TryRemoveFinalizer` on the stored project,
the finalizer removed from a copy and a patch sent when that changed the list. -/
def tryRemoveFinalizer (name : String) : SyncM Unit := do
  if hasFinalizer (← get).project.finalizers name then patchProject (.removeFinalizer name)
  else pure ()

/-- **`projectController.ensureProjectCleanup`**: the cleanup loops over the
ClusterRoleBindings and then the RoleBindings, between the phase and the finalizer. -/
def ensureProjectCleanup (c : ProjectController) (project : Project) : SyncM Unit := do
  wrapError "failed to set project phase" (ensureProjectPhase .terminating)
  forBindings c .cluster project.name (cleanUpBindingCall c .cluster)
  forBindings c .namespaced project.name (cleanUpBindingCall c .namespaced)
  tryRemoveFinalizer CleanupFinalizerName

/-! ## What the steps of a cleanup keep -/

/-- What `tryRemoveFinalizer` can do: find the finalizer gone, remove it, or fail and
leave the world as it was. -/
theorem tryRemoveFinalizer_cases (name : String) (w : World) :
    (name ∉ w.project.finalizers ∧ (tryRemoveFinalizer name).run.run w = (.ok (), w)) ∨
      (tryRemoveFinalizer name).run.run w =
        (.ok (), { w with project := (ProjectPatch.removeFinalizer name).apply w.project }) ∨
      ∃ e, (tryRemoveFinalizer name).run.run w = (.error e, w) := by
  rw [tryRemoveFinalizer, syncM_run_bind_of_ok (syncM_get_run w)]
  split
  · exact .inr (patchProject_cases _ w)
  · rename_i h
    exact .inl ⟨by simpa using h, rfl⟩

theorem Preserves.tryRemoveFinalizer {P : World → Prop} {name : String}
    (h : ∀ w, P w → P { w with project := (ProjectPatch.removeFinalizer name).apply w.project }) :
    Preserves P (tryRemoveFinalizer name) := fun w hw => by
  rcases tryRemoveFinalizer_cases name w with ⟨-, h'⟩ | h' | ⟨e, h'⟩ <;> simp only [h']
  exacts [hw, h w hw, hw]

/-- On a master that carries out the patch, `tryRemoveFinalizer` returns no error. -/
theorem tryRemoveFinalizer_ok {name : String} {w : World}
    (h : w.projectAnswers.patchError (.removeFinalizer name) = none) :
    ((tryRemoveFinalizer name).run.run w).1 = .ok () := by
  rw [tryRemoveFinalizer, syncM_run_bind_of_ok (syncM_get_run w)]
  split
  · simp [patchProject_run, h]
  · rfl

/-- The loops leave the project's finalizers alone. -/
theorem preserves_finalizers_onTarget (fins : List String) (t : Target)
    (f : Store → Except GoError Unit × Store) :
    Preserves (fun w => w.project.finalizers = fins) (onTarget t f) := by
  intro w hw
  simpa using hw

theorem preserves_finalizers_ensureProjectPhase (fins : List String) (phase : ProjectPhase) :
    Preserves (fun w => w.project.finalizers = fins) (ensureProjectPhase phase) :=
  .ensureProjectPhase fun _ hw => hw

/-- A call on one server keeps every property of another server's bindings, and the
properties of its own that the call keeps. -/
theorem preserves_store_onTarget {Q : Store → Prop} {f : Store → Except GoError Unit × Store}
    (hf : ∀ s, Q s → Q (f s).2) (t t' : Target) :
    Preserves (fun w => Q (w.store t')) (onTarget t f) := by
  intro w hw
  by_cases ht : t = t'
  · subst ht
    simpa using hf _ hw
  · simpa [World.store_setStore_of_ne ht] using hw

theorem preserves_store_ensureProjectPhase (Q : Store → Prop) (t : Target) (phase : ProjectPhase) :
    Preserves (fun w => Q (w.store t)) (ensureProjectPhase phase) :=
  .ensureProjectPhase fun _ hw => by simpa using hw

theorem preserves_store_tryRemoveFinalizer (Q : Store → Prop) (t : Target) (name : String) :
    Preserves (fun w => Q (w.store t)) (tryRemoveFinalizer name) :=
  .tryRemoveFinalizer fun _ hw => by simpa using hw

/-- A call that leaves a server's answers alone keeps the servers carrying out every
call. -/
theorem preserves_accepting_onTarget {f : Store → Except GoError Unit × Store}
    (hf : ∀ s, (f s).2.answers = s.answers) (t : Target) : Preserves World.Accepting (onTarget t f) :=
  fun w hw => ⟨fun t' => preserves_store_onTarget (Q := fun st => st.answers = {})
    (fun s h => (hf s).trans h) t t' w (hw.stores t'), by simpa using hw.project⟩

/-- Editing the stored project keeps the servers carrying out every call. -/
theorem World.Accepting.withProject {w : World} (hw : w.Accepting) (p : Project) :
    ({ w with project := p } : World).Accepting :=
  ⟨fun t => by simpa using hw.stores t, hw.project⟩

/-- The cleanup of a missing binding fails, with its `NotFound` or another error of its
`Get`, and leaves the server as it was. -/
theorem tryCleanUpBinding_of_none {key : BindingKey} {generated : List Subject} {s : Store}
    (h : s.bindings key = none) : ∃ e, tryCleanUpBinding key generated s = (.error e, s) := by
  rcases tryCleanUpBinding_cases key generated s with h' | h'
  · exact ⟨_, by rw [h', cleanUpBinding, h]⟩
  · exact h'

/-- A cleanup never creates a binding: a missing one stays missing. -/
theorem cleanUpBinding_bindings_eq_none {key k : BindingKey} {generated : List Subject}
    {s : Store} (h : s.bindings key = none) : (cleanUpBinding k generated s).2.bindings key = none := by
  unfold cleanUpBinding
  split
  · exact h
  · rename_i existing hk
    have hne : key ≠ k := by rintro rfl; simp [h] at hk
    simp [Function.update_noteq hne, h]

/-- A cleanup only removes subjects: one a binding lacks stays out of it. -/
theorem cleanUpBinding_keeps_not_mem {key k : BindingKey} {generated : List Subject} {s : Store}
    {x : Subject} (h : ∀ stored, s.bindings k = some stored → x ∉ stored) :
    ∀ stored, (cleanUpBinding key generated s).2.bindings k = some stored → x ∉ stored := by
  unfold cleanUpBinding
  split
  · exact h
  · rename_i existing hkey
    intro stored hstored
    by_cases hk : k = key
    · subst hk
      simp only [Store.write_update_bindings, Function.update_same, Option.some.injEq] at hstored
      subst hstored
      exact fun hx => h existing hkey (mem_updatedListOfSubjects.mp hx).1
    · simp only [Store.write_update_bindings, Function.update_noteq hk] at hstored
      exact h stored hstored

/-- A cleanup takes the generated subjects out of the binding it edits. -/
theorem cleanUpBinding_not_mem {key : BindingKey} {generated : List Subject} {s : Store}
    {x : Subject} (hx : x ∈ generated) :
    ∀ stored, (cleanUpBinding key generated s).2.bindings key = some stored → x ∉ stored := by
  unfold cleanUpBinding
  split
  · rename_i hnone
    simp [hnone]
  · intro stored hstored
    simp only [Store.write_update_bindings, Function.update_same, Option.some.injEq] at hstored
    subst hstored
    exact fun hmem => (mem_updatedListOfSubjects.mp hmem).2 hx

/-! ## The finalizer stays until the cleanup succeeded -/

/-- A sync removes `name` from the project's finalizers when it succeeds, and keeps them
all when it fails. -/
def RemovesOnSuccess (name : String) (m : SyncM Unit) : Prop :=
  ∀ w, ((m.run.run w).1 = .ok () →
      (m.run.run w).2.project.finalizers = removeFinalizer w.project.finalizers [name]) ∧
    ∀ e, (m.run.run w).1 = .error e → (m.run.run w).2.project.finalizers = w.project.finalizers

theorem removesOnSuccess_tryRemoveFinalizer (name : String) :
    RemovesOnSuccess name (tryRemoveFinalizer name) := by
  intro w
  rcases tryRemoveFinalizer_cases name w with ⟨hgone, h⟩ | h | ⟨e, h⟩ <;> rw [h]
  · exact ⟨fun _ => (removeFinalizer_of_forall_not_mem (by simpa using hgone)).symm,
      fun _ he => by cases he⟩
  · exact ⟨fun _ => rfl, fun _ he => by cases he⟩
  · exact ⟨fun he => (by cases he), fun _ _ => rfl⟩

theorem RemovesOnSuccess.bind {name : String} {m : SyncM α} {f : α → SyncM Unit}
    (hm : ∀ fins, Preserves (fun w => w.project.finalizers = fins) m)
    (hf : ∀ a, RemovesOnSuccess name (f a)) : RemovesOnSuccess name (m >>= f) := by
  intro w
  have h₁ := hm _ w rfl
  rcases h : m.run.run w with ⟨e | a, w₁⟩
  · simp only [h] at h₁
    rw [syncM_run_bind_of_error h]
    simp [h₁]
  · simp only [h] at h₁
    rw [syncM_run_bind_of_ok h, ← h₁]
    exact hf a w₁

theorem removesOnSuccess_ensureProjectCleanup (c : ProjectController) (project : Project) :
    RemovesOnSuccess CleanupFinalizerName (ensureProjectCleanup c project) := by
  have keeps (fins : List String) (s : Scope) : Preserves (fun w => w.project.finalizers = fins)
      (forBindings c s project.name (cleanUpBindingCall c s)) :=
    preserves_forBindings fun t _ _ _ => preserves_finalizers_onTarget fins t _
  exact .bind (fun fins => .wrapError _ (preserves_finalizers_ensureProjectPhase fins _)) fun _ =>
    .bind (fun fins => keeps fins .cluster) fun _ =>
    .bind (fun fins => keeps fins .namespaced) fun _ => removesOnSuccess_tryRemoveFinalizer _

/-- **The finalizer's contract.** `ensureProjectCleanup` removes `CleanupFinalizerName`, and
no other finalizer, when it returns no error; when it returns one, the project keeps all
its finalizers. -/
theorem ensureProjectCleanup_removes_finalizer_only_on_success (c : ProjectController)
    (project : Project) (w : World) :
    (((ensureProjectCleanup c project).run.run w).1 = .ok () →
      ((ensureProjectCleanup c project).run.run w).2.project.finalizers =
        removeFinalizer w.project.finalizers [CleanupFinalizerName]) ∧
    ∀ e, ((ensureProjectCleanup c project).run.run w).1 = .error e →
      ((ensureProjectCleanup c project).run.run w).2.project.finalizers = w.project.finalizers :=
  removesOnSuccess_ensureProjectCleanup c project w

/-! ## The bindings a cleanup edits -/

/-- `key` on `t` is a binding `ensureProjectCleanup` removes the project's groups from:
the key a call among the steps of its loops reads. -/
inductive CleanedBinding (c : ProjectController) (project : Project) : Target → BindingKey → Prop
  | mk {s : Scope} {t : Target} {groupName resource : String} {pr : ProjectResource} :
      .call t groupName resource pr ∈ loopSteps c s project.name →
      CleanedBinding c project t (cleanUpKey c s groupName resource pr)

section Cleanup

variable (c : ProjectController) (project : Project)

/-- A cleanup fails when one of its loops does, and keeps what both loops and the
finalizer removal keep. -/
theorem failsFrom_ensureProjectCleanup {P : World → Prop} {s : Scope}
    (hphase : Preserves P (ensureProjectPhase .terminating))
    (hloop : ∀ s, Preserves P (forBindings c s project.name (cleanUpBindingCall c s)))
    (hfail : FailsFrom P (forBindings c s project.name (cleanUpBindingCall c s))) :
    FailsFrom P (ensureProjectCleanup c project) := by
  refine FailsFrom.bind_right (.wrapError _ hphase) fun _ => ?_
  cases s with
  | cluster => exact hfail.bind_left
  | namespaced => exact FailsFrom.bind_right (hloop .cluster) fun _ => hfail.bind_left

/-- **A missing binding blocks the deletion.** If a binding the cleanup edits is missing
from its server, `ensureProjectCleanup` returns an error – the `NotFound` of that binding,
or an earlier one – and the project keeps `CleanupFinalizerName` with all its other
finalizers, on this run and on every retry while the binding stays missing. -/
theorem ensureProjectCleanup_fails_on_missing_binding {t : Target} {key : BindingKey}
    (hkey : CleanedBinding c project t key) (w : World) (hw : (w.store t).bindings key = none) :
    (∃ e, ((ensureProjectCleanup c project).run.run w).1 = .error e) ∧
      ((ensureProjectCleanup c project).run.run w).2.project.finalizers = w.project.finalizers := by
  have keeps (s : Scope) (t' : Target) (groupName resource : String) (pr : ProjectResource) :
      Preserves (fun w => (w.store t).bindings key = none)
        (onTarget t' (cleanUpBindingCall c s groupName resource pr)) := by
    rw [cleanUpBindingCall_eq]
    exact .onTarget_of_cases (tryCleanUpBinding_cases _ _) <|
      preserves_store_onTarget (Q := fun st => st.bindings key = none)
        (fun _ => cleanUpBinding_bindings_eq_none) t' t
  have hfails : FailsFrom (fun w => (w.store t).bindings key = none)
      (ensureProjectCleanup c project) := by
    cases hkey with
    | @mk s _ groupName resource pr hstep =>
      refine failsFrom_ensureProjectCleanup c project
        (preserves_store_ensureProjectPhase (fun st => st.bindings _ = none) t _)
        (fun s => preserves_forBindings (keeps s)) (failsFrom_forBindings hstep ?_ (keeps _))
      intro w hw
      obtain ⟨e, he⟩ := @tryCleanUpBinding_of_none _
        (generatedBinding c s groupName resource pr).subjects _ hw
      exact ⟨e, by simp [cleanUpBindingCall_eq, he]⟩
  obtain ⟨e, he⟩ := hfails w hw
  exact ⟨⟨e, he⟩, (removesOnSuccess_ensureProjectCleanup c project w).2 e he⟩

/-- Every binding the cleanup edits is stored. -/
def AllCleanedBound (w : World) : Prop :=
  ∀ t key, CleanedBinding c project t key → (w.store t).bindings key ≠ none

/-- **A cleanup whose bindings are all stored succeeds.** When the servers carry out its
calls, the REST mappings and the `shouldSkip…` checks of its loops go through and every
binding they edit is stored, `ensureProjectCleanup` returns no error. -/
theorem ensureProjectCleanup_succeeds (hfail : ∀ s e, .fail e ∉ loopSteps c s project.name)
    {w : World} (hacc : w.Accepting) (hbound : AllCleanedBound c project w) :
    ((ensureProjectCleanup c project).run.run w).1 = .ok () := by
  let P : World → Prop := fun w => w.Accepting ∧ AllCleanedBound c project w
  have hproject (w : World) (p : Project) (hw : P w) : P { w with project := p } :=
    ⟨hw.1.withProject p, fun t key hkey => by simpa using hw.2 t key hkey⟩
  have hloop (s : Scope) : SucceedsFrom P (forBindings c s project.name (cleanUpBindingCall c s)) := by
    refine succeedsFrom_forBindings (hfail s) fun t groupName resource pr hstep w hw => ?_
    have hrun : (onTarget t (cleanUpBindingCall c s groupName resource pr)).run.run w =
        (onTarget t (cleanUpBinding (cleanUpKey c s groupName resource pr)
          (generatedBinding c s groupName resource pr).subjects)).run.run w := by
      simp only [cleanUpBindingCall_eq, onTarget_run, tryCleanUpBinding_eq_of_answers (hw.1.stores t)]
    rw [hrun]
    exact ⟨by simpa using cleanUpBinding_run_of_ne_none (hw.2 _ _ (CleanedBinding.mk hstep)),
      preserves_accepting_onTarget (cleanUpBinding_answers _ _) t w hw.1,
      fun t' key hkey => preserves_store_onTarget (Q := fun st => st.bindings key ≠ none)
        (fun _ => cleanUpBinding_bindings_ne_none) t t' w (hw.2 t' key hkey)⟩
  have hphase : SucceedsFrom P (ensureProjectPhase .terminating) := fun w hw =>
    ⟨ensureProjectPhase_ok _ w (by rw [hw.1.project]),
      Preserves.ensureProjectPhase (fun w => hproject w _) w hw⟩
  have hremove : SucceedsFrom P (tryRemoveFinalizer CleanupFinalizerName) := fun w hw =>
    ⟨tryRemoveFinalizer_ok (by rw [hw.1.project]), Preserves.tryRemoveFinalizer (fun w => hproject w _) w hw⟩
  exact ((hphase.wrapError _).bind fun _ => (hloop .cluster).bind fun _ =>
    (hloop .namespaced).bind fun _ => hremove) w ⟨hacc, hbound⟩ |>.1

/-- **A successful cleanup takes the project's groups out of its bindings.** After
`ensureProjectCleanup` returned no error, no binding it edited holds a subject of the
binding generated for the group and resource it was edited for. -/
theorem ensureProjectCleanup_removes_subjects {s : Scope} {t : Target}
    {groupName resource : String} {pr : ProjectResource}
    (hstep : .call t groupName resource pr ∈ loopSteps c s project.name)
    {x : Subject} (hx : x ∈ (generatedBinding c s groupName resource pr).subjects) (w : World)
    (hok : ((ensureProjectCleanup c project).run.run w).1 = .ok ()) :
    ∀ stored, (((ensureProjectCleanup c project).run.run w).2.store t).bindings
      (cleanUpKey c s groupName resource pr) = some stored → x ∉ stored := by
  let Q : Store → Prop := fun st => ∀ stored,
    st.bindings (cleanUpKey c s groupName resource pr) = some stored → x ∉ stored
  have call (s' : Scope) (t' : Target) (groupName' resource' : String) (pr' : ProjectResource) :
      Preserves (fun w => Q (w.store t)) (onTarget t' (cleanUpBindingCall c s' groupName' resource' pr')) := by
    rw [cleanUpBindingCall_eq]
    exact .onTarget_of_cases (tryCleanUpBinding_cases _ _) <|
      preserves_store_onTarget (Q := Q) (fun _ => cleanUpBinding_keeps_not_mem) t' t
  have keeps (s' : Scope) : Preserves (fun w => Q (w.store t))
      (forBindings c s' project.name (cleanUpBindingCall c s')) :=
    preserves_forBindings (call s')
  have hloop : Establishes (fun w => Q (w.store t))
      (forBindings c s project.name (cleanUpBindingCall c s)) := by
    refine establishes_forBindings hstep ?_ (call s)
    rw [cleanUpBindingCall_eq]
    refine .onTarget_of_cases (tryCleanUpBinding_cases _ _) fun w _ _ => ?_
    simp only [onTarget_run, World.store_setStore]
    exact cleanUpBinding_not_mem hx
  have hremove := preserves_store_tryRemoveFinalizer Q t CleanupFinalizerName
  have hest : Establishes (fun w => Q (w.store t)) (ensureProjectCleanup c project) := by
    refine Establishes.bind_right fun _ => ?_
    cases s with
    | cluster => exact hloop.bind_left fun _ => (keeps .namespaced).bind fun _ => hremove
    | namespaced => exact Establishes.bind_right fun _ => hloop.bind_left fun _ => hremove
  exact hest w () hok

end Cleanup

/-! ## A project whose first sync failed -/

/-- A controller with one cluster-scoped resource whose ClusterRoleBindings live on the seed
`europe`, and the groups `owners` and `viewers`. -/
def sampleProjectController : ProjectController where
  projectResources := [{ kind := "Cluster", destination := .seed }]
  seeds := ["europe"]
  restMapping _ := .ok { group := "kubermatic.k8c.io", resource := "clusters" }
  allGroupsPrefixes := ["owners", "viewers"]
  schemeGroup := "kubermatic.k8c.io"
  generateActualGroupNameFor projectName groupPrefix := groupPrefix ++ "-" ++ projectName
  generateClusterRBACRoleForResource groupName resource _ _ :=
    .ok (some { name := "kubermatic:" ++ resource ++ ":" ++ groupName, rules := [{ verbs := ["get"] }] })
  generateRBACRoleForResource _ _ _ _ _ := .ok none
  generateClusterRBACRoleBindingForResource resource groupName :=
    { name := "kubermatic:" ++ resource ++ ":" ++ groupName
      subjects := [{ kind := "Group", name := groupName }] }
  generateRBACRoleBindingForResource resource groupName ns :=
    { ns := ns, name := "kubermatic:" ++ resource ++ ":" ++ groupName
      subjects := [{ kind := "Group", name := groupName }] }
  ensureClusterRBACRoleForNamedResource _ roles := (.ok (), roles)
  ensureClusterRBACRoleBindingForNamedResource _ s := (.ok (), s)

/-- The project `p` being deleted after a first sync that added the cleanup finalizer and
created the `owners` binding on the seed, and failed before the `viewers` one. -/
def sampleDeletingProject : Project :=
  { name := "p", finalizers := [CleanupFinalizerName], phase := some .active,
    deletionTimestamp := true }

def sampleSeedStore : Store where
  bindings key := if key = { name := "kubermatic:clusters:owners-p" } then
    some [{ kind := "Group", name := "owners-p" }] else none

def sampleProjectWorld : World where
  project := sampleDeletingProject
  master := { bindings := fun _ => none }
  seed _ := sampleSeedStore
  roles _ := { rules := fun _ => none }

theorem ensureProjectCleanup_removes_finalizer_only_on_success_sample :
    (ensureProjectCleanup sampleProjectController sampleDeletingProject).run.run
      sampleProjectWorld |>.2.project.finalizers = [CleanupFinalizerName] :=
  (ensureProjectCleanup_removes_finalizer_only_on_success sampleProjectController
    sampleDeletingProject sampleProjectWorld).2 _ rfl

theorem ensureProjectCleanup_fails_on_missing_viewers_binding :
    CleanedBinding sampleProjectController sampleDeletingProject (.seed "europe")
      { name := "kubermatic:clusters:viewers-p" } ∧
    (sampleProjectWorld.store (.seed "europe")).bindings
      { name := "kubermatic:clusters:viewers-p" } = none ∧
    (∃ e, ((ensureProjectCleanup sampleProjectController sampleDeletingProject).run.run
      sampleProjectWorld).1 = .error e) ∧
    ((ensureProjectCleanup sampleProjectController sampleDeletingProject).run.run
      sampleProjectWorld).2.project.finalizers = [CleanupFinalizerName] :=
  have hkey : CleanedBinding sampleProjectController sampleDeletingProject (.seed "europe")
      { name := "kubermatic:clusters:viewers-p" } :=
    @CleanedBinding.mk _ _ .cluster _ "viewers-p" "clusters" _
      (List.mem_cons_of_mem _ (List.mem_singleton_self _))
  have hw : (sampleProjectWorld.store (.seed "europe")).bindings
      { name := "kubermatic:clusters:viewers-p" } = none := by decide
  ⟨hkey, hw, ensureProjectCleanup_fails_on_missing_binding _ _ hkey _ hw⟩

/-- The deletion of `sampleDeletingProject` is stuck: the cleanup removes `owners-p` from
its binding, then stops at the `NotFound` of the missing `viewers` binding, and the
project keeps `CleanupFinalizerName`. -/
theorem ensureProjectCleanup_missing_binding_keeps_finalizer :
    ((ensureProjectCleanup sampleProjectController sampleDeletingProject).run.run
      sampleProjectWorld).1 = .error (.notFound { name := "kubermatic:clusters:viewers-p" }) ∧
    ((ensureProjectCleanup sampleProjectController sampleDeletingProject).run.run
      sampleProjectWorld).2.project =
      { sampleDeletingProject with phase := some .terminating } ∧
    (((ensureProjectCleanup sampleProjectController sampleDeletingProject).run.run
      sampleProjectWorld).2.seed "europe").bindings { name := "kubermatic:clusters:owners-p" } =
      some [] :=
  ⟨rfl, rfl, rfl⟩

/-- The seed once the sample project's first sync created both its bindings, the
`viewers` one shared with a project `q`. -/
def sampleBoundSeedStore : Store where
  bindings key :=
    if key = { name := "kubermatic:clusters:owners-p" } then
      some [{ kind := "Group", name := "owners-p" }]
    else if key = { name := "kubermatic:clusters:viewers-p" } then
      some [{ kind := "Group", name := "viewers-p" }, { kind := "Group", name := "viewers-q" }]
    else none

/-- The sample project once its first sync created both its bindings on the seed. -/
def sampleBoundWorld : World where
  project := sampleDeletingProject
  master := { bindings := fun _ => none }
  seed _ := sampleBoundSeedStore
  roles _ := { rules := fun _ => none }

theorem ensureProjectCleanup_removes_owners_subject :
    ((ensureProjectCleanup sampleProjectController sampleDeletingProject).run.run
      sampleBoundWorld).1 = .ok () ∧
    ∀ stored, (((ensureProjectCleanup sampleProjectController sampleDeletingProject).run.run
      sampleBoundWorld).2.store (.seed "europe")).bindings
        { name := "kubermatic:clusters:owners-p" } = some stored →
      { kind := "Group", name := "owners-p" } ∉ stored :=
  have hok : ((ensureProjectCleanup sampleProjectController sampleDeletingProject).run.run
      sampleBoundWorld).1 = .ok () := rfl
  ⟨hok, ensureProjectCleanup_removes_subjects sampleProjectController sampleDeletingProject
    (s := .cluster) (List.mem_cons_self _ _) (List.mem_singleton_self _) sampleBoundWorld hok⟩

end Kubermatic.RBAC
