import Mathlib.Data.List.Nodup
import Mathlib.Logic.Function.Basic

/-!
# The shared RBAC bindings of projects

The RBAC controller of the master controller manager
(`pkg/controller/master-controller-manager/rbac/sync_project.go`) gives the groups of a
project access to the project's resources through (Cluster)RoleBindings that all
projects share: the binding of a resource and a group prefix has one name, and each
project adds its own groups to its subjects. `ensureClusterRBACRoleBindingForResource`
and `ensureRBACRoleBindingForResource` add the subjects a project's generated binding
has and the stored one lacks; `cleanUpClusterRBACRoleBindingFor` and
`cleanUpRBACRoleBindingFor` remove them when the project goes.

The four functions differ in the kind of binding and in the key they read it under,
so each is the generic `tryEnsureBinding` or `tryCleanUpBinding` at its own key. Each of
their calls – the `Get`, the `Create`, the `Update` – may fail, as the server `Answers`;
`ensureBinding` and `cleanUpBinding` say what they do when the server carries them out,
and a call either does that or fails and leaves the server as it was
(`tryEnsureBinding_cases`, `tryCleanUpBinding_cases`). The generators of the bindings are
not among the sources and are parameters; a `SharedBinding` is one binding's key with a
subject list per project, carrying as fields what the claim about it assumes: each
project's list is duplicate-free and no two projects share a subject.

The main result, `SharedBinding.run_subjects`, is about every interleaving of the
projects' ensure and cleanup steps that go through: the subjects of no project stay, in
their order, and each project's subjects are there exactly when its last step was an
ensure. A run of the calls, some of which fail, is the run of those that went through
(`SharedBinding.tryRun_eq_run`).
-/

namespace Kubermatic.RBAC

/-! ## Bindings in the API server -/

/-- `rbacv1.Subject`; `equality.Semantic.DeepEqual` on subjects is equality. -/
structure Subject where
  kind : String
  apiGroup : String := ""
  name : String
  /-- `Namespace`. -/
  ns : String := ""
  deriving DecidableEq, Repr

/-- Where an RBAC object is stored: a ClusterRole(Binding) under its name, with the empty
namespace, a Role(Binding) under its namespace and name. -/
structure BindingKey where
  /-- `Namespace`. -/
  ns : String := ""
  name : String
  deriving DecidableEq, Repr

/-- A generated (Cluster)RoleBinding: its namespace and name, and its subjects. -/
structure Binding where
  /-- `Namespace`. -/
  ns : String := ""
  name : String
  subjects : List Subject
  deriving DecidableEq, Repr

/-- A write to the API server. -/
inductive Write
  | create (key : BindingKey) (subjects : List Subject)
  | update (key : BindingKey) (subjects : List Subject)
  deriving DecidableEq, Repr

/-- An error a call returns: the `NotFound` of a `Get` on a missing object, another one,
or one of them wrapped by `fmt.Errorf` under a context. -/
inductive GoError
  | notFound (key : BindingKey)
  | msg (text : String)
  | wrapped (context : String) (err : GoError)
  deriving DecidableEq, Repr

/-- How an API server answers the calls on bindings it does not carry out: the error of a
`Get` that fails other than with the `NotFound` of a missing binding, and the error of a
write it refuses. By default it carries out every call. -/
structure Answers where
  getError : BindingKey → Option String := fun _ => none
  writeError : Write → Option String := fun _ => none

/-- The bindings an API server stores, by key, the writes made to it, and how it answers
the calls on them. -/
structure Store where
  bindings : BindingKey → Option (List Subject)
  writes : List Write := []
  answers : Answers := {}

/-- The store after a write went through. -/
def Store.write (s : Store) : Write → Store
  | .create k subjects =>
    { s with
      bindings := Function.update s.bindings k (some subjects)
      writes := s.writes ++ [.create k subjects] }
  | .update k subjects =>
    { s with
      bindings := Function.update s.bindings k (some subjects)
      writes := s.writes ++ [.update k subjects] }

/-- The `Get` of the binding under `key`: its subjects, the `NotFound` of a missing
binding, or the server's error. -/
def Store.get (s : Store) (key : BindingKey) : Except GoError (List Subject) :=
  match s.answers.getError key, s.bindings key with
  | some e, _ => .error (.msg e)
  | none, none => .error (.notFound key)
  | none, some subjects => .ok subjects

/-- A `Create` or an `Update`: carried out, or refused with the server's error. -/
def Store.tryWrite (s : Store) (w : Write) : Except GoError Unit × Store :=
  match s.answers.writeError w with
  | some e => (.error (.msg e), s)
  | none => (.ok (), s.write w)

@[simp] theorem Store.write_answers (s : Store) (w : Write) : (s.write w).answers = s.answers := by
  cases w <;> rfl

@[simp] theorem Store.write_update_bindings (s : Store) (k : BindingKey) (subjects : List Subject) :
    (s.write (.update k subjects)).bindings = Function.update s.bindings k (some subjects) := rfl

@[simp] theorem Store.write_update_writes (s : Store) (k : BindingKey) (subjects : List Subject) :
    (s.write (.update k subjects)).writes = s.writes ++ [.update k subjects] := rfl

/-! ## The code -/

/-- The loop building `subjectsToAdd`: the generated subjects no existing one equals, in
their order. -/
def subjectsToAdd (existing generated : List Subject) : List Subject :=
  generated.filter fun g => !existing.contains g

/-- The loop building `updatedListOfSubjectes`: the existing subjects no generated one
equals, in their order. -/
def updatedListOfSubjects (existing generated : List Subject) : List Subject :=
  existing.filter fun e => !generated.contains e

/-- The body of the two `ensure...RoleBindingForResource` functions, on the binding
stored under `key`: the `NotFound` of the `Get` of a missing binding is answered by the
`Create` of the generated one, and another error of the `Get` is returned; an existing
binding gets the generated subjects it lacks appended, by an `Update` made only when there
are some. -/
def tryEnsureBinding (key : BindingKey) (generated : List Subject) (s : Store) :
    Except GoError Unit × Store :=
  match s.get key with
  | .error (.notFound _) => s.tryWrite (.create key generated)
  | .error e => (.error e, s)
  | .ok existing =>
    if (subjectsToAdd existing generated).length = 0 then (.ok (), s)
    else s.tryWrite (.update key (existing ++ subjectsToAdd existing generated))

/-- The body of the two `cleanUp...RoleBindingFor` functions, on the binding stored under
`key`: the error of the `Get`, the `NotFound` of a missing binding included, is returned;
an existing binding is updated to the subjects the generated binding does not have. -/
def tryCleanUpBinding (key : BindingKey) (generated : List Subject) (s : Store) :
    Except GoError Unit × Store :=
  match s.get key with
  | .error e => (.error e, s)
  | .ok existing => s.tryWrite (.update key (updatedListOfSubjects existing generated))

/-- What `tryEnsureBinding` does on a server that carries out its calls: a missing binding
is created as generated; an existing one gets the generated subjects it lacks appended,
by an `Update` made only when there are some. -/
def ensureBinding (key : BindingKey) (generated : List Subject) (s : Store) :
    Except GoError Unit × Store :=
  match s.bindings key with
  | none => (.ok (), s.write (.create key generated))
  | some existing =>
    if (subjectsToAdd existing generated).length = 0 then (.ok (), s)
    else (.ok (), s.write (.update key (existing ++ subjectsToAdd existing generated)))

/-- What `tryCleanUpBinding` does on a server that carries out its calls: the `Get` of a
missing binding returns its `NotFound`; an existing one is updated to the subjects the
generated binding does not have. -/
def cleanUpBinding (key : BindingKey) (generated : List Subject) (s : Store) :
    Except GoError Unit × Store :=
  match s.bindings key with
  | none => (.error (.notFound key), s)
  | some existing => (.ok (), s.write (.update key (updatedListOfSubjects existing generated)))

theorem ensureBinding_ok (key : BindingKey) (generated : List Subject) (s : Store) :
    (ensureBinding key generated s).1 = .ok () := by
  unfold ensureBinding
  split
  · rfl
  · split <;> rfl

theorem ensureBinding_answers (key : BindingKey) (generated : List Subject) (s : Store) :
    (ensureBinding key generated s).2.answers = s.answers := by
  unfold ensureBinding
  split
  · simp
  · split <;> simp

theorem cleanUpBinding_answers (key : BindingKey) (generated : List Subject) (s : Store) :
    (cleanUpBinding key generated s).2.answers = s.answers := by
  unfold cleanUpBinding
  split <;> simp

/-- **An ensure either does what `ensureBinding` says or fails and leaves the server as it
was.** -/
theorem tryEnsureBinding_cases (key : BindingKey) (generated : List Subject) (s : Store) :
    tryEnsureBinding key generated s = ensureBinding key generated s ∨
      ∃ e, tryEnsureBinding key generated s = (.error e, s) := by
  unfold tryEnsureBinding ensureBinding Store.get Store.tryWrite
  cases s.answers.getError key with
  | some e => exact .inr ⟨_, rfl⟩
  | none =>
    cases s.bindings key with
    | none => dsimp only; split <;> simp
    | some existing =>
      dsimp only
      split_ifs
      · exact .inl rfl
      · split <;> simp

/-- **A cleanup either does what `cleanUpBinding` says or fails and leaves the server as it
was.** -/
theorem tryCleanUpBinding_cases (key : BindingKey) (generated : List Subject) (s : Store) :
    tryCleanUpBinding key generated s = cleanUpBinding key generated s ∨
      ∃ e, tryCleanUpBinding key generated s = (.error e, s) := by
  unfold tryCleanUpBinding cleanUpBinding Store.get Store.tryWrite
  cases s.answers.getError key with
  | some e => exact .inr ⟨_, rfl⟩
  | none =>
    cases s.bindings key with
    | none => exact .inl rfl
    | some existing => dsimp only; split <;> simp

/-- On a server that carries out every call, a cleanup is `cleanUpBinding`. -/
theorem tryCleanUpBinding_eq_of_answers {s : Store} (h : s.answers = {}) (key : BindingKey)
    (generated : List Subject) : tryCleanUpBinding key generated s = cleanUpBinding key generated s := by
  unfold tryCleanUpBinding cleanUpBinding Store.get Store.tryWrite
  rw [h]
  cases s.bindings key <;> rfl

section Members

variable (generateClusterRBACRoleBindingForResource : String → String → Binding)
  (generateRBACRoleBindingForResource : String → String → String → Binding)

/-- `ensureClusterRBACRoleBindingForResource`: the ClusterRoleBinding is read under its
name. -/
def ensureClusterRBACRoleBindingForResource (groupName resource : String) (s : Store) :
    Except GoError Unit × Store :=
  let generated := generateClusterRBACRoleBindingForResource resource groupName
  tryEnsureBinding { name := generated.name } generated.subjects s

/-- `ensureRBACRoleBindingForResource`: the RoleBinding is read under the namespace and
name of the generated one. -/
def ensureRBACRoleBindingForResource (groupName resource ns : String) (s : Store) :
    Except GoError Unit × Store :=
  let generated := generateRBACRoleBindingForResource resource groupName ns
  tryEnsureBinding { ns := generated.ns, name := generated.name } generated.subjects s

/-- `cleanUpClusterRBACRoleBindingFor`. -/
def cleanUpClusterRBACRoleBindingFor (groupName resource : String) (s : Store) :
    Except GoError Unit × Store :=
  let generated := generateClusterRBACRoleBindingForResource resource groupName
  tryCleanUpBinding { name := generated.name } generated.subjects s

/-- `cleanUpRBACRoleBindingFor`: unlike `ensureRBACRoleBindingForResource`, it reads the
RoleBinding under the namespace it is given, not under the generated one's. -/
def cleanUpRBACRoleBindingFor (groupName resource ns : String) (s : Store) :
    Except GoError Unit × Store :=
  let generated := generateRBACRoleBindingForResource resource groupName ns
  tryCleanUpBinding { ns := ns, name := generated.name } generated.subjects s

/-- The namespaced cleanup reads the binding the namespaced ensure writes as long as the
generator puts a RoleBinding in the namespace it is asked for. -/
theorem cleanUpRBACRoleBindingFor_eq_of_namespace {groupName resource ns : String}
    (h : (generateRBACRoleBindingForResource resource groupName ns).ns = ns) :
    cleanUpRBACRoleBindingFor generateRBACRoleBindingForResource groupName resource ns =
      tryCleanUpBinding
        { ns := (generateRBACRoleBindingForResource resource groupName ns).ns,
          name := (generateRBACRoleBindingForResource resource groupName ns).name }
        (generateRBACRoleBindingForResource resource groupName ns).subjects := by
  rw [h]
  rfl

end Members

@[simp] theorem mem_subjectsToAdd {x : Subject} {existing generated : List Subject} :
    x ∈ subjectsToAdd existing generated ↔ x ∈ generated ∧ x ∉ existing := by
  simp [subjectsToAdd]

@[simp] theorem mem_updatedListOfSubjects {x : Subject} {existing generated : List Subject} :
    x ∈ updatedListOfSubjects existing generated ↔ x ∈ existing ∧ x ∉ generated := by
  simp [updatedListOfSubjects]

/-- **`ensureBinding` issues an `Update` exactly when a generated subject is missing.** -/
theorem ensureBinding_writes {key : BindingKey} {generated existing : List Subject} {s : Store}
    (h : s.bindings key = some existing) :
    ((∃ x ∈ generated, x ∉ existing) →
      (ensureBinding key generated s).2.writes =
        s.writes ++ [.update key (existing ++ subjectsToAdd existing generated)]) ∧
    ((∀ x ∈ generated, x ∈ existing) → (ensureBinding key generated s).2.writes = s.writes) := by
  refine ⟨fun ⟨x, hx, hmissing⟩ => ?_, fun hall => ?_⟩
  · have hne : (subjectsToAdd existing generated).length ≠ 0 :=
      List.length_pos.mpr (List.ne_nil_of_mem (mem_subjectsToAdd.mpr ⟨hx, hmissing⟩)) |>.ne'
    simp [ensureBinding, h, hne]
  · have hnil : subjectsToAdd existing generated = [] :=
      List.eq_nil_iff_forall_not_mem.mpr fun x hx => (mem_subjectsToAdd.mp hx).2 (hall x (mem_subjectsToAdd.mp hx).1)
    simp [ensureBinding, h, hnil]

/-! ## One binding shared by projects -/

/-- **A binding shared by projects**: its key, and the subjects each project's generated
binding has, duplicate-free and disjoint from every other project's. -/
structure SharedBinding (P : Type) where
  key : BindingKey
  gen : P → List Subject
  gen_nodup : ∀ p, (gen p).Nodup
  gen_disjoint : ∀ p q, p ≠ q → ∀ x ∈ gen p, x ∉ gen q

/-- A step of a project on the shared binding: an ensure or a cleanup. -/
inductive Step (P : Type)
  | ensure (p : P)
  | cleanup (p : P)
  deriving DecidableEq, Repr

/-- The project a step is for. -/
def Step.project : Step P → P
  | .ensure p | .cleanup p => p

namespace SharedBinding

variable {P : Type} (B : SharedBinding P)

/-- A step that goes through, as the code runs it on the store. -/
def step (s : Store) : Step P → Store
  | .ensure p => (ensureBinding B.key (B.gen p) s).2
  | .cleanup p => (cleanUpBinding B.key (B.gen p) s).2

/-- Steps run one after the other, in any order across projects. -/
def run (steps : List (Step P)) (s : Store) : Store :=
  steps.foldl B.step s

/-- A step as the code makes it, on a server that may fail its calls. -/
def tryStep (s : Store) : Step P → Except GoError Unit × Store
  | .ensure p => tryEnsureBinding B.key (B.gen p) s
  | .cleanup p => tryCleanUpBinding B.key (B.gen p) s

/-- The calls of steps made one after the other, each on the store the one before left,
whatever it returned – each project's syncs retry on their own –: the steps whose calls
returned no error, and the store. -/
def tryRun : List (Step P) → Store → List (Step P) × Store
  | [], s => ([], s)
  | st :: steps, s =>
    let rest := tryRun steps (B.tryStep s st).2
    (if (B.tryStep s st).1.isOk then st :: rest.1 else rest.1, rest.2)

/-- A step's call either returns no error and does what `step` does, or fails and leaves
the server as it was. -/
theorem tryStep_cases (s : Store) (st : Step P) :
    ((B.tryStep s st).1 = .ok () ∧ (B.tryStep s st).2 = B.step s st) ∨
      ∃ e, (B.tryStep s st).1 = .error e ∧ (B.tryStep s st).2 = s := by
  cases st with
  | ensure p =>
    rcases tryEnsureBinding_cases B.key (B.gen p) s with h | ⟨e, h⟩ <;>
      simp [tryStep, step, h, ensureBinding_ok]
  | cleanup p =>
    rcases tryCleanUpBinding_cases B.key (B.gen p) s with h | ⟨e, h⟩ <;> simp only [tryStep, step, h]
    · unfold cleanUpBinding
      split <;> simp
    · simp

/-- **A run of the calls is the run of the steps whose calls returned no error**, which
keep their order. -/
theorem tryRun_eq_run (steps : List (Step P)) (s : Store) :
    (B.tryRun steps s).1.Sublist steps ∧ (B.tryRun steps s).2 = B.run (B.tryRun steps s).1 s := by
  induction steps generalizing s with
  | nil => exact ⟨.slnil, rfl⟩
  | cons st steps ih =>
    rcases B.tryStep_cases s st with ⟨hok, h⟩ | ⟨e, herr, h⟩
    · obtain ⟨hsub, hrun⟩ := ih (B.step s st)
      simp only [tryRun, hok, h, Except.isOk, Except.toBool, if_true]
      exact ⟨hsub.cons₂ st, hrun⟩
    · obtain ⟨hsub, hrun⟩ := ih s
      simp only [tryRun, herr, h, Except.isOk, Except.toBool, Bool.false_eq_true, if_false]
      exact ⟨hsub.cons st, hrun⟩

/-- What a step does to the shared binding's subjects. -/
def stepSubjects (S : List Subject) : Step P → List Subject
  | .ensure p => S ++ subjectsToAdd S (B.gen p)
  | .cleanup p => updatedListOfSubjects S (B.gen p)

theorem step_bindings {s : Store} {S : List Subject} (h : s.bindings B.key = some S)
    (st : Step P) : (B.step s st).bindings B.key = some (B.stepSubjects S st) := by
  cases st with
  | ensure p =>
    simp only [step, ensureBinding, h, stepSubjects]
    split
    · rename_i h0
      simp [List.length_eq_zero.mp h0, h]
    · simp
  | cleanup p => simp [step, cleanUpBinding, h, stepSubjects]

/-- A run of the code is the run of `stepSubjects` on the binding's subjects. -/
theorem run_bindings (steps : List (Step P)) {s : Store} {S : List Subject}
    (h : s.bindings B.key = some S) :
    (B.run steps s).bindings B.key = some (steps.foldl B.stepSubjects S) := by
  induction steps generalizing s S with
  | nil => exact h
  | cons st steps ih => exact ih (B.step_bindings h st)

/-- A step of another project leaves a subject as it was. -/
theorem mem_stepSubjects_of_not_mem {x : Subject} {st : Step P} (hx : x ∉ B.gen st.project)
    (S : List Subject) : x ∈ B.stepSubjects S st ↔ x ∈ S := by
  cases st <;> simp_all [stepSubjects, Step.project]

/-- Steps none of which is of `p` leave each subject of `p` as it was. -/
theorem mem_foldl_of_forall_ne {x : Subject} {p : P} (hx : x ∈ B.gen p) (later : List (Step P))
    (hlater : ∀ st ∈ later, st.project ≠ p) (S : List Subject) :
    x ∈ later.foldl B.stepSubjects S ↔ x ∈ S := by
  induction later generalizing S with
  | nil => rfl
  | cons st later ih =>
    rw [List.foldl_cons, ih (fun st' h => hlater st' (.tail _ h))]
    exact B.mem_stepSubjects_of_not_mem
      (B.gen_disjoint p st.project (hlater st (.head _)).symm x hx) S

/-- A subject no project generates keeps its place among the others. -/
theorem sublist_foldl {L S : List Subject} (hL : L.Sublist S) (hfree : ∀ x ∈ L, ∀ p, x ∉ B.gen p)
    (steps : List (Step P)) : L.Sublist (steps.foldl B.stepSubjects S) := by
  induction steps generalizing S with
  | nil => exact hL
  | cons st steps ih =>
    refine ih ?_
    cases st with
    | ensure p => exact hL.trans (List.sublist_append_left _ _)
    | cleanup p =>
      have hkeep : L.filter (fun e => !(B.gen p).contains e) = L :=
        List.filter_eq_self.mpr fun x hx => by simpa using hfree x hx p
      rw [← hkeep]
      exact hL.filter _

theorem nodup_foldl {S : List Subject} (hS : S.Nodup) (steps : List (Step P)) :
    (steps.foldl B.stepSubjects S).Nodup := by
  induction steps generalizing S with
  | nil => exact hS
  | cons st steps ih =>
    refine ih ?_
    cases st with
    | ensure p =>
      exact hS.append ((B.gen_nodup p).filter _) fun x hx hx' => (mem_subjectsToAdd.mp hx').2 hx
    | cleanup p => exact hS.filter _

/-- **What a run leaves on the shared binding**, from the subjects `S₀` to `S`: the
subjects of no project, in their order; the subjects of every project whose last step
was an ensure; none of a project whose last step was a cleanup; and no duplicate if
there was none. -/
structure RunOutcome (steps : List (Step P)) (S₀ S : List Subject) : Prop where
  keeps_foreign : ∀ L : List Subject, L.Sublist S₀ → (∀ x ∈ L, ∀ p, x ∉ B.gen p) → L.Sublist S
  ensured : ∀ p earlier later, steps = earlier ++ .ensure p :: later →
    (∀ st ∈ later, st.project ≠ p) → ∀ x ∈ B.gen p, x ∈ S
  cleaned : ∀ p earlier later, steps = earlier ++ .cleanup p :: later →
    (∀ st ∈ later, st.project ≠ p) → ∀ x ∈ B.gen p, x ∉ S
  nodup : S₀.Nodup → S.Nodup

theorem runOutcome_foldl (steps : List (Step P)) (S₀ : List Subject) :
    B.RunOutcome steps S₀ (steps.foldl B.stepSubjects S₀) where
  keeps_foreign L hL hfree := B.sublist_foldl hL hfree steps
  ensured p earlier later hsteps hlater x hx := by
    rw [hsteps, List.foldl_append, List.foldl_cons, B.mem_foldl_of_forall_ne hx later hlater]
    by_cases hin : x ∈ earlier.foldl B.stepSubjects S₀ <;> simp [stepSubjects, hin, hx]
  cleaned p earlier later hsteps hlater x hx := by
    rw [hsteps, List.foldl_append, List.foldl_cons, B.mem_foldl_of_forall_ne hx later hlater]
    simp [stepSubjects, hx]
  nodup hS := B.nodup_foldl hS steps

/-- **The shared binding under every interleaving of projects.** From a stored binding
with subjects `S₀`, every sequence of ensure and cleanup steps, in any order across
projects, leaves a binding whose subjects keep the subjects of no project in their
order, have every subject of a project whose last step was an ensure and none of a
project whose last step was a cleanup, and have no duplicate when `S₀` had none. An
ensure issues an `Update` exactly when one of its project's subjects is missing. -/
theorem run_subjects (steps : List (Step P)) (s₀ : Store) (S₀ : List Subject)
    (h₀ : s₀.bindings B.key = some S₀) :
    (∃ S, (B.run steps s₀).bindings B.key = some S ∧ B.RunOutcome steps S₀ S) ∧
    ∀ p (s : Store) E, s.bindings B.key = some E →
      ((∃ x ∈ B.gen p, x ∉ E) →
        (ensureBinding B.key (B.gen p) s).2.writes =
          s.writes ++ [.update B.key (E ++ subjectsToAdd E (B.gen p))]) ∧
      ((∀ x ∈ B.gen p, x ∈ E) → (ensureBinding B.key (B.gen p) s).2.writes = s.writes) :=
  ⟨⟨_, B.run_bindings steps h₀, B.runOutcome_foldl steps S₀⟩, fun _ _ _ h => ensureBinding_writes h⟩

/-- **The shared binding under every interleaving of calls, some of which fail.** From a
stored binding with subjects `S₀`, every sequence of ensure and cleanup calls of the
projects, on a server that may fail any `Get` and refuse any write, leaves the store the
run of the steps whose calls returned no error leaves, in their order; so the binding's
subjects keep the subjects of no project in their order, have every subject of a project
whose last call that returned no error was an ensure and none of a project whose last such
call was a cleanup, and have no duplicate when `S₀` had none. -/
theorem tryRun_subjects (steps : List (Step P)) (s₀ : Store) (S₀ : List Subject)
    (h₀ : s₀.bindings B.key = some S₀) :
    (B.tryRun steps s₀).1.Sublist steps ∧ (B.tryRun steps s₀).2 = B.run (B.tryRun steps s₀).1 s₀ ∧
      ∃ S, (B.tryRun steps s₀).2.bindings B.key = some S ∧
        B.RunOutcome (B.tryRun steps s₀).1 S₀ S := by
  obtain ⟨hsub, hrun⟩ := B.tryRun_eq_run steps s₀
  exact ⟨hsub, hrun, _, hrun ▸ B.run_bindings _ h₀, B.runOutcome_foldl _ S₀⟩

end SharedBinding

/-- Two projects, each with one group, sharing a binding. -/
def sampleSharedBinding : SharedBinding Bool where
  key := { name := "b" }
  gen p := [{ kind := "Group", name := if p then "owners-a" else "owners-b" }]
  gen_nodup _ := List.nodup_singleton _
  gen_disjoint p q hpq x hx hx' := by cases p <;> cases q <;> simp_all

/-- The first project ensures, the second ensures, the first cleans up. -/
theorem run_subjects_two_projects :
    (∃ S, (sampleSharedBinding.run [.ensure true, .ensure false, .cleanup true]
        { bindings := fun _ => some [] }).bindings sampleSharedBinding.key = some S ∧
      sampleSharedBinding.RunOutcome [.ensure true, .ensure false, .cleanup true] [] S) ∧
    ∀ p (s : Store) E, s.bindings sampleSharedBinding.key = some E →
      ((∃ x ∈ sampleSharedBinding.gen p, x ∉ E) →
        (ensureBinding sampleSharedBinding.key (sampleSharedBinding.gen p) s).2.writes =
          s.writes ++ [.update sampleSharedBinding.key
            (E ++ subjectsToAdd E (sampleSharedBinding.gen p))]) ∧
      ((∀ x ∈ sampleSharedBinding.gen p, x ∈ E) →
        (ensureBinding sampleSharedBinding.key (sampleSharedBinding.gen p) s).2.writes =
          s.writes) :=
  sampleSharedBinding.run_subjects _ _ [] rfl

/-- The `Update` adding the second project's group to the first's. -/
def sampleRefusedUpdate : Write :=
  .update { name := "b" } [{ kind := "Group", name := "owners-a" }, { kind := "Group", name := "owners-b" }]

/-- A server that refuses `sampleRefusedUpdate`. -/
def sampleRefusingStore : Store where
  bindings _ := some []
  answers := { writeError := fun w => if w = sampleRefusedUpdate then some "conflict" else none }

/-- The first project ensures, the second's ensure is refused, the first cleans up. -/
theorem tryRun_subjects_refused_update :
    (sampleSharedBinding.tryRun [.ensure true, .ensure false, .cleanup true]
        sampleRefusingStore).1.Sublist [.ensure true, .ensure false, .cleanup true] ∧
      (sampleSharedBinding.tryRun [.ensure true, .ensure false, .cleanup true]
        sampleRefusingStore).2 =
        sampleSharedBinding.run (sampleSharedBinding.tryRun
          [.ensure true, .ensure false, .cleanup true] sampleRefusingStore).1 sampleRefusingStore ∧
      ∃ S, (sampleSharedBinding.tryRun [.ensure true, .ensure false, .cleanup true]
          sampleRefusingStore).2.bindings sampleSharedBinding.key = some S ∧
        sampleSharedBinding.RunOutcome (sampleSharedBinding.tryRun
          [.ensure true, .ensure false, .cleanup true] sampleRefusingStore).1 [] S :=
  sampleSharedBinding.tryRun_subjects _ sampleRefusingStore [] rfl

end Kubermatic.RBAC
