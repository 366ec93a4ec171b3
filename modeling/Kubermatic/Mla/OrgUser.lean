import Kubermatic.Finalizer

/-!
# The MLA controller's Grafana organization users

`orgUserGrafanaReconciler.Reconcile` (`pkg/controller/seed-controller-manager/mla`, file
`part_007` of the sources) keeps, for each `UserProjectBinding`, the binding's user a member
of the Grafana organization of the binding's project. It adds the MLA finalizer to the
binding before it asks Grafana for the member (`ensureOrgUser`), and it hands a binding
being deleted to `handleDeletion`, which deletes the member and then removes the
finalizer. `orgUserGrafanaController.CleanUp` puts every binding through `handleDeletion`.

The model:

* `State` holds the bindings the seed stores, in the order `List` returns them, and a log
  of what took effect: each call of `ensureOrgUser` and of `DeleteOrgUser`, with the
  binding it was made for and whether it succeeded, and each finalizer patch;
* each Go function is a function of the state, returning its error and the state it
  leaves. The seed API removes a binding being deleted as soon as its last finalizer is
  gone (`State.applyWrite`), and a user's deletion of a binding is `State.delete`;
* `Env` gathers what the code calls but does not define: the seed API's answers other than
  the bindings themselves, the Grafana client provider, and Grafana's answers.
  `ensureOrgUser` and `getOrgByProject` are declared outside the sources, and so is the
  name of the MLA finalizer, which is a parameter `mlaFinalizer`.

Kubernetes names are unique; the model does not rely on it, and a patch of a binding's
finalizers applies to every stored binding of that name.
-/

namespace Kubermatic.Mla

/-- `kubermaticv1.UserProjectBinding`: the fields the controller reads or writes.
`deletionTimestamp` is `!DeletionTimestamp.IsZero()`. -/
structure UserProjectBinding where
  name : String
  projectID : String := ""
  userEmail : String := ""
  finalizers : List String := []
  deletionTimestamp : Bool := false
  deriving DecidableEq, Repr

/-- `kubermaticv1.Project`, as `getOrgByProject` gets it. -/
structure Project where
  name : String := ""
  deriving DecidableEq, Repr

/-- What `r.Get` of the binding's project answered; `IsNotFound` errors are told apart. -/
inductive ProjectLookup
  | found (project : Project)
  | notFound (err : String)
  | failed (err : String)
  deriving DecidableEq, Repr

/-- What `grafanaClient.LookupUser` answered: the user's ID, `grafanasdk.ErrNotFound`, or
another error. -/
inductive UserLookup
  | found (userID : Nat)
  | notFound
  | failed (err : String)
  deriving DecidableEq, Repr

/-- `grafanasdk.StatusMessage`, returned by `DeleteOrgUser` with its error. -/
structure StatusMessage where
  status : Option String := none
  message : Option String := none
  deriving DecidableEq, Repr

/-- The two patches of a binding the controller sends, of the MLA finalizer. -/
inductive FinalizerWrite
  | addFinalizer
  | removeFinalizer
  deriving DecidableEq, Repr

/-- What the code calls but does not define. -/
structure Env where
  /-- `r.Get` of the binding failing with an error other than `NotFound`. -/
  getFails : Option String
  /-- `r.List` of the bindings failing. -/
  listFails : Option String
  /-- `clientProvider(ctx)`: its error, or whether the client it returns is not nil. -/
  clientProvider : Except String Bool
  /-- The seed API's answer to a finalizer patch of a binding: its error, if any. -/
  refuses : String → FinalizerWrite → Option String
  /-- `r.Get` of a project. -/
  getProject : String → ProjectLookup
  /-- `getOrgByProject`: the ID of the project's Grafana organization. -/
  getOrgByProject : Project → Except String Nat
  /-- `grafanaClient.LookupUser` of an email. -/
  lookupUser : String → UserLookup
  /-- `grafanaClient.DeleteOrgUser(orgID, userID)`: its error, if any, and its status. -/
  deleteOrgUser : Nat → Nat → Option String × StatusMessage
  /-- `ensureOrgUser` of a project and a binding: its error, if any. -/
  ensureOrgUser : Project → UserProjectBinding → Option String

/-- What took effect. -/
inductive Event
  /-- `ensureOrgUser` was called for the binding. -/
  | ensureOrgUser (binding : String) (ok : Bool)
  /-- `DeleteOrgUser` was called while deleting the binding. -/
  | deleteOrgUser (binding : String) (orgID userID : Nat) (ok : Bool)
  /-- A finalizer patch of the binding went through. -/
  | write (binding : String) (w : FinalizerWrite)
  deriving DecidableEq, Repr

/-- The bindings the seed stores, in the order `List` returns them, and what took effect,
oldest first. -/
structure State where
  bindings : List UserProjectBinding
  log : List Event := []
  deriving DecidableEq, Repr

/-- `r.Get` of the binding `name`: the stored binding of that name. -/
def State.find (s : State) (name : String) : Option UserProjectBinding :=
  s.bindings.find? (·.name = name)

/-- The state with an event appended to the log. -/
def State.record (s : State) (e : Event) : State :=
  { s with log := s.log ++ [e] }

section Model

variable (mlaFinalizer : String)

/-- The finalizers a patch leaves. -/
def FinalizerWrite.apply : FinalizerWrite → List String → List String
  | .addFinalizer, fs => Kubermatic.addFinalizer fs mlaFinalizer
  | .removeFinalizer, fs => Kubermatic.removeFinalizer fs [mlaFinalizer]

/-- A finalizer patch of the binding `name` that went through: stored and recorded. A
binding being deleted that is left with no finalizer is gone: the seed API removes it. -/
def State.applyWrite (s : State) (name : String) (w : FinalizerWrite) : State :=
  { bindings := (s.bindings.map fun b =>
        if b.name = name then { b with finalizers := w.apply mlaFinalizer b.finalizers } else b
      ).filter fun b => !(b.name = name && b.deletionTimestamp && b.finalizers.isEmpty)
    log := s.log ++ [.write name w] }

/-- A user deletes the binding `name` through the seed API: one with finalizers is marked
as being deleted, one with none is removed. -/
def State.delete (s : State) (name : String) : State :=
  { s with
    bindings := (s.bindings.filter fun b => !(b.name = name && b.finalizers.isEmpty)).map
      (fun b => if b.name = name then { b with deletionTimestamp := true } else b) }

variable (env : Env)

/-- A merge patch of a binding's finalizers: refused, its error is returned; accepted, it
is stored and recorded. -/
def patchFinalizers (name : String) (w : FinalizerWrite) (s : State) :
    Except String Unit × State :=
  match env.refuses name w with
  | some err => (.error err, s)
  | none => (.ok (), s.applyWrite mlaFinalizer name w)

/-- `kubernetes.TryAddFinalizer`, modelled from the spec: the finalizer added to the copy,
and a patch sent when that changed the list. -/
def tryAddFinalizer (b : UserProjectBinding) (s : State) : Except String Unit × State :=
  if mlaFinalizer ∈ b.finalizers then (.ok (), s)
  else patchFinalizers mlaFinalizer env b.name .addFinalizer s

/-- `kubernetes.TryRemoveFinalizer`, modelled from the spec. -/
def tryRemoveFinalizer (b : UserProjectBinding) (s : State) : Except String Unit × State :=
  if mlaFinalizer ∈ b.finalizers then
    patchFinalizers mlaFinalizer env b.name .removeFinalizer s
  else (.ok (), s)

/-- The error `handleDeletion` returns when `DeleteOrgUser` fails. -/
def deleteOrgUserError (err : String) (status : StatusMessage) : String :=
  "failed to delete org user: " ++ err ++ " (status: " ++ status.status.getD "no status" ++
    ", message: " ++ status.message.getD "no message" ++ ")"

/-- The project `handleDeletion` looks the organization up with: the one fetched, or Go's
zero value when the project was not found. -/
def projectOrZero : ProjectLookup → Project
  | .found project => project
  | _ => {}

/-- **`orgUserGrafanaController.handleDeletion`**, with a Grafana client or with a nil
one. An organization that cannot be found, with whatever error, and a user Grafana does not
know, leave nothing to delete. -/
def handleDeletion (b : UserProjectBinding) (client : Bool) (s : State) :
    Except String Unit × State :=
  if client then
    match env.getProject b.projectID with
    | .failed err => (.error ("failed to get project: " ++ err), s)
    | lookup =>
      match env.getOrgByProject (projectOrZero lookup) with
      | .error _ => tryRemoveFinalizer mlaFinalizer env b s
      | .ok orgID =>
        match env.lookupUser b.userEmail with
        | .failed err => (.error err, s)
        | .notFound => tryRemoveFinalizer mlaFinalizer env b s
        | .found userID =>
          match env.deleteOrgUser orgID userID with
          | (some err, status) =>
            (.error (deleteOrgUserError err status),
              s.record (.deleteOrgUser b.name orgID userID false))
          | (none, _) =>
            tryRemoveFinalizer mlaFinalizer env b
              (s.record (.deleteOrgUser b.name orgID userID true))
  else tryRemoveFinalizer mlaFinalizer env b s

/-- **`orgUserGrafanaReconciler.Reconcile`** of the binding `name`: the error it returns
(its `reconcile.Result` is always the zero one) and the state it leaves. -/
def Reconcile (name : String) (s : State) : Option String × State :=
  match env.getFails, s.find name with
  | some err, _ => (some err, s)
  | none, none => (none, s)
  | none, some b =>
    match env.clientProvider with
    | .error err => (some ("failed to create Grafana client: " ++ err), s)
    | .ok client =>
      if b.deletionTimestamp then
        match handleDeletion mlaFinalizer env b client s with
        | (.error err, s₁) => (some ("handling deletion: " ++ err), s₁)
        | (.ok (), s₁) => (none, s₁)
      else if !client then (none, s)
      else
        match tryAddFinalizer mlaFinalizer env b s with
        | (.error err, s₁) => (some ("failed to add finalizer: " ++ err), s₁)
        | (.ok (), s₁) =>
          match env.getProject b.projectID with
          | .failed err => (some ("failed to get project: " ++ err), s₁)
          | .notFound err => (some ("failed to get project: " ++ err), s₁)
          | .found project =>
            let b := { b with finalizers := addFinalizer b.finalizers mlaFinalizer }
            match env.ensureOrgUser project b with
            | some err =>
              (some ("unable to ensure Grafana Org/User: " ++ err),
                s₁.record (.ensureOrgUser b.name false))
            | none => (none, s₁.record (.ensureOrgUser b.name true))

/-- The loop of `CleanUp` over the bindings listed, returning at the first error. -/
def handleDeletions (client : Bool) : List UserProjectBinding → State → Option String × State
  | [], s => (none, s)
  | b :: bs, s =>
    match handleDeletion mlaFinalizer env b client s with
    | (.error err, s₁) => (some err, s₁)
    | (.ok (), s₁) => handleDeletions client bs s₁

/-- **`orgUserGrafanaController.CleanUp`**: every binding listed goes through
`handleDeletion`, in order. -/
def CleanUp (s : State) : Option String × State :=
  match env.listFails with
  | some err => (some err, s)
  | none =>
    match env.clientProvider with
    | .error err => (some ("failed to create Grafana client: " ++ err), s)
    | .ok client => handleDeletions mlaFinalizer env client s.bindings s

/-- What can happen to the bindings between two looks at them: a run of `Reconcile` on one,
a run of `CleanUp`, each with what it was answered, or a user deleting one. -/
inductive Step
  | reconcile (env : Env) (name : String)
  | cleanUp (env : Env)
  | delete (name : String)

/-- The state a step leaves. -/
def Step.run : Step → State → State
  | .reconcile env name, s => (Reconcile mlaFinalizer env name s).2
  | .cleanUp env, s => (CleanUp mlaFinalizer env s).2
  | .delete name, s => s.delete name

/-- Steps one after another. -/
def systemRun (steps : List Step) (s : State) : State :=
  steps.foldl (fun s step => step.run mlaFinalizer s) s

end Model

@[simp] theorem State.record_bindings (s : State) (e : Event) :
    (s.record e).bindings = s.bindings := rfl

@[simp] theorem State.record_log (s : State) (e : Event) : (s.record e).log = s.log ++ [e] := rfl

@[simp] theorem State.find_record (s : State) (e : Event) (name : String) :
    (s.record e).find name = s.find name := rfl

@[simp] theorem State.applyWrite_log (mlaFinalizer : String) (s : State) (name : String)
    (w : FinalizerWrite) : (s.applyWrite mlaFinalizer name w).log = s.log ++ [.write name w] :=
  rfl

@[simp] theorem State.delete_log (s : State) (name : String) : (s.delete name).log = s.log := rfl

@[simp] theorem systemRun_nil (mlaFinalizer : String) (s : State) :
    systemRun mlaFinalizer [] s = s := rfl

@[simp] theorem systemRun_cons (mlaFinalizer : String) (step : Step) (steps : List Step)
    (s : State) :
    systemRun mlaFinalizer (step :: steps) s =
      systemRun mlaFinalizer steps (step.run mlaFinalizer s) := rfl

end Kubermatic.Mla
