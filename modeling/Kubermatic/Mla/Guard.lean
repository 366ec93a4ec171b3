import Kubermatic.Mla.OrgUser

/-!
# What the MLA finalizer guards

The MLA finalizer is how the org-user controller keeps a deleted `UserProjectBinding`
around until its Grafana organization user is handled: the seed API removes a binding
being deleted only once its finalizers are gone. This module proves what the controller
does with it, over every answer of the seed API and of Grafana:

* the finalizer comes first: over any interleaving of runs of `Reconcile` and `CleanUp`
  with users' deletions, a binding for which `ensureOrgUser` was called, and whose
  finalizer has not been removed since, is stored and carries the finalizer
  (`guarded_systemRun`). The seed API cannot remove it before `handleDeletion` ran;
* a run of `Reconcile` removes the finalizer only from a binding being deleted, right
  after `DeleteOrgUser` succeeded, or when there was nothing it could delete: no Grafana
  client, no organization found for the project, whatever the error, or no such user in
  Grafana (`Reconcile_removes_finalizer_after_deleteOrgUser`). An organization lookup
  that fails for a passing reason thus lets the binding go with its organization user
  left in Grafana;
* a run of `CleanUp` that returns no error leaves no binding with the finalizer
  (`CleanUp_clears_finalizers`).
-/

namespace Kubermatic.Mla

/-! ## Looking bindings up by name -/

section Find

variable {m : String} {f : UserProjectBinding → UserProjectBinding}
  {q : UserProjectBinding → Bool}

/-- Looking up by name after a change that keeps names, then a removal that keeps every
changed binding of that name: the change of what was found. -/
theorem find?_filter_map (l : List UserProjectBinding) (hname : ∀ b, (f b).name = b.name)
    (hq : ∀ b, b.name = m → q (f b) = true) :
    ((l.map f).filter q).find? (·.name = m) = (l.find? (·.name = m)).map f := by
  induction l with
  | nil => rfl
  | cons b l ih =>
    by_cases hb : b.name = m
    · simp [hb, hname, hq b hb]
    · have hfb : (f b).name ≠ m := by rw [hname]; exact hb
      cases hqb : q (f b) <;> simp [List.filter_cons, hqb, hfb, hb, ih]

/-- A binding found by name is found again after a removal that keeps it. -/
theorem find?_filter_of_find? {l : List UserProjectBinding} {b : UserProjectBinding}
    (h : l.find? (·.name = m) = some b) (hq : q b = true) :
    (l.filter q).find? (·.name = m) = some b := by
  induction l with
  | nil => cases h
  | cons a l ih =>
    by_cases ha : a.name = m
    · rw [List.find?_cons_of_pos _ (by simpa using ha)] at h
      cases h
      simp [List.filter_cons, hq, ha]
    · rw [List.find?_cons_of_neg _ (by simpa using ha)] at h
      cases hqa : q a <;> simp [List.filter_cons, hqa, ha, ih h]

/-- Looking up by name after a change that keeps names: the change of what was found. -/
theorem find?_map_of_name (l : List UserProjectBinding) (hname : ∀ b, (f b).name = b.name) :
    (l.map f).find? (·.name = m) = (l.find? (·.name = m)).map f := by
  rw [List.find?_map]
  congr 2
  funext b
  simp [hname]

/-- A removal that keeps every binding of a name leaves what is found by it alone. -/
theorem find?_filter_of_forall (l : List UserProjectBinding)
    (hq : ∀ b, b.name = m → q b = true) :
    (l.filter q).find? (·.name = m) = l.find? (·.name = m) := by
  induction l with
  | nil => rfl
  | cons b l ih =>
    by_cases hb : b.name = m
    · simp [hb, hq b hb]
    · cases hqb : q b <;> simp [List.filter_cons, hqb, hb, ih]

/-- A change that leaves the bindings of a name alone leaves what is found by it alone. -/
theorem map_find?_of_fixed (l : List UserProjectBinding) (hf : ∀ b, b.name = m → f b = b) :
    (l.find? (·.name = m)).map f = l.find? (·.name = m) := by
  cases h : l.find? (·.name = m) with
  | none => rfl
  | some b => simp [hf b (by simpa using List.find?_some h)]

end Find

section Store

variable {mlaFinalizer : String} {s : State} {n m : String}

theorem State.find_name {b : UserProjectBinding} (h : s.find m = some b) : b.name = m := by
  simpa using List.find?_some h

theorem State.find_applyWrite_of_ne (w : FinalizerWrite) (h : m ≠ n) :
    (s.applyWrite mlaFinalizer n w).find m = s.find m := by
  simp only [State.find, State.applyWrite]
  rw [find?_filter_map _ (fun b => by split <;> rfl)
    (fun b hb => by simp [hb, h]), map_find?_of_fixed _ (fun b hb => by simp [hb, h])]

theorem State.find_applyWrite_addFinalizer {b : UserProjectBinding} (h : s.find n = some b) :
    (s.applyWrite mlaFinalizer n .addFinalizer).find n =
      some { b with finalizers := addFinalizer b.finalizers mlaFinalizer } := by
  obtain rfl := State.find_name h
  have h' : s.bindings.find? (·.name = b.name) = some b := h
  simp only [State.find, State.applyWrite]
  rw [find?_filter_map _ (fun b => by split <;> rfl) (fun b hb => ?_), h']
  · simp [FinalizerWrite.apply]
  · have hadd : (addFinalizer b.finalizers mlaFinalizer).isEmpty = false :=
      List.isEmpty_eq_false.mpr (List.ne_nil_of_mem (mem_addFinalizer.mpr (.inr rfl)))
    simp [hb, FinalizerWrite.apply, hadd]

theorem State.find_delete_of_ne (h : m ≠ n) : (s.delete n).find m = s.find m := by
  simp only [State.find, State.delete]
  rw [find?_map_of_name _ (fun b => by split <;> rfl),
    find?_filter_of_forall _ (fun b hb => by simp [hb, h]),
    map_find?_of_fixed _ (fun b hb => by simp [hb, h])]

/-- A user's deletion keeps a binding that has a finalizer, marked as being deleted. -/
theorem State.find_delete {b : UserProjectBinding} (h : s.find n = some b)
    (hb : b.finalizers ≠ []) :
    (s.delete n).find n = some { b with deletionTimestamp := true } := by
  have h' : s.bindings.find? (·.name = n) = some b := h
  simp only [State.find, State.delete]
  rw [find?_map_of_name _ (fun b => by split <;> rfl),
    find?_filter_of_find? h' (by simp [hb])]
  simp [State.find_name h]

end Store

/-! ## The invariant -/

/-- One event's effect on whether `ensureOrgUser` is pending for the binding `name`: a call
for it makes it pending, and a removal of its finalizer settles it. -/
def pendingAfter (name : String) (pending : Bool) : Event → Bool
  | .ensureOrgUser n _ => if n = name then true else pending
  | .write n .removeFinalizer => if n = name then false else pending
  | _ => pending

/-- Whether, in the log, `ensureOrgUser` was called for the binding `name` since its
finalizer was last removed: the controller is answerable for an organization user. -/
def ensurePending (log : List Event) (name : String) : Bool :=
  log.foldl (pendingAfter name) false

@[simp] theorem ensurePending_nil (name : String) : ensurePending [] name = false := rfl

@[simp] theorem ensurePending_concat (log : List Event) (e : Event) (name : String) :
    ensurePending (log ++ [e]) name = pendingAfter name (ensurePending log name) e := by
  simp [ensurePending]

/-- **The org users the controller is answerable for are guarded**: every binding with a
pending `ensureOrgUser` is stored and carries the MLA finalizer. -/
def Guarded (mlaFinalizer : String) (s : State) : Prop :=
  ∀ name, ensurePending s.log name = true →
    ∃ b, s.find name = some b ∧ mlaFinalizer ∈ b.finalizers

section Steps

variable {mlaFinalizer : String} {env : Env} {s : State}

theorem Guarded.record_deleteOrgUser (h : Guarded mlaFinalizer s) (name : String)
    (orgID userID : Nat) (ok : Bool) :
    Guarded mlaFinalizer (s.record (.deleteOrgUser name orgID userID ok)) := by
  intro n hp
  simp only [State.record_log, ensurePending_concat, pendingAfter] at hp
  exact h n hp

/-- A call of `ensureOrgUser` keeps the invariant when its binding carries the finalizer. -/
theorem Guarded.record_ensureOrgUser (h : Guarded mlaFinalizer s) {name : String}
    (hb : ∃ b, s.find name = some b ∧ mlaFinalizer ∈ b.finalizers) (ok : Bool) :
    Guarded mlaFinalizer (s.record (.ensureOrgUser name ok)) := by
  intro n hp
  simp only [State.record_log, ensurePending_concat, pendingAfter] at hp
  by_cases hn : name = n
  · subst hn
    exact hb
  · rw [if_neg hn] at hp
    exact h n hp

theorem Guarded.applyWrite (h : Guarded mlaFinalizer s) (name : String) (w : FinalizerWrite) :
    Guarded mlaFinalizer (s.applyWrite mlaFinalizer name w) := by
  intro n hp
  rw [State.applyWrite_log, ensurePending_concat] at hp
  by_cases hn : name = n
  · subst hn
    cases w with
    | removeFinalizer => simp [pendingAfter] at hp
    | addFinalizer =>
      obtain ⟨b, hb, -⟩ := h name hp
      exact ⟨_, State.find_applyWrite_addFinalizer hb, mem_addFinalizer.mpr (.inr rfl)⟩
  · rw [State.find_applyWrite_of_ne w (Ne.symm hn)]
    exact h n (by cases w <;> simpa [pendingAfter, hn] using hp)

/-- A user's deletion keeps the invariant: a guarded binding has a finalizer, so it is only
marked as being deleted. -/
theorem Guarded.delete (h : Guarded mlaFinalizer s) (name : String) :
    Guarded mlaFinalizer (s.delete name) := by
  intro n hp
  obtain ⟨b, hb, hmem⟩ := h n hp
  by_cases hn : n = name
  · subst hn
    exact ⟨_, State.find_delete hb (List.ne_nil_of_mem hmem), hmem⟩
  · exact ⟨b, (State.find_delete_of_ne hn).trans hb, hmem⟩

theorem guarded_patchFinalizers (h : Guarded mlaFinalizer s) (name : String)
    (w : FinalizerWrite) : Guarded mlaFinalizer (patchFinalizers mlaFinalizer env name w s).2 := by
  unfold patchFinalizers
  split
  exacts [h, h.applyWrite name w]

theorem guarded_tryRemoveFinalizer (h : Guarded mlaFinalizer s) (b : UserProjectBinding) :
    Guarded mlaFinalizer (tryRemoveFinalizer mlaFinalizer env b s).2 := by
  unfold tryRemoveFinalizer
  split
  exacts [guarded_patchFinalizers h _ _, h]

theorem guarded_handleDeletion (h : Guarded mlaFinalizer s) (b : UserProjectBinding)
    (client : Bool) : Guarded mlaFinalizer (handleDeletion mlaFinalizer env b client s).2 := by
  unfold handleDeletion
  split
  · split
    · exact h
    · split
      · exact guarded_tryRemoveFinalizer h b
      · split
        · exact h
        · exact guarded_tryRemoveFinalizer h b
        · split
          · exact h.record_deleteOrgUser _ _ _ _
          · exact guarded_tryRemoveFinalizer (h.record_deleteOrgUser _ _ _ _) b
  · exact guarded_tryRemoveFinalizer h b

theorem guarded_tryAddFinalizer (h : Guarded mlaFinalizer s) (b : UserProjectBinding) :
    Guarded mlaFinalizer (tryAddFinalizer mlaFinalizer env b s).2 := by
  unfold tryAddFinalizer
  split
  exacts [h, guarded_patchFinalizers h _ _]

/-- A `TryAddFinalizer` that returns leaves the binding stored with the finalizer. -/
theorem tryAddFinalizer_ok {b : UserProjectBinding} {s₁ : State} (hb : s.find b.name = some b)
    (h : tryAddFinalizer mlaFinalizer env b s = (.ok (), s₁)) :
    ∃ b₁, s₁.find b.name = some b₁ ∧ mlaFinalizer ∈ b₁.finalizers := by
  unfold tryAddFinalizer patchFinalizers at h
  split at h
  · cases h
    exact ⟨b, hb, ‹_›⟩
  · split at h
    · cases h
    · cases h
      exact ⟨_, State.find_applyWrite_addFinalizer hb, mem_addFinalizer.mpr (.inr rfl)⟩

theorem guarded_Reconcile (h : Guarded mlaFinalizer s) (name : String) :
    Guarded mlaFinalizer (Reconcile mlaFinalizer env name s).2 := by
  unfold Reconcile
  split
  · exact h
  · exact h
  next _ _ b _ hfind =>
  split
  · exact h
  next _ client _ =>
  split
  · -- being deleted: `handleDeletion`
    have hd := @guarded_handleDeletion _ env _ h b client
    revert hd
    rcases handleDeletion mlaFinalizer env b client s with ⟨_ | ⟨⟩, s₁⟩ <;> exact id
  split
  · exact h
  -- the finalizer, then the org user
  have hadd := @guarded_tryAddFinalizer _ env _ h b
  split
  · rename_i heq
    rwa [heq] at hadd
  rename_i s₁ heq
  rw [heq] at hadd
  have hfind' : s.find b.name = some b := by rw [State.find_name hfind]; exact hfind
  have hb₁ := tryAddFinalizer_ok hfind' heq
  split
  · exact hadd
  · exact hadd
  · dsimp only
    split
    · exact Guarded.record_ensureOrgUser hadd hb₁ false
    · exact Guarded.record_ensureOrgUser hadd hb₁ true

theorem guarded_handleDeletions (client : Bool) :
    ∀ (bs : List UserProjectBinding) {s : State}, Guarded mlaFinalizer s →
      Guarded mlaFinalizer (handleDeletions mlaFinalizer env client bs s).2
  | [], _, h => h
  | b :: bs, s, h => by
    have hd := @guarded_handleDeletion _ env _ h b client
    simp only [handleDeletions]
    revert hd
    rcases handleDeletion mlaFinalizer env b client s with ⟨_ | ⟨⟩, s₁⟩
    · exact id
    · exact guarded_handleDeletions client bs

theorem guarded_CleanUp (h : Guarded mlaFinalizer s) :
    Guarded mlaFinalizer (CleanUp mlaFinalizer env s).2 := by
  unfold CleanUp
  split
  · exact h
  split
  · exact h
  · exact guarded_handleDeletions _ _ h

theorem Guarded.step (h : Guarded mlaFinalizer s) : ∀ step : Step,
    Guarded mlaFinalizer (step.run mlaFinalizer s)
  | .reconcile _ name => guarded_Reconcile h name
  | .cleanUp _ => guarded_CleanUp h
  | .delete name => h.delete name

end Steps

/-- **The MLA finalizer comes first.** Over any interleaving of runs of `Reconcile` and
`CleanUp`, each with any answers of the seed API and of Grafana, and of users' deletions,
from a state where it holds: every binding for which `ensureOrgUser` was called, and
whose finalizer has not been removed since, is stored and carries the MLA finalizer. The
seed API therefore cannot remove a binding whose organization user the controller may have
created before `handleDeletion` has run for it. -/
theorem guarded_systemRun (mlaFinalizer : String) :
    ∀ (steps : List Step) (s : State), Guarded mlaFinalizer s →
      Guarded mlaFinalizer (systemRun mlaFinalizer steps s)
  | [], _, h => h
  | step :: steps, _, h => guarded_systemRun mlaFinalizer steps _ (h.step step)

/-- Seed and Grafana answering as hoped, with a Grafana client. -/
def workingEnv : Env where
  getFails := none
  listFails := none
  clientProvider := .ok true
  refuses _ _ := none
  getProject id := .found { name := id }
  getOrgByProject _ := .ok 1
  lookupUser _ := .found 7
  deleteOrgUser _ _ := (none, {})
  ensureOrgUser _ _ := none

/-- A binding of a user to a project. -/
def aliceBinding : UserProjectBinding where
  name := "alice-binding"
  projectID := "p1"
  userEmail := "alice@example.com"

/-- The binding is reconciled (its finalizer added, its org user ensured), then deleted by
a user: it stays, being deleted, held by the finalizer. -/
theorem guarded_systemRun_sample :
    Guarded "mla" { bindings := [aliceBinding] } ∧
    ensurePending (systemRun "mla" [.reconcile workingEnv "alice-binding", .delete "alice-binding"]
      { bindings := [aliceBinding] }).log "alice-binding" = true ∧
    Guarded "mla" (systemRun "mla" [.reconcile workingEnv "alice-binding", .delete "alice-binding"]
      { bindings := [aliceBinding] }) :=
  ⟨fun _ h => by simp at h, by decide,
    guarded_systemRun "mla" _ _ fun _ h => by simp at h⟩

/-! ## Removing the MLA finalizer -/

/-- The organization `handleDeletion` looks up for a binding: that of its project, or of
Go's zero project when the project is not found. -/
def orgOf (env : Env) (b : UserProjectBinding) : Except String Nat :=
  env.getOrgByProject (projectOrZero (env.getProject b.projectID))

/-- When `handleDeletion` has no organization user to delete for a binding: there is no
Grafana client, or, the project lookup having not failed, the organization lookup failed,
with whatever error, or Grafana does not know the user. -/
def NothingToDelete (env : Env) (b : UserProjectBinding) (client : Bool) : Prop :=
  client = false ∨ (∀ e, env.getProject b.projectID ≠ .failed e) ∧
    ((∃ e, orgOf env b = .error e) ∨
      (∃ orgID, orgOf env b = .ok orgID) ∧ env.lookupUser b.userEmail = .notFound)

section Removal

variable {mlaFinalizer : String} {env : Env} {s s' : State} {b : UserProjectBinding}

theorem tryRemoveFinalizer_log {r : Except String Unit}
    (h : tryRemoveFinalizer mlaFinalizer env b s = (r, s')) :
    s'.log = s.log ∨
      mlaFinalizer ∈ b.finalizers ∧ s'.log = s.log ++ [.write b.name .removeFinalizer] := by
  unfold tryRemoveFinalizer patchFinalizers at h
  split at h
  · split at h <;> cases h
    · exact .inl rfl
    · exact .inr ⟨‹_›, rfl⟩
  · cases h
    exact .inl rfl

theorem tryAddFinalizer_log {r : Except String Unit}
    (h : tryAddFinalizer mlaFinalizer env b s = (r, s')) :
    s'.log = s.log ∨ s'.log = s.log ++ [.write b.name .addFinalizer] := by
  unfold tryAddFinalizer patchFinalizers at h
  split at h
  · cases h
    exact .inl rfl
  · split at h <;> cases h
    · exact .inl rfl
    · exact .inr rfl

/-- **What `handleDeletion` did before it removed the finalizer**: nothing, when it had
nothing to delete, or a successful `DeleteOrgUser` of the binding's user from the
project's organization. -/
theorem handleDeletion_removes {client : Bool} {r : Except String Unit} {es : List Event}
    (h : handleDeletion mlaFinalizer env b client s = (r, s')) (hlog : s'.log = s.log ++ es)
    (hrem : Event.write b.name .removeFinalizer ∈ es) :
    mlaFinalizer ∈ b.finalizers ∧
      (NothingToDelete env b client ∧ es = [.write b.name .removeFinalizer] ∨
        ∃ orgID userID, client = true ∧ (∀ e, env.getProject b.projectID ≠ .failed e) ∧
          orgOf env b = .ok orgID ∧ env.lookupUser b.userEmail = .found userID ∧
          es = [.deleteOrgUser b.name orgID userID true, .write b.name .removeFinalizer]) := by
  have hrm {s₀ : State} {pre : List Event} (h₀ : s₀.log = s.log ++ pre)
      (hpre : Event.write b.name .removeFinalizer ∉ pre)
      (ht : tryRemoveFinalizer mlaFinalizer env b s₀ = (r, s')) :
      mlaFinalizer ∈ b.finalizers ∧ es = pre ++ [.write b.name .removeFinalizer] := by
    rcases tryRemoveFinalizer_log ht with hl | ⟨hmem, hl⟩
    · exact absurd (List.append_cancel_left (hlog.symm.trans (hl.trans h₀)) ▸ hrem) hpre
    · exact ⟨hmem,
        List.append_cancel_left (hlog.symm.trans (by rw [hl, h₀, List.append_assoc]))⟩
  have hnone {pre : List Event} (hl : s'.log = s.log ++ pre)
      (hpre : Event.write b.name .removeFinalizer ∉ pre) : False :=
    hpre (List.append_cancel_left (hlog.symm.trans hl) ▸ hrem)
  unfold handleDeletion at h
  split at h
  · split at h
    · cases h
      exact (hnone (show s.log = s.log ++ [] by simp) (by simp)).elim
    · rename_i hclient _ hnf
      split at h
      · rename_i e horg
        obtain ⟨hmem, rfl⟩ := hrm (show s.log = s.log ++ [] by simp) (by simp) h
        exact ⟨hmem, .inl ⟨.inr ⟨hnf, .inl ⟨e, horg⟩⟩, rfl⟩⟩
      · rename_i orgID horg
        split at h
        · cases h
          exact (hnone (show s.log = s.log ++ [] by simp) (by simp)).elim
        · rename_i huser
          obtain ⟨hmem, rfl⟩ := hrm (show s.log = s.log ++ [] by simp) (by simp) h
          exact ⟨hmem, .inl ⟨.inr ⟨hnf, .inr ⟨⟨orgID, horg⟩, huser⟩⟩, rfl⟩⟩
        · rename_i userID huser
          split at h
          · cases h
            exact (hnone rfl (by simp)).elim
          · obtain ⟨hmem, rfl⟩ := hrm rfl (by simp) h
            exact ⟨hmem, .inr ⟨orgID, userID, hclient, hnf, horg, huser, rfl⟩⟩
  · obtain ⟨hmem, rfl⟩ := hrm (show s.log = s.log ++ [] by simp) (by simp) h
    exact ⟨hmem, .inl ⟨.inl (by simpa using ‹¬client = true›), rfl⟩⟩

end Removal

/-- **The MLA finalizer goes only after the organization user, or when there is none to
delete.** Over every answer of the seed API and of Grafana, a run of `Reconcile` that removes
the MLA finalizer of the binding `name` found it stored, being deleted and carrying the
finalizer, and either did nothing else, having nothing it could delete (no Grafana client,
no organization found for the project with whatever error, or no such user in Grafana), or
did nothing else than a successful `DeleteOrgUser` of the binding's user from the project's
organization. -/
theorem Reconcile_removes_finalizer_after_deleteOrgUser (mlaFinalizer : String) (env : Env)
    (name : String) (s : State) {es : List Event}
    (hlog : (Reconcile mlaFinalizer env name s).2.log = s.log ++ es)
    (hrem : Event.write name .removeFinalizer ∈ es) :
    ∃ b client, s.find name = some b ∧ b.deletionTimestamp = true ∧
      mlaFinalizer ∈ b.finalizers ∧ env.clientProvider = .ok client ∧
      (NothingToDelete env b client ∧ es = [.write name .removeFinalizer] ∨
        ∃ orgID userID, client = true ∧ (∀ e, env.getProject b.projectID ≠ .failed e) ∧
          orgOf env b = .ok orgID ∧ env.lookupUser b.userEmail = .found userID ∧
          es = [.deleteOrgUser name orgID userID true, .write name .removeFinalizer]) := by
  have hno {pre : List Event} (h : s.log ++ es = s.log ++ pre)
      (hpre : Event.write name .removeFinalizer ∉ pre) : False :=
    hpre (List.append_cancel_left h ▸ hrem)
  unfold Reconcile at hlog
  split at hlog
  · exact (hno (hlog.symm.trans (List.append_nil _).symm) (by simp)).elim
  · exact (hno (hlog.symm.trans (List.append_nil _).symm) (by simp)).elim
  next _ _ b _ hfind =>
  obtain rfl := State.find_name hfind
  split at hlog
  · exact (hno (hlog.symm.trans (List.append_nil _).symm) (by simp)).elim
  next _ client hclient =>
  split at hlog
  · -- being deleted: `handleDeletion`
    rename_i hdel
    split at hlog <;>
    · rename_i heq
      obtain ⟨hmem, hes⟩ := handleDeletion_removes heq hlog hrem
      exact ⟨b, client, hfind, hdel, hmem, hclient, hes⟩
  split at hlog
  · exact (hno (hlog.symm.trans (List.append_nil _).symm) (by simp)).elim
  -- the finalizer is added, and `ensureOrgUser` called: nothing is removed
  exfalso
  have hadd {s₁ : State} {r : Except String Unit} {post : List Event}
      (heq : tryAddFinalizer mlaFinalizer env b s = (r, s₁))
      (hl : s.log ++ es = s₁.log ++ post)
      (hpost : Event.write b.name .removeFinalizer ∉ post) : False := by
    rcases tryAddFinalizer_log heq with h₁ | h₁ <;> rw [h₁] at hl
    · exact hno hl hpost
    · exact hno (hl.trans (List.append_assoc _ _ _)) (by simpa using hpost)
  split at hlog
  · rename_i heq
    exact hadd heq (hlog.symm.trans (List.append_nil _).symm) (by simp)
  rename_i heq
  split at hlog
  · exact hadd heq (hlog.symm.trans (List.append_nil _).symm) (by simp)
  · exact hadd heq (hlog.symm.trans (List.append_nil _).symm) (by simp)
  · dsimp only at hlog
    split at hlog <;> exact hadd heq hlog.symm (by simp)

/-- Grafana cannot be reached while the organization is looked up. -/
def unreachableOrgEnv : Env :=
  { workingEnv with getOrgByProject := fun _ => .error "context deadline exceeded" }

/-- The binding, reconciled and then deleted by a user. -/
def deletingAliceBinding : UserProjectBinding :=
  { aliceBinding with finalizers := ["mla"], deletionTimestamp := true }

/-- A passing failure of the organization lookup: the finalizer is removed, and the binding
with it, while no `DeleteOrgUser` was sent. -/
theorem Reconcile_removes_finalizer_after_deleteOrgUser_unreachable :
    (Reconcile "mla" unreachableOrgEnv "alice-binding" { bindings := [deletingAliceBinding] }).2 =
      { bindings := [], log := [.write "alice-binding" .removeFinalizer] } ∧
    ∃ b client, State.find { bindings := [deletingAliceBinding] } "alice-binding" = some b ∧
      b.deletionTimestamp = true ∧ "mla" ∈ b.finalizers ∧
      unreachableOrgEnv.clientProvider = .ok client ∧
      (NothingToDelete unreachableOrgEnv b client ∧
          [Event.write "alice-binding" .removeFinalizer] =
            [.write "alice-binding" .removeFinalizer] ∨
        ∃ orgID userID, client = true ∧
          (∀ e, unreachableOrgEnv.getProject b.projectID ≠ .failed e) ∧
          orgOf unreachableOrgEnv b = .ok orgID ∧
          unreachableOrgEnv.lookupUser b.userEmail = .found userID ∧
          [Event.write "alice-binding" .removeFinalizer] =
            [.deleteOrgUser "alice-binding" orgID userID true,
              .write "alice-binding" .removeFinalizer]) :=
  ⟨by decide, Reconcile_removes_finalizer_after_deleteOrgUser "mla" unreachableOrgEnv
    "alice-binding" { bindings := [deletingAliceBinding] } (by decide) (by simp)⟩

/-! ## Switching MLA off -/

section CleanUp

variable {mlaFinalizer : String} {env : Env} {s s' : State} {b : UserProjectBinding}

/-- A stored binding after a finalizer patch: one of the patched name has the patched
finalizers, any other is as it was. -/
theorem State.mem_applyWrite {n : String} {w : FinalizerWrite}
    (h : b ∈ (s.applyWrite mlaFinalizer n w).bindings) :
    ∃ b₀ ∈ s.bindings, b.name = b₀.name ∧
      (b.name = n → b.finalizers = w.apply mlaFinalizer b₀.finalizers) ∧
      (b.name ≠ n → b = b₀) := by
  simp only [State.applyWrite, List.mem_filter, List.mem_map] at h
  obtain ⟨⟨b₀, hb₀, rfl⟩, -⟩ := h
  refine ⟨b₀, hb₀, ?_⟩
  by_cases hn : b₀.name = n <;> simp [hn]

/-- A `TryRemoveFinalizer` that returns sent no patch, the binding lacking the finalizer, or
had its patch accepted. -/
theorem tryRemoveFinalizer_ok (h : tryRemoveFinalizer mlaFinalizer env b s = (.ok (), s')) :
    mlaFinalizer ∉ b.finalizers ∧ s' = s ∨
      mlaFinalizer ∈ b.finalizers ∧ s' = s.applyWrite mlaFinalizer b.name .removeFinalizer := by
  unfold tryRemoveFinalizer patchFinalizers at h
  split at h
  · split at h <;> cases h
    exact .inr ⟨‹_›, rfl⟩
  · cases h
    exact .inl ⟨‹_›, rfl⟩

/-- A `handleDeletion` that returns ended in a `TryRemoveFinalizer` that returned, from a
state with the same bindings. -/
theorem handleDeletion_ok {client : Bool}
    (h : handleDeletion mlaFinalizer env b client s = (.ok (), s')) :
    ∃ s₀ : State, s₀.bindings = s.bindings ∧
      tryRemoveFinalizer mlaFinalizer env b s₀ = (.ok (), s') := by
  unfold handleDeletion at h
  split at h
  · split at h
    · cases h
    · split at h
      · exact ⟨s, rfl, h⟩
      · split at h
        · cases h
        · exact ⟨s, rfl, h⟩
        · split at h
          · cases h
          · exact ⟨s.record _, rfl, h⟩
  · exact ⟨s, rfl, h⟩

/-- Every stored binding with the MLA finalizer shares its name with a binding still to be
handled that has it: handling that one removes the finalizer from the name. -/
def Covered (mlaFinalizer : String) (l : List UserProjectBinding) (s : State) : Prop :=
  ∀ b ∈ s.bindings, mlaFinalizer ∈ b.finalizers →
    ∃ b' ∈ l, b'.name = b.name ∧ mlaFinalizer ∈ b'.finalizers

/-- One `handleDeletion` that returns keeps the rest of the list covering the store. -/
theorem Covered.handleDeletion {client : Bool} {l : List UserProjectBinding}
    (hc : Covered mlaFinalizer (b :: l) s)
    (h : Kubermatic.Mla.handleDeletion mlaFinalizer env b client s = (.ok (), s')) :
    Covered mlaFinalizer l s' := by
  obtain ⟨s₀, hs₀, ht⟩ := handleDeletion_ok h
  -- a binding of `s` whose finalizer `b` does not settle is covered by the rest
  have hrest {b₁ : UserProjectBinding} (hb₁ : b₁ ∈ s.bindings)
      (hmem : mlaFinalizer ∈ b₁.finalizers)
      (hne : ∀ b' ∈ b :: l, b'.name = b₁.name → mlaFinalizer ∈ b'.finalizers →
        b' ≠ b) :
      ∃ b' ∈ l, b'.name = b₁.name ∧ mlaFinalizer ∈ b'.finalizers := by
    obtain ⟨b', hb', hname, hmem'⟩ := hc b₁ hb₁ hmem
    rcases List.mem_cons.mp hb' with rfl | hb'
    · exact absurd rfl (hne _ (List.mem_cons_self _ _) hname hmem')
    · exact ⟨b', hb', hname, hmem'⟩
  intro b₁ hb₁ hmem
  rcases tryRemoveFinalizer_ok ht with ⟨hnot, rfl⟩ | ⟨-, rfl⟩
  · exact hrest (hs₀ ▸ hb₁) hmem fun b' _ _ hmem' heq => hnot (heq ▸ hmem')
  · obtain ⟨b₀, hb₀, hname, hpatched, hkept⟩ := State.mem_applyWrite hb₁
    by_cases hn : b₁.name = b.name
    · simp [hpatched hn, FinalizerWrite.apply] at hmem
    · rw [hkept hn] at hmem ⊢
      exact hrest (hs₀ ▸ hb₀) hmem fun b' _ hname' _ heq => hn (hname ▸ heq ▸ hname'.symm)

/-- The loop of `CleanUp`, from a store its list covers: when it returns no error, no
binding keeps the finalizer. -/
theorem handleDeletions_clears (client : Bool) :
    ∀ (l : List UserProjectBinding) (s : State), Covered mlaFinalizer l s →
      (handleDeletions mlaFinalizer env client l s).1 = none →
      ∀ b ∈ (handleDeletions mlaFinalizer env client l s).2.bindings,
        mlaFinalizer ∉ b.finalizers
  | [], _, hc, _ => fun b hb hmem => by
    obtain ⟨_, h, -⟩ := hc b hb hmem
    cases h
  | b :: l, s, hc, hres => by
    simp only [handleDeletions] at hres ⊢
    split at hres
    · cases hres
    rename_i s₁ heq
    exact handleDeletions_clears client l s₁ (hc.handleDeletion heq) hres

end CleanUp

/-- **A `CleanUp` that succeeds leaves no binding with the MLA finalizer.** Over every answer
of the seed API and of Grafana, a run of `CleanUp` that returns no error has removed the
MLA finalizer from every binding it listed, so that none is stored with it. -/
theorem CleanUp_clears_finalizers (mlaFinalizer : String) (env : Env) (s : State)
    (h : (CleanUp mlaFinalizer env s).1 = none) :
    ∀ b ∈ (CleanUp mlaFinalizer env s).2.bindings, mlaFinalizer ∉ b.finalizers := by
  unfold CleanUp at h ⊢
  match hl : env.listFails, hc : env.clientProvider, h with
  | some err, _, h => cases h
  | none, .error err, h => cases h
  | none, .ok client, h =>
    exact handleDeletions_clears client s.bindings s (fun b hb hmem => ⟨b, hb, rfl, hmem⟩) h

/-- MLA switched off: the client provider returns a nil client. -/
def disabledEnv : Env := { workingEnv with clientProvider := .ok false }

/-- A second user's binding, being deleted. -/
def deletingBobBinding : UserProjectBinding where
  name := "bob-binding"
  projectID := "p1"
  userEmail := "bob@example.com"
  finalizers := ["mla"]
  deletionTimestamp := true

/-- Switching MLA off strips the finalizer from a live binding, lets a deleted one go, and
sends no `DeleteOrgUser`. -/
theorem CleanUp_clears_finalizers_disabled :
    CleanUp "mla" disabledEnv { bindings := [{ aliceBinding with finalizers := ["mla"] },
      deletingBobBinding] } =
      (none, { bindings := [aliceBinding], log := [.write "alice-binding" .removeFinalizer,
        .write "bob-binding" .removeFinalizer] }) ∧
    ∀ b ∈ (CleanUp "mla" disabledEnv { bindings := [{ aliceBinding with finalizers := ["mla"] },
      deletingBobBinding] }).2.bindings, "mla" ∉ b.finalizers :=
  ⟨by decide, CleanUp_clears_finalizers "mla" disabledEnv _ (by decide)⟩

end Kubermatic.Mla
