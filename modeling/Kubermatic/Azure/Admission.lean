import Kubermatic.Azure.Initialize
import Kubermatic.Validation.UpdateRuns

/-!
# Provider runs between admitted updates

`InitializeCloudProvider` is not the only writer of a cluster. Between two of its runs,
users and other controllers update the cluster through the seed API, and the validating
webhook admits an update only when `ValidateClusterUpdate` returns no error
(`Validation.Accepted`, with the Azure provider's `ValidateCloudSpecUpdate` as its cloud
check). Incremental persistence relies on the names the provider stored staying there:
an update that cleared one would make the next run create the resource again.

`ValidateCloudSpecUpdate` is what prevents it. An admitted update keeps every Azure
resource name that is set (`Validation.Accepted.keepsAzureFields`), and with it the
invariant `Resumable` of the runs. So over every interleaving of runs and admitted
updates (`SeedStep`), no helper is called again once it has succeeded
(`initializeCloudProvider_resumes_between_updates`). An update may still change
`AssignAvailabilitySet`, which no check keeps; that only decides whether the availability
set's helper is called at all.

Updates are taken between runs: within a run, the blocks read the clusters the helpers
returned.
-/

namespace Kubermatic.Azure

open Validation

/-- The identifiers the blocks read are among the names `ValidateCloudSpecUpdate` keeps
once set. -/
theorem field_eq_of_keeps {a a' : AzureCloudSpec}
    (h : ∀ f ∈ immutableFields, KeepsOnceSet (· ≠ "") (f.2 a) (f.2 a')) (t : ReconcileStep)
    (ht : t.field a ≠ "") : t.field a' = t.field a := by
  cases t
  · exact h ("resource group", (·.resourceGroup)) (by simp [immutableFields]) ht
  · exact h ("vnet name", (·.vnetName)) (by simp [immutableFields]) ht
  · exact h ("subnet name", (·.subnetName)) (by simp [immutableFields]) ht
  · exact h ("route table name", (·.routeTableName)) (by simp [immutableFields]) ht
  · exact h ("security group", (·.securityGroup)) (by simp [immutableFields]) ht
  · exact h ("availability set", (·.availabilitySet)) (by simp [immutableFields]) ht

/-- An admitted update keeps `Resumable`: the names of the helpers that succeeded are
set on the stored cluster, and the update keeps them. -/
theorem resumable_update {h : Helpers} {st : InitState} {c : Cluster} (hst : Resumable st)
    (hacc : Accepted h st.stored c) : Resumable { st with stored := c } := by
  obtain ⟨⟨a, ha, hfields⟩, hpair⟩ := hst
  obtain ⟨a', ha', hkeep⟩ := hacc.keepsAzureFields h a ha
  refine ⟨⟨a', ha', fun call hcall hok => ?_⟩, hpair⟩
  rw [field_eq_of_keeps hkeep _ (hfields call hcall hok)]
  exact hfields call hcall hok

/-- **What happens to a cluster on the seed**, as far as its Azure resources go: a run of
`InitializeCloudProvider` on the stored cluster, with helpers that do what the spec asks,
or an update of the stored cluster that the webhook admits. -/
inductive SeedStep (h : Helpers) : InitState → InitState → Prop
  | run (api : ReconcileAPI) (hp : api.Persists) (st : InitState) :
      SeedStep h st (initializeRun api st).2
  | update (st : InitState) (c : Cluster) (hacc : Accepted h st.stored c) :
      SeedStep h st { st with stored := c }

/-- **Nothing is created twice, whatever is admitted in between.** From an Azure cluster,
over every interleaving of `InitializeCloudProvider` runs and updates `ValidateClusterUpdate`
admits, no helper is called again once it has succeeded. -/
theorem initializeCloudProvider_resumes_between_updates (h : Helpers) {c : Cluster}
    {a : AzureCloudSpec} (ha : c.spec.cloud.azure = some a) {st : InitState}
    (hreach : Relation.ReflTransGen (SeedStep h) ⟨c, []⟩ st) :
    st.calls.Pairwise fun earlier later => earlier.result.isOk → later.step ≠ earlier.step := by
  have hinv : Resumable st := by
    induction hreach with
    | refl => exact ⟨⟨a, ha, by simp⟩, .nil⟩
    | tail _ hstep ih =>
      cases hstep with
      | run _ hp _ => exact resumable_initializeRun hp ih
      | update _ _ hacc => exact resumable_update ih hacc
  exact hinv.pairwise

/-- `resumingCluster` after a user has asked for no availability set. -/
def noAvailabilitySetCluster : Cluster where
  name := "c"
  spec.cloud.azure := some
    { resourceGroup := "rg", securityGroup := "sg", assignAvailabilitySet := some false }

/-- An admitted update of `resumingCluster`, then a run that fails at the subnet, then one
that resumes there. -/
theorem initializeCloudProvider_resumes_between_updates_sample :
    (initializeRun (namingAPI [])
        (initializeRun (namingAPI [.subnet]) ⟨noAvailabilitySetCluster, []⟩).2).2.calls.Pairwise
      fun earlier later => earlier.result.isOk → later.step ≠ earlier.step :=
  initializeCloudProvider_resumes_between_updates sampleHelpers (c := resumingCluster) rfl
    ((((Relation.ReflTransGen.single (SeedStep.update _ noAvailabilitySetCluster
      ⟨sampleAzureUpdateArgs, fun _ => rfl, by decide⟩)).tail
        (SeedStep.run _ (namingAPI_persists [.subnet]) _)).tail
          (SeedStep.run _ (namingAPI_persists []) _)))

end Kubermatic.Azure
