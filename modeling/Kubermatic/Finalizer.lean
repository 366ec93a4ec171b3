import Mathlib.Data.List.Basic

/-!
# Finalizers

A finalizer is a string in an object's metadata; the API server keeps a deleting
object for as long as its finalizer list is not empty, so each controller that has
cleanup to do before an object goes puts its own finalizer on it and removes it when
that cleanup is done. The deletion pipeline of a cluster, the cloud providers and the
RBAC controller all order their work by which finalizers are still present.

The helpers that read and edit the list live in `pkg/kubernetes`, which is not part of
the sources at hand. They are modelled here from the spec, which asks for the list to
be handled as an insertion-ordered set: membership tests, a removal that keeps the
order of what is left, and an addition that appends only what is missing. Every
property the rest of the development needs of them is a `simp` lemma of this module,
so that no later proof unfolds them.
-/

namespace Kubermatic

/-- Modelled from the spec: `kuberneteshelper.HasFinalizer`, the object carries the
finalizer. -/
def hasFinalizer (finalizers : List String) (name : String) : Bool :=
  finalizers.contains name

/-- Modelled from the spec: `kuberneteshelper.HasAnyFinalizer`, the object carries at
least one of the finalizers. -/
def hasAnyFinalizer (finalizers : List String) (names : List String) : Bool :=
  names.any (hasFinalizer finalizers)

/-- Modelled from the spec: `kuberneteshelper.HasOnlyFinalizer`, the finalizer is the
only one left on the object. -/
def hasOnlyFinalizer (finalizers : List String) (name : String) : Bool :=
  finalizers.contains name && finalizers.all (· == name)

/-- Modelled from the spec: `kuberneteshelper.RemoveFinalizer`, every occurrence of
the finalizers is dropped and the others keep their order. -/
def removeFinalizer (finalizers : List String) (names : List String) : List String :=
  finalizers.filter (fun f => !names.contains f)

/-- Modelled from the spec: `kuberneteshelper.AddFinalizer`, the finalizer is appended
unless it is already there. -/
def addFinalizer (finalizers : List String) (name : String) : List String :=
  if finalizers.contains name then finalizers else finalizers ++ [name]

@[simp] theorem hasFinalizer_eq_true {fs : List String} {n : String} :
    hasFinalizer fs n = true ↔ n ∈ fs := List.elem_iff

@[simp] theorem hasAnyFinalizer_eq_true {fs names : List String} :
    hasAnyFinalizer fs names = true ↔ ∃ n ∈ names, n ∈ fs := by
  simp [hasAnyFinalizer]

@[simp] theorem hasOnlyFinalizer_eq_true {fs : List String} {n : String} :
    hasOnlyFinalizer fs n = true ↔ n ∈ fs ∧ ∀ f ∈ fs, f = n := by
  simp [hasOnlyFinalizer]

@[simp] theorem mem_removeFinalizer {fs names : List String} {f : String} :
    f ∈ removeFinalizer fs names ↔ f ∈ fs ∧ f ∉ names := by
  simp [removeFinalizer]

@[simp] theorem hasFinalizer_eq_false {fs : List String} {n : String} :
    hasFinalizer fs n = false ↔ n ∉ fs := by
  simp [← Bool.not_eq_true]

@[simp] theorem hasAnyFinalizer_eq_false {fs names : List String} :
    hasAnyFinalizer fs names = false ↔ ∀ n ∈ names, n ∉ fs := by
  simp [← Bool.not_eq_true]

@[simp] theorem removeFinalizer_nil (fs : List String) : removeFinalizer fs [] = fs := by
  simp [removeFinalizer]

@[simp] theorem removeFinalizer_removeFinalizer (fs a b : List String) :
    removeFinalizer (removeFinalizer fs a) b = removeFinalizer fs (a ++ b) := by
  simp only [removeFinalizer, List.filter_filter]
  exact List.filter_congr fun f _ => by
    cases ha : a.contains f <;> cases hb : b.contains f <;> simp_all [List.elem_iff]

/-- Removals that agree on the finalizers present give the same list. -/
theorem removeFinalizer_congr {fs a b : List String} (h : ∀ f ∈ fs, f ∈ a ↔ f ∈ b) :
    removeFinalizer fs a = removeFinalizer fs b :=
  List.filter_congr fun f hf => by simp [h f hf]

/-- Removing finalizers none of which is there changes nothing. -/
theorem removeFinalizer_of_forall_not_mem {fs names : List String} (h : ∀ n ∈ names, n ∉ fs) :
    removeFinalizer fs names = fs :=
  List.filter_eq_self.mpr fun f hf => by simpa using fun hn => h f hn hf

/-- Removing some of the finalizers again is removing them once. -/
theorem removeFinalizer_append_of_subset {fs a b : List String} (h : a ⊆ b) :
    removeFinalizer fs (a ++ b) = removeFinalizer fs b :=
  removeFinalizer_congr fun _ _ => ⟨fun hf => (List.mem_append.mp hf).elim (h ·) id,
    List.mem_append_right a⟩

/-- A finalizer removed only on some path, and removed again after it, is removed once. -/
theorem removeFinalizer_ite_append_of_mem {fs rest : List String} {p : Prop} [Decidable p]
    {a : String} (ha : a ∈ rest) :
    removeFinalizer fs ((if p then [a] else []) ++ rest) = removeFinalizer fs rest := by
  split
  · exact removeFinalizer_append_of_subset (List.cons_subset.mpr ⟨ha, List.nil_subset _⟩)
  · rfl

@[simp] theorem mem_addFinalizer {fs : List String} {n f : String} :
    f ∈ addFinalizer fs n ↔ f ∈ fs ∨ f = n := by
  unfold addFinalizer
  split
  · rename_i h
    exact ⟨Or.inl, fun h' => h'.elim id fun e => e ▸ List.elem_iff.mp h⟩
  · simp

/-- Removing finalizers keeps the others in their order: what is left is a sublist. -/
theorem removeFinalizer_sublist (fs names : List String) :
    (removeFinalizer fs names).Sublist fs :=
  List.filter_sublist fs

end Kubermatic
