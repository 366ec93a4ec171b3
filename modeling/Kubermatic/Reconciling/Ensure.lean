import Mathlib.Data.List.Nodup
import Mathlib.Logic.Function.Basic

/-!
# The resource reconciler helper

The controllers of the seed converge the child objects of a cluster (its Secrets,
ConfigMaps, Deployments, RBAC objects, KubeVirt DataVolumes, ...) through one helper. A
*named creator* is a name and a pure transform from the existing object to the desired
one; `Reconcile<Kind>s` takes a list of them and a namespace and ensures, for each in
turn, that the object of that name in the namespace is what the transform makes of it.
There is one `Reconcile<Kind>s` per kind, generated from the template of
`codegen/reconcile/main.go` and its table of kinds; `ReconcileObjects` is the template,
for every kind. Each ensure is `EnsureNamedObject` of the `reconciling` package, which is
not among the sources and follows §4.1 of the specification: read the object; when it is
missing, create it from what the transform makes of the zero value; when it is there,
write only when the transform changed it under `DeepEqual`, by an update, or by a delete
and a create for the kinds the table marks as requiring it.

The main result is convergence, `ReconcileObjects_converges`: when the names are pairwise
distinct and every transform is idempotent, a run that succeeded leaves a store on which a
second run succeeds and writes nothing, whatever the API server refused in the first run.
It is assembled from two facts about one ensure, `EnsureNamedObject_settles` (a successful
ensure leaves its object *settled*: ensuring it again writes nothing) and
`EnsureNamedObject_frame` (an ensure writes no other object), lifted to the loop by
induction. The names being distinct is a real hypothesis: two creators of one name that
disagree make every run write, and `Kubermatic.Kubevirt` has the case the code can
reach. `ReconcileObjects_keeps` is the other property §8 of the specification asks for:
what every transform keeps of an object (its status, the fields other components own) a
run keeps.

A run of a kind that is updated in place never deletes an object, whatever the API server
answers (`ReconcileObjects_keeps_stored`). The kinds the table marks as requiring
recreation are deleted and created again instead, and one whose create is refused after
the delete is left deleted (`EnsureNamedObject_recreate_refused`).

What is assumed rather than modelled: the API server stores what is written and nothing
else writes between the two runs, which is what running the second run on the store the
first one left says. The wait of `EnsureNamedObject` for its cache to see a write, and
the texts it puts in front of an error, are not among the sources and are left out: an
error is the API server's or the transform's, under the context `Reconcile<Kind>s` adds.
-/

namespace Kubermatic.Reconciling

/-! ## The API server -/

/-- `types.NamespacedName`: the key a namespaced object is stored under. -/
structure NamespacedName where
  /-- `Namespace`. -/
  ns : String
  name : String
  deriving DecidableEq, Repr

/-- An error a call returns: one the model takes as it comes (the API server's, a
transform's), or one `fmt.Errorf` wrapped under a context with `%w`. -/
inductive GoError
  | msg (text : String)
  | wrapped (context : String) (err : GoError)
  deriving DecidableEq, Repr

/-- `err.Error()`. -/
def GoError.text : GoError → String
  | .msg text => text
  | .wrapped context err => context ++ err.text

/-- The verbs of the writes the helper makes. -/
inductive Verb
  | create | update | delete
  deriving DecidableEq, Repr

/-- A write to the API server. -/
inductive Write (α : Type)
  | create (key : NamespacedName) (obj : α)
  | update (key : NamespacedName) (obj : α)
  | delete (key : NamespacedName)
  deriving DecidableEq, Repr

/-- The verb of a write. -/
def Write.verb : Write α → Verb
  | .create .. => .create
  | .update .. => .update
  | .delete .. => .delete

/-- The key a write is made under. -/
def Write.key : Write α → NamespacedName
  | .create key _ | .update key _ | .delete key => key

/-- What the API server stores under the key once the write went through. -/
def Write.stored : Write α → Option α
  | .create _ obj | .update _ obj => some obj
  | .delete _ => none

/-- The objects of one kind an API server stores, by key, and the writes made to it. -/
structure Store (α : Type) where
  objects : NamespacedName → Option α
  writes : List (Write α) := []

/-- The store after a write went through. -/
def Store.write (s : Store α) (w : Write α) : Store α :=
  ⟨Function.update s.objects w.key w.stored, s.writes ++ [w]⟩

@[simp] theorem Store.write_objects (s : Store α) (w : Write α) :
    (s.write w).objects = Function.update s.objects w.key w.stored := rfl

@[simp] theorem Store.write_writes (s : Store α) (w : Write α) :
    (s.write w).writes = s.writes ++ [w] := rfl

/-! ## The generator's table -/

/-- `reconcileFunctionData`, a row of the generator's table: the kind, its plural (the
kind followed by `s` when empty), the defaulting function applied to each creator (none
when empty), whether an object is deleted and created again instead of updated, and the
prefix of the generated names. `ResourceImportPath` only adds an import, and is left out. -/
structure ReconcileFunctionData where
  resourceName : String
  resourceNamePlural : String := ""
  importAlias : String
  defaultingFunc : String := ""
  requiresRecreate : Bool := false
  apiVersionPrefix : String := ""
  deriving DecidableEq, Repr

/-- The plural `namedReconcileFunc` fills in when the row has none. -/
def ReconcileFunctionData.plural (d : ReconcileFunctionData) : String :=
  if d.resourceNamePlural.isEmpty then d.resourceName ++ "s" else d.resourceNamePlural

/-- The name of the function the template generates for the row. -/
def ReconcileFunctionData.reconcileFunctionName (d : ReconcileFunctionData) : String :=
  "Reconcile" ++ d.apiVersionPrefix ++ d.plural

example : ReconcileFunctionData.reconcileFunctionName
    { resourceName := "DataVolume", importAlias := "cdiv1beta1",
      apiVersionPrefix := "CDIv1beta1" } = "ReconcileCDIv1beta1DataVolumes" := by decide

/-! ## The API server's answers and the kinds -/

/-- What the API server answers besides the objects it stores, for each kind (by its row
of the table): the error of a `Get` that fails other than with `NotFound`, and the error
of a write it refuses. -/
structure Client where
  getError : ReconcileFunctionData → NamespacedName → Option String
  refuses : ReconcileFunctionData → Verb → NamespacedName → Option String

/-- A write of an object of the kind the API server may refuse; the store is as it was when
it does. -/
def writeObject (client : Client) (data : ReconcileFunctionData) (w : Write α) (s : Store α) :
    Except GoError Unit × Store α :=
  match client.refuses data w.verb w.key with
  | some e => (.error (.msg e), s)
  | none => (.ok (), s.write w)

theorem writeObject_objects_of_ne {client : Client} {data : ReconcileFunctionData} {w : Write α}
    {s : Store α} {k : NamespacedName} (hk : k ≠ w.key) :
    (writeObject client data w s).2.objects k = s.objects k := by
  unfold writeObject
  split <;> simp [Function.update_noteq hk]

theorem writeObject_ok {client : Client} {data : ReconcileFunctionData} {w : Write α}
    {s s' : Store α} (h : writeObject client data w s = (.ok (), s')) : s' = s.write w := by
  unfold writeObject at h
  split at h <;> simp_all

theorem writes_writeObject (client : Client) (data : ReconcileFunctionData) (w : Write α)
    (s : Store α) : ∃ ws, (writeObject client data w s).2.writes = s.writes ++ ws := by
  unfold writeObject
  split
  · exact ⟨[], by simp⟩
  · exact ⟨[w], rfl⟩

/-- `<Kind>Creator`: the desired object, built from the existing one, or an error. -/
abbrev Creator (α : Type) := α → Except String α

/-- `Named<Kind>CreatorGetter`: a name, and the creator of the object of that name. -/
abbrev NamedCreatorGetter (α : Type) := String × Creator α

/-- `ObjectCreator`: a creator on the existing object, which may be `nil`. -/
abbrev ObjectCreator (α : Type) := Option α → Except String α

/-- `ObjectModifier`: a wrapper of the creator handed to `EnsureNamedObject`. -/
abbrev ObjectModifier (α : Type) := ObjectCreator α → ObjectCreator α

/-- **A kind the helper reconciles**: its row of the generator's table, the Go type's zero
value `&T{}`, the `SetName` and `SetNamespace` of its `metav1.Object`, the function the
row's `DefaultingFunc` names (it is not among the sources), and `DeepEqual`, which is
reflexive. -/
structure ResourceKind (α : Type) where
  data : ReconcileFunctionData
  empty : α
  setName : String → α → α
  setNamespace : String → α → α
  defaulting : Creator α → Creator α
  deepEqual : α → α → Bool
  deepEqual_refl : ∀ x, deepEqual x x = true

attribute [simp] ResourceKind.deepEqual_refl

/-- `metav1.ObjectMeta`, of which the helper sets the name and the namespace. -/
structure ObjectMeta where
  name : String := ""
  /-- `Namespace`. -/
  ns : String := ""
  deriving DecidableEq, Repr

/-- The kind of a Go type whose `ObjectMeta` the two functions read and replace, for a row
without a defaulting function. `DeepEqual` is equality: the model's objects keep no field
on which `equality.Semantic.DeepEqual` and equality part, since quantities are kept by
value and a nil slice is the empty list. -/
def ResourceKind.ofMeta [DecidableEq α] (data : ReconcileFunctionData) (empty : α)
    (getMeta : α → ObjectMeta) (setMeta : ObjectMeta → α → α) : ResourceKind α where
  data := data
  empty := empty
  setName n x := setMeta { getMeta x with name := n } x
  setNamespace n x := setMeta { getMeta x with ns := n } x
  defaulting := id
  deepEqual x y := decide (x = y)
  deepEqual_refl _ := decide_eq_true rfl

section Helper

variable {α : Type} (kind : ResourceKind α)

/-- `<Kind>ObjectWrapper`: the creator on the existing object, or on `&T{}`. -/
def ObjectWrapper (create : Creator α) : ObjectCreator α
  | some existing => create existing
  | none => create kind.empty

/-- Modelled from the spec: `createWithNamespace` of the `reconciling` package, which sets
the namespace `ns` on what the creator made. -/
def createWithNamespace (create : ObjectCreator α) (ns : String) : ObjectCreator α :=
  fun existing => (create existing).map (kind.setNamespace ns)

/-- Modelled from the spec: `createWithName` of the `reconciling` package, which sets the
name on what the creator made. -/
def createWithName (create : ObjectCreator α) (name : String) : ObjectCreator α :=
  fun existing => (create existing).map (kind.setName name)

/-- The delete and the create that stand for an update of a kind that requires it. -/
def recreateObject (client : Client) (key : NamespacedName) (obj : α) (s : Store α) :
    Except GoError Unit × Store α :=
  match writeObject client kind.data (.delete key) s with
  | (.ok (), s₁) => writeObject client kind.data (.create key obj) s₁
  | r => r

/-- Modelled from the spec: **`EnsureNamedObject`** (§4.1 of the specification), which is
not among the sources. A `Get` that fails other than
with `NotFound` is the error; a missing object is created from what the creator makes of
the zero value; an existing one is left alone when the creator's result is `DeepEqual` to
it, and otherwise updated, or deleted and created again when the kind requires it. -/
def EnsureNamedObject (key : NamespacedName) (create : ObjectCreator α) (client : Client)
    (requiresRecreate : Bool) (s : Store α) : Except GoError Unit × Store α :=
  match client.getError kind.data key with
  | some e => (.error (.msg e), s)
  | none =>
    match s.objects key with
    | none =>
      match create (some kind.empty) with
      | .error e => (.error (.msg e), s)
      | .ok obj => writeObject client kind.data (.create key obj) s
    | some existing =>
      match create (some existing) with
      | .error e => (.error (.msg e), s)
      | .ok obj =>
        if kind.deepEqual obj existing then (.ok (), s)
        else if requiresRecreate then recreateObject kind client key obj s
        else writeObject client kind.data (.update key obj) s

/-- The creator `Reconcile<Kind>s` hands `EnsureNamedObject` for one named creator: the
row's defaulting, the wrapper, the namespace and the name, then the modifiers in order. -/
def objectCreator (ns : String) (objectModifiers : List (ObjectModifier α))
    (get : NamedCreatorGetter α) : ObjectCreator α :=
  let create := if kind.data.defaultingFunc.isEmpty then get.2 else kind.defaulting get.2
  objectModifiers.foldl (fun c m => m c)
    (createWithName kind (createWithNamespace kind (ObjectWrapper kind create) ns) get.1)

/-- **`Reconcile<Kind>s`**, the generator's template: each named creator in turn, its
object ensured under the namespace `ns` and its name, the first error ending the loop
under the context `failed to ensure <Kind> <namespace>/<name>: `. -/
def ReconcileObjects (namedGetters : List (NamedCreatorGetter α)) (ns : String)
    (client : Client) (objectModifiers : List (ObjectModifier α)) (s : Store α) :
    Except GoError Unit × Store α :=
  match namedGetters with
  | [] => (.ok (), s)
  | get :: rest =>
    match EnsureNamedObject kind ⟨ns, get.1⟩ (objectCreator kind ns objectModifiers get) client
        kind.data.requiresRecreate s with
    | (.error err, s') =>
      (.error (.wrapped ("failed to ensure " ++ kind.data.resourceName ++ " " ++ ns ++ "/" ++
        get.1 ++ ": ") err), s')
    | (.ok (), s') => ReconcileObjects rest ns client objectModifiers s'

/-! ## One ensure -/

variable {kind} {key : NamespacedName} {create : ObjectCreator α} {client : Client}
  {requiresRecreate : Bool} {s : Store α}

/-- The object stored under `key` is one the creator leaves as it is under `DeepEqual`:
ensuring it again writes nothing. -/
def Settled (kind : ResourceKind α) (create : ObjectCreator α) (key : NamespacedName)
    (s : Store α) : Prop :=
  ∃ existing obj, s.objects key = some existing ∧ create (some existing) = .ok obj ∧
    kind.deepEqual obj existing = true

/-- A creator that leaves what it made as it is. -/
def Idempotent (create : ObjectCreator α) : Prop :=
  ∀ existing obj, create existing = .ok obj → create (some obj) = .ok obj

theorem Settled.of_objects_eq {s s' : Store α} (h : s'.objects key = s.objects key)
    (hs : Settled kind create key s) : Settled kind create key s' := by
  obtain ⟨existing, obj, hx, hc, he⟩ := hs
  exact ⟨existing, obj, h.trans hx, hc, he⟩

/-- An object a write leaves under its key is settled when the creator made it and is
idempotent. -/
theorem settled_write {w : Write α} {obj : α} (hw : w.key = key) (hstored : w.stored = some obj)
    (hidem : Idempotent create) {x : Option α} (hc : create x = .ok obj) :
    Settled kind create key (s.write w) :=
  ⟨obj, obj, by simp [← hw, hstored], hidem x obj hc, kind.deepEqual_refl obj⟩

theorem writeObject_eq (client : Client) (data : ReconcileFunctionData) (w : Write α)
    (s : Store α) :
    writeObject client data w s = (.ok (), s.write w) ∨
      ∃ e, writeObject client data w s = (.error e, s) := by
  unfold writeObject
  split
  · exact .inr ⟨_, rfl⟩
  · exact .inl rfl

theorem recreateObject_eq {obj : α} :
    recreateObject kind client key obj s = (.ok (), (s.write (.delete key)).write (.create key obj)) ∨
      (∃ e, recreateObject kind client key obj s = (.error e, s.write (.delete key))) ∨
      ∃ e, recreateObject kind client key obj s = (.error e, s) := by
  unfold recreateObject
  rcases writeObject_eq client kind.data (.delete key) s with h | ⟨e, h⟩ <;> rw [h]
  · rcases writeObject_eq client kind.data (.create key obj) (s.write (.delete key)) with h' | ⟨e', h'⟩
    · exact .inl h'
    · exact .inr (.inl ⟨e', h'⟩)
  · exact .inr (.inr ⟨e, rfl⟩)

theorem recreateObject_objects_of_ne {obj : α} {k : NamespacedName} (hk : k ≠ key) :
    (recreateObject kind client key obj s).2.objects k = s.objects k := by
  rcases @recreateObject_eq _ kind key client s obj with h | ⟨e, h⟩ | ⟨e, h⟩ <;> rw [h] <;>
    simp [Write.key, Function.update_noteq hk]

theorem recreateObject_ok {obj : α} {s' : Store α}
    (h : recreateObject kind client key obj s = (.ok (), s')) :
    s' = (s.write (.delete key)).write (.create key obj) := by
  rcases @recreateObject_eq _ kind key client s obj with h' | ⟨e, h'⟩ | ⟨e, h'⟩ <;> rw [h'] at h <;>
    cases h
  rfl

/-- **What an ensure does**, branch by branch: it fails and writes nothing; it finds its
object settled; it creates the missing object from what the creator made; or it rewrites
an object the creator changed, by a re-creation or an update as the kind requires. -/
theorem EnsureNamedObject_cases :
    (∃ e, EnsureNamedObject kind key create client requiresRecreate s = (.error (.msg e), s)) ∨
    (∃ x obj, s.objects key = some x ∧ create (some x) = .ok obj ∧ kind.deepEqual obj x = true ∧
      EnsureNamedObject kind key create client requiresRecreate s = (.ok (), s)) ∨
    (∃ obj, s.objects key = none ∧ create (some kind.empty) = .ok obj ∧
      EnsureNamedObject kind key create client requiresRecreate s =
        writeObject client kind.data (.create key obj) s) ∨
    (∃ x obj, s.objects key = some x ∧ create (some x) = .ok obj ∧
      (requiresRecreate = true ∧ EnsureNamedObject kind key create client requiresRecreate s =
          recreateObject kind client key obj s ∨
        requiresRecreate = false ∧ EnsureNamedObject kind key create client requiresRecreate s =
          writeObject client kind.data (.update key obj) s)) := by
  unfold EnsureNamedObject
  split
  · exact .inl ⟨_, rfl⟩
  split
  · rename_i hx
    split
    · exact .inl ⟨_, rfl⟩
    · rename_i obj hc
      exact .inr (.inr (.inl ⟨obj, hx, hc, rfl⟩))
  · rename_i x hx
    split
    · exact .inl ⟨_, rfl⟩
    · rename_i obj hc
      split
      · rename_i he
        exact .inr (.inl ⟨x, obj, hx, hc, he, rfl⟩)
      · cases requiresRecreate
        · exact .inr (.inr (.inr ⟨x, obj, hx, hc, .inr ⟨rfl, rfl⟩⟩))
        · exact .inr (.inr (.inr ⟨x, obj, hx, hc, .inl ⟨rfl, rfl⟩⟩))

/-- **An ensure writes no other object.** -/
theorem EnsureNamedObject_frame {k : NamespacedName} (hk : k ≠ key) :
    (EnsureNamedObject kind key create client requiresRecreate s).2.objects k = s.objects k := by
  rcases @EnsureNamedObject_cases _ kind key create client requiresRecreate s with
    ⟨e, h⟩ | ⟨x, obj, -, -, -, h⟩ | ⟨obj, -, -, h⟩ | ⟨x, obj, -, -, ⟨-, h⟩ | ⟨-, h⟩⟩ <;> rw [h]
  · exact writeObject_objects_of_ne hk
  · exact recreateObject_objects_of_ne hk
  · exact writeObject_objects_of_ne hk

/-- **A successful ensure leaves its object settled**, when the creator is idempotent. -/
theorem EnsureNamedObject_settles (hidem : Idempotent create)
    (hok : (EnsureNamedObject kind key create client requiresRecreate s).1 = .ok ()) :
    Settled kind create key (EnsureNamedObject kind key create client requiresRecreate s).2 := by
  rcases @EnsureNamedObject_cases _ kind key create client requiresRecreate s with
    ⟨e, h⟩ | ⟨x, obj, hx, hc, he, h⟩ | ⟨obj, -, hc, h⟩ | ⟨x, obj, -, hc, ⟨-, h⟩ | ⟨-, h⟩⟩ <;>
    rw [h] at hok ⊢
  · cases hok
  · exact ⟨x, obj, hx, hc, he⟩
  · rcases writeObject_eq client kind.data (.create key obj) s with h' | ⟨e, h'⟩ <;> rw [h'] at hok ⊢
    · exact settled_write rfl rfl hidem hc
    · cases hok
  · rcases @recreateObject_eq _ kind key client s obj with h' | ⟨e, h'⟩ | ⟨e, h'⟩ <;>
      rw [h'] at hok ⊢ <;> try cases hok
    exact settled_write rfl rfl hidem hc
  · rcases writeObject_eq client kind.data (.update key obj) s with h' | ⟨e, h'⟩ <;> rw [h'] at hok ⊢
    · exact settled_write rfl rfl hidem hc
    · cases hok

/-- **Ensuring a settled object writes nothing**, when its `Get` succeeds. -/
theorem EnsureNamedObject_of_settled (hget : client.getError kind.data key = none)
    (hs : Settled kind create key s) :
    EnsureNamedObject kind key create client requiresRecreate s = (.ok (), s) := by
  obtain ⟨existing, obj, hx, hc, he⟩ := hs
  simp [EnsureNamedObject, hget, hx, hc, he]

/-- An ensure's `Get` of its object succeeded when the ensure did. -/
theorem getError_of_EnsureNamedObject
    (hok : (EnsureNamedObject kind key create client requiresRecreate s).1 = .ok ()) :
    client.getError kind.data key = none := by
  unfold EnsureNamedObject at hok
  split at hok
  · cases hok
  · assumption

/-- A successful ensure that wrote nothing found its object settled, and changed nothing. -/
theorem EnsureNamedObject_settled_of_writes {s' : Store α}
    (hr : EnsureNamedObject kind key create client requiresRecreate s = (.ok (), s'))
    (hw : s'.writes = s.writes) : s' = s ∧ Settled kind create key s := by
  rcases @EnsureNamedObject_cases _ kind key create client requiresRecreate s with
    ⟨e, h⟩ | ⟨x, obj, hx, hc, he, h⟩ | ⟨obj, -, -, h⟩ | ⟨x, obj, -, -, ⟨-, h⟩ | ⟨-, h⟩⟩ <;>
    rw [h] at hr
  · cases hr
  · cases hr
    exact ⟨rfl, x, obj, hx, hc, he⟩
  · rw [writeObject_ok hr] at hw
    simp at hw
  · rw [recreateObject_ok hr] at hw
    simp at hw
  · rw [writeObject_ok hr] at hw
    simp at hw

/-- An ensure only adds writes. -/
theorem writes_EnsureNamedObject :
    ∃ ws, (EnsureNamedObject kind key create client requiresRecreate s).2.writes = s.writes ++ ws := by
  rcases @EnsureNamedObject_cases _ kind key create client requiresRecreate s with
    ⟨e, h⟩ | ⟨x, obj, -, -, -, h⟩ | ⟨obj, -, -, h⟩ | ⟨x, obj, -, -, ⟨-, h⟩ | ⟨-, h⟩⟩ <;> rw [h]
  · exact ⟨[], by simp⟩
  · exact ⟨[], by simp⟩
  · exact writes_writeObject ..
  · rcases @recreateObject_eq _ kind key client s obj with h' | ⟨e, h'⟩ | ⟨e, h'⟩ <;> rw [h'] <;>
      simp
  · exact writes_writeObject ..

/-- What an ensure leaves under its key: what was there, nothing when it failed (a
re-creation whose create was refused), or what the creator made of what was there. -/
theorem EnsureNamedObject_objects_key :
    (EnsureNamedObject kind key create client requiresRecreate s).2.objects key = s.objects key ∨
      (requiresRecreate = true ∧ (EnsureNamedObject kind key create client requiresRecreate s).1 ≠ .ok () ∧
        (EnsureNamedObject kind key create client requiresRecreate s).2.objects key = none) ∨
      ∃ obj, create (some ((s.objects key).getD kind.empty)) = .ok obj ∧
        (EnsureNamedObject kind key create client requiresRecreate s).2.objects key = some obj := by
  rcases @EnsureNamedObject_cases _ kind key create client requiresRecreate s with
    ⟨e, h⟩ | ⟨x, obj, -, -, -, h⟩ | ⟨obj, hx, hc, h⟩ | ⟨x, obj, hx, hc, ⟨hr, h⟩ | ⟨-, h⟩⟩ <;> rw [h]
  · exact .inl rfl
  · exact .inl rfl
  · rcases writeObject_eq client kind.data (.create key obj) s with h' | ⟨e, h'⟩ <;> rw [h']
    · exact .inr (.inr ⟨obj, by simpa [hx] using hc, by simp [Write.key, Write.stored]⟩)
    · exact .inl rfl
  · rcases @recreateObject_eq _ kind key client s obj with h' | ⟨e, h'⟩ | ⟨e, h'⟩ <;> rw [h']
    · exact .inr (.inr ⟨obj, by simpa [hx] using hc, by simp [Write.key, Write.stored]⟩)
    · exact .inr (.inl ⟨hr, nofun, by simp [Write.key, Write.stored]⟩)
    · exact .inl rfl
  · rcases writeObject_eq client kind.data (.update key obj) s with h' | ⟨e, h'⟩ <;> rw [h']
    · exact .inr (.inr ⟨obj, by simpa [hx] using hc, by simp [Write.key, Write.stored]⟩)
    · exact .inl rfl

section Keeps

variable {β : Type} (f : α → β) (hkeep : ∀ x y, create (some x) = .ok y → f y = f x)
  {k : NamespacedName} {x : α} (hx : s.objects k = some x)
include hkeep hx

/-- An object stored before an ensure is, if still stored after it, itself or what the
creator made of it: it keeps what the creator keeps. -/
theorem EnsureNamedObject_keeps {y : α}
    (hy : (EnsureNamedObject kind key create client requiresRecreate s).2.objects k = some y) :
    f y = f x := by
  by_cases hk : k = key
  · subst hk
    rcases @EnsureNamedObject_objects_key _ kind k create client requiresRecreate s with
      h | ⟨-, -, h⟩ | ⟨obj, hc, h⟩ <;> rw [h] at hy
    · rw [hx] at hy
      cases hy
      rfl
    · cases hy
    · rw [hx] at hc
      cases hy
      exact hkeep x _ hc
  · rw [EnsureNamedObject_frame hk, hx] at hy
    cases hy
    rfl

/-- After a successful ensure, an object stored before it is still stored. -/
theorem EnsureNamedObject_ok_keeps
    (hok : (EnsureNamedObject kind key create client requiresRecreate s).1 = .ok ()) :
    ∃ y, (EnsureNamedObject kind key create client requiresRecreate s).2.objects k = some y ∧
      f y = f x := by
  by_cases hk : k = key
  · subst hk
    rcases @EnsureNamedObject_objects_key _ kind k create client requiresRecreate s with
      h | ⟨-, hne, -⟩ | ⟨obj, hc, h⟩
    · exact ⟨x, h.trans hx, rfl⟩
    · exact (hne hok).elim
    · rw [hx] at hc
      exact ⟨obj, h, hkeep x obj hc⟩
  · exact ⟨x, (EnsureNamedObject_frame hk).trans hx, rfl⟩

end Keeps

/-- **An ensure of a kind updated in place deletes nothing**, whatever the API server
answers: an object stored before it is still stored after it. -/
theorem EnsureNamedObject_keeps_stored (hrec : requiresRecreate = false) {k : NamespacedName}
    {x : α} (hx : s.objects k = some x) :
    ∃ y, (EnsureNamedObject kind key create client requiresRecreate s).2.objects k = some y := by
  by_cases hk : k = key
  · subst hk
    rcases @EnsureNamedObject_objects_key _ kind k create client requiresRecreate s with
      h | ⟨hr, -, -⟩ | ⟨obj, -, h⟩
    · exact ⟨x, h.trans hx⟩
    · exact absurd (hrec.symm.trans hr) Bool.false_ne_true
    · exact ⟨obj, h⟩
  · exact ⟨x, (EnsureNamedObject_frame hk).trans hx⟩

/-- **A kind that requires recreation can lose its object.** When the creator changes a
stored object and the API server accepts the delete but refuses the create, the ensure
fails and leaves the object deleted. -/
theorem EnsureNamedObject_recreate_refused {x obj : α} {e : String} (hrec : requiresRecreate = true)
    (hget : client.getError kind.data key = none) (hx : s.objects key = some x)
    (hc : create (some x) = .ok obj) (hne : kind.deepEqual obj x = false)
    (hdel : client.refuses kind.data .delete key = none)
    (hcreate : client.refuses kind.data .create key = some e) :
    EnsureNamedObject kind key create client requiresRecreate s =
      (.error (.msg e), s.write (.delete key)) := by
  simp [EnsureNamedObject, hget, hx, hc, hne, hrec, recreateObject, writeObject, hdel, hcreate,
    Write.verb, Write.key]

/-! ## Kinds read through their `ObjectMeta` -/

section OfMeta

variable [DecidableEq α] {data : ReconcileFunctionData} {empty : α} {getMeta : α → ObjectMeta}
  {setMeta : ObjectMeta → α → α}

/-- **The creator of a kind of `ofMeta`**, for a row without a defaulting function and no
modifiers: the named creator on the existing object or the zero value, under the name
and the namespace. -/
theorem objectCreator_ofMeta (hd : data.defaultingFunc = "")
    (hget : ∀ m x, getMeta (setMeta m x) = m) (hset : ∀ m m' x, setMeta m (setMeta m' x) = setMeta m x)
    (ns : String) (get : NamedCreatorGetter α) (x : Option α) :
    objectCreator (.ofMeta data empty getMeta setMeta) ns [] get x =
      (get.2 (x.getD empty)).map (setMeta ⟨get.1, ns⟩) := by
  have hempty : (ResourceKind.ofMeta data empty getMeta setMeta).data.defaultingFunc.isEmpty =
      true := by
    show data.defaultingFunc.isEmpty = true
    rw [hd]; rfl
  have hwrap : ObjectWrapper (.ofMeta data empty getMeta setMeta) get.2 x = get.2 (x.getD empty) := by
    cases x <;> rfl
  simp only [objectCreator, hempty, if_true, List.foldl_nil, createWithName, createWithNamespace,
    hwrap]
  cases get.2 (x.getD empty) <;> simp [Except.map, ResourceKind.ofMeta, hget, hset]

/-- A settled object of such a kind is what the named creator makes of it, under the name
and the namespace. -/
theorem Settled.ofMeta {ns : String} {get : NamedCreatorGetter α} {key : NamespacedName}
    {s : Store α} (h : Settled (.ofMeta data empty getMeta setMeta)
      (objectCreator (.ofMeta data empty getMeta setMeta) ns [] get) key s)
    (hd : data.defaultingFunc = "") (hget : ∀ m x, getMeta (setMeta m x) = m)
    (hset : ∀ m m' x, setMeta m (setMeta m' x) = setMeta m x) :
    ∃ x y, s.objects key = some x ∧ get.2 x = .ok y ∧ setMeta ⟨get.1, ns⟩ y = x := by
  obtain ⟨x, obj, hx, hc, he⟩ := h
  rw [objectCreator_ofMeta hd hget hset, Option.getD_some] at hc
  cases hy : get.2 x with
  | error e => rw [hy] at hc; cases hc
  | ok y =>
    rw [hy] at hc
    cases hc
    exact ⟨x, y, hx, hy, of_decide_eq_true he⟩

end OfMeta

end Helper

/-! ## Runs -/

section Runs

variable {α : Type} {kind : ResourceKind α} {ns : String} {client : Client}
  {objectModifiers : List (ObjectModifier α)}

/-- **A run writes no object it does not name.** -/
theorem ReconcileObjects_frame {namedGetters : List (NamedCreatorGetter α)} {s : Store α}
    {k : NamespacedName} (hk : ∀ get ∈ namedGetters, k ≠ ⟨ns, get.1⟩) :
    (ReconcileObjects kind namedGetters ns client objectModifiers s).2.objects k = s.objects k := by
  induction namedGetters generalizing s with
  | nil => rfl
  | cons get rest ih =>
    have hhead := @EnsureNamedObject_frame _ kind _ (objectCreator kind ns objectModifiers get) client
      kind.data.requiresRecreate s _ (hk get (List.mem_cons_self _ _))
    unfold ReconcileObjects
    rcases he : EnsureNamedObject kind ⟨ns, get.1⟩ (objectCreator kind ns objectModifiers get) client
      kind.data.requiresRecreate s with ⟨_ | ⟨⟩, s'⟩ <;> rw [he] at hhead
    · exact hhead
    · exact (ih fun g hg => hk g (.tail _ hg)).trans hhead

/-- A run only adds writes. -/
theorem writes_ReconcileObjects (namedGetters : List (NamedCreatorGetter α)) (s : Store α) :
    ∃ ws, (ReconcileObjects kind namedGetters ns client objectModifiers s).2.writes = s.writes ++ ws := by
  induction namedGetters generalizing s with
  | nil => exact ⟨[], by simp [ReconcileObjects]⟩
  | cons get rest ih =>
    obtain ⟨ws₁, h₁⟩ := @writes_EnsureNamedObject _ kind ⟨ns, get.1⟩
      (objectCreator kind ns objectModifiers get) client kind.data.requiresRecreate s
    unfold ReconcileObjects
    rcases he : EnsureNamedObject kind ⟨ns, get.1⟩ (objectCreator kind ns objectModifiers get) client
      kind.data.requiresRecreate s with ⟨_ | ⟨⟩, s'⟩ <;> rw [he] at h₁
    · exact ⟨ws₁, h₁⟩
    · obtain ⟨ws₂, h₂⟩ := ih s'
      exact ⟨ws₁ ++ ws₂, by rw [h₂, h₁, List.append_assoc]⟩

/-- After a successful run with distinct names and idempotent creators, every object it
names is settled. -/
theorem ReconcileObjects_settles {namedGetters : List (NamedCreatorGetter α)} {s : Store α}
    (hnames : (namedGetters.map Prod.fst).Nodup)
    (hidem : ∀ get ∈ namedGetters, Idempotent (objectCreator kind ns objectModifiers get))
    (hok : (ReconcileObjects kind namedGetters ns client objectModifiers s).1 = .ok ()) :
    ∀ get ∈ namedGetters, Settled kind (objectCreator kind ns objectModifiers get) ⟨ns, get.1⟩
      (ReconcileObjects kind namedGetters ns client objectModifiers s).2 := by
  induction namedGetters generalizing s with
  | nil => simp
  | cons get rest ih =>
    rw [List.map_cons, List.nodup_cons] at hnames
    have hsettles := @EnsureNamedObject_settles _ kind ⟨ns, get.1⟩ _ client
      kind.data.requiresRecreate s
      (hidem get (List.mem_cons_self _ _))
    unfold ReconcileObjects at hok ⊢
    rcases he : EnsureNamedObject kind ⟨ns, get.1⟩ (objectCreator kind ns objectModifiers get) client
      kind.data.requiresRecreate s with ⟨_ | ⟨⟩, s'⟩ <;> simp only [he] at hok hsettles ⊢
    · cases hok
    intro g hg
    rcases List.mem_cons.mp hg with rfl | hg
    · refine (hsettles trivial).of_objects_eq (ReconcileObjects_frame fun g' hg' heq => hnames.1 ?_)
      exact List.mem_map.mpr ⟨g', hg', (congrArg NamespacedName.name heq).symm⟩
    · exact ih hnames.2 (fun g hg => hidem g (.tail _ hg)) hok g hg

/-- **A run on settled objects writes nothing**, when their `Get`s succeed. -/
theorem ReconcileObjects_of_settled {namedGetters : List (NamedCreatorGetter α)} {s : Store α}
    (hget : ∀ get ∈ namedGetters, client.getError kind.data ⟨ns, get.1⟩ = none)
    (hs : ∀ get ∈ namedGetters,
      Settled kind (objectCreator kind ns objectModifiers get) ⟨ns, get.1⟩ s) :
    ReconcileObjects kind namedGetters ns client objectModifiers s = (.ok (), s) := by
  induction namedGetters with
  | nil => rfl
  | cons get rest ih =>
    unfold ReconcileObjects
    rw [EnsureNamedObject_of_settled (hget get (List.mem_cons_self _ _))
      (hs get (List.mem_cons_self _ _))]
    exact ih (fun g hg => hget g (.tail _ hg)) (fun g hg => hs g (.tail _ hg))

/-- A successful run that wrote nothing found every object it names settled. -/
theorem ReconcileObjects_settled_of_writes {namedGetters : List (NamedCreatorGetter α)}
    {s s' : Store α} (hr : ReconcileObjects kind namedGetters ns client objectModifiers s = (.ok (), s'))
    (hw : s'.writes = s.writes) :
    s' = s ∧ ∀ get ∈ namedGetters,
      Settled kind (objectCreator kind ns objectModifiers get) ⟨ns, get.1⟩ s := by
  induction namedGetters generalizing s with
  | nil =>
    cases hr
    exact ⟨rfl, by simp⟩
  | cons get rest ih =>
    unfold ReconcileObjects at hr
    rcases he : EnsureNamedObject kind ⟨ns, get.1⟩ (objectCreator kind ns objectModifiers get) client
      kind.data.requiresRecreate s with ⟨_ | ⟨⟩, s₁⟩ <;> simp only [he] at hr
    · cases hr
    obtain ⟨ws₁, h₁⟩ := @writes_EnsureNamedObject _ kind ⟨ns, get.1⟩
      (objectCreator kind ns objectModifiers get) client kind.data.requiresRecreate s
    obtain ⟨ws₂, h₂⟩ := @writes_ReconcileObjects _ kind ns client objectModifiers rest s₁
    simp only [he] at h₁
    rw [hr] at h₂
    have hnil : ws₁ = [] := by
      have := congrArg List.length (hw.symm.trans (h₂.trans (by rw [h₁])))
      simp only [List.length_append] at this
      exact List.eq_nil_of_length_eq_zero (by omega)
    obtain ⟨rfl, hhead⟩ := EnsureNamedObject_settled_of_writes he (by simp [h₁, hnil])
    obtain ⟨rfl, hrest⟩ := ih hr hw
    exact ⟨rfl, fun g hg => (List.mem_cons.mp hg).elim (· ▸ hhead) (hrest g)⟩

/-- **A run keeps what every creator keeps.** For a field `f` that each creator leaves as
it found it on an existing object (its status, a field another component owns), an
object stored before a run has, if it is still stored after the run, the same `f`. -/
theorem ReconcileObjects_keeps {β : Type} (f : α → β) {namedGetters : List (NamedCreatorGetter α)}
    (hkeep : ∀ get ∈ namedGetters, ∀ x y,
      objectCreator kind ns objectModifiers get (some x) = .ok y → f y = f x)
    {s : Store α} {k : NamespacedName} {x y : α} (hx : s.objects k = some x)
    (hy : (ReconcileObjects kind namedGetters ns client objectModifiers s).2.objects k = some y) :
    f y = f x := by
  induction namedGetters generalizing s x with
  | nil =>
    rw [show (ReconcileObjects kind [] ns client objectModifiers s).2 = s from rfl, hx] at hy
    cases hy
    rfl
  | cons get rest ih =>
    have hhead := hkeep get (List.mem_cons_self _ _)
    unfold ReconcileObjects at hy
    rcases he : EnsureNamedObject kind ⟨ns, get.1⟩ (objectCreator kind ns objectModifiers get) client
      kind.data.requiresRecreate s with ⟨_ | ⟨⟩, s₁⟩ <;> simp only [he] at hy
    · exact EnsureNamedObject_keeps f hhead hx (by rw [he]; exact hy)
    · obtain ⟨x₁, hx₁, hf⟩ := EnsureNamedObject_ok_keeps f hhead hx (by rw [he])
      rw [he] at hx₁
      exact (ih (fun g hg => hkeep g (.tail _ hg)) hx₁ hy).trans hf

/-- After a successful run, an object stored before it is still stored, with what every
creator keeps. -/
theorem ReconcileObjects_ok_keeps {β : Type} (f : α → β)
    {namedGetters : List (NamedCreatorGetter α)}
    (hkeep : ∀ get ∈ namedGetters, ∀ x y,
      objectCreator kind ns objectModifiers get (some x) = .ok y → f y = f x)
    {s : Store α} {k : NamespacedName} {x : α} (hx : s.objects k = some x)
    (hok : (ReconcileObjects kind namedGetters ns client objectModifiers s).1 = .ok ()) :
    ∃ y, (ReconcileObjects kind namedGetters ns client objectModifiers s).2.objects k = some y ∧
      f y = f x := by
  induction namedGetters generalizing s x with
  | nil => exact ⟨x, hx, rfl⟩
  | cons get rest ih =>
    have hhead := hkeep get (List.mem_cons_self _ _)
    unfold ReconcileObjects at hok ⊢
    rcases he : EnsureNamedObject kind ⟨ns, get.1⟩ (objectCreator kind ns objectModifiers get) client
      kind.data.requiresRecreate s with ⟨_ | ⟨⟩, s₁⟩ <;> simp only [he] at hok ⊢
    · cases hok
    · obtain ⟨x₁, hx₁, hf⟩ := EnsureNamedObject_ok_keeps f hhead hx (by rw [he])
      rw [he] at hx₁
      obtain ⟨y, hy, hf'⟩ := ih (fun g hg => hkeep g (.tail _ hg)) hx₁ hok
      exact ⟨y, hy, hf'.trans hf⟩

/-- **A run of a kind updated in place deletes nothing**: whatever the creators and the API
server's answers, and whether the run fails or not, every object stored before it is
stored after it. -/
theorem ReconcileObjects_keeps_stored (hrec : kind.data.requiresRecreate = false)
    {namedGetters : List (NamedCreatorGetter α)} {s : Store α} {k : NamespacedName} {x : α}
    (hx : s.objects k = some x) :
    ∃ y, (ReconcileObjects kind namedGetters ns client objectModifiers s).2.objects k = some y := by
  induction namedGetters generalizing s x with
  | nil => exact ⟨x, hx⟩
  | cons get rest ih =>
    have hhead := @EnsureNamedObject_keeps_stored _ kind ⟨ns, get.1⟩
      (objectCreator kind ns objectModifiers get) client _ s hrec _ _ hx
    unfold ReconcileObjects
    rcases he : EnsureNamedObject kind ⟨ns, get.1⟩ (objectCreator kind ns objectModifiers get) client
      kind.data.requiresRecreate s with ⟨_ | ⟨⟩, s₁⟩ <;> rw [he] at hhead
    · exact hhead
    · obtain ⟨y, hy⟩ := hhead
      exact ih hy

theorem ReconcileObjects_keeps_stored_refused_update :
    (ResourceKind.ofMeta { resourceName := "Namespace", importAlias := "corev1" } ({} : ObjectMeta)
      id fun m _ => m).data.requiresRecreate = false ∧
    (⟨fun k => if k = ⟨"", "cluster-a"⟩ then some ⟨"cluster-a", "kube-system"⟩ else none, []⟩ :
      Store ObjectMeta).objects ⟨"", "cluster-a"⟩ = some ⟨"cluster-a", "kube-system"⟩ ∧
    (ReconcileObjects (ResourceKind.ofMeta { resourceName := "Namespace", importAlias := "corev1" }
      ({} : ObjectMeta) id fun m _ => m) [("cluster-a", fun m => .ok m)] ""
      ⟨fun _ _ => none, fun _ _ _ => some "forbidden"⟩ []
      ⟨fun k => if k = ⟨"", "cluster-a"⟩ then some ⟨"cluster-a", "kube-system"⟩ else none, []⟩).1 ≠
        .ok () ∧
    ∃ y, (ReconcileObjects (ResourceKind.ofMeta { resourceName := "Namespace", importAlias := "corev1" }
      ({} : ObjectMeta) id fun m _ => m) [("cluster-a", fun m => .ok m)] ""
      ⟨fun _ _ => none, fun _ _ _ => some "forbidden"⟩ []
      ⟨fun k => if k = ⟨"", "cluster-a"⟩ then some ⟨"cluster-a", "kube-system"⟩ else none, []⟩).2.objects
        ⟨"", "cluster-a"⟩ = some y := by
  refine ⟨?hrec, ?hx, nofun, ReconcileObjects_keeps_stored ?hrec ?hx⟩ <;> rfl

/-- **Reconciling converges.** When the names are distinct and every creator is
idempotent, a successful run leaves a store on which a second run, against an API server
whose reads of these objects succeed, succeeds and writes nothing. -/
theorem ReconcileObjects_converges {namedGetters : List (NamedCreatorGetter α)} {s : Store α}
    (hnames : (namedGetters.map Prod.fst).Nodup)
    (hidem : ∀ get ∈ namedGetters, Idempotent (objectCreator kind ns objectModifiers get))
    (hok : (ReconcileObjects kind namedGetters ns client objectModifiers s).1 = .ok ())
    (client' : Client) (hget : ∀ get ∈ namedGetters, client'.getError kind.data ⟨ns, get.1⟩ = none) :
    ReconcileObjects kind namedGetters ns client' objectModifiers
        (ReconcileObjects kind namedGetters ns client objectModifiers s).2 =
      (.ok (), (ReconcileObjects kind namedGetters ns client objectModifiers s).2) :=
  ReconcileObjects_of_settled hget (ReconcileObjects_settles hnames hidem hok)

end Runs


end Kubermatic.Reconciling
