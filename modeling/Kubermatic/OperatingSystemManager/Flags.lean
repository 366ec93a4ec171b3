import Mathlib.Data.List.Basic

/-!
# The command line of the operating-system-manager controller

`getFlags`, in the `operatingsystemmanager` package, builds the arguments the
`osm-controller` container is started with: fixed flags for its kubeconfig, the cluster DNS
address, logging, its probe and metrics addresses and its namespace, then one flag for each
optional setting that is set (an external cloud provider, the node proxies, the pause image,
the container runtime). The binary reads them with Go's `flag` package.

The command line is a data format between two programs, and the result here is its round
trip. `parseFlags` is the part of the `flag` package's syntax that the command line uses.
From every command line `getFlags` builds, it reads back each setting `getFlags` was given,
every flag once, with no argument left over (`getFlags_round_trip`).

The proof goes through the flags as data (`flagList`): `getFlags` renders them
(`getFlags_eq_render`), and the parser reads back any rendered list of defined flags
(`parseFlags_render`, by induction over the list, one flag at a time).
-/

namespace Kubermatic.OperatingSystemManager

/-! ## The code -/

/-- `kubermaticv1.NodeSettings`, of which `getFlags` reads the proxy settings and the pause
image. A `ProxyValue` is read through `Empty` and `String`: the model keeps its text, which
is empty when the value is. -/
structure NodeSettings where
  httpProxy : String := ""
  noProxy : String := ""
  pauseImage : String := ""
  deriving DecidableEq, Repr

/-- The package's `clusterSpec`, of which `getFlags` reads the name, the cluster DNS address
and the container runtime. -/
structure ClusterSpec where
  name : String
  clusterDNSIP : String
  containerRuntime : String := ""
  deriving DecidableEq, Repr

/-- **`getFlags`**. A nil `nodeSettings` is `none`. -/
def getFlags (nodeSettings : Option NodeSettings) (cs : ClusterSpec)
    (externalCloudProvider : Bool) : List String :=
  let flags := ["-worker-cluster-kubeconfig", "/etc/kubernetes/worker-kubeconfig/kubeconfig",
    "-cluster-dns", cs.clusterDNSIP,
    "-logtostderr",
    "-v", "4",
    "-health-probe-address", "0.0.0.0:8085",
    "-metrics-address", "0.0.0.0:8080",
    "-namespace", "cluster" ++ "-" ++ cs.name]
  let flags := if externalCloudProvider then flags ++ ["-external-cloud-provider"] else flags
  let flags := match nodeSettings with
    | none => flags
    | some ns =>
      let flags :=
        if ns.httpProxy ≠ "" then flags ++ ["-node-http-proxy", ns.httpProxy] else flags
      let flags := if ns.noProxy ≠ "" then flags ++ ["-node-no-proxy", ns.noProxy] else flags
      if ns.pauseImage ≠ "" then flags ++ ["-pause-image", ns.pauseImage] else flags
  if cs.containerRuntime ≠ "" then flags ++ ["-container-runtime", cs.containerRuntime]
  else flags

/-! ## Reading a command line -/

/-- **How Go's `flag` package reads a command line**, on the part of its syntax that
`getFlags` uses. An argument `-name` names a flag of the set; `kinds` says whether the set
defines it, and whether it is boolean. A boolean flag is set to `true`; any other takes the
next argument as its value. Parsing stops at the first argument that is not a flag, which
is left over with the rest. An undefined flag, or a flag without its value, is an error.
The result is the values set, in order, and the arguments left over. The forms `--name`,
`-name=value` and the terminator `--`, which `getFlags` never writes, are left out. -/
def parseFlags (kinds : String → Option Bool) :
    List String → Except String (List (String × String) × List String)
  | [] => .ok ([], [])
  | arg :: rest =>
    match arg.data with
    | '-' :: c :: cs =>
      match kinds (String.mk (c :: cs)) with
      | none => .error ("flag provided but not defined: -" ++ String.mk (c :: cs))
      | some true =>
        (parseFlags kinds rest).map fun r => ((String.mk (c :: cs), "true") :: r.1, r.2)
      | some false =>
        match rest with
        | [] => .error ("flag needs an argument: -" ++ String.mk (c :: cs))
        | v :: rest' =>
          (parseFlags kinds rest').map fun r => ((String.mk (c :: cs), v) :: r.1, r.2)
    | _ => .ok ([], arg :: rest)

/-! ## The flags as data -/

/-- A flag as `getFlags` passes it: its name, and its value unless it is boolean. -/
abbrev Flag := String × Option String

/-- The arguments of a flag: `-name`, then its value. -/
def Flag.render : Flag → List String
  | (name, none) => ["-" ++ name]
  | (name, some v) => ["-" ++ name, v]

/-- The value the flag package sets for a flag. -/
def Flag.value (f : Flag) : String × String := (f.1, f.2.getD "true")

/-- The flags `getFlags` passes, in its order. -/
def flagList (nodeSettings : Option NodeSettings) (cs : ClusterSpec)
    (externalCloudProvider : Bool) : List Flag :=
  [("worker-cluster-kubeconfig", some "/etc/kubernetes/worker-kubeconfig/kubeconfig"),
    ("cluster-dns", some cs.clusterDNSIP), ("logtostderr", none), ("v", some "4"),
    ("health-probe-address", some "0.0.0.0:8085"), ("metrics-address", some "0.0.0.0:8080"),
    ("namespace", some ("cluster-" ++ cs.name))] ++
  (if externalCloudProvider then [("external-cloud-provider", none)] else []) ++
  (match nodeSettings with
    | none => []
    | some ns =>
      (if ns.httpProxy ≠ "" then [("node-http-proxy", some ns.httpProxy)] else []) ++
      (if ns.noProxy ≠ "" then [("node-no-proxy", some ns.noProxy)] else []) ++
      (if ns.pauseImage ≠ "" then [("pause-image", some ns.pauseImage)] else [])) ++
  (if cs.containerRuntime ≠ "" then [("container-runtime", some cs.containerRuntime)] else [])

/-- An optional flag of `getFlags` is an append of what it may add. -/
theorem ite_append_self (p : Prop) [Decidable p] (l x : List String) :
    (if p then l ++ x else l) = l ++ if p then x else [] := by
  split <;> simp

theorem flatMap_render_ite (p : Prop) [Decidable p] (fs : List Flag) :
    (if p then fs else []).flatMap Flag.render = if p then fs.flatMap Flag.render else [] := by
  split <;> rfl

/-- `getFlags` renders its flags, one after the other. -/
theorem getFlags_eq_render (nodeSettings : Option NodeSettings) (cs : ClusterSpec)
    (externalCloudProvider : Bool) :
    getFlags nodeSettings cs externalCloudProvider =
      (flagList nodeSettings cs externalCloudProvider).flatMap Flag.render := by
  rcases nodeSettings with _ | ns <;>
    simp only [getFlags, flagList, ite_append_self, List.flatMap_append, flatMap_render_ite] <;>
    simp [Flag.render]

/-! ## The round trip -/

section RoundTrip

variable (kinds : String → Option Bool)

/-- **One flag read back**: a rendered flag of the set is read as its value, and the parser
goes on with what follows it. -/
theorem parseFlags_render_append {f : Flag} (hname : f.1 ≠ "")
    (hkind : kinds f.1 = some f.2.isNone) (rest : List String) :
    parseFlags kinds (f.render ++ rest) =
      (parseFlags kinds rest).map fun r => (f.value :: r.1, r.2) := by
  obtain ⟨⟨_ | ⟨c, cs⟩⟩, ov⟩ := f
  · exact absurd rfl hname
  · cases ov <;> simp_all [Flag.render, Flag.value, parseFlags]

/-- **A rendered list of flags of the set is read back**, value by value, and the parser goes
on with what follows them. -/
theorem parseFlags_render (fs : List Flag)
    (hfs : ∀ f ∈ fs, f.1 ≠ "" ∧ kinds f.1 = some f.2.isNone) (rest : List String) :
    parseFlags kinds (fs.flatMap Flag.render ++ rest) =
      (parseFlags kinds rest).map fun r => (fs.map Flag.value ++ r.1, r.2) := by
  induction fs with
  | nil =>
    simp only [List.flatMap_nil, List.nil_append, List.map_nil]
    cases parseFlags kinds rest <;> rfl
  | cons f fs ih =>
    obtain ⟨hname, hkind⟩ := hfs f (List.mem_cons_self _ _)
    rw [List.flatMap_cons, List.append_assoc, parseFlags_render_append kinds hname hkind,
      ih fun g hg => hfs g (List.mem_cons_of_mem _ hg)]
    cases parseFlags kinds rest <;> rfl

end RoundTrip

@[simp] theorem map_value_ite (p : Prop) [Decidable p] (l₁ l₂ : List Flag) :
    (if p then l₁ else l₂).map Flag.value =
      if p then l₁.map Flag.value else l₂.map Flag.value := by
  split <;> rfl

/-- The flags `getFlags` may pass, and whether each is boolean: what the `osm-controller`
binary's flag set has to define for its command line to parse. -/
def osmFlags : List (String × Bool) :=
  [("worker-cluster-kubeconfig", false), ("cluster-dns", false), ("logtostderr", true),
    ("v", false), ("health-probe-address", false), ("metrics-address", false),
    ("namespace", false), ("external-cloud-provider", true), ("node-http-proxy", false),
    ("node-no-proxy", false), ("pause-image", false), ("container-runtime", false)]

/-- The names of `flagList`'s flags are, in order, among those of `osmFlags`, each with its
kind. -/
theorem flagList_sublist (nodeSettings : Option NodeSettings) (cs : ClusterSpec)
    (externalCloudProvider : Bool) :
    List.Sublist ((flagList nodeSettings cs externalCloudProvider).map fun f => (f.1, f.2.isNone))
      osmFlags := by
  have hopt : ∀ (p : Prop) [Decidable p] (x : Flag) (y : String × Bool),
      (x.1, x.2.isNone) = y →
        List.Sublist ((if p then [x] else []).map fun f => (f.1, f.2.isNone)) [y] :=
    fun p _ x y h => by split <;> simp [h]
  have hosm : osmFlags = osmFlags.take 7 ++ [("external-cloud-provider", true)] ++
      ([("node-http-proxy", false)] ++ [("node-no-proxy", false)] ++ [("pause-image", false)]) ++
      [("container-runtime", false)] := rfl
  rw [hosm]
  simp only [flagList, List.map_append]
  refine (((List.Sublist.refl _).append (hopt _ _ _ rfl)).append ?_).append (hopt _ _ _ rfl)
  rcases nodeSettings with _ | ns
  · exact List.nil_sublist _
  · simp only [List.map_append]
    exact ((hopt _ _ _ rfl).append (hopt _ _ _ rfl)).append (hopt _ _ _ rfl)

/-! ## What the binary reads -/

/-- The binary defines every flag `getFlags` may pass, with its kind. -/
def DefinesOSMFlags (kinds : String → Option Bool) : Prop :=
  ∀ f ∈ osmFlags, kinds f.1 = some f.2

section Binary

variable {kinds : String → Option Bool} (nodeSettings : Option NodeSettings) (cs : ClusterSpec)
  (externalCloudProvider : Bool)

/-- Every flag `getFlags` passes has a name, and is defined with its kind. -/
theorem flagList_defined (hkinds : DefinesOSMFlags kinds) :
    ∀ f ∈ flagList nodeSettings cs externalCloudProvider,
      f.1 ≠ "" ∧ kinds f.1 = some f.2.isNone := by
  intro f hf
  have hosm : (f.1, f.2.isNone) ∈ osmFlags :=
    (flagList_sublist nodeSettings cs externalCloudProvider).subset (List.mem_map_of_mem _ hf)
  have hnames : ∀ g ∈ osmFlags, g.1 ≠ "" := by decide
  exact ⟨hnames _ hosm, hkinds _ hosm⟩

/-- `getFlags` passes each flag at most once. -/
theorem flagList_names_nodup :
    ((flagList nodeSettings cs externalCloudProvider).map Flag.value |>.map Prod.fst).Nodup := by
  have hnames : (osmFlags.map Prod.fst).Nodup := by decide
  have hsub := (flagList_sublist nodeSettings cs externalCloudProvider).map Prod.fst
  simp only [List.map_map] at hsub ⊢
  exact hnames.sublist hsub

/-- **The controller reads back every setting from its command line.** Of a binary that
defines the flags `getFlags` may pass, each with its kind: the command line parses with no
argument left over; it sets each flag at most once; and the values set are the cluster's DNS
address and namespace, `true` for the external cloud provider exactly when it is on, and each
node proxy, the pause image and the container runtime exactly when it is set. -/
theorem getFlags_round_trip (hkinds : DefinesOSMFlags kinds) :
    ∃ values,
      parseFlags kinds (getFlags nodeSettings cs externalCloudProvider) = .ok (values, []) ∧
      (values.map Prod.fst).Nodup ∧
      ("cluster-dns", cs.clusterDNSIP) ∈ values ∧
      ("namespace", "cluster-" ++ cs.name) ∈ values ∧
      (("external-cloud-provider", "true") ∈ values ↔ externalCloudProvider = true) ∧
      (∀ v, ("node-http-proxy", v) ∈ values ↔
        ∃ n ∈ nodeSettings, n.httpProxy ≠ "" ∧ v = n.httpProxy) ∧
      (∀ v, ("node-no-proxy", v) ∈ values ↔
        ∃ n ∈ nodeSettings, n.noProxy ≠ "" ∧ v = n.noProxy) ∧
      (∀ v, ("pause-image", v) ∈ values ↔
        ∃ n ∈ nodeSettings, n.pauseImage ≠ "" ∧ v = n.pauseImage) ∧
      (∀ v, ("container-runtime", v) ∈ values ↔
        cs.containerRuntime ≠ "" ∧ v = cs.containerRuntime) := by
  have hparse := parseFlags_render kinds _ (flagList_defined nodeSettings cs externalCloudProvider
    hkinds) []
  rw [List.append_nil] at hparse
  refine ⟨_, by rw [getFlags_eq_render, hparse]; simp [parseFlags, Except.map],
    flagList_names_nodup nodeSettings cs externalCloudProvider, ?_⟩
  rcases nodeSettings with _ | n <;>
    simp [flagList, Flag.value, List.mem_ite_nil_right, List.mem_ite_nil_left]

end Binary

/-- The flags of the OSM binary, by name, as `kinds`. -/
def osmKinds (name : String) : Option Bool := osmFlags.lookup name

theorem definesOSMFlags_osmKinds : DefinesOSMFlags osmKinds := by
  unfold DefinesOSMFlags osmKinds
  decide

/-- A cluster behind a proxy, with the external cloud provider and `containerd`. -/
theorem getFlags_round_trip_proxied :
    ∃ values,
      parseFlags osmKinds (getFlags (some { httpProxy := "http://proxy:3128" })
        ⟨"c", "10.240.16.10", "containerd"⟩ true) = .ok (values, []) ∧
      (values.map Prod.fst).Nodup ∧
      ("cluster-dns", "10.240.16.10") ∈ values ∧
      ("namespace", "cluster-" ++ "c") ∈ values ∧
      (("external-cloud-provider", "true") ∈ values ↔ true = true) ∧
      (∀ v, ("node-http-proxy", v) ∈ values ↔
        ∃ n ∈ some ({ httpProxy := "http://proxy:3128" } : NodeSettings),
          n.httpProxy ≠ "" ∧ v = n.httpProxy) ∧
      (∀ v, ("node-no-proxy", v) ∈ values ↔
        ∃ n ∈ some ({ httpProxy := "http://proxy:3128" } : NodeSettings),
          n.noProxy ≠ "" ∧ v = n.noProxy) ∧
      (∀ v, ("pause-image", v) ∈ values ↔
        ∃ n ∈ some ({ httpProxy := "http://proxy:3128" } : NodeSettings),
          n.pauseImage ≠ "" ∧ v = n.pauseImage) ∧
      (∀ v, ("container-runtime", v) ∈ values ↔ "containerd" ≠ "" ∧ v = "containerd") :=
  getFlags_round_trip _ _ _ definesOSMFlags_osmKinds

end Kubermatic.OperatingSystemManager
