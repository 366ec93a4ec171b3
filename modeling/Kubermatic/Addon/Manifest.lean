import Mathlib.Data.List.Basic
import Mathlib.Data.List.DropRight

/-!
# Combining an addon's manifests

The addon controller (`pkg/controller/user-cluster-controller-manager/addon`, file
`part_008` of the sources) renders an addon's templates into one buffer per object,
labels each object, and writes them out as one multi-document YAML file with
`Reconciler.combineManifests`; `Reconciler.ensureIsInstalled` then reads the file back
and hands it to `kubectl apply --prune` with the addon's label as selector. The prune
deletes every labelled object of the cluster that is not in the file, so a document
lost or merged on the way would delete live resources.

Go strings are modelled as lists of runes, which is what `strings.TrimSpace` reads;
`strings.Join` is `List.intercalate`. How `kubectl` cuts a file into documents, at lines
equal to `---`, is not in the sources and is modelled from the spec. The main result
(`splitDocuments_combineManifests`) is the round trip: splitting the combined file gives
back every manifest's trimmed text, in order, as long as no manifest has a line `---`
of its own. The list lemmas it rests on are Mathlib's `List.splitOn_intercalate` and
`List.intercalate_splitOn`, one split per level: lines, then documents.
-/

namespace Kubermatic.Addon

/-! ## The code -/

/-- `unicode.IsSpace`: the Latin-1 spaces, and above Latin-1 the other runes of the
`White_Space` property. -/
def isSpace (r : Char) : Bool :=
  if r.toNat ≤ 0xFF then
    [0x09, 0x0A, 0x0B, 0x0C, 0x0D, 0x20, 0x85, 0xA0].contains r.toNat
  else
    [0x1680, 0x2028, 0x2029, 0x202F, 0x205F, 0x3000].contains r.toNat ||
      (0x2000 ≤ r.toNat && r.toNat ≤ 0x200A)

/-- `strings.TrimSpace`: leading and trailing white space dropped. -/
def trimSpace (s : List Char) : List Char :=
  (s.dropWhile isSpace).rdropWhile isSpace

/-- `strings.TrimSuffix`. -/
def trimSuffix (s suffix : List Char) : List Char :=
  if suffix.isSuffixOf s then s.take (s.length - suffix.length) else s

/-- `Reconciler.combineManifests`: every buffer trimmed, joined with a `---` line
between two of them, and a final newline. -/
def combineManifests (manifests : List (List Char)) : List Char :=
  "\n---\n".toList.intercalate (manifests.map fun m => trimSpace (trimSuffix m ['\n'])) ++
    ['\n']

/-- What `Reconciler.ensureIsInstalled` does with the manifest file it read. -/
inductive Install
  /-- The manifest is empty after trimming: nothing is applied. -/
  | skip
  /-- The manifest is applied, and what it does not name is pruned. -/
  | apply (manifest : List Char)
  deriving DecidableEq, Repr

/-- `Reconciler.ensureIsInstalled`, from the manifest file it read on. -/
def ensureIsInstalled (d : List Char) : Install :=
  if (trimSpace d).length = 0 then .skip else .apply d

/-- The line that separates two documents. -/
def documentSeparator : List Char := ['-', '-', '-']

/-- Modelled from the spec: the documents of a multi-document YAML file, cut at the
lines equal to `---`. -/
def splitDocuments (s : List Char) : List (List Char) :=
  ((s.splitOn '\n').splitOn documentSeparator).map (['\n'].intercalate)

/-! ## Trimming -/

theorem isSpace_newline : isSpace '\n' = true := by decide

/-- Dropping a final newline before trimming white space changes nothing: the newline
is white space. -/
@[simp] theorem trimSpace_trimSuffix_newline (s : List Char) :
    trimSpace (trimSuffix s ['\n']) = trimSpace s := by
  unfold trimSuffix
  split
  · rename_i h
    obtain ⟨t, rfl⟩ : ∃ t, s = t ++ ['\n'] := by
      obtain ⟨t, ht⟩ := List.isSuffixOf_iff_suffix.mp h
      exact ⟨t, ht.symm⟩
    simp only [List.length_append, List.length_singleton, Nat.add_sub_cancel,
      List.take_left', trimSpace, List.dropWhile_append]
    split
    · rename_i he
      simp [List.isEmpty_iff.mp he, isSpace_newline]
    · rw [List.rdropWhile_concat_pos _ _ _ isSpace_newline]
  · rfl

/-- Trimming keeps a part of the text. -/
theorem trimSpace_subset (s : List Char) : trimSpace s ⊆ s :=
  fun _ hc => (List.dropWhile_sublist _).subset ((List.rdropWhile_prefix _ _).subset hc)

/-- A text trims to nothing exactly when it is white space all the way through. -/
theorem trimSpace_eq_nil_iff {s : List Char} : trimSpace s = [] ↔ ∀ c ∈ s, isSpace c = true := by
  rw [trimSpace, List.rdropWhile_eq_nil_iff]
  refine ⟨fun h => List.dropWhile_eq_nil_iff.mp ?_,
    fun h c hc => h c ((List.dropWhile_sublist _).subset hc)⟩
  by_contra hne
  have hhead := List.head_dropWhile_not isSpace s hne
  rw [h _ (List.head_mem hne)] at hhead
  exact Bool.noConfusion hhead

/-- What trimming leaves has no white space at its end, so it is white space all the way
through only when it is empty. -/
theorem trimSpace_eq_nil_of_forall {s : List Char} (h : ∀ c ∈ trimSpace s, isSpace c = true) :
    trimSpace s = [] := by
  by_contra hne
  exact List.rdropWhile_last_not _ _ hne (h _ (List.getLast_mem hne))

/-! ## Splitting -/

/-- Splitting at a separator splits the two sides apart. -/
theorem splitOnP_append_cons {p : α → Bool} (xs as : List α) {sep : α} (hsep : p sep = true) :
    (xs ++ sep :: as).splitOnP p = xs.splitOnP p ++ as.splitOnP p := by
  induction xs with
  | nil => simp [hsep]
  | cons x xs ih =>
    obtain ⟨g, gs, hg⟩ := List.exists_cons_of_ne_nil (List.splitOnP_ne_nil p xs)
    by_cases hx : p x <;> simp [hx, ih, hg]

theorem intercalate_cons_of_ne_nil (sep p : List α) {ps : List (List α)} (hps : ps ≠ []) :
    sep.intercalate (p :: ps) = p ++ sep ++ sep.intercalate ps := by
  obtain ⟨q, qs, rfl⟩ := List.exists_cons_of_ne_nil hps
  simp [List.intercalate]

/-- The lines of texts joined by `---` lines are their lines with a `---` line between
two texts' lines. -/
theorem lines_intercalate (ps : List (List Char)) (hps : ps ≠ []) :
    ("\n---\n".toList.intercalate ps).splitOn '\n' =
      [documentSeparator].intercalate (ps.map (·.splitOn '\n')) := by
  induction ps with
  | nil => exact absurd rfl hps
  | cons p ps ih =>
    rcases eq_or_ne ps [] with rfl | hne
    · simp [List.intercalate]
    · have hsep : "\n---\n".toList = '\n' :: (documentSeparator ++ ['\n']) := rfl
      rw [intercalate_cons_of_ne_nil _ _ hne, List.map_cons,
        intercalate_cons_of_ne_nil _ _ (by simpa using hne), ← ih hne, hsep]
      simp only [List.splitOn, List.append_assoc, List.cons_append]
      rw [splitOnP_append_cons _ _ (by decide), List.splitOnP_first _ _ (by decide) _ (by decide)]
      rfl

/-- Lines are compared with `==`, which on lists is a lawful `BEq`: splitting with it is
splitting with decidable equality, the form Mathlib's lemmas are stated in. -/
theorem splitOn_lines_eq (x : List Char) (ls : List (List Char)) :
    ls.splitOn x = @List.splitOn _ instBEqOfDecidableEq x ls := by
  simp only [List.splitOn]
  congr
  funext l
  by_cases h : l = x <;> simp [h]

/-- **Splitting texts joined by `---` lines gives the texts back**, as long as none has a
`---` line of its own. -/
theorem splitDocuments_intercalate (ps : List (List Char)) (hps : ps ≠ [])
    (hsep : ∀ p ∈ ps, documentSeparator ∉ p.splitOn '\n') :
    splitDocuments ("\n---\n".toList.intercalate ps) = ps := by
  unfold splitDocuments
  rw [lines_intercalate ps hps, splitOn_lines_eq, List.splitOn_intercalate]
  · rw [List.map_map]
    refine (List.map_congr_left fun p _ => ?_).trans (List.map_id ps)
    exact List.intercalate_splitOn p '\n'
  · simpa using hsep
  · simpa using hps

/-! ## The combined manifest -/

/-- **`combineManifests` loses and merges no manifest.** For every non-empty list of
manifests none of whose trimmed texts has a line `---`, the combined file without its
final newline splits into exactly the trimmed texts, in order. The empty list gives a
lone newline, which `ensureIsInstalled` skips. -/
theorem splitDocuments_combineManifests :
    (∀ ms : List (List Char), ms ≠ [] →
      (∀ m ∈ ms, documentSeparator ∉ (trimSpace m).splitOn '\n') →
      splitDocuments (combineManifests ms).dropLast = ms.map trimSpace) ∧
    combineManifests [] = ['\n'] ∧ ensureIsInstalled (combineManifests []) = .skip := by
  refine ⟨fun ms hne hsep => ?_, rfl, by decide⟩
  rw [combineManifests, List.dropLast_concat,
    splitDocuments_intercalate _ (by simpa using hne) (by simpa using hsep)]
  simp

/-- Two manifests, one padded with white space, come back trimmed. -/
theorem splitDocuments_combineManifests_pair :
    [['a', '\n'], [' ', 'b', '\n', '\n']] ≠ [] ∧
    (∀ m ∈ [['a', '\n'], [' ', 'b', '\n', '\n']],
      documentSeparator ∉ (trimSpace m).splitOn '\n') ∧
    splitDocuments (combineManifests [['a', '\n'], [' ', 'b', '\n', '\n']]).dropLast =
      [['a'], ['b']] :=
  ⟨by decide, by decide, splitDocuments_combineManifests.1 _ (by decide) (by decide)⟩

theorem ensureIsInstalled_eq_skip {d : List Char} :
    ensureIsInstalled d = .skip ↔ ∀ c ∈ d, isSpace c = true := by
  rw [← trimSpace_eq_nil_iff, ← List.length_eq_zero, ensureIsInstalled]
  split <;> simp_all

/-- **When an addon is not applied**: `ensureIsInstalled` skips the combined manifest
exactly when there is at most one manifest and it is blank. Two manifests or more are
always applied, blank or not, since the `---` line between them is not white space. -/
theorem ensureIsInstalled_combineManifests_eq_skip (ms : List (List Char)) :
    ensureIsInstalled (combineManifests ms) = .skip ↔
      ms.length ≤ 1 ∧ ∀ m ∈ ms, ∀ c ∈ m, isSpace c = true := by
  rw [ensureIsInstalled_eq_skip]
  match ms with
  | [] => simp [combineManifests, List.intercalate, isSpace_newline]
  | [m] =>
    simp only [combineManifests, List.map, trimSpace_trimSuffix_newline, List.intercalate,
      List.intersperse_single, List.flatten_cons, List.flatten_nil, List.append_nil,
      List.mem_append, List.mem_singleton, List.length_singleton, le_refl, true_and,
      forall_eq]
    refine ⟨fun h => trimSpace_eq_nil_iff.mp (trimSpace_eq_nil_of_forall fun c hc =>
      h c (.inl hc)), fun h c hc => hc.elim (fun hc => h c (trimSpace_subset m hc)) ?_⟩
    rintro rfl
    exact isSpace_newline
  | m :: m' :: rest =>
    have hdash : '-' ∈ combineManifests (m :: m' :: rest) := by
      simp [combineManifests, intercalate_cons_of_ne_nil]
    have hlen : ¬(m :: m' :: rest).length ≤ 1 := by simp
    simp only [hlen, false_and, iff_false]
    exact fun h => Bool.noConfusion (h _ hdash)

end Kubermatic.Addon
