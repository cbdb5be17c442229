import WidgetDoc.Proofs.ReportedEntries
import WidgetDoc.QueryBatch

/-!
# Queries about directories

Whether a directory has entries is read off a report to some depth. The answer is right for every
depth that an input can ask for except none at all: a report to depth zero shows no entry of any
directory.
-/

namespace WidgetDoc

/-- The answer that a local probe of a file system gives to a query of a kind on an input. -/
def FileSystem.answer (fs : FileSystem) (p : LocalProbe) (kind : QueryKind) (input : Value) :
    Bool :=
  ((Query.ask input kind).through p.answer).run fs.disk

namespace Number

/-- The depth that a number asks for: itself if it is a natural number of 32 bits and of the integer
kind, and the default otherwise. -/
def depthOr (default : Nat) (n : Number) : Nat :=
  (n.toNat?.filter (· < UInt32.size)).getD default

theorem depthOr_natural (default n : Nat) (fits : FitsWord (.ofNat n)) :
    (integer (.ofNat n) fits).depthOr default = if n < UInt32.size then n else default := by
  rw [depthOr, toNat?]
  split <;> simp [Option.filter, *]

theorem depthOr_eq_zero_iff {default : Nat} (h : default ≠ 0) {n : Number} :
    n.depthOr default = 0 ↔ n = .ofNat 0 := by
  rw [show ofNat 0 = integer 0 (by decide) from rfl]
  rcases n with ⟨n | n, fits⟩ | x
  · have hsize : 0 < UInt32.size := by decide
    rw [depthOr_natural, integer.injEq]
    split
    · simp
    · simp
      omega
  · simp [depthOr, toNat?, h]
  · simp [depthOr, toNat?, h]

end Number

namespace Query

open LocalProbe

/-- A question about the tree that an input names is answered by the tree, if there is one. -/
theorem run_askTree_iff {probe : Probe} {input : Value} {defaultDepth : Nat}
    {test : TreeNode → Bool} {root : String} (hroot : Value.display (input.field? "root") = root) :
    (askTree input defaultDepth test).run probe = true ↔
      root ≠ "" ∧ ∃ tree, probe (.tree root (depthOr defaultDepth input)) = .ok tree ∧
        test tree = true := by
  rw [askTree, required?, hroot]
  by_cases hempty : root = ""
  · simp [hempty, Dialogue.run]
  · simp only [if_neg hempty, Dialogue.run]
    cases probe (.tree root (depthOr defaultDepth input)) with
    | error e => simp
    | ok tree =>
        constructor
        · intro htest
          exact ⟨hempty, tree, rfl, htest⟩
        · rintro ⟨-, tree', htree, htest⟩
          obtain rfl := Except.ok.inj htree
          exact htest

theorem run_askTree_eq_true_iff {fs : FileSystem} {p : LocalProbe} {input : Value}
    {defaultDepth : Nat} {test : TreeNode → Bool} {root : String}
    (hroot : Value.display (input.field? "root") = root) :
    ((askTree input defaultDepth test).through p.answer).run fs.disk = true ↔
      root ≠ "" ∧ ∃ full tree, p.resolve root = .ok full ∧ fs.find full = .ok tree ∧
        test (tree.report (min (depthOr defaultDepth input) p.maxDepth) (shownName (shown root))
          (shown root)) = true := by
  rw [Dialogue.run_through, run_askTree_iff hroot]
  constructor
  · rintro ⟨hne, tree, htree, htest⟩
    obtain ⟨full, entry, hresolve, hfind, rfl⟩ := run_fetchTree_eq_ok_iff.mp htree
    exact ⟨hne, full, entry, hresolve, hfind, htest⟩
  · rintro ⟨hne, full, entry, hresolve, hfind, htest⟩
    exact ⟨hne, _, run_fetchTree_eq_ok_iff.mpr ⟨full, entry, hresolve, hfind, rfl⟩, htest⟩

theorem hasEntries_eq_true_iff {n : TreeNode} : hasEntries n = true ↔ n.children ≠ [] := by
  rcases n with ⟨name, path⟩ | ⟨name, path, _ | ⟨child, rest⟩⟩ <;>
    simp [hasEntries, TreeNode.children]

theorem hasEntries_report_iff {depth : Nat} {name path : String} {tree : FileTree} :
    hasEntries (tree.report depth name path) = true ↔
      (∃ entries, tree = .dir entries ∧ entries ≠ []) ∧ depth ≠ 0 := by
  rw [hasEntries_eq_true_iff]
  cases tree with
  | file content => simp [FileTree.children_report_file]
  | dir entries =>
      cases depth with
      | zero => simp [FileTree.report, TreeNode.children]
      | succ depth => simp [FileTree.report, TreeNode.children, FileTree.sorted_eq_nil_iff]

theorem depthOr_of_number {defaultDepth : Nat} {input : Value} {n : Number}
    (h : input.field? "depth" = some (.number n)) :
    depthOr defaultDepth input = n.depthOr defaultDepth := by
  rw [depthOr, h, Number.depthOr]

theorem depthOr_eq_zero_iff {defaultDepth : Nat} (h : defaultDepth ≠ 0) {input : Value} :
    depthOr defaultDepth input = 0 ↔ input.field? "depth" = some (.number (.ofNat 0)) := by
  rw [depthOr]
  split
  next n hfield => simp [hfield, ← Number.depthOr_eq_zero_iff h, Number.depthOr]
  next hfield => exact iff_of_false h fun hzero => hfield _ hzero

/-- A probe says that a directory is not empty exactly if the root is a path inside that names a
directory with an entry, unless the input asks for the depth zero. -/
theorem answer_dirNonEmpty_iff (fs : FileSystem) (p : LocalProbe) (hallowed : 1 ≤ p.maxDepth)
    (input : Value) (hroot : Value.display (input.field? "root") ≠ "") :
    fs.answer p .dirNonEmpty input = true ↔
      (∃ full entries, p.resolve (Value.display (input.field? "root")) = .ok full ∧
        fs.find full = .ok (.dir entries) ∧ entries ≠ []) ∧
      input.field? "depth" ≠ some (.number (.ofNat 0)) := by
  have hdepth : min (depthOr 1 input) p.maxDepth ≠ 0 ↔
      input.field? "depth" ≠ some (.number (.ofNat 0)) := by
    rw [ne_eq, ne_eq, ← depthOr_eq_zero_iff Nat.one_ne_zero]
    omega
  rw [FileSystem.answer, ask, run_askTree_eq_true_iff rfl]
  simp only [hasEntries_report_iff, hdepth]
  constructor
  · rintro ⟨-, full, tree, hresolve, hfind, ⟨entries, rfl, hne⟩, hasked⟩
    exact ⟨⟨full, entries, hresolve, hfind, hne⟩, hasked⟩
  · rintro ⟨⟨full, entries, hresolve, hfind, hne⟩, hasked⟩
    exact ⟨hroot, full, _, hresolve, hfind, ⟨entries, rfl, hne⟩, hasked⟩

/-- A query about the sources in the working directory. -/
def sourcesInput (depth : Number) : Value :=
  some (.object [("root", .string "src"), ("depth", .number depth)])

/-- A depth that is too great to be one is as good as no depth. -/
theorem answer_dirNonEmpty_iff_sources :
    1 ≤ homeProbe.maxDepth ∧
      Value.display ((sourcesInput (.ofNat UInt32.size)).field? "root") ≠ "" ∧
      workspace.answer homeProbe .dirNonEmpty (sourcesInput (.ofNat UInt32.size)) = true := by
  refine ⟨by decide, by decide, ?_⟩
  rw [answer_dirNonEmpty_iff workspace homeProbe (by decide) _ (by decide)]
  refine ⟨⟨"/home/src", sources, rfl, rfl, by decide⟩, fun hzero => ?_⟩
  exact absurd (Json.number.inj (Option.some.inj hzero)) (by decide)

/-- With the depth zero, a directory with three entries counts as an empty one. -/
theorem answer_dirNonEmpty_depth_zero :
    1 ≤ homeProbe.maxDepth ∧ Value.display ((sourcesInput (.ofNat 0)).field? "root") = "src" ∧
      homeProbe.resolve "src" = .ok "/home/src" ∧
      workspace.find "/home/src" = .ok (.dir sources) ∧ sources.length = 3 ∧
      workspace.answer homeProbe .dirNonEmpty (sourcesInput (.ofNat 0)) = false := by
  refine ⟨by decide, rfl, rfl, rfl, rfl, rfl⟩

end Query

end WidgetDoc
