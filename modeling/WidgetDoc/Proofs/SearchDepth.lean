import WidgetDoc.Proofs.DirectoryQueries

/-!
# The depth of a search

A search of a report finds a match exactly if one of the entries down to the depth of the report
matches, so a report to a greater depth never loses a match. A probe takes its depth from the
depths that two inputs ask for, and a number that is no natural one of 32 bits asks for the default.
The order of these depths, not the order of the numbers, decides whether a match can be lost.
-/

namespace WidgetDoc

namespace TreeNode

/-- What names lead to is the node itself or what they lead to from a child. -/
theorem exists_leads_iff {n : TreeNode} {P : TreeNode → Prop} :
    (∃ names found, n.Leads names found ∧ P found) ↔
      P n ∨ ∃ c ∈ n.children, ∃ names found, c.Leads names found ∧ P found := by
  constructor
  · rintro ⟨names, found, hleads, hfound⟩
    cases names with
    | nil =>
        obtain rfl : n = found := hleads
        exact .inl hfound
    | cons name rest =>
        obtain ⟨c, hc, -, hrest⟩ := hleads
        exact .inr ⟨c, hc, rest, found, hrest, hfound⟩
  · rintro (hn | ⟨c, hc, names, found, hleads, hfound⟩)
    · exact ⟨[], n, rfl, hn⟩
    · exact ⟨c.name :: names, found, ⟨c, hc, rfl, hleads⟩, hfound⟩

end TreeNode

namespace TreeMatch

variable {m : TreeMatch}

/-- A search looks at every node of the trees on its stack. -/
theorem search_eq_true_iff {stack : List TreeNode} :
    m.search stack = true ↔
      ∃ n ∈ stack, ∃ names found, n.Leads names found ∧ m.matches found = true := by
  -- The children of the first node take its place on the stack.
  induction stack using search.induct with
  | case1 => simp [search]
  | case2 n stack ih =>
      rw [search, Bool.or_eq_true, ih]
      simp only [List.mem_append, List.mem_cons, or_and_right, exists_or, exists_eq_left]
      rw [TreeNode.exists_leads_iff (n := n), or_assoc]

/-- Only the kind and the name of a node are looked at. -/
theorem matches_congr {a b : TreeNode} (hkind : a.isFile = b.isFile) (hname : a.name = b.name) :
    m.matches a = m.matches b := by
  simp only [«matches», matchesType, matchesName, hkind, hname]

def anyFile : TreeMatch where
  type := some "file"
  nameEnd := none

theorem matches_anyFile (n : TreeNode) : anyFile.matches n = n.isFile := by
  simp [anyFile, «matches», matchesType, matchesName]

theorem search_report_eq_true_iff {tree : FileTree} (h : tree.WellNamed) {depth : Nat}
    {name path : String} :
    m.search [tree.report depth name path] = true ↔
      ∃ names e, names.length ≤ depth ∧ tree.below? names = some e ∧
        m.matches (e.report 0 (names.getLastD name) path) = true := by
  have hmatches (names : List String) (e : FileTree) :
      m.matches (e.report (depth - names.length) (names.getLastD name)
        (LocalProbe.shownBelow path names)) = m.matches (e.report 0 (names.getLastD name) path) :=
    matches_congr (by simp) (by simp)
  simp only [search_eq_true_iff, List.mem_singleton, exists_eq_left, FileTree.leads_report_iff h]
  constructor
  · rintro ⟨names, n, ⟨hlength, e, hbelow, rfl⟩, hfound⟩
    exact ⟨names, e, hlength, hbelow, hmatches names e ▸ hfound⟩
  · rintro ⟨names, e, hlength, hbelow, hfound⟩
    exact ⟨names, _, ⟨hlength, e, hbelow, rfl⟩, (hmatches names e).trans hfound⟩

theorem search_report_mono {tree : FileTree} (h : tree.WellNamed) {small large : Nat}
    (hle : small ≤ large) {name path : String}
    (hfound : m.search [tree.report small name path] = true) :
    m.search [tree.report large name path] = true := by
  rw [search_report_eq_true_iff h] at hfound ⊢
  obtain ⟨names, e, hlength, hrest⟩ := hfound
  exact ⟨names, e, hlength.trans hle, hrest⟩

end TreeMatch

namespace FileTree

/-- A file below directories that have no other entry. -/
def corridor : Nat → FileTree
  | 0 => file []
  | depth + 1 => dir [("d", corridor depth)]

theorem WellNamed.corridor (depth : Nat) : (FileTree.corridor depth).WellNamed := by
  induction depth with
  | zero => exact .file []
  | succ depth ih =>
      have hname : IsName "d" := by decide
      exact .dir (by simp [Fields.Distinct, Fields.keys]) (by simpa using hname) (by simpa using ih)

theorem below?_corridor {depth : Nat} {names : List String} {e : FileTree}
    (h : (corridor depth).below? names = some e) : e = corridor (depth - names.length) := by
  induction names generalizing depth with
  | nil => exact (Option.some.inj h).symm
  | cons name names ih =>
      obtain ⟨entries, next, hdir, hnext, hrest⟩ := below?_cons_eq_some_iff.mp h
      cases depth with
      | zero => cases hdir
      | succ depth =>
          obtain rfl := FileTree.dir.inj hdir
          obtain ⟨-, rfl⟩ : name = "d" ∧ next = corridor depth := by
            simpa using mem_of_lookup hnext
          rw [List.length_cons, Nat.add_sub_add_right]
          exact ih hrest

theorem below?_corridor_end (depth : Nat) :
    (corridor depth).below? (List.replicate depth "d") = some (file []) := by
  induction depth with
  | zero => rfl
  | succ depth ih => simpa [corridor, List.replicate_succ, below?] using ih

theorem search_corridor_iff {length depth : Nat} {name path : String} :
    TreeMatch.anyFile.search [(corridor length).report depth name path] = true ↔
      length ≤ depth := by
  rw [TreeMatch.search_report_eq_true_iff (.corridor length)]
  simp only [TreeMatch.matches_anyFile, isFile_report, beq_iff_eq]
  constructor
  · rintro ⟨names, e, hlength, hbelow, hfile⟩
    rw [below?_corridor hbelow] at hfile
    cases hleft : length - names.length with
    | zero => omega
    | succ left =>
        rw [hleft] at hfile
        cases hfile
  · intro hle
    exact ⟨_, _, by simpa using hle, below?_corridor_end length, rfl⟩

end FileTree

/-- A file system with one file, below some directories and the top. -/
def FileSystem.corridor (length : Nat) : FileSystem where
  top := .corridor (length + 1)
  workingDirectory := []
  wellNamed := .corridor (length + 1)

namespace Query

variable {fs : FileSystem} {p : LocalProbe} {input : Value} {root : String}

theorem answer_treeSearch_iff (hroot : Value.display (input.field? "root") = root) {n : Number}
    (hdepth : input.field? "depth" = some (.number n)) :
    fs.answer p .treeSearch input = true ↔
      root ≠ "" ∧ ∃ full tree, p.resolve root = .ok full ∧ fs.find full = .ok tree ∧
        (TreeMatch.ofInput (input.field? "match")).search
          [tree.report (min (n.depthOr 3) p.maxDepth) (LocalProbe.shownName (LocalProbe.shown root))
            (LocalProbe.shown root)] = true := by
  rw [FileSystem.answer, ask, run_askTree_eq_true_iff hroot, depthOr_of_number hdepth]

/-- A search for any file, from the root of the probe on. -/
def anyFileInput (depth : Number) : Value :=
  some (.object [("root", .string "."), ("depth", .number depth),
    ("match", .object [("type", .string "file")])])

theorem answer_anyFileInput_corridor {length maxDepth : Nat} {n : Number} :
    (FileSystem.corridor length).answer ⟨"/", maxDepth⟩ .treeSearch (anyFileInput n) = true ↔
      length < min (n.depthOr 3) maxDepth := by
  have hresolve : (LocalProbe.mk "/" maxDepth).resolve "." = .ok "/." :=
    LocalProbe.resolve_eq_ok_iff.mpr ⟨by decide, show DiskPath.join "/" "." = "/." by decide⟩
  have hfind : (FileSystem.corridor length).find "/." = .ok (.corridor (length + 1)) := by rfl
  have hroot : Value.display ((anyFileInput n).field? "root") = "." := rfl
  rw [answer_treeSearch_iff hroot rfl, ← Nat.succ_le_iff]
  constructor
  · rintro ⟨-, full, tree, hfull, htree, hfound⟩
    obtain rfl := Except.ok.inj (hresolve.symm.trans hfull)
    obtain rfl := Except.ok.inj (hfind.symm.trans htree)
    exact FileTree.search_corridor_iff.mp hfound
  · intro hle
    exact ⟨by decide, "/.", _, hresolve, hfind, FileTree.search_corridor_iff.mpr hle⟩

/-- To ask for one depth instead of another one never loses a match exactly if the first number
does not ask for more. -/
theorem answer_treeSearch_mono_iff (a b : Number) :
    (∀ (fs : FileSystem) (p : LocalProbe) (small large : Value),
        small.field? "depth" = some (.number a) → large.field? "depth" = some (.number b) →
        small.field? "root" = large.field? "root" → small.field? "match" = large.field? "match" →
        fs.answer p .treeSearch small = true → fs.answer p .treeSearch large = true) ↔
      a.depthOr 3 ≤ b.depthOr 3 := by
  constructor
  · intro hmono
    by_contra hlt
    rw [Nat.not_le] at hlt
    -- The file is as deep as a report to the first depth goes, and below a report to the second.
    have hreached : b.depthOr 3 < min (a.depthOr 3) (a.depthOr 3) := by rwa [Nat.min_self]
    have hkept := hmono _ _ (anyFileInput a) (anyFileInput b) rfl rfl rfl rfl
      (answer_anyFileInput_corridor.mpr hreached)
    have hcut := answer_anyFileInput_corridor.mp hkept
    omega
  · intro hle fs p small large hsmall hlarge hroot hmatch hfound
    rw [answer_treeSearch_iff (congrArg Value.display hroot) hsmall] at hfound
    rw [answer_treeSearch_iff rfl hlarge, ← hmatch]
    obtain ⟨hne, full, tree, hresolve, hfind, hsearch⟩ := hfound
    have hmin : min (a.depthOr 3) p.maxDepth ≤ min (b.depthOr 3) p.maxDepth := by omega
    exact ⟨hne, full, tree, hresolve, hfind,
      TreeMatch.search_report_mono (FileSystem.wellNamed_of_find hfind) hmin hsearch⟩

/-- A file at the fourth level is found with the depth 4. It is lost with the first number of more
than 32 bits, and with any double, so also with 5.0. -/
theorem answer_treeSearch_loses_file :
    let found n := (FileSystem.corridor 3).answer ⟨"/", 8⟩ .treeSearch (anyFileInput n)
    found (.ofNat 4) = true ∧ 4 ≤ UInt32.size ∧ found (.ofNat UInt32.size) = false ∧
      ∀ x, found (.double x) = false := by
  have hdouble (x : Double) : (Number.double x).depthOr 3 = 3 := rfl
  simp only [← Bool.not_eq_true, answer_anyFileInput_corridor]
  exact ⟨by decide, by decide, by decide, fun x => by rw [hdouble]; decide⟩

end Query

end WidgetDoc
