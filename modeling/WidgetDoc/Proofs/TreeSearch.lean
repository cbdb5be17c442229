import WidgetDoc.Proofs.SearchDepth

/-!
# Searching a tree

A search walks through a tree with a stack. Every round takes a node from it and, unless the node
matches, puts its children there, so what is still to be found is always in a tree on the stack, and
the nodes of these trees get fewer. So the walk ends, and its verdict is whether a node matches.
-/

namespace WidgetDoc

namespace TreeNode

/-- A tree has its root within it, and whatever its children have. -/
inductive Within (n : TreeNode) : TreeNode → Prop where
  | root : Within n n
  | child {c tree : TreeNode} (hc : c ∈ tree.children) (h : Within n c) : Within n tree

theorem within_iff_exists_leads {n tree : TreeNode} :
    n.Within tree ↔ ∃ names, tree.Leads names n := by
  constructor
  · intro h
    induction h with
    | root => exact ⟨[], rfl⟩
    | @child c tree hc h ih =>
        obtain ⟨names, hnames⟩ := ih
        exact ⟨c.name :: names, c, hc, rfl, hnames⟩
  · rintro ⟨names, h⟩
    induction names generalizing tree with
    | nil =>
        obtain rfl : tree = n := h
        exact .root
    | cons name names ih =>
        obtain ⟨c, hc, -, hn⟩ := h
        exact .child hc (ih hn)

/-- What criteria ask of a node: there is one, and the node meets those that there are. Only a text
is a criterion. -/
structure Fits (criteria : Value) (n : TreeNode) : Prop where
  asked : (∃ s, criteria.field? "type" = some (.string s)) ∨
    ∃ s, criteria.field? "nameEndsWith" = some (.string s)
  type : ∀ s, criteria.field? "type" = some (.string s) → s = "file" ∧ n.isFile = true
  name : ∀ s, criteria.field? "nameEndsWith" = some (.string s) → ∃ start, n.name = start ++ s

end TreeNode

theorem Value.bind_string?_eq_some_iff {v : Value} {s : String} :
    v.bind Json.string? = some s ↔ v = some (.string s) := by
  rcases v with _ | ⟨_ | b | n | t | items | fields⟩ <;> simp [Json.string?]

namespace TreeMatch

variable {m : TreeMatch} {n : TreeNode} {stack : List TreeNode}

theorem matchesType_eq_true_iff :
    m.matchesType n = true ↔ ∀ s, m.type = some s → s = "file" ∧ n.isFile = true := by
  rw [matchesType]
  cases m.type <;> simp

theorem matchesName_eq_true_iff :
    m.matchesName n = true ↔ ∀ s, m.nameEnd = some s → ∃ start, n.name = start ++ s := by
  have hsuffix (s : String) : s.toList.isSuffixOf n.name.toList = true ↔
      ∃ start, n.name = start ++ s := by
    rw [List.isSuffixOf_iff_suffix]
    constructor
    · rintro ⟨start, hstart⟩
      exact ⟨String.ofList start, String.toList_inj.mp (by simp [hstart])⟩
    · rintro ⟨start, hstart⟩
      exact ⟨start.toList, by simp [hstart]⟩
  rw [matchesName]
  cases m.nameEnd <;> simp [hsuffix]

theorem matches_ofInput_iff {criteria : Value} :
    (ofInput criteria).matches n = true ↔ n.Fits criteria := by
  have htype (s : String) : (ofInput criteria).type = some s ↔
      criteria.field? "type" = some (.string s) := Value.bind_string?_eq_some_iff
  have hname (s : String) : (ofInput criteria).nameEnd = some s ↔
      criteria.field? "nameEndsWith" = some (.string s) := Value.bind_string?_eq_some_iff
  simp only [«matches», Bool.and_eq_true, Bool.or_eq_true, matchesType_eq_true_iff,
    matchesName_eq_true_iff, Option.isSome_iff_exists, htype, hname]
  constructor
  · rintro ⟨⟨hasked, hkind⟩, hend⟩
    exact ⟨hasked, hkind, hend⟩
  · rintro ⟨hasked, hkind, hend⟩
    exact ⟨⟨hasked, hkind⟩, hend⟩

/-! ## The walk -/

/-- A round of the walk gives the verdict, or the stack for the next round. -/
def round (m : TreeMatch) : List TreeNode → Bool ⊕ List TreeNode
  | [] => .inl false
  | n :: stack => if m.matches n then .inl true else .inr (n.children ++ stack)

/-- The verdict, if the walk comes to one within a number of rounds. -/
def verdict? (m : TreeMatch) : Nat → List TreeNode → Option Bool
  | 0, _ => none
  | rounds + 1, stack =>
    match m.round stack with
    | .inl found => some found
    | .inr next => verdict? m rounds next

theorem search_of_round_inl {found : Bool} (h : m.round stack = .inl found) :
    m.search stack = found := by
  cases stack with
  | nil =>
      obtain rfl : false = found := Sum.inl.inj h
      rw [search]
  | cons n stack =>
      rw [round] at h
      split at h <;> simp_all [search]

/-- A round keeps what is to be found, in fewer nodes. -/
theorem search_of_round_inr {next : List TreeNode} (h : m.round stack = .inr next) :
    m.search stack = m.search next ∧ TreeNode.countAll next < TreeNode.countAll stack := by
  cases stack with
  | nil => cases h
  | cons n stack =>
      rw [round] at h
      split at h
      · cases h
      · next hmatch =>
          obtain rfl := Sum.inr.inj h
          refine ⟨by rw [search, Bool.eq_false_iff.mpr hmatch, Bool.false_or], ?_⟩
          rw [TreeNode.countAll_append, TreeNode.countAll, TreeNode.count_eq n]
          omega

theorem verdict?_eq_some_search {rounds : Nat} (h : TreeNode.countAll stack < rounds) :
    m.verdict? rounds stack = some (m.search stack) := by
  induction rounds generalizing stack with
  | zero => omega
  | succ rounds ih =>
      rw [verdict?]
      cases hround : m.round stack with
      | inl found => rw [search_of_round_inl hround]
      | inr next =>
          obtain ⟨hsearch, hfewer⟩ := search_of_round_inr hround
          rw [hsearch]
          exact ih (by omega)

theorem search_ofInput_iff {criteria : Value} {tree : TreeNode} :
    (ofInput criteria).search [tree] = true ↔ ∃ n : TreeNode, n.Within tree ∧ n.Fits criteria := by
  simp only [search_eq_true_iff, List.mem_singleton, exists_eq_left, matches_ofInput_iff,
    TreeNode.within_iff_exists_leads]
  exact ⟨fun ⟨names, n, hn, hfits⟩ => ⟨n, ⟨names, hn⟩, hfits⟩,
    fun ⟨n, ⟨names, hn⟩, hfits⟩ => ⟨names, n, hn, hfits⟩⟩

end TreeMatch

namespace Query

/-- A tree search finds something exactly if its input names a root, the probe returns a tree, and
a node of this tree fits. The walk through the tree comes to this verdict as soon as it may make more
rounds than the tree has nodes. -/
theorem run_treeSearch_iff (probe : Probe) (input : Value) :
    let root := Value.display (input.field? "root")
    let answer := probe (.tree root (depthOr 3 input))
    ((ask input .treeSearch).run probe = true ↔
      root ≠ "" ∧ ∃ tree, answer = .ok tree ∧
        ∃ n : TreeNode, n.Within tree ∧ n.Fits (input.field? "match")) ∧
    ∀ tree, root ≠ "" → answer = .ok tree → ∀ rounds, tree.count < rounds →
      (TreeMatch.ofInput (input.field? "match")).verdict? rounds [tree] =
        some ((ask input .treeSearch).run probe) := by
  intro root answer
  have hrun : (ask input .treeSearch).run probe = true ↔ root ≠ "" ∧ ∃ tree, answer = .ok tree ∧
      (TreeMatch.ofInput (input.field? "match")).search [tree] = true := run_askTree_iff rfl
  constructor
  · simp only [hrun, TreeMatch.search_ofInput_iff]
  · intro tree hroot htree rounds hrounds
    have hcount : TreeNode.countAll [tree] < rounds := by simpa [TreeNode.countAll] using hrounds
    rw [TreeMatch.verdict?_eq_some_search hcount, Option.some.injEq, Bool.eq_iff_iff, hrun]
    constructor
    · intro hfound
      exact ⟨hroot, tree, htree, hfound⟩
    · rintro ⟨-, tree', htree', hfound⟩
      obtain rfl := Except.ok.inj (htree.symm.trans htree')
      exact hfound

/-- A probe that knows one tree and no file. -/
def treeProbe (tree : TreeNode) : Probe
  | .tree .. => .ok tree
  | .file path => .error (.notFound path)

def mainFile : TreeNode :=
  .file "main.rs" "src/bin/main.rs"

def nestedTree : TreeNode :=
  .dir "src" "src" [.dir "doc" "src/doc" [], .dir "bin" "src/bin" [mainFile]]

/-- A type that is no text is no criterion, so the end of the name decides alone. -/
theorem run_treeSearch_iff_nested :
    let input : Value := some (.object [("root", .string "src"),
      ("match", .object [("type", .null), ("nameEndsWith", .string ".rs")])])
    let criteria := TreeMatch.ofInput (input.field? "match")
    Value.display (input.field? "root") ≠ "" ∧ nestedTree.count < 5 ∧
      (ask input .treeSearch).run (treeProbe nestedTree) = true ∧
      criteria.verdict? 5 [nestedTree] = some true := by
  intro input criteria
  have hroot : Value.display (input.field? "root") ≠ "" := by decide
  have hcount : nestedTree.count < 5 := by decide
  obtain ⟨hiff, hverdict⟩ := run_treeSearch_iff (treeProbe nestedTree) input
  have hfits : mainFile.Fits (input.field? "match") := by
    refine ⟨.inr ⟨".rs", rfl⟩, ?_, ?_⟩
    · intro s hs
      cases hs
    · intro s hs
      cases hs
      exact ⟨"main", by decide⟩
  have hwithin : mainFile.Within nestedTree := by
    have hbin : mainFile.Within (.dir "bin" "src/bin" [mainFile]) :=
      .child (List.mem_singleton_self mainFile) .root
    exact .child (List.mem_cons_of_mem _ (List.mem_singleton_self _)) hbin
  have hfound : (ask input .treeSearch).run (treeProbe nestedTree) = true :=
    hiff.mpr ⟨hroot, nestedTree, rfl, mainFile, hwithin, hfits⟩
  refine ⟨hroot, hcount, hfound, ?_⟩
  rw [← hfound]
  exact hverdict nestedTree hroot rfl 5 hcount

end Query

end WidgetDoc
