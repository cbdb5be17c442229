import WidgetDoc.Proofs.FileLookup

/-!
# What a local probe reports

`FileTree.report` is the report of an entry down to a depth, with no disk and no path on it. A probe
that walks the disk of a file system ends with this report of what its path names: walking down by
joined paths follows the tree, and the listing of a directory is put in order.
-/

namespace WidgetDoc

open LocalProbe

namespace FileTree

/-- The entries of a directory in the order of their names. -/
def sorted (entries : List (String × FileTree)) : List (String × FileTree) :=
  entries.mergeSort fun a b => decide (a.1 ≤ b.1)

/-- The report of an entry with a name and a path. Directories at the depth have no children. -/
def report : Nat → String → String → FileTree → TreeNode
  | _, name, path, file _ => .file name path
  | 0, name, path, dir _ => .dir name path []
  | depth + 1, name, path, dir entries =>
    .dir name path ((sorted entries).map fun e => report depth e.1 (shownEntry path e.1) e.2)

variable (depth : Nat) (name path : String) (tree : FileTree)

@[simp] theorem name_report : (report depth name path tree).name = name := by
  cases tree <;> cases depth <;> rfl

@[simp] theorem path_report : (report depth name path tree).path = path := by
  cases tree <;> cases depth <;> rfl

@[simp] theorem isFile_report : (report depth name path tree).isFile = (tree.kind == .file) := by
  cases tree <;> cases depth <;> rfl

theorem children_report_file (content : List UInt8) :
    (report depth name path (file content)).children = [] := by
  cases depth <;> rfl

theorem report_dir (entries : List (String × FileTree)) :
    report depth name path (dir entries) =
      .dir name path (report depth name path (dir entries)).children := by
  cases depth <;> rfl

theorem mem_sorted {entries : List (String × FileTree)} {e : String × FileTree} :
    e ∈ sorted entries ↔ e ∈ entries :=
  List.mem_mergeSort

theorem sorted_eq_nil_iff {entries : List (String × FileTree)} :
    sorted entries = [] ↔ entries = [] := by
  simp only [List.eq_nil_iff_forall_not_mem, mem_sorted]

theorem keys_sorted (entries : List (String × FileTree)) :
    Fields.keys (sorted entries) = (Fields.keys entries).mergeSort fun a b => decide (a ≤ b) :=
  List.map_mergeSort fun _ _ _ _ => rfl

theorem pairwise_sorted {entries : List (String × FileTree)} (h : Fields.Distinct entries) :
    (sorted entries).Pairwise fun a b => a.1 < b.1 := by
  have hle : (sorted entries).Pairwise fun a b => decide (a.1 ≤ b.1) = true :=
    List.pairwise_mergeSort (by simpa using fun a _ b _ c _ => String.le_trans)
      (by simpa using fun a _ b _ => String.le_total a b) entries
  have hne : (sorted entries).Pairwise fun a b => a.1 ≠ b.1 := by
    have hperm : (Fields.keys (sorted entries)).Perm (Fields.keys entries) :=
      (List.mergeSort_perm entries _).map _
    exact List.pairwise_map.mp (hperm.nodup_iff.mpr h)
  refine hle.imp₂ ?_ hne
  intro a b hab hne
  exact String.not_le.mp fun hba => hne (String.le_antisymm (of_decide_eq_true hab) hba)

end FileTree

namespace LocalProbe

theorem run_collect {α β γ ε : Type} {visit : α → DiskDialogue (Except ε β)} {disk : Disk}
    {key : γ → α} {f : γ → β} {xs : List γ}
    (h : ∀ x ∈ xs, (visit (key x)).run disk = .ok (f x)) :
    (collect visit (xs.map key)).run disk = .ok (xs.map f) := by
  induction xs with
  | nil => rfl
  | cons x xs ih =>
      obtain ⟨hx, hxs⟩ := List.forall_mem_cons.mp h
      rw [List.map_cons, collect, Dialogue.run_bind, hx]
      simp only [Dialogue.run_map, ih hxs]
      rfl

section FileSystem

variable {fs : FileSystem} {path : String}

theorem run_kind (fs : FileSystem) (path : String) :
    (Disk.kind path).run fs.disk = (fs.find path).map FileTree.kind := rfl

theorem run_read (fs : FileSystem) (path : String) :
    (Disk.read path).run fs.disk = (fs.find path).bind FileTree.content := rfl

theorem run_list (fs : FileSystem) (path : String) :
    (Disk.list path).run fs.disk = (fs.find path).bind FileTree.names := rfl

theorem run_walk {entries : List (String × FileTree)}
    (hdir : fs.find path = .ok (.dir entries)) (name reported : String) (depth : Nat) :
    (walk path reported depth).run fs.disk =
      .ok (FileTree.report depth name reported (.dir entries)).children := by
  induction depth generalizing path entries name reported with
  | zero => rfl
  | succ depth ih =>
      rw [walk, Dialogue.run_bind, run_list, hdir]
      simp only [Except.bind, FileTree.names]
      -- The order of a listing depends on the names only, so the entries are visited as sorted.
      rw [← FileTree.keys_sorted]
      refine run_collect fun e he => ?_
      have hfind : fs.find (DiskPath.join path e.1) = .ok e.2 :=
        FileSystem.find_join_of_lookup hdir
          (Fields.lookup_of_mem (FileSystem.wellNamed_of_find hdir).distinct
            (FileTree.mem_sorted.mp he))
      rw [Dialogue.run_bind, run_kind, hfind]
      cases htree : e.2 with
      | file content => cases depth <;> rfl
      | dir below =>
          rw [htree] at hfind
          simp only [Except.map, FileTree.kind]
          rw [Dialogue.run_map, ih hfind e.1, FileTree.report_dir]
          rfl

/-- A probe reports what its path names, and fails like the look-up where there is nothing. -/
theorem run_fetchTree (p : LocalProbe) (root : String) (depth : Nat) :
    (p.fetchTree root depth).run fs.disk =
      (p.resolve root).bind fun full =>
        match fs.find full with
        | .error e => .error (failure (shown root) e)
        | .ok tree =>
          .ok (tree.report (min depth p.maxDepth) (shownName (shown root)) (shown root)) := by
  rw [fetchTree]
  cases p.resolve root with
  | error e => rfl
  | ok full =>
      simp only [Except.bind]
      rw [Dialogue.run_bind, run_kind]
      cases hfind : fs.find full with
      | error e => rfl
      | ok tree =>
          cases tree with
          | file content => cases min depth p.maxDepth <;> rfl
          | dir entries =>
              simp only [Except.map, FileTree.kind]
              rw [Dialogue.run_map, run_walk hfind (shownName (shown root)), FileTree.report_dir]
              rfl

theorem run_fetchTree_eq_ok_iff {p : LocalProbe} {root : String} {depth : Nat} {tree : TreeNode} :
    (p.fetchTree root depth).run fs.disk = .ok tree ↔
      ∃ full entry, p.resolve root = .ok full ∧ fs.find full = .ok entry ∧
        entry.report (min depth p.maxDepth) (shownName (shown root)) (shown root) = tree := by
  rw [run_fetchTree]
  cases p.resolve root with
  | error e => simp [Except.bind]
  | ok full => cases hfind : fs.find full <;> simp [Except.bind, hfind]

theorem run_fetchFile (p : LocalProbe) (path : String) :
    (p.fetchFile path).run fs.disk =
      (p.resolve path).bind fun full =>
        match (fs.find full).bind FileTree.content with
        | .error e => .error (failure path e)
        | .ok bytes => .ok ⟨shown path, Text.Utf8.decodeLossy bytes⟩ := by
  rw [fetchFile]
  cases p.resolve path with
  | error e => rfl
  | ok full =>
      simp only [Except.bind]
      rw [Dialogue.run_map, run_read]
      rfl

end FileSystem

end LocalProbe

end WidgetDoc
