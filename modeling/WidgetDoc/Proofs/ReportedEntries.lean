import WidgetDoc.Proofs.ByteOrder
import WidgetDoc.Proofs.TreeReport

/-!
# The entries that a report shows

The nodes of a report are found by the names that lead to them. They are the entries of the tree
down to the depth of the report, and each of them is itself the report of its entry, to the depth
that is left. As the path of a node leads the probe to the same entry, to fetch what has been
reported gives the same node again.
-/

namespace WidgetDoc

open LocalProbe

namespace TreeNode

/-- Whether names lead from a node to another one, from child to child. -/
def Leads : TreeNode → List String → TreeNode → Prop
  | n, [], found => n = found
  | n, name :: rest, found => ∃ c ∈ n.children, c.name = name ∧ c.Leads rest found

/-- What the report of a directory down to a depth has to show. -/
structure Shows (node : TreeNode) (tree : FileTree) (depth : Nat) : Prop where
  /-- The nodes are the entries at the levels down to the depth. -/
  entries : ∀ names, (∃ n, node.Leads names n) ↔
    names.length ≤ depth ∧ ∃ e, tree.below? names = some e
  kinds : ∀ names n e, node.Leads names n → tree.below? names = some e →
    (n.isFile = true ↔ e.kind = .file)
  /-- No child is listed twice, and the bytes of their names increase. -/
  sorted : ∀ names n, node.Leads names n →
    n.children.Pairwise fun a b => Text.bytes a.name < Text.bytes b.name
  cut : ∀ names n, node.Leads names n → names.length = depth → n.children = []
  paths : ∀ names n, node.Leads names n → ∀ c ∈ n.children,
    c.path = if n.path = "." then c.name else n.path ++ "/" ++ c.name

end TreeNode

namespace FileTree

variable {depth : Nat} {name path : String} {tree : FileTree} {names : List String} {n : TreeNode}

theorem mem_children_report_succ {entries : List (String × FileTree)} {c : TreeNode} :
    c ∈ (report (depth + 1) name path (dir entries)).children ↔
      ∃ e ∈ entries, c = report depth e.1 (shownEntry path e.1) e.2 := by
  simp only [report, TreeNode.children, List.mem_map, mem_sorted, eq_comm]

theorem leads_report_iff (h : tree.WellNamed) :
    (report depth name path tree).Leads names n ↔
      names.length ≤ depth ∧ ∃ e, tree.below? names = some e ∧
        n = report (depth - names.length) (names.getLastD name) (shownBelow path names) e := by
  induction names generalizing depth name path tree with
  | nil => simp [TreeNode.Leads, below?, eq_comm]
  | cons x xs ih =>
      cases tree with
      | file content => simp [TreeNode.Leads, below?, children_report_file]
      | dir entries =>
          cases depth with
          | zero => simp [TreeNode.Leads, report, TreeNode.children]
          | succ depth =>
              -- The first name chooses a child, and the rest leads on in the report of its entry.
              rw [TreeNode.Leads, List.getLastD_cons, shownBelow_cons, List.length_cons,
                Nat.add_le_add_iff_right, Nat.add_sub_add_right]
              constructor
              · rintro ⟨c, hc, hname, hleads⟩
                obtain ⟨⟨y, next⟩, he, rfl⟩ := mem_children_report_succ.mp hc
                obtain rfl : y = x := (name_report _ _ _ _).symm.trans hname
                have hnext := Fields.lookup_of_mem h.distinct he
                obtain ⟨hlength, e, hbelow, hn⟩ := (ih (h.of_lookup hnext)).mp hleads
                exact ⟨hlength, e, by rwa [below?, hnext], hn⟩
              · rintro ⟨hlength, e, hbelow, hn⟩
                rw [below?, Option.bind_eq_some_iff] at hbelow
                obtain ⟨next, hnext, hbelow⟩ := hbelow
                refine ⟨_, mem_children_report_succ.mpr ⟨(x, next), mem_of_lookup hnext, rfl⟩,
                  name_report _ _ _ _, ?_⟩
                exact (ih (h.of_lookup hnext)).mpr ⟨hlength, e, hbelow, hn⟩

theorem pairwise_children_report (h : tree.WellNamed) :
    (report depth name path tree).children.Pairwise fun a b =>
      Text.bytes a.name < Text.bytes b.name := by
  cases tree with
  | file content => simp [children_report_file]
  | dir entries =>
      cases depth with
      | zero => exact .nil
      | succ depth =>
          refine List.pairwise_map.mpr ((pairwise_sorted h.distinct).imp fun hab => ?_)
          rw [name_report, name_report]
          exact Text.bytes_lt_bytes hab

theorem wellNamed_of_below? (h : tree.WellNamed) {e : FileTree}
    (hbelow : tree.below? names = some e) : e.WellNamed := by
  induction names generalizing tree with
  | nil => exact Option.some.inj hbelow ▸ h
  | cons name names ih =>
      obtain ⟨entries, next, rfl, hnext, hrest⟩ := below?_cons_eq_some_iff.mp hbelow
      exact ih (h.of_lookup hnext) hrest

theorem path_of_mem_children_report {c : TreeNode}
    (hc : c ∈ (report depth name path tree).children) : c.path = shownEntry path c.name := by
  cases tree with
  | file content => simp [children_report_file] at hc
  | dir entries =>
      cases depth with
      | zero => cases hc
      | succ depth =>
          obtain ⟨e, -, rfl⟩ := mem_children_report_succ.mp hc
          rw [path_report, name_report]

theorem shows_report (h : tree.WellNamed) : (report depth name path tree).Shows tree depth where
  entries names := by
    simp only [leads_report_iff h]
    constructor
    · rintro ⟨n, hlength, e, hbelow, -⟩
      exact ⟨hlength, e, hbelow⟩
    · rintro ⟨hlength, e, hbelow⟩
      exact ⟨_, hlength, e, hbelow, rfl⟩
  kinds names n e hleads hbelow := by
    obtain ⟨-, e', hbelow', rfl⟩ := (leads_report_iff h).mp hleads
    obtain rfl := Option.some.inj (hbelow.symm.trans hbelow')
    rw [isFile_report, beq_iff_eq]
  sorted names n hleads := by
    obtain ⟨-, e, hbelow, rfl⟩ := (leads_report_iff h).mp hleads
    exact pairwise_children_report (wellNamed_of_below? h hbelow)
  cut names n hleads hlength := by
    obtain ⟨-, e, -, rfl⟩ := (leads_report_iff h).mp hleads
    rw [hlength, Nat.sub_self]
    cases e <;> rfl
  paths names n hleads c hc := by
    obtain ⟨-, e, -, rfl⟩ := (leads_report_iff h).mp hleads
    rw [path_of_mem_children_report hc, path_report]
    rfl

end FileTree

namespace LocalProbe

variable {fs : FileSystem} {p : LocalProbe} {root full : String}
  {entries : List (String × FileTree)} {names : List String} {e : FileTree}

/-- The path of a reported entry leads to the entry. -/
theorem find_reported (hroot : p.resolve root = .ok full)
    (hdir : fs.find full = .ok (.dir entries)) (hnames : names ≠ [])
    (hbelow : (FileTree.dir entries).below? names = some e) :
    ∃ full, p.resolve (shownBelow (shown root) names) = .ok full ∧ fs.find full = .ok e := by
  obtain ⟨hinside, rfl⟩ := resolve_eq_ok_iff.mp hroot
  have hentries := FileSystem.wellNamed_of_find hdir
  have hall := FileTree.isName_of_below? hentries hbelow
  have htidy := (tidy_shown hinside).shownBelow hall
  obtain ⟨hrelative, -⟩ := escapes_eq_false_iff.mp htidy.inside
  refine ⟨_, resolve_eq_ok_iff.mpr ⟨htidy.inside, rfl⟩, ?_⟩
  obtain ⟨init, last, rfl⟩ := (List.eq_nil_or_concat' names).resolve_left hnames
  have hlast := hall last (by simp)
  obtain ⟨lead, hpieces, -⟩ := pieces_shownEntry (shownBelow (shown root) init) hlast
  obtain ⟨above, hjoined, -⟩ := DiskPath.pieces_join p.root
    (shownBelow (shown root) (init ++ [last]))
  rw [shownBelow_concat, hpieces, ← List.append_assoc, ← shownBelow_concat] at hjoined
  obtain ⟨-, hlocate⟩ := FileSystem.find_eq_dir_iff.mp hdir
  rw [DiskPath.isAbsolute_join _ (escapes_eq_false_iff.mp hinside).1, DiskPath.steps_join]
    at hlocate
  rw [FileSystem.find_of_name hjoined hlast, DiskPath.isAbsolute_join _ hrelative,
    DiskPath.steps_join, steps_shownBelow _ hall, steps_shown, ← List.append_assoc]
  exact FileSystem.locate_append hlocate hentries hbelow

theorem shownName_shownBelow (directory : String) {names : List String} (hnames : names ≠ [])
    (h : ∀ name ∈ names, FileTree.IsName name) (other : String) :
    shownName (shownBelow directory names) = names.getLastD other := by
  obtain ⟨init, last, rfl⟩ := (List.eq_nil_or_concat' names).resolve_left hnames
  rw [shownBelow_concat, shownName_shownEntry _ (h last (by simp)), List.getLastD_concat]

/-- A probe of a directory shows what is in it, down to the depth that is asked for or allowed. The
paths of the nodes below can be probed in turn: a file can be read, and the depth that is left gives
the same node. -/
theorem fetchTree_shows (fs : FileSystem) (p : LocalProbe) {root full : String}
    {entries : List (String × FileTree)} (depth : Nat) (hroot : p.resolve root = .ok full)
    (hdir : fs.find full = .ok (.dir entries)) :
    let allowed := min depth p.maxDepth
    ∃ node, (p.fetchTree root depth).run fs.disk = .ok node ∧ node.isFile = false ∧
      node.path = shown root ∧ node.Shows (.dir entries) allowed ∧
      ∀ names n, names ≠ [] → node.Leads names n →
        (∃ full, p.resolve n.path = .ok full) ∧
        (n.isFile = true → ∃ bytes, (FileTree.dir entries).below? names = some (.file bytes) ∧
          (p.fetchFile n.path).run fs.disk = .ok ⟨n.path, Text.Utf8.decodeLossy bytes⟩) ∧
        (p.fetchTree n.path (allowed - names.length)).run fs.disk = .ok n := by
  intro allowed
  have hentries := FileSystem.wellNamed_of_find hdir
  refine ⟨FileTree.report allowed (shownName (shown root)) (shown root) (.dir entries), ?_,
    FileTree.isFile_report .., FileTree.path_report .., FileTree.shows_report hentries, ?_⟩
  · rw [run_fetchTree, hroot]
    simp only [Except.bind, hdir]
    rfl
  · intro names n hnames hleads
    obtain ⟨-, e, hbelow, rfl⟩ := (FileTree.leads_report_iff hentries).mp hleads
    obtain ⟨full', hresolve, hfind⟩ := find_reported hroot hdir hnames hbelow
    have hall := FileTree.isName_of_below? hentries hbelow
    have hshown := ((tidy_shown (resolve_eq_ok_iff.mp hroot).1).shownBelow hall).shown_eq
    rw [FileTree.path_report]
    refine ⟨⟨full', hresolve⟩, ?_, ?_⟩
    · intro hfile
      obtain ⟨bytes, rfl⟩ : ∃ bytes, e = .file bytes := by
        cases e with
        | file bytes => exact ⟨bytes, rfl⟩
        | dir below => simp [FileTree.kind] at hfile
      refine ⟨bytes, hbelow, ?_⟩
      rw [run_fetchFile, hresolve]
      simp only [Except.bind, hfind, FileTree.content, hshown]
    · have hdepth : min (allowed - names.length) p.maxDepth = allowed - names.length := by omega
      rw [run_fetchTree, hresolve]
      simp only [Except.bind, hfind, hshown, hdepth,
        shownName_shownBelow _ hnames hall (shownName (shown root))]

end LocalProbe

/-- Entries in no order, among them a name with a character of two bytes. -/
def sources : List (String × FileTree) :=
  [("\u00e9.rs", .file [0x41]), ("bin", .dir [("main.rs", .file [])]), ("Z", .dir [])]

theorem wellNamed_sources : (FileTree.dir sources).WellNamed := by
  have hbin : (FileTree.dir [("main.rs", .file [])]).WellNamed :=
    .dir (by decide) (by decide) (by simp [FileTree.WellNamed.file])
  have hempty : (FileTree.dir []).WellNamed := .dir (by decide) (by simp) (by simp)
  refine .dir (by decide) (by decide) ?_
  simpa [sources] using ⟨.file _, hbin, hempty⟩

def workspace : FileSystem where
  top := .dir [("home", .dir [("src", .dir sources)])]
  workingDirectory := ["home"]
  wellNamed := by
    have hhome : (FileTree.dir [("src", .dir sources)]).WellNamed :=
      .dir (by decide) (by decide) (by simpa using wellNamed_sources)
    exact .dir (by decide) (by decide) (by simpa using hhome)

def homeProbe : LocalProbe := ⟨"/home/", 2⟩

/-- The directory is asked for by a path with a dot and two slashes. Its report is cut at the second
level, and the path of a file there finds this file again. -/
theorem LocalProbe.fetchTree_shows_workspace :
    homeProbe.resolve "./src//" = .ok "/home/./src//" ∧
      workspace.find "/home/./src//" = .ok (.dir sources) ∧
      ∃ node n, (homeProbe.fetchTree "./src//" 5).run workspace.disk = .ok node ∧
        node.Shows (.dir sources) 2 ∧ node.Leads ["bin", "main.rs"] n ∧ n.isFile = true ∧
        (∃ content, (homeProbe.fetchFile n.path).run workspace.disk = .ok content) ∧
        (homeProbe.fetchTree n.path 0).run workspace.disk = .ok n := by
  have hroot : homeProbe.resolve "./src//" = .ok "/home/./src//" := by rfl
  have hdir : workspace.find "/home/./src//" = .ok (.dir sources) := by rfl
  obtain ⟨node, hrun, -, -, hshows, hagain⟩ := fetchTree_shows workspace homeProbe 5 hroot hdir
  obtain ⟨n, hleads⟩ := (hshows.entries ["bin", "main.rs"]).mpr ⟨by decide, .file [], rfl⟩
  have hfile : n.isFile = true := (hshows.kinds _ _ _ hleads rfl).mpr rfl
  obtain ⟨-, hread, hfetch⟩ := hagain _ n (by simp) hleads
  obtain ⟨bytes, -, hcontent⟩ := hread hfile
  exact ⟨hroot, hdir, node, n, hrun, hshows, hleads, hfile, ⟨_, hcontent⟩, hfetch⟩

end WidgetDoc
