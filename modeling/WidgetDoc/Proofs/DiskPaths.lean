import Mathlib.Data.List.DropRight
import WidgetDoc.Disk.FileSystem
import WidgetDoc.Disk.LocalProbe

/-!
# Paths on a disk and paths in reports

A path is known by its pieces, of which those that are empty or a dot lead nowhere. Joining paths
appends their pieces, up to an empty one at the end of the first. So a path below a base has the
components of the base and its own, but for a dot at its start that no base comes before. A path
that a probe reports is tidy: it does not lead out of the root, and to report it again gives the
same path.
-/

namespace WidgetDoc

theorem FileTree.IsName.slash_not_mem {name : String} (h : IsName name) : '/' ∉ name.toList :=
  h.2.2.2

namespace DiskPath

/-- The pieces that lead somewhere. -/
def named (pieces : List String) : List String :=
  pieces.filter fun p => p ≠ "" ∧ p ≠ "."

theorem steps_eq_named (path : String) : steps path = named (pieces path) := rfl

@[simp] theorem named_append (xs ys : List String) : named (xs ++ ys) = named xs ++ named ys :=
  List.filter_append ..

@[simp] theorem named_named (xs : List String) : named (named xs) = named xs := by
  simp [named]

theorem named_replicate_empty (n : Nat) : named (List.replicate n "") = [] := by
  simp [named]

theorem named_singleton {name : String} (h : FileTree.IsName name) : named [name] = [name] := by
  simp [named, h.1, h.2.1]

@[simp] theorem pieces_empty : pieces "" = [""] := rfl

theorem pieces_ne_nil (path : String) : pieces path ≠ [] := by
  rw [pieces, ne_eq, List.map_eq_nil_iff]
  exact Text.pieces_ne_nil '/' path.toList

theorem pieces_of_isName {name : String} (h : FileTree.IsName name) : pieces name = [name] := by
  rw [pieces, Text.pieces_of_not_mem h.slash_not_mem, List.map_singleton, String.ofList_toList]

theorem steps_of_isName {name : String} (h : FileTree.IsName name) :
    steps name = [name] := by
  rw [steps_eq_named, pieces_of_isName h, named_singleton h]

theorem pieces_append_slash (a b : String) : pieces (a ++ "/" ++ b) = pieces a ++ pieces b := by
  have hlist : (a ++ "/" ++ b).toList = a.toList ++ '/' :: b.toList := by simp
  rw [pieces, hlist, Text.pieces_append_separator, List.map_append]
  rfl

theorem exists_head?_pieces (path : String) : ∃ piece, (pieces path).head? = some piece := by
  obtain ⟨piece, rest, hpieces⟩ := List.exists_cons_of_ne_nil (pieces_ne_nil path)
  exact ⟨piece, by rw [hpieces, List.head?_cons]⟩

/-- The pieces of a path below a base follow pieces that name what the base names, and that start
like the base unless it is empty. -/
theorem pieces_join (base path : String) :
    ∃ lead, pieces (join base path) = lead ++ pieces path ∧ named lead = steps base ∧
      (base ≠ "" → lead.head? = (pieces base).head?) := by
  by_cases hempty : base = ""
  · subst hempty
    exact ⟨[], by simp [join], rfl, fun h => absurd rfl h⟩
  · by_cases hslash : base.toList.getLast? = some '/'
    · -- The slash at the end of the base is the one between base and path.
      obtain ⟨chars, hchars⟩ := List.getLast?_eq_some_iff.mp hslash
      have hbase : base = String.ofList chars ++ "/" ++ "" := by
        apply String.toList_inj.mp
        simpa using hchars
      refine ⟨pieces (String.ofList chars), ?_, ?_, fun _ => ?_⟩
      · rw [join, if_pos (.inr hslash), ← pieces_append_slash]
        congr 1
        conv_lhs => rw [hbase]
        rw [String.append_empty]
      · rw [steps_eq_named, hbase, pieces_append_slash, named_append, pieces_empty]
        simp [named]
      · obtain ⟨piece, hpiece⟩ := exists_head?_pieces (String.ofList chars)
        rw [hbase, pieces_append_slash, List.head?_append, hpiece, Option.some_or]
    · refine ⟨pieces base, ?_, rfl, fun _ => rfl⟩
      rw [join, if_neg (by simp [hempty, hslash]), pieces_append_slash]

theorem steps_join (base path : String) :
    steps (join base path) = steps base ++ steps path := by
  obtain ⟨lead, hpieces, hlead, -⟩ := pieces_join base path
  rw [steps_eq_named, hpieces, named_append, hlead, steps_eq_named path]

theorem isAbsolute_append {a : String} (b : String) (h : a ≠ "") :
    isAbsolute (a ++ b) = isAbsolute a := by
  have hlist : a.toList ≠ [] := by simpa using h
  rw [isAbsolute, String.toList_append, List.head?_append_of_ne_nil _ hlist, isAbsolute]

theorem isAbsolute_join (base : String) {path : String} (h : isAbsolute path = false) :
    isAbsolute (join base path) = isAbsolute base := by
  by_cases hempty : base = ""
  · subst hempty
    have hnone : isAbsolute "" = false := rfl
    simpa [join, hnone] using h
  · rw [join]
    split
    · exact isAbsolute_append path hempty
    · rw [String.append_assoc, isAbsolute_append _ hempty]

theorem isAbsolute_of_isName {name : String} (h : FileTree.IsName name) :
    isAbsolute name = false := by
  rw [isAbsolute, beq_eq_false_iff_ne]
  intro hhead
  exact h.slash_not_mem (List.mem_of_mem_head? hhead)

/-! ## Components -/

theorem Component.ofStep_eq_parent_iff {step : String} : ofStep step = parent ↔ step = ".." := by
  by_cases h : step = ".." <;> simp [ofStep, h]

theorem Component.ofStep_ne_top (step : String) : ofStep step ≠ top := by
  by_cases h : step = ".." <;> simp [ofStep, h]

theorem Component.ofStep_of_ne {step : String} (h : step ≠ "..") : ofStep step = name step :=
  if_neg h

theorem map_ofStep {path : String} (h : ".." ∉ steps path) :
    (steps path).map Component.ofStep = (steps path).map .name := by
  refine List.map_congr_left fun step hstep => Component.ofStep_of_ne ?_
  rintro rfl
  exact h hstep

theorem mem_steps_of_ne {path step : String} (hempty : step ≠ "") (hdot : step ≠ ".") :
    step ∈ steps path ↔ step ∈ pieces path := by
  simp [steps, hempty, hdot]

theorem top_mem_components_iff {path : String} :
    .top ∈ components path ↔ isAbsolute path = true := by
  have hsteps : Component.top ∉ (steps path).map Component.ofStep := by
    intro hmem
    obtain ⟨step, -, hstep⟩ := List.mem_map.mp hmem
    exact Component.ofStep_ne_top step hstep
  rw [components, List.mem_append, or_iff_left hsteps, start]
  split_ifs with habsolute hdot
  · simp [habsolute]
  · simp [habsolute]
  · simp [habsolute]

theorem parent_mem_components_iff {path : String} :
    .parent ∈ components path ↔ ".." ∈ pieces path := by
  have hstart : Component.parent ∉ start path := by
    rw [start]
    split_ifs <;> simp
  have hstep : ".." ∈ steps path ↔ ".." ∈ pieces path := mem_steps_of_ne (by decide) (by decide)
  rw [components, List.mem_append, or_iff_right hstart, ← hstep]
  simp [Component.ofStep_eq_parent_iff]

theorem start_of_isName {name : String} (h : FileTree.IsName name) : start name = [] := by
  rw [start, isAbsolute_of_isName h, pieces_of_isName h]
  simp [h.2.1]

/-- A path below a base starts like the base, unless the base is empty. -/
theorem start_join (base : String) {path : String} (h : isAbsolute path = false) :
    start (join base path) = if base = "" then start path else start base := by
  by_cases hempty : base = ""
  · subst hempty
    simp [join]
  · obtain ⟨lead, hpieces, -, hlead⟩ := pieces_join base path
    obtain ⟨piece, hpiece⟩ := exists_head?_pieces base
    have hhead : (pieces (join base path)).head? = (pieces base).head? := by
      rw [hpieces, List.head?_append, hlead hempty, hpiece, Option.some_or]
    rw [if_neg hempty, start, start, isAbsolute_join base h, hhead]

theorem components_join (base : String) {path : String} (h : isAbsolute path = false) :
    components (join base path) = components base ++
      ((if base = "" then start path else []) ++ (steps path).map .ofStep) := by
  rw [components, start_join base h, steps_join, List.map_append, components]
  by_cases hempty : base = ""
  · subst hempty
    have hnone : start "" = [] ∧ steps "" = [] := by decide
    simp [hnone]
  · simp [hempty]

end DiskPath

namespace LocalProbe

open DiskPath

theorem escapes_eq_true_iff {path : String} :
    escapes path = true ↔ isAbsolute path = true ∨ ".." ∈ pieces path := by
  rw [escapes, List.any_eq_true]
  constructor
  · rintro ⟨c, hc, hout⟩
    rcases Bool.or_eq_true_iff.mp hout with htop | hparent
    · obtain rfl := beq_iff_eq.mp htop
      exact .inl (top_mem_components_iff.mp hc)
    · obtain rfl := beq_iff_eq.mp hparent
      exact .inr (parent_mem_components_iff.mp hc)
  · rintro (habsolute | hclimbs)
    · exact ⟨.top, top_mem_components_iff.mpr habsolute, rfl⟩
    · exact ⟨.parent, parent_mem_components_iff.mpr hclimbs, rfl⟩

theorem escapes_eq_false_iff {path : String} :
    escapes path = false ↔ isAbsolute path = false ∧ ".." ∉ pieces path := by
  rw [← Bool.not_eq_true, escapes_eq_true_iff, not_or, Bool.not_eq_true]

theorem resolve_eq_ok_iff {p : LocalProbe} {path full : String} :
    p.resolve path = .ok full ↔ escapes path = false ∧ join p.root path = full := by
  rw [resolve]
  by_cases h : escapes path = true <;> simp [h]

/-! ## Reported paths -/

/-- A path as a probe reports it. -/
structure Tidy (path : String) : Prop where
  inside : escapes path = false
  shown_eq : shown path = path

/-- A path without the slashes at its end. -/
def trimmed (path : String) : List Char :=
  path.toList.rdropWhile (· == '/')

theorem shown_of_trimmed_eq_nil {path : String} (h : trimmed path = []) : shown path = "." :=
  if_pos h

theorem shown_of_trimmed_ne_nil {path : String} (h : trimmed path ≠ []) :
    shown path = String.ofList (trimmed path) :=
  if_neg h

theorem trimmed_ofList_trimmed (path : String) :
    trimmed (String.ofList (trimmed path)) = trimmed path := by
  rw [trimmed, String.toList_ofList]
  exact List.rdropWhile_idempotent _ _

theorem toList_eq_trimmed (path : String) :
    ∃ n, path.toList = trimmed path ++ List.replicate n '/' := by
  have hslashes : path.toList.rtakeWhile (· == '/') =
      List.replicate (path.toList.rtakeWhile (· == '/')).length '/' :=
    List.eq_replicate_iff.mpr ⟨rfl, fun c hc => by simpa using List.mem_rtakeWhile_imp hc⟩
  refine ⟨(path.toList.rtakeWhile (· == '/')).length, ?_⟩
  rw [← hslashes]
  exact List.rdropWhile_append_rtakeWhile.symm

theorem pieces_eq_trimmed (path : String) :
    ∃ n, pieces path = pieces (String.ofList (trimmed path)) ++ List.replicate n "" := by
  obtain ⟨n, hlist⟩ := toList_eq_trimmed path
  refine ⟨n, ?_⟩
  rw [pieces, hlist, Text.pieces_append_replicate, List.map_append, List.map_replicate, pieces,
    String.toList_ofList, String.ofList_nil]

theorem steps_shown (path : String) : steps (shown path) = steps path := by
  obtain ⟨n, hpieces⟩ := pieces_eq_trimmed path
  have hcomponents : steps path = steps (String.ofList (trimmed path)) := by
    rw [steps_eq_named, hpieces, named_append, named_replicate_empty, List.append_nil,
      steps_eq_named]
  by_cases h : trimmed path = []
  · rw [shown_of_trimmed_eq_nil h, hcomponents, h]
    rfl
  · rw [shown_of_trimmed_ne_nil h, hcomponents]

theorem tidy_shown {path : String} (h : escapes path = false) : Tidy (shown path) := by
  by_cases hnil : trimmed path = []
  · rw [shown_of_trimmed_eq_nil hnil]
    exact ⟨rfl, rfl⟩
  · rw [shown_of_trimmed_ne_nil hnil]
    obtain ⟨habsolute, hclimbs⟩ := escapes_eq_false_iff.mp h
    refine ⟨escapes_eq_false_iff.mpr ⟨?_, ?_⟩, ?_⟩
    · obtain ⟨n, hlist⟩ := toList_eq_trimmed path
      rw [isAbsolute, hlist, List.head?_append_of_ne_nil _ hnil] at habsolute
      rw [isAbsolute, String.toList_ofList]
      exact habsolute
    · obtain ⟨n, hpieces⟩ := pieces_eq_trimmed path
      rw [hpieces] at hclimbs
      exact fun hmem => hclimbs (List.mem_append_left _ hmem)
    · have hagain := trimmed_ofList_trimmed path
      rw [shown_of_trimmed_ne_nil (by rwa [hagain]), hagain]

theorem Tidy.ne_empty {path : String} (h : Tidy path) : path ≠ "" := by
  rintro rfl
  exact absurd h.shown_eq (by decide)

/-- The pieces of the path of an entry are its name, after pieces of the path of its directory. -/
theorem pieces_shownEntry (directory : String) {name : String} (h : FileTree.IsName name) :
    ∃ lead, pieces (shownEntry directory name) = lead ++ [name] ∧
      named lead = steps directory ∧ lead ⊆ pieces directory := by
  by_cases hdot : directory = "."
  · refine ⟨[], ?_, ?_, List.nil_subset _⟩
    · rw [shownEntry, if_pos hdot, pieces_of_isName h, List.nil_append]
    · rw [hdot]
      rfl
  · refine ⟨pieces directory, ?_, rfl, List.Subset.refl _⟩
    rw [shownEntry, if_neg hdot, pieces_append_slash, pieces_of_isName h]

theorem steps_shownEntry (directory : String) {name : String} (h : FileTree.IsName name) :
    steps (shownEntry directory name) = steps directory ++ [name] := by
  obtain ⟨lead, hpieces, hlead, -⟩ := pieces_shownEntry directory h
  rw [steps_eq_named, hpieces, named_append, hlead, named_singleton h]

theorem shownName_shownEntry (directory : String) {name : String} (h : FileTree.IsName name) :
    shownName (shownEntry directory name) = name := by
  have hlast : (components (LocalProbe.shownEntry directory name)).getLast? = some (.name name) := by
    rw [components, steps_shownEntry directory h, List.map_append, List.map_singleton,
      Component.ofStep_of_ne h.2.2.1, ← List.append_assoc, List.getLast?_concat]
  rw [shownName, hlast]

theorem shown_append {name : String} (h : FileTree.IsName name) (lead : String) :
    shown (lead ++ name) = lead ++ name := by
  have hname : name.toList ≠ [] := by simpa using h.1
  have htrimmed : trimmed (lead ++ name) = (lead ++ name).toList := by
    refine List.rdropWhile_eq_self_iff.mpr fun hne hslash => ?_
    simp only [String.toList_append, List.getLast_append_of_ne_nil _ hname, beq_iff_eq] at hslash
    exact h.slash_not_mem (hslash ▸ List.getLast_mem hname)
  rw [shown_of_trimmed_ne_nil (by rw [htrimmed]; simp [hname]), htrimmed, String.ofList_toList]

theorem Tidy.shownEntry {directory : String} (hdirectory : Tidy directory) {name : String}
    (h : FileTree.IsName name) : Tidy (shownEntry directory name) := by
  obtain ⟨habsolute, hclimbs⟩ := escapes_eq_false_iff.mp hdirectory.inside
  refine ⟨escapes_eq_false_iff.mpr ⟨?_, ?_⟩, ?_⟩
  · rw [LocalProbe.shownEntry]
    split
    · exact isAbsolute_of_isName h
    · rw [String.append_assoc, isAbsolute_append _ hdirectory.ne_empty, habsolute]
  · obtain ⟨lead, hpieces, -, hlead⟩ := pieces_shownEntry directory h
    rw [hpieces, List.mem_append, List.mem_singleton, not_or]
    exact ⟨fun hmem => hclimbs (hlead hmem), fun heq => h.2.2.1 heq.symm⟩
  · rw [LocalProbe.shownEntry]
    split
    · simpa using shown_append h ""
    · exact shown_append h (directory ++ "/")

/-- The path in a report to which names lead from a directory. -/
def shownBelow (directory : String) (names : List String) : String :=
  names.foldl LocalProbe.shownEntry directory

@[simp] theorem shownBelow_nil (directory : String) : shownBelow directory [] = directory := rfl

@[simp] theorem shownBelow_cons (directory name : String) (names : List String) :
    shownBelow directory (name :: names) =
      shownBelow (LocalProbe.shownEntry directory name) names := rfl

theorem shownBelow_concat (directory : String) (names : List String) (last : String) :
    shownBelow directory (names ++ [last]) =
      LocalProbe.shownEntry (shownBelow directory names) last := by
  rw [shownBelow, List.foldl_append]
  rfl

theorem Tidy.shownBelow {directory : String} (hdirectory : Tidy directory) {names : List String}
    (h : ∀ name ∈ names, FileTree.IsName name) : Tidy (shownBelow directory names) := by
  induction names generalizing directory with
  | nil => exact hdirectory
  | cons name names ih =>
      obtain ⟨hname, hnames⟩ := List.forall_mem_cons.mp h
      exact ih (hdirectory.shownEntry hname) hnames

theorem steps_shownBelow (directory : String) {names : List String}
    (h : ∀ name ∈ names, FileTree.IsName name) :
    steps (shownBelow directory names) = steps directory ++ names := by
  induction names generalizing directory with
  | nil => rw [shownBelow_nil, List.append_nil]
  | cons name names ih =>
      obtain ⟨hname, hnames⟩ := List.forall_mem_cons.mp h
      rw [shownBelow_cons, ih _ hnames, steps_shownEntry directory hname, ← List.append_cons]

end LocalProbe

end WidgetDoc
