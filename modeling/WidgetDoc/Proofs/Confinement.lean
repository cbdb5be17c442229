import WidgetDoc.Proofs.BindingGrammar
import WidgetDoc.Proofs.Replies
import WidgetDoc.Proofs.ReportedEntries

/-!
# Probes stay below their root

A path that starts at the top, or has two dots as a segment, is refused before the disk is asked
anything. Any other path leads from the root along its own names, and has the components of both; a
dot at its start becomes a component only after an empty root. A walk goes on from there by the names
that the disk lists, none of which climbs, so whatever a probe asks about lies below the root.
-/

namespace WidgetDoc

open LocalProbe

/-! ## Segments -/

/-- A text stands between two separators, or between one and an end, or makes up all. -/
def Text.HasSegment (separator : Char) (text segment : List Char) : Prop :=
  ∃ before after, text = before ++ (segment ++ after) ∧
    (before = [] ∨ before.getLast? = some separator) ∧
    (after = [] ∨ after.head? = some separator)

namespace Text

variable {separator : Char} {segment : List Char}

theorem hasSegment_intercalate (xs ys : List (List Char)) :
    HasSegment separator ([separator].intercalate (xs ++ segment :: ys)) segment := by
  induction xs with
  | nil =>
      cases ys with
      | nil => exact ⟨[], [], by simp, .inl rfl, .inl rfl⟩
      | cons y ys =>
          rw [List.nil_append, List.intercalate_cons_cons, List.append_assoc]
          exact ⟨[], _, rfl, .inl rfl, .inr rfl⟩
  | cons x xs ih =>
      obtain ⟨before, after, htext, hbefore, hafter⟩ := ih
      rw [List.cons_append, List.intercalate_cons_of_ne_nil (by simp), htext]
      refine ⟨x ++ separator :: before, after, by simp, .inr ?_, hafter⟩
      rcases hbefore with rfl | hlast
      · simp
      · simp [List.getLast?_append, List.getLast?_cons, hlast]

theorem mem_pieces_iff {text : List Char} :
    segment ∈ pieces separator text ↔ separator ∉ segment ∧ HasSegment separator text segment := by
  constructor
  · intro h
    refine ⟨fun hmem => forall_mem_pieces (fun c _ hc => hc) segment h separator hmem rfl, ?_⟩
    obtain ⟨xs, ys, hpieces⟩ := List.append_of_mem h
    rw [← intercalate_pieces separator text, hpieces]
    apply hasSegment_intercalate
  · rintro ⟨hsegment, before, after, rfl, hbefore, hafter⟩
    have hright : segment ∈ pieces separator (segment ++ after) := by
      rcases hafter with rfl | hhead
      · rw [List.append_nil, pieces_of_not_mem hsegment]
        apply List.mem_singleton_self
      · obtain ⟨rest, rfl⟩ := List.head?_eq_some_iff.mp hhead
        rw [pieces_append_separator, pieces_of_not_mem hsegment]
        apply List.mem_cons_self
    rcases hbefore with rfl | hlast
    · exact hright
    · obtain ⟨rest, rfl⟩ := List.getLast?_eq_some_iff.mp hlast
      rw [← List.append_cons, pieces_append_separator]
      exact List.mem_append_right _ hright

end Text

theorem DiskPath.mem_pieces_iff {path segment : String} :
    segment ∈ pieces path ↔
      '/' ∉ segment.toList ∧ Text.HasSegment '/' path.toList segment.toList := by
  rw [pieces, ← Text.mem_pieces_iff, List.mem_map]
  constructor
  · rintro ⟨piece, hpiece, rfl⟩
    rwa [String.toList_ofList]
  · intro h
    exact ⟨_, h, String.ofList_toList⟩

/-! ## What a disk may answer -/

/-- A directory lists what can be the name of an entry. -/
def DiskCall.Possible : (c : DiskCall) → c.Answer → Prop
  | kind _, _ => True
  | read _, _ => True
  | list _, listing => ∀ names, listing = (Except.ok names : Except DiskError (List String)) →
      ∀ name ∈ names, FileTree.IsName name

def DiskCall.path : DiskCall → String
  | kind path => path
  | read path => path
  | list path => path

theorem FileSystem.possible_disk (fs : FileSystem) (c : DiskCall) : c.Possible (fs.disk c) := by
  cases c with
  | kind path => trivial
  | read path => trivial
  | list path =>
      intro names hnames
      obtain ⟨tree, hfind, htree⟩ := bind_eq_ok_iff.mp hnames
      cases tree with
      | file content => cases htree
      | dir entries =>
          cases htree
          cases FileSystem.wellNamed_of_find hfind with
          | dir _ hentries _ =>
              intro name hname
              obtain ⟨e, he, rfl⟩ := List.mem_map.mp hname
              exact hentries e he

/-! ## Paths below the root -/

namespace LocalProbe

open DiskPath

/-- A path has the components of the root, and then others of which none climbs. -/
structure Reaches (p : LocalProbe) (rest : List DiskPath.Component) (path : String) : Prop where
  components : components path = components p.root ++ rest
  climbs : .parent ∉ rest

/-- The path of a question leads from the root along the components, and then along names. -/
def ReachesBelow (p : LocalProbe) (rest : List DiskPath.Component) (c : DiskCall) : Prop :=
  ∃ names : List String, p.Reaches (rest ++ names.map .name) c.path

/-- What a path adds to the components of the root: its steps, as names. Only if the root is empty,
a dot at the start of the path comes before them. -/
def added (p : LocalProbe) (rel : String) : List DiskPath.Component :=
  if p.root = "" ∧ (pieces rel).head? = some "." then .here :: (steps rel).map .name
  else (steps rel).map .name

variable {p : LocalProbe} {rest : List DiskPath.Component} {path : String}

theorem Reaches.join (h : p.Reaches rest path) {name : String} (hname : FileTree.IsName name) :
    p.Reaches (rest ++ [.name name]) (join path name) where
  components := by
    rw [components_join path (isAbsolute_of_isName hname), h.components, start_of_isName hname,
      steps_of_isName hname, ite_self, List.nil_append, List.map_singleton,
      Component.ofStep_of_ne hname.2.2.1, List.append_assoc]
  climbs := by
    rw [List.mem_append, List.mem_singleton, not_or]
    exact ⟨h.climbs, nofun⟩

theorem Reaches.below {c : DiskCall} (h : p.Reaches rest c.path) : p.ReachesBelow rest c :=
  ⟨[], by rwa [List.map_nil, List.append_nil]⟩

theorem ReachesBelow.of_append {c : DiskCall} {name : String}
    (h : p.ReachesBelow (rest ++ [.name name]) c) : p.ReachesBelow rest c := by
  obtain ⟨names, hnames⟩ := h
  exact ⟨name :: names, by rwa [List.map_cons, List.append_cons]⟩

theorem asks_collect {α β ε : Type} {visit : α → DiskDialogue (Except ε β)} {xs : List α}
    {P : DiskCall → Prop} (h : ∀ x ∈ xs, (visit x).Asks DiskCall.Possible P) :
    (collect visit xs).Asks DiskCall.Possible P := by
  induction xs with
  | nil => trivial
  | cons x xs ih =>
      obtain ⟨hx, hxs⟩ := List.forall_mem_cons.mp h
      rw [collect]
      refine hx.bind fun r => ?_
      cases r with
      | error e => trivial
      | ok y => exact (ih hxs).map _

/-- The invariant of a walk: the directory lies below the root. -/
theorem asks_walk (h : p.Reaches rest path) (reported : String) (depth : Nat) :
    (walk path reported depth).Asks DiskCall.Possible (p.ReachesBelow rest) := by
  induction depth generalizing rest path reported with
  | zero => trivial
  | succ depth ih =>
      refine Dialogue.asks_question_bind.mpr ⟨Reaches.below h, fun listing hlisting => ?_⟩
      cases listing with
      | error e => trivial
      | ok entries =>
          refine asks_collect fun name hname => ?_
          have hentry := hlisting entries rfl name (List.mem_mergeSort.mp hname)
          have hreached := h.join hentry
          have hbelow := (Reaches.below (c := .kind (join path name)) hreached).of_append
          refine Dialogue.asks_question_bind.mpr ⟨hbelow, fun kind _ => ?_⟩
          rcases kind with e | ⟨_ | _⟩
          · trivial
          · trivial
          · exact ((ih hreached _).imp fun _ => ReachesBelow.of_append).map _

/-! ## Probes -/

variable {rel full : String}

theorem escapes_iff : escapes rel = true ↔
    rel.toList.head? = some '/' ∨ Text.HasSegment '/' rel.toList "..".toList := by
  have hclimbs : ".." ∈ pieces rel ↔ Text.HasSegment '/' rel.toList "..".toList := by
    rw [mem_pieces_iff]
    exact and_iff_right (by decide)
  rw [escapes_eq_true_iff, hclimbs, isAbsolute, beq_iff_eq]

theorem resolve_eq_error_iff {e : ProbeError} : p.resolve rel = .error e ↔
    escapes rel = true ∧ .invalidInput ("path '" ++ rel ++ "' escapes the probe root") = e := by
  rw [resolve]
  by_cases h : escapes rel = true <;> simp [h]

/-- A dot at the start of a path stays only below an empty root. -/
theorem start_append_steps_eq_added (h : escapes rel = false) :
    (if p.root = "" then start rel else []) ++ (steps rel).map Component.ofStep =
      p.added rel := by
  obtain ⟨habsolute, hclimbs⟩ := escapes_eq_false_iff.mp h
  have hsteps : ".." ∉ steps rel := fun hmem => hclimbs (List.mem_of_mem_filter hmem)
  rw [map_ofStep hsteps, added, start, habsolute]
  by_cases hroot : p.root = ""
  · by_cases hdot : (pieces rel).head? = some "." <;> simp [hroot, hdot]
  · simp [hroot]

theorem parent_not_mem_added : .parent ∉ p.added rel := by
  rw [added]
  split_ifs <;> simp

theorem reaches_of_resolve (h : p.resolve rel = .ok full) : p.Reaches (p.added rel) full := by
  obtain ⟨hinside, rfl⟩ := resolve_eq_ok_iff.mp h
  refine ⟨?_, parent_not_mem_added⟩
  rw [components_join p.root (escapes_eq_false_iff.mp hinside).1,
    start_append_steps_eq_added hinside]

theorem asks_fetchTree (h : p.resolve rel = .ok full) (depth : Nat) :
    (p.fetchTree rel depth).Asks DiskCall.Possible
      (p.ReachesBelow (p.added rel)) := by
  have hreached := reaches_of_resolve h
  rw [fetchTree, h]
  refine Dialogue.asks_question_bind.mpr ⟨Reaches.below (c := .kind full) hreached, fun kind _ => ?_⟩
  rcases kind with e | ⟨_ | _⟩
  · trivial
  · trivial
  · exact (asks_walk hreached _ _).map _

theorem asks_fetchFile (h : p.resolve rel = .ok full) :
    (p.fetchFile rel).Asks DiskCall.Possible (p.ReachesBelow (p.added rel)) := by
  rw [fetchFile, h]
  exact ⟨Reaches.below (c := .read full) (reaches_of_resolve h), fun _ _ => trivial⟩

end LocalProbe

/-- A path is refused exactly if it starts with a slash or has two dots as a segment, and then
nothing is asked of the disk. Otherwise it has the components of the root and its own steps, after a
dot at its start if the root is empty. Whatever the disk lists, all that a probe asks about lies
below. -/
theorem LocalProbe.probes_confined (p : LocalProbe) (rel : String) :
    ((∃ e, p.resolve rel = .error e) ↔
      rel.toList.head? = some '/' ∨ Text.HasSegment '/' rel.toList "..".toList) ∧
    (∀ e, p.resolve rel = .error e →
      e = .invalidInput ("path '" ++ rel ++ "' escapes the probe root") ∧
      (∀ depth, p.fetchTree rel depth = .done (.error e)) ∧
      p.fetchFile rel = .done (.error e)) ∧
    ∀ full, p.resolve rel = .ok full →
      p.Reaches (p.added rel) full ∧
      (p.root ≠ "" → DiskPath.components full =
        DiskPath.components p.root ++ (DiskPath.steps rel).map .name) ∧
      (∀ depth, (p.fetchTree rel depth).Asks DiskCall.Possible (p.ReachesBelow (p.added rel))) ∧
      (p.fetchFile rel).Asks DiskCall.Possible (p.ReachesBelow (p.added rel)) := by
  refine ⟨?_, fun e he => ?_, fun full hfull => ?_⟩
  · rw [← escapes_iff]
    constructor
    · rintro ⟨e, he⟩
      exact (resolve_eq_error_iff.mp he).1
    · intro h
      exact ⟨_, resolve_eq_error_iff.mpr ⟨h, rfl⟩⟩
  · refine ⟨(resolve_eq_error_iff.mp he).2.symm, fun depth => ?_, ?_⟩
    · rw [fetchTree, he]
    · rw [fetchFile, he]
  · have hreaches := reaches_of_resolve hfull
    refine ⟨hreaches, fun hroot => ?_, asks_fetchTree hfull, asks_fetchFile hfull⟩
    rw [hreaches.components, added, if_neg fun h => hroot h.1]

/-- A path that climbs, and one with a dot and two slashes, whose directory is walked. -/
theorem LocalProbe.probes_confined_workspace :
    let asked := (homeProbe.fetchTree "./src//" 5).transcript workspace.disk
    (∃ e, homeProbe.resolve "src/.." = .error e ∧ homeProbe.fetchFile "src/.." = .done (.error e)) ∧
      homeProbe.resolve "./src//" = .ok "/home/./src//" ∧
      DiskPath.components "/home/./src//" = [.top, .name "home", .name "src"] ∧
      .list "/home/./src//" ∈ asked ∧
      ∀ c ∈ asked, ∃ names : List String,
        DiskPath.components c.path = [.top, .name "home", .name "src"] ++ names.map .name := by
  intro asked
  have hroot : homeProbe.root ≠ "" := by decide
  obtain ⟨-, hrefused, -⟩ := probes_confined homeProbe "src/.."
  obtain ⟨-, -, haccepted⟩ := probes_confined homeProbe "./src//"
  obtain ⟨-, hcomponents, htree, -⟩ := haccepted _ rfl
  refine ⟨⟨_, rfl, (hrefused _ rfl).2.2⟩, rfl, hcomponents hroot,
    List.mem_cons_of_mem _ List.mem_cons_self, fun c hc => ?_⟩
  obtain ⟨names, hreaches⟩ := (htree 5).transcript workspace.possible_disk c hc
  have hbelow := hreaches.components
  rw [← List.append_assoc] at hbelow
  exact ⟨names, hbelow⟩

/-- After an empty root a dot at the start stays. The path without any component names nothing, but
the dot names a directory. -/
theorem LocalProbe.leading_dot_kept :
    let p : LocalProbe := ⟨"", 8⟩
    let expected (rel : String) :=
      DiskPath.components p.root ++ (DiskPath.steps rel).map DiskPath.Component.name
    p.resolve "./src" = .ok "./src" ∧ DiskPath.components "./src" ≠ expected "./src" ∧
      p.resolve "." = .ok "." ∧ DiskPath.components "." ≠ expected "." ∧
      DiskPath.components "" = expected "." ∧
      workspace.disk (.kind ".") = .ok .directory ∧
      workspace.disk (.kind "") = .error .notFound := by
  intro p expected
  exact ⟨rfl, by decide, rfl, by decide, rfl, rfl, rfl⟩

end WidgetDoc
