import WidgetDoc.Proofs.DiskPaths
import WidgetDoc.Proofs.Fields
import WidgetDoc.Proofs.Results

/-!
# Looking up paths

Pieces of a path that name nothing make no difference on the way to a directory, nor before another
piece. So what a path finds is decided by where it starts and what its pieces name, and going on
from a directory by names finds what is below it. The disk of a tree, which bounds the lengths of
paths, agrees with the file system as long as a path keeps to the bounds.
-/

namespace WidgetDoc

open DiskPath

namespace FileTree

variable {entries : List (String × FileTree)}

theorem WellNamed.distinct (h : WellNamed (.dir entries)) : Fields.Distinct entries := by
  cases h with
  | dir hdistinct _ _ => exact hdistinct

theorem WellNamed.isName (h : WellNamed (.dir entries)) {name : String} {next : FileTree}
    (hname : entries.lookup name = some next) : IsName name := by
  cases h with
  | dir _ hnames _ => exact hnames _ (mem_of_lookup hname)

theorem WellNamed.of_lookup (h : WellNamed (.dir entries)) {name : String} {next : FileTree}
    (hname : entries.lookup name = some next) : next.WellNamed := by
  cases h with
  | dir _ _ hentries => exact hentries _ (mem_of_lookup hname)

theorem below?_cons_eq_some_iff {tree e : FileTree} {name : String} {rest : List String} :
    tree.below? (name :: rest) = some e ↔
      ∃ entries next, tree = dir entries ∧ entries.lookup name = some next ∧
        next.below? rest = some e := by
  cases tree with
  | file content => simp [below?]
  | dir entries => simp [below?, Option.bind_eq_some_iff]

theorem isName_of_below? {tree e : FileTree} (h : tree.WellNamed) {names : List String}
    (hbelow : tree.below? names = some e) : ∀ name ∈ names, IsName name := by
  induction names generalizing tree with
  | nil => simp
  | cons name rest ih =>
      obtain ⟨entries, next, rfl, hnext, hrest⟩ := below?_cons_eq_some_iff.mp hbelow
      exact List.forall_mem_cons.mpr ⟨h.isName hnext, ih (h.of_lookup hnext) hrest⟩

end FileTree

namespace Place

variable {place found : Place} {ps : List String}

theorem follow_append (place : Place) (ps qs : List String) :
    place.follow (ps ++ qs) = (place.follow ps).bind fun next => next.follow qs := by
  induction ps generalizing place with
  | nil => rfl
  | cons p ps ih =>
      rw [List.cons_append, follow, follow]
      cases place.enter p with
      | error e => rfl
      | ok next => exact ih next

theorem enter_file {content : List UInt8} (h : place.here = .file content) (p : String) :
    place.enter p = .error .notDirectory := by
  simp only [enter, h]

theorem enter_blank {entries : List (String × FileTree)} (h : place.here = .dir entries)
    {p : String} (hp : p = "" ∨ p = ".") : place.enter p = .ok place := by
  simp only [enter, h, if_pos hp]

theorem enter_name {entries : List (String × FileTree)} (h : place.here = .dir entries)
    {name : String} (hname : FileTree.IsName name) {next : FileTree}
    (hnext : entries.lookup name = some next) :
    place.enter name = .ok ⟨place.here :: place.above, next⟩ := by
  have hblank : ¬(name = "" ∨ name = ".") := by simp [hname.1, hname.2.1]
  simp only [enter, h, if_neg hblank, if_neg hname.2.2.1, hnext]

theorem follow_file {content : List UInt8} (h : place.here = .file content) (hps : ps ≠ []) :
    place.follow ps = .error .notDirectory := by
  cases ps with
  | nil => exact absurd rfl hps
  | cons p ps =>
      rw [follow, enter_file h]
      rfl

/-- Pieces without a name make no difference before another piece. -/
theorem follow_named_append (place : Place) (ps : List String) (last : String) :
    place.follow (ps ++ [last]) = place.follow (named ps ++ [last]) := by
  induction ps generalizing place with
  | nil => rfl
  | cons p ps ih =>
      by_cases hblank : p = "" ∨ p = "."
      · have hnamed : named (p :: ps) = named ps := by
          rcases hblank with rfl | rfl <;> simp [named]
        rw [hnamed, ← ih, List.cons_append]
        cases hhere : place.here with
        | file content => rw [follow_file hhere (by simp), follow_file hhere (by simp)]
        | dir entries =>
            rw [follow, enter_blank hhere hblank]
            rfl
      · have hnamed : named (p :: ps) = p :: named ps := by
          simp [named, not_or.mp hblank]
        rw [hnamed, List.cons_append, List.cons_append, follow, follow]
        simp only [ih]

/-- An empty piece at the end asks for a directory. -/
theorem follow_append_empty (place : Place) (ps : List String) :
    place.follow (ps ++ [""]) = .ok found ↔
      place.follow ps = .ok found ∧ ∃ entries, found.here = .dir entries := by
  rw [follow_append]
  cases place.follow ps with
  | error e => simp [Except.bind]
  | ok next =>
      change (next.enter "").bind Except.ok = .ok found ↔ _
      cases hhere : next.here with
      | file content =>
          rw [enter_file hhere]
          simp only [Except.bind, reduceCtorEq, Except.ok.injEq, false_iff, not_and, not_exists]
          rintro rfl entries hdir
          cases hhere.symm.trans hdir
      | dir entries =>
          rw [enter_blank hhere (.inl rfl)]
          simp only [Except.bind, Except.ok.injEq, iff_self_and]
          rintro rfl
          exact ⟨entries, hhere⟩

/-- Pieces without a name make no difference on the way to a directory. -/
theorem follow_named {entries : List (String × FileTree)} (hdir : found.here = .dir entries)
    (ps : List String) : place.follow ps = .ok found ↔ place.follow (named ps) = .ok found := by
  -- Before an empty piece at the end the others stand before another piece.
  have hboth (ps : List String) :
      place.follow (ps ++ [""]) = .ok found ↔ place.follow ps = .ok found := by
    rw [follow_append_empty, and_iff_left ⟨entries, hdir⟩]
  rw [← hboth, follow_named_append, hboth]

theorem follow_of_below? {names : List String} {e : FileTree} (h : place.here.WellNamed)
    (hbelow : place.here.below? names = some e) :
    ∃ found, place.follow names = .ok found ∧ found.here = e := by
  induction names generalizing place with
  | nil => exact ⟨place, rfl, Option.some.inj hbelow⟩
  | cons name rest ih =>
      obtain ⟨entries, next, hhere, hnext, hrest⟩ := FileTree.below?_cons_eq_some_iff.mp hbelow
      rw [hhere] at h
      rw [follow, enter_name hhere (h.isName hnext) hnext]
      exact ih (h.of_lookup hnext) hrest

/-- All directories on the way to an entry and the entry itself are well named. -/
def WellNamed (place : Place) : Prop :=
  place.here.WellNamed ∧ ∀ tree ∈ place.above, tree.WellNamed

theorem WellNamed.enter (h : place.WellNamed) {p : String} (hp : place.enter p = .ok found) :
    found.WellNamed := by
  obtain ⟨above, here⟩ := place
  obtain ⟨hhere, habove⟩ := h
  cases here with
  | file content => simp [Place.enter] at hp
  | dir entries =>
      simp only [Place.enter] at hp
      split at hp
      · cases hp
        exact ⟨hhere, habove⟩
      · split at hp
        · cases above with
          | nil =>
              cases hp
              exact ⟨hhere, habove⟩
          | cons parent above =>
              cases hp
              exact List.forall_mem_cons.mp habove
        · cases hnext : entries.lookup p with
          | none => simp [hnext] at hp
          | some next =>
              simp only [hnext, Except.ok.injEq] at hp
              cases hp
              exact ⟨hhere.of_lookup hnext, List.forall_mem_cons.mpr ⟨hhere, habove⟩⟩

theorem WellNamed.follow (h : place.WellNamed) (hps : place.follow ps = .ok found) :
    found.WellNamed := by
  induction ps generalizing place with
  | nil =>
      cases hps
      exact h
  | cons p ps ih =>
      rw [Place.follow] at hps
      cases hp : place.enter p with
      | error e => simp [hp, Except.bind] at hps
      | ok next =>
          rw [hp] at hps
          exact ih (h.enter hp) hps

end Place

namespace FileSystem

variable {fs : FileSystem} {path : String} {entries : List (String × FileTree)}

theorem locate_eq_ok_iff {absolute : Bool} {ps : List String} {found : FileTree} :
    fs.locate absolute ps = .ok found ↔
      ∃ place : Place, Place.follow ⟨[], fs.top⟩ (fs.start absolute ++ ps) = .ok place ∧
        place.here = found :=
  map_eq_ok_iff

theorem wellNamed_of_find {found : FileTree} (h : fs.find path = .ok found) :
    found.WellNamed := by
  rw [find] at h
  split at h
  · cases h
  · obtain ⟨place, hplace, rfl⟩ := locate_eq_ok_iff.mp h
    have htop : Place.WellNamed ⟨[], fs.top⟩ := ⟨fs.wellNamed, by simp⟩
    exact (htop.follow hplace).1

theorem find_eq_dir_iff :
    fs.find path = .ok (.dir entries) ↔
      path ≠ "" ∧ fs.locate (isAbsolute path) (steps path) = .ok (.dir entries) := by
  by_cases hempty : path = ""
  · simp [find, hempty]
  · rw [find, if_neg hempty, and_iff_right hempty, locate_eq_ok_iff, locate_eq_ok_iff]
    refine exists_congr fun place => and_congr_left fun hdir => ?_
    rw [Place.follow_named hdir, Place.follow_named hdir (_ ++ steps path), named_append,
      named_append, steps_eq_named, named_named]

/-- A path that ends with a name finds what its pieces name. -/
theorem find_of_name {ps : List String} {name : String} (hpieces : pieces path = ps ++ [name])
    (hname : FileTree.IsName name) :
    fs.find path = fs.locate (isAbsolute path) (steps path) := by
  have hempty : path ≠ "" := by
    rintro rfl
    rw [pieces_empty] at hpieces
    have hlast : "" = name := by simpa using congrArg List.getLast? hpieces
    exact hname.1 hlast.symm
  rw [find, if_neg hempty, locate, locate, steps_eq_named, hpieces, named_append,
    named_singleton hname, ← List.append_assoc, ← List.append_assoc, Place.follow_named_append,
    Place.follow_named_append _ (_ ++ named ps), named_append, named_append, named_named]

theorem locate_append {absolute : Bool} {ps names : List String} {e : FileTree}
    (hdir : fs.locate absolute ps = .ok (.dir entries))
    (hentries : (FileTree.dir entries).WellNamed)
    (hbelow : (FileTree.dir entries).below? names = some e) :
    fs.locate absolute (ps ++ names) = .ok e := by
  obtain ⟨place, hplace, hhere⟩ := locate_eq_ok_iff.mp hdir
  rw [← hhere] at hentries hbelow
  obtain ⟨found, hfound, rfl⟩ := Place.follow_of_below? hentries hbelow
  refine locate_eq_ok_iff.mpr ⟨found, ?_, rfl⟩
  rw [← List.append_assoc, Place.follow_append, hplace]
  exact hfound

theorem find_join_of_lookup (hdir : fs.find path = .ok (.dir entries)) {name : String}
    {next : FileTree} (hnext : entries.lookup name = some next) :
    fs.find (join path name) = .ok next := by
  have hentries := wellNamed_of_find hdir
  have hname := hentries.isName hnext
  obtain ⟨-, hlocate⟩ := find_eq_dir_iff.mp hdir
  obtain ⟨lead, hpieces, -⟩ := pieces_join path name
  rw [pieces_of_isName hname] at hpieces
  rw [find_of_name hpieces hname, isAbsolute_join path (isAbsolute_of_isName hname),
    steps_join, steps_of_isName hname]
  refine locate_append hlocate hentries ?_
  simp [FileTree.below?, hnext]

end FileSystem

/-! ## The disk of a tree -/

namespace FileTree

/-- A path that a tree can be asked about: it stays in the tree and keeps to the bounds. -/
structure Plain (path : String) : Prop where
  relative : isAbsolute path = false
  stays : ".." ∉ pieces path
  shortPieces : ∀ p ∈ pieces path, p.utf8ByteSize ≤ maxName
  short : path.utf8ByteSize ≤ maxPath
  noNul : '\x00' ∉ path.toList

theorem follow_eq_of_short (above : List FileTree) (here : FileTree) {ps : List String}
    (hstays : ".." ∉ ps) (hshort : ∀ p ∈ ps, p.utf8ByteSize ≤ maxName) :
    follow above here ps = (Place.follow ⟨above, here⟩ ps).map (·.here) := by
  induction ps generalizing above here with
  | nil => rfl
  | cons p ps ih =>
      obtain ⟨hup, hstays⟩ := not_or.mp (mt List.mem_cons.mpr hstays)
      obtain ⟨hp, hshort⟩ := List.forall_mem_cons.mp hshort
      have hdown : p ≠ ".." := fun e => hup e.symm
      cases here with
      | file content => rfl
      | dir entries =>
          by_cases hblank : p = "" ∨ p = "."
          · rw [Place.follow, Place.enter_blank rfl hblank]
            simp only [follow, if_pos hblank]
            exact ih above _ hstays hshort
          · simp only [Place.follow, Place.enter, follow, if_neg hblank, if_neg hdown,
              if_neg (Nat.not_lt.mpr hp)]
            cases entries.lookup p with
            | none => rfl
            | some next => exact ih _ next hstays hshort

/-- The disk of a tree finds what the file system of this tree finds. -/
theorem find_of_plain {tree : FileTree} (h : tree.WellNamed) {path : String} (hp : Plain path) :
    tree.find path = FileSystem.find ⟨tree, [], h⟩ path := by
  rw [find, if_neg hp.noNul, FileSystem.find]
  split
  · rfl
  · rw [if_neg (Nat.not_lt.mpr hp.short), hp.relative]
    exact follow_eq_of_short [] tree hp.stays hp.shortPieces

end FileTree

end WidgetDoc
