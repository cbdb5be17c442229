import WidgetDoc.Fields

/-!
# TOML documents

A document is a table of values. How a table came about decides what may still be added to it:
a header or dotted keys may extend only tables that no header and no inline form has defined.
-/

namespace WidgetDoc

inductive TableForm where
  | header
  | implied
  | dotted
  | inline
  deriving DecidableEq

/-- A value. Floats and dates are recognised, but what they denote is not kept. -/
inductive Toml where
  | string (s : String)
  | integer (n : Int)
  | float
  | boolean (b : Bool)
  | dateTime
  | array (items : List Toml)
  | table (form : TableForm) (entries : List (String × Toml))
  | tables (all : List (List (String × Toml)))

namespace Toml

abbrev Entries := List (String × Toml)

/-- Changes the table at a path, which dotted keys or a header walk along. Missing tables on the way
are created, an array of tables is entered at its last table, and a closed table bars the way. -/
def modifyAt (dotted : Bool) (change : TableForm → Entries → Option Entries) :
    List String → TableForm → Entries → Option Entries
  | [], form, entries => change form entries
  | key :: path, _, entries =>
    match entries.lookup key with
    | none =>
      let form := if dotted then .dotted else .implied
      (modifyAt dotted change path form []).map fun sub => Fields.set key (table form sub) entries
    | some (table form sub) =>
      if form = .inline ∨ (dotted ∧ form = .header) then none
      else (modifyAt dotted change path form sub).map fun sub =>
        Fields.set key (table form sub) entries
    | some (tables all) =>
      all.getLast?.bind fun last =>
        (modifyAt dotted change path .header last).map fun last =>
          Fields.set key (tables (all.dropLast ++ [last])) entries
    | some _ => none

/-- Adds a value under a dotted key, which must be new and must not extend a table that dotted keys
have not made. -/
def assign (path : List String) (key : String) (value : Toml) (form : TableForm)
    (entries : Entries) : Option Entries :=
  modifyAt true (fun form entries =>
    if path = [] ↔ form = .dotted then none
    else if (entries.lookup key).isSome then none
    else some (Fields.set key value entries)) path form entries

/-- What a header's path leads to: `none` if it is barred, and nothing if it is still free. -/
def find? : List String → Entries → Option (Option Toml)
  | [], _ => none
  | [key], entries => some (entries.lookup key)
  | key :: path, entries =>
    match entries.lookup key with
    | none => some none
    | some (table form sub) => if form = .inline then none else find? path sub
    | some (tables all) => all.getLast?.bind (find? path)
    | some _ => none

/-- A document under construction: the finished part and the open section. -/
structure Draft where
  finished : Entries
  path : List String
  isArray : Bool
  current : Entries

namespace Draft

def empty : Draft := ⟨[], [], false, []⟩

/-- Adds a value to the open section. -/
def assign (d : Draft) (path : List String) (key : String) (value : Toml) : Option Draft :=
  (Toml.assign path key value .header d.current).map fun entries => { d with current := entries }

/-- Files the open section under its header. -/
def close (d : Draft) : Option Entries :=
  match d.path.getLast? with
  | none => some d.current
  | some key =>
    modifyAt false (fun _ entries =>
      if d.isArray then
        match entries.lookup key with
        | none => some (Fields.set key (tables [d.current]) entries)
        | some (tables all) => some (Fields.set key (tables (all ++ [d.current])) entries)
        | some _ => none
      else some (Fields.set key (table .header d.current) entries))
      d.path.dropLast .header d.finished

/-- Opens the section of a table, which may so far only be implied. -/
def openTable (d : Draft) (path : List String) : Option Draft :=
  d.close.bind fun finished =>
    match find? path finished with
    | some none => some ⟨finished, path, false, []⟩
    | some (some (table .implied entries)) => some ⟨finished, path, false, entries⟩
    | _ => none

/-- Opens the section of one more table in an array of tables. -/
def openArray (d : Draft) (path : List String) : Option Draft :=
  d.close.bind fun finished =>
    match find? path finished with
    | some none => some ⟨finished, path, true, []⟩
    | some (some (tables _)) => some ⟨finished, path, true, []⟩
    | _ => none

end Draft

end Toml

end WidgetDoc
