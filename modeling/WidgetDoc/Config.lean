import WidgetDoc.Text.Blank
import WidgetDoc.Toml

/-!
# Configuration

Every setting has a default; settings that are not known are ignored.
-/

namespace WidgetDoc

structure Config where
  logFilter : String
  root : String
  maxTreeDepth : Nat

inductive ConfigFault where
  | emptyLogFilter
  | zeroTreeDepth
  deriving DecidableEq

def ConfigFault.message : ConfigFault → String
  | emptyLogFilter => "log_filter must not be empty"
  | zeroTreeDepth => "fs.max_tree_depth must be > 0"

namespace Config

def defaultFile : String := "a2ui.toml"

def default : Config := ⟨"warn", ".", 8⟩

def string? : Toml → Option String
  | .string s => some s
  | _ => none

/-- A natural number of 32 bits. -/
def depth? : Toml → Option Nat
  | .integer (.ofNat n) => if n < UInt32.size then some n else none
  | _ => none

/-- A setting that may be absent. -/
def setting {α : Type} (read : Toml → Option α) (fallback : α) : Option Toml → Option α
  | none => some fallback
  | some t => read t

/-- The file system settings: a table, or an array of the root and the depth of which the last may
be missing. A date carries no settings at all. -/
def withFs (c : Config) : Toml → Option Config
  | .table _ entries => do
    let root ← setting string? c.root (entries.lookup "root")
    let depth ← setting depth? c.maxTreeDepth (entries.lookup "max_tree_depth")
    return { c with root := root, maxTreeDepth := depth }
  | .array items => do
    let root ← setting string? c.root items[0]?
    let depth ← setting depth? c.maxTreeDepth items[1]?
    return { c with root := root, maxTreeDepth := depth }
  | .dateTime => some c
  | _ => none

/-- The settings of a document; `none` if one has the wrong type. -/
def ofToml? (entries : Toml.Entries) : Option Config := do
  let logFilter ← setting string? default.logFilter (entries.lookup "log_filter")
  setting (withFs { default with logFilter := logFilter }) { default with logFilter := logFilter }
    (entries.lookup "fs")

def check (c : Config) : Except ConfigFault Config :=
  if Text.trim c.logFilter.toList = [] then .error .emptyLogFilter
  else if c.maxTreeDepth = 0 then .error .zeroTreeDepth
  else .ok c

end Config

end WidgetDoc
