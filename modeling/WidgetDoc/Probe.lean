import WidgetDoc.Dialogue
import WidgetDoc.Json

/-!
# Probes of a file system

What queries ask of a file system: a tree to some depth, or the content of a file.
`TreeNode.ofJson?` reads a tree from its JSON form.
-/

namespace WidgetDoc

inductive TreeNode where
  | file (name path : String)
  | dir (name path : String) (children : List TreeNode)

namespace TreeNode

def name : TreeNode → String
  | file name _ => name
  | dir name _ _ => name

def path : TreeNode → String
  | file _ path => path
  | dir _ path _ => path

def isFile : TreeNode → Bool
  | file .. => true
  | dir .. => false

def children : TreeNode → List TreeNode
  | file .. => []
  | dir _ _ children => children

mutual
def toJson : TreeNode → Json
  | file name path =>
    .object [("type", .string "file"), ("name", .string name), ("path", .string path)]
  | dir name path children =>
    .object [("type", .string "dir"), ("name", .string name), ("path", .string path),
      ("children", .array (toJsonAll children))]

def toJsonAll : List TreeNode → List Json
  | [] => []
  | n :: ns => n.toJson :: toJsonAll ns
end

/-- Whether a tag names a file (`true`) or a directory. Below the root the tag may also be the
position of the type, zero or one. -/
def isFileTag? (atRoot : Bool) : Json → Option Bool
  | .string "file" => some true
  | .string "dir" => some false
  | .number n =>
    if atRoot then none
    else match n.toNat? with
      | some 0 => some true
      | some 1 => some false
      | _ => none
  | _ => none

mutual
/-- A node is an object, or an array of its tag, name, path and, for a directory, its children;
missing children are none. -/
def ofJsonAt? (atRoot : Bool) : Json → Option TreeNode
  | .object fields => do
    let isFile ← (fields.lookup "type").bind (isFileTag? atRoot)
    let name ← (fields.lookup "name").bind Json.string?
    let path ← (fields.lookup "path").bind Json.string?
    if isFile then return file name path
    return dir name path (← ofChildrenField? fields)
  | .array [tag, .string name, .string path] => do
    if ← isFileTag? atRoot tag then return file name path
    return dir name path []
  | .array [tag, .string name, .string path, children] => do
    if ← isFileTag? atRoot tag then none
    return dir name path (← ofChildren? children)
  | _ => none

/-- The children among the fields of a directory. -/
def ofChildrenField? : List (String × Json) → Option (List TreeNode)
  | [] => some []
  | (key, x) :: fs => if key = "children" then ofChildren? x else ofChildrenField? fs

def ofChildren? : Json → Option (List TreeNode)
  | .array items => ofItems? items
  | _ => none

def ofItems? : List Json → Option (List TreeNode)
  | [] => some []
  | x :: xs => do
    let node ← ofJsonAt? false x
    let rest ← ofItems? xs
    return node :: rest
end

def ofJson? (j : Json) : Option TreeNode :=
  ofJsonAt? true j

mutual
/-- The number of nodes of a tree. -/
def count : TreeNode → Nat
  | file .. => 1
  | dir _ _ children => countAll children + 1

def countAll : List TreeNode → Nat
  | [] => 0
  | n :: ns => n.count + countAll ns
end

theorem countAll_append (xs ys : List TreeNode) :
    countAll (xs ++ ys) = countAll xs + countAll ys := by
  induction xs with
  | nil => simp [countAll]
  | cons x xs ih => simp [countAll, ih, Nat.add_assoc]

theorem count_eq (n : TreeNode) : n.count = countAll n.children + 1 := by
  cases n <;> simp [count, children, countAll]

end TreeNode

inductive ProbeError where
  | notFound (path : String)
  | invalidInput (reason : String)
  | failed (reason : String)
  deriving DecidableEq

def ProbeError.message : ProbeError → String
  | notFound path => "not found: " ++ path
  | invalidInput reason => "invalid probe input: " ++ reason
  | failed reason => "probe failed: " ++ reason

structure FileContent where
  path : String
  content : String

inductive ProbeCall where
  | tree (root : String) (depth : Nat)
  | file (path : String)
  deriving DecidableEq

def ProbeCall.Answer : ProbeCall → Type
  | tree .. => Except ProbeError TreeNode
  | file _ => Except ProbeError FileContent

/-- A probe whose answers depend on the call only. -/
abbrev Probe := (c : ProbeCall) → c.Answer

abbrev ProbeDialogue := Dialogue ProbeCall ProbeCall.Answer

end WidgetDoc
