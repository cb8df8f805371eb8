import FormIntake.Entries
import FormIntake.Toml

/-!
Documents in the making. A header opens a table, a double header adds a row to a list of tables, and
an assignment gives a value to a key, which dots may lead to from the open table. A table is opened
once, and by a header or by dots but not by both.
-/

namespace FormIntake.Toml

inductive TableKind
  | opened
  /-- A header of a table inside it was read. -/
  | implied
  | dotted
  deriving DecidableEq, Repr

inductive Node
  | value (value : Toml)
  | table (kind : TableKind) (members : List (String × Node))
  | rows (all : List (List (String × Node)))

namespace Node

mutual

def toToml : Node → Toml
  | .value v => v
  | .table _ members => .table (membersToToml members)
  | .rows all => .array (rowsToToml all)

def membersToToml : List (String × Node) → List (String × Toml)
  | [] => []
  | (name, node) :: rest => (name, node.toToml) :: membersToToml rest

def rowsToToml : List (List (String × Node)) → List Toml
  | [] => []
  | row :: rest => .table (membersToToml row) :: rowsToToml rest

end

end Node

structure OpenTable where
  kind : TableKind
  members : List (String × Node)

namespace OpenTable

/-- Gives `key` a node: in its place if it has one, else behind all others. -/
def put (t : OpenTable) (key : String) (node : Node) : OpenTable :=
  if (Entries.get? t.members key).isSome then
    { t with members := t.members.map fun (k, old) => (k, if k = key then node else old) }
  else { t with members := t.members ++ [(key, node)] }

def drop (t : OpenTable) (key : String) : OpenTable :=
  { t with members := t.members.filter fun (k, _) => k ≠ key }

/-- Changes the table that `path` leads to, through tables of kind `kind` where there are none yet.
Dots lead into no table that a header opened; a list of tables is entered at its last row. -/
def alter (kind : TableKind) (change : OpenTable → Option OpenTable) :
    List String → OpenTable → Option OpenTable
  | [], t => change t
  | key :: path, t =>
    match Entries.get? t.members key with
    | none => do
      let inner ← alter kind change path ⟨kind, []⟩
      return t.put key (.table inner.kind inner.members)
    | some (.table old members) =>
      if kind = .dotted ∧ old = .opened then none
      else do
        let inner ← alter kind change path ⟨old, members⟩
        return t.put key (.table inner.kind inner.members)
    | some (.rows all) => do
      let inner ← alter kind change path ⟨.opened, ← all.getLast?⟩
      return t.put key (.rows (all.dropLast ++ [inner.members]))
    | some (.value _) => none

def assign (path : List String) (key : String) (value : Toml) : OpenTable → Option OpenTable :=
  alter .dotted (fun t =>
    if (path.isEmpty ∨ t.kind = .dotted) ∧ (Entries.get? t.members key).isNone then
      some (t.put key (.value value))
    else none) path

/-- Opens the table `key`, which may be implied but not be there otherwise. It goes behind all other
members. -/
def openTable (key : String) (t : OpenTable) : Option OpenTable :=
  match Entries.get? t.members key with
  | none => some (t.put key (.table .opened []))
  | some (.table .implied members) => some ((t.drop key).put key (.table .opened members))
  | some _ => none

def openRow (key : String) (t : OpenTable) : Option OpenTable :=
  match Entries.get? t.members key with
  | none => some (t.put key (.rows [[]]))
  | some (.rows all) => some (t.put key (.rows (all ++ [[]])))
  | some _ => none

end OpenTable

structure DottedKey where
  path : List String
  key : String

def DottedKey.toList (k : DottedKey) : List String := k.path ++ [k.key]

inductive Statement
  | header (key : DottedKey)
  | rowHeader (key : DottedKey)
  | assignment (key : DottedKey) (value : Toml)

structure Draft where
  root : OpenTable
  current : List String

def Draft.step (d : Draft) : Statement → Option Draft
  | .header k => do
    return ⟨← OpenTable.alter .implied (OpenTable.openTable k.key) k.path d.root, k.toList⟩
  | .rowHeader k => do
    return ⟨← OpenTable.alter .implied (OpenTable.openRow k.key) k.path d.root, k.toList⟩
  | .assignment k value => do
    return ⟨← OpenTable.alter .implied (OpenTable.assign k.path k.key value) d.current d.root,
      d.current⟩

def ofStatements (statements : List Statement) : Option Toml := do
  let d ← statements.foldlM Draft.step ⟨⟨.opened, []⟩, []⟩
  return .table (Node.membersToToml d.root.members)

def ofAssignments (assignments : List (DottedKey × Toml)) : Option Toml := do
  let t ← assignments.foldlM (fun (t : OpenTable) (k, value) => t.assign k.path k.key value)
    ⟨.opened, []⟩
  return .table (Node.membersToToml t.members)

end FormIntake.Toml
