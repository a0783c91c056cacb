import RelSchema.Notice
import RelSchema.Schema.Naming

namespace RelSchema.Orm

/-- A member of a list with its place. Equal members may stand twice, so they are told apart by
their places. -/
structure Placed (α : Type) where
  place : Nat
  item : α
  deriving DecidableEq, Repr

def placed {α : Type} (list : List α) : List (Placed α) := list.mapIdx .mk

structure Link where
  child : Placed Table
  column : Placed Column
  parent : Placed Table
  parentColumn : String
  deriving DecidableEq, Repr

/-- A link with the attributes that stand for it: `name` on the child, `reverseName` on the
parent. -/
structure Relation extends Link where
  name : String
  reverseName : String
  deriving DecidableEq, Repr

namespace Link

def isSelf (l : Link) : Bool := l.child.place == l.parent.place

def isOneToOne (l : Link) : Bool :=
  l.column.item.unique || (l.column.item.primaryKey && l.child.item.primaryKey.length == 1)

end Link

def idEndings : List String := ["_id", "_ID", "Id", "ID"]

def withoutIdEnding (name : List Char) : List Char :=
  match idEndings.find? fun ending => ending.toList.isSuffixOf name with
  | some ending => name.take (name.length - ending.length)
  | none => name

/-- The name of a column without the ending that marks an id. A line break may follow it. -/
def stem (name : String) : String :=
  let chars := name.toList
  String.ofList <|
    if chars.getLast? = some '\n' then withoutIdEnding chars.dropLast ++ ['\n']
    else withoutIdEnding chars

def Link.preferredName (l : Link) : String :=
  let column := l.column.item.name
  if stem column = "" ∨ stem column = column then s!"{column}_ref" else stem column

def Link.preferredReverse (l : Link) : String :=
  if l.isOneToOne then singularize l.child.item.name else l.child.item.name

/-- A name, and the names with a number from two on that may stand in for it. -/
def candidates (name : String) (count : Nat) : List String :=
  name :: (List.range count).map fun n => s!"{name}_{n + 2}"

/-- The first candidate that is not taken. Among one more than are taken there is always one. -/
def freeName (taken : List String) (name : String) : String :=
  ((candidates name taken.length).find? fun c => !taken.contains (Text.lower c)).getD name

abbrev Taken := List (List String)

namespace Taken

def ofTables (tables : List Table) : Taken :=
  tables.map fun t => t.columns.map fun c => Text.lower c.name

def claim (taken : Taken) (place : Nat) (name : String) : String × Taken :=
  let free := freeName (taken.getD place []) name
  (free, taken.modify place (Text.lower free :: ·))

end Taken

def nameLinks (taken : Taken) : List Link → List Relation
  | [] => []
  | l :: rest =>
    let (name, taken) := taken.claim l.child.place l.preferredName
    let (reverseName, taken) := taken.claim l.parent.place l.preferredReverse
    { toLink := l, name, reverseName } :: nameLinks taken rest

def parent? (s : Schema) (name : String) : Option (Placed Table) :=
  (placed s.tables).find? fun t => Text.sameName t.item.name name

def foreignKeys (s : Schema) : List (Placed Table × Placed Column × Reference) :=
  (placed s.tables).flatMap fun child => (placed child.item.columns).filterMap fun column =>
    column.item.references.map fun target => (child, column, target)

def links (s : Schema) : List Link :=
  (foreignKeys s).filterMap fun (child, column, target) =>
    (parent? s target.table).map fun parent => ⟨child, column, parent, target.column⟩

def relations (s : Schema) : List Relation := nameLinks (.ofTables s.tables) (links s)

def missingParents (s : Schema) : List Notice :=
  (foreignKeys s).filterMap fun (child, column, target) =>
    match parent? s target.table with
    | some _ => none
    | none => some (.parentMissing target.table child.item.name column.item.name)

end RelSchema.Orm
