import RelSchema.Schema.Basic

namespace RelSchema

abbrev Roster (α : Type) := List (String × α)

namespace Roster

variable {α : Type}

def put (r : Roster α) (key : String) (a : α) : Roster α :=
  match r with
  | [] => [(key, a)]
  | (k, b) :: rest => if k = key then (k, a) :: rest else (k, b) :: put rest key a

def get? (r : Roster α) (key : String) : Option α := r.lookup key

def ofList (name : α → String) (list : List α) : Roster α :=
  list.foldl (fun r a => r.put (Text.lower (name a)) a) []

end Roster

inductive Property where
  | type | length | scale | nullable | primaryKey | unique | references | default
  deriving DecidableEq, Repr

namespace Property

def all : List Property :=
  [type, length, scale, nullable, primaryKey, unique, references, default]

def name : Property → String
  | type => "type"
  | length => "length"
  | scale => "scale"
  | nullable => "nullable"
  | primaryKey => "primary_key"
  | unique => "unique"
  | references => "references"
  | default => "default"

end Property

inductive PropertyValue where
  | absent
  | flag (value : Bool)
  | number (value : Int)
  | text (value : String)
  deriving DecidableEq, Repr

namespace PropertyValue

def ofNumber (n : Option Int) : PropertyValue := (n.map number).getD absent

def ofText (s : Option String) : PropertyValue := (s.map text).getD absent

end PropertyValue

def Column.property (c : Column) : Property → PropertyValue
  | .type => .text c.type.name
  | .length => .ofNumber c.length
  | .scale => .ofNumber c.scale
  | .nullable => .flag c.nullable
  | .primaryKey => .flag c.primaryKey
  | .unique => .flag c.unique
  | .references => .ofText (c.references.map (·.path))
  | .default => .ofText c.default?

structure PropertyChange where
  property : Property
  old : PropertyValue
  new : PropertyValue
  deriving DecidableEq, Repr

/-- A column that is added, removed or changed; an added one has no old type, a removed one no new
type. -/
structure ColumnChange where
  name : String
  oldType : Option ColumnType := none
  newType : Option ColumnType := none
  changes : List PropertyChange := []
  deriving DecidableEq, Repr

structure TableChange where
  name : String
  added : List ColumnChange := []
  removed : List ColumnChange := []
  modified : List ColumnChange := []
  deriving DecidableEq, Repr

def TableChange.isEmpty (t : TableChange) : Bool :=
  t.added.isEmpty && t.removed.isEmpty && t.modified.isEmpty

structure SchemaDiff where
  added : List TableChange := []
  removed : List TableChange := []
  modified : List TableChange := []
  deriving DecidableEq, Repr

namespace SchemaDiff

def columnChanges (old new : Column) : List PropertyChange :=
  Property.all.filterMap fun p =>
    if old.property p = new.property p then none
    else some ⟨p, old.property p, new.property p⟩

def addedColumn (c : Column) : ColumnChange := { name := c.name, newType := some c.type }

def removedColumn (c : Column) : ColumnChange := { name := c.name, oldType := some c.type }

def modifiedColumn? (old new : Column) : Option ColumnChange :=
  match columnChanges old new with
  | [] => none
  | changes =>
    some { name := new.name, oldType := some old.type, newType := some new.type, changes }

def missingFrom {α : Type} (other r : Roster α) : List α :=
  r.filterMap fun (key, a) => if (other.get? key).isNone then some a else none

def matched {α : Type} (old new : Roster α) : List (α × α) :=
  new.filterMap fun (key, b) => (old.get? key).map (·, b)

def tableChange (old new : Table) : TableChange :=
  let olds := Roster.ofList Column.name old.columns
  let news := Roster.ofList Column.name new.columns
  { name := new.name
    added := (missingFrom olds news).map addedColumn
    removed := (missingFrom news olds).map removedColumn
    modified := (matched olds news).filterMap fun (a, b) => modifiedColumn? a b }

def addedTable (t : Table) : TableChange :=
  { name := t.name, added := t.columns.map addedColumn }

def removedTable (t : Table) : TableChange :=
  { name := t.name, removed := t.columns.map removedColumn }

def compare (old new : Schema) : SchemaDiff :=
  let olds := Roster.ofList Table.name old.tables
  let news := Roster.ofList Table.name new.tables
  { added := (missingFrom olds news).map addedTable
    removed := (missingFrom news olds).map removedTable
    modified := ((matched olds news).map fun (a, b) => tableChange a b).filter (!·.isEmpty) }

/-- Columns count only where their table is in both schemas. -/
def columnsAdded (d : SchemaDiff) : Nat := (d.modified.flatMap (·.added)).length

def columnsRemoved (d : SchemaDiff) : Nat := (d.modified.flatMap (·.removed)).length

def columnsModified (d : SchemaDiff) : Nat := (d.modified.flatMap (·.modified)).length

def totalChanges (d : SchemaDiff) : Nat :=
  d.added.length + d.removed.length + d.columnsAdded + d.columnsRemoved + d.columnsModified

end SchemaDiff

end RelSchema
