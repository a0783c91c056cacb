import RelSchema.Text.Case

namespace RelSchema

inductive ColumnType where
  | int | varchar | text | boolean | date | timestamp | float | double | decimal | json | uuid
  | enum | array
  deriving DecidableEq, Repr

namespace ColumnType

def all : List ColumnType :=
  [int, varchar, text, boolean, date, timestamp, float, double, decimal, json, uuid, enum, array]

def name : ColumnType → String
  | int => "INT"
  | varchar => "VARCHAR"
  | text => "TEXT"
  | boolean => "BOOLEAN"
  | date => "DATE"
  | timestamp => "TIMESTAMP"
  | float => "FLOAT"
  | double => "DOUBLE"
  | decimal => "DECIMAL"
  | json => "JSON"
  | uuid => "UUID"
  | enum => "ENUM"
  | array => "ARRAY"

def ofName? (s : String) : Option ColumnType := all.find? (·.name == s)

theorem ofName?_name (t : ColumnType) : ofName? t.name = some t := by
  cases t <;> decide

end ColumnType

inductive ConstraintKind where
  | check | unique | default
  deriving DecidableEq, Repr

namespace ConstraintKind

def all : List ConstraintKind := [check, unique, default]

def name : ConstraintKind → String
  | check => "CHECK"
  | unique => "UNIQUE"
  | default => "DEFAULT"

def ofName? (s : String) : Option ConstraintKind := all.find? (·.name == s)

theorem ofName?_name (k : ConstraintKind) : ofName? k.name = some k := by
  cases k <;> decide

end ConstraintKind

inductive Cardinality where
  | oneToOne | oneToMany | manyToMany
  deriving DecidableEq, Repr

namespace Cardinality

def all : List Cardinality := [oneToOne, oneToMany, manyToMany]

def name : Cardinality → String
  | oneToOne => "one-to-one"
  | oneToMany => "one-to-many"
  | manyToMany => "many-to-many"

def ofName? (s : String) : Option Cardinality := all.find? (·.name == s)

theorem ofName?_name (c : Cardinality) : ofName? c.name = some c := by
  cases c <;> decide

end Cardinality

/-- A check carries an expression, a default a value. -/
structure ColumnConstraint where
  kind : ConstraintKind
  expression : Option String := none
  value : Option String := none
  deriving DecidableEq, Repr

structure Reference where
  table : String
  column : String
  deriving DecidableEq, Repr

def Reference.path (r : Reference) : String := s!"{r.table}.{r.column}"

structure Column where
  name : String
  type : ColumnType := .varchar
  id : String := ""
  length : Option Int := none
  scale : Option Int := none
  nullable : Bool := true
  primaryKey : Bool := false
  unique : Bool := false
  references : Option Reference := none
  constraints : List ColumnConstraint := []
  values : List String := []
  elementType : Option ColumnType := none
  deriving DecidableEq, Repr

namespace Column

def isForeignKey (c : Column) : Bool := c.references.isSome

def default? (c : Column) : Option String :=
  (c.constraints.find? (·.kind == .default)).bind (·.value)

def checks (c : Column) : List String :=
  c.constraints.filterMap fun k =>
    if k.kind == .check then k.expression.filter (· != "") else none

end Column

structure Table where
  name : String
  columns : List Column := []
  id : String := ""
  deriving DecidableEq, Repr

namespace Table

def column? (t : Table) (name : String) : Option Column :=
  t.columns.find? fun c => Text.sameName c.name name

def primaryKey (t : Table) : List Column := t.columns.filter (·.primaryKey)

def foreignKeys (t : Table) : List Column := t.columns.filter (·.isForeignKey)

end Table

/-- A relationship between two tables, given by their ids. The source is the table referred to, the
target the one that holds the foreign key. -/
structure Edge where
  id : String
  source : String
  target : String
  cardinality : Cardinality := .oneToMany
  sourceColumn : Option String := none
  targetColumn : Option String := none
  deriving DecidableEq, Repr

/-- Tables, the edges between them, and the key of the dialect they are written in. -/
structure Schema where
  tables : List Table := []
  edges : List Edge := []
  dialect : String := "mysql"
  deriving DecidableEq, Repr

namespace Schema

def table? (s : Schema) (name : String) : Option Table :=
  s.tables.find? fun t => Text.sameName t.name name

def tableById? (s : Schema) (id : String) : Option Table := s.tables.find? (·.id == id)

def edgesBetween (s : Schema) (a b : Table) : List Edge :=
  s.edges.filter fun e =>
    e.source != e.target &&
      ((e.source == a.id && e.target == b.id) || (e.source == b.id && e.target == a.id))

end Schema

/-- The table that a reference means: the last one of that name. -/
def referenced? (tables : List Table) (name : String) : Option Table :=
  tables.reverse.find? fun t => Text.sameName t.name name

def impliedColumn (target : Option Table) : String :=
  match target.bind (·.primaryKey.head?) with
  | some key => key.name
  | none => "id"

def Reference.completed (tables : List Table) (r : Reference) : Reference :=
  if r.column.isEmpty then { r with column := impliedColumn (referenced? tables r.table) } else r

def completeReferences (tables : List Table) : List Table :=
  tables.map fun t =>
    { t with columns := t.columns.map fun c =>
        { c with references := c.references.map (Reference.completed tables) } }

def edgeOf? (tables : List Table) (t : Table) (c : Column) : Option Edge := do
  let r ← c.references
  let source ← referenced? tables r.table
  return { id := "", source := source.id, target := t.id,
           sourceColumn := some r.column, targetColumn := some c.name }

def numbered (kind : String) (n : Nat) : String := s!"{kind}-{n}"

def numberEdges (edges : List Edge) : List Edge :=
  edges.mapIdx fun i e => { e with id := numbered "edge" (i + 1) }

def foreignKeyEdges (tables : List Table) : List Edge :=
  numberEdges (tables.flatMap fun t => t.columns.filterMap (edgeOf? tables t))

end RelSchema
