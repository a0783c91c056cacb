import RelSchema.Schema.Basic
import RelSchema.Schema.Naming

namespace RelSchema

/-- A relationship that the schema may lack. Tables and columns are given by name, the confidence
in hundredths. -/
structure Suggestion where
  id : String
  source : String
  target : String
  cardinality : Cardinality
  confidence : Nat := 0
  reason : String := ""
  sourceColumn : Option String := none
  targetColumn : Option String := none
  deriving DecidableEq, Repr

namespace Suggestion

def number (list : List Suggestion) : List Suggestion :=
  list.mapIdx fun i s => { s with id := s!"suggestion-{i + 1}" }

/-- Pairs each table with its place, by which tables of equal content are told apart. -/
def placed (tables : List Table) : List (Table × Nat) := tables.zipIdx

def keyNames (t : Table) : List String :=
  let stems := [Text.lower t.name, Text.lower (singularize t.name)]
  stems.map (· ++ "_id") ++ stems.map (· ++ "id")

def matchingKey? (referenced : Table) (c : Column) : Option Column :=
  referenced.primaryKey.find? (·.type == c.type)

def namingReason (referenced table : Table) (key c : Column) : String :=
  s!"Column '{table.name}.{c.name}' matches the name and type of primary key " ++
    s!"'{referenced.name}.{key.name}'"

def ofColumn? (referenced table : Table) (c : Column) : Option Suggestion :=
  if c.isForeignKey || !(keyNames referenced).contains (Text.lower c.name) then none
  else (matchingKey? referenced c).map fun key =>
    { id := "", source := referenced.name, target := table.name, cardinality := .oneToMany,
      confidence := 80, reason := namingReason referenced table key c,
      sourceColumn := some key.name, targetColumn := some c.name }

def fromColumnNames (tables : List Table) : List Suggestion :=
  number <| (placed tables).flatMap fun (referenced, i) =>
    (placed tables).flatMap fun (table, j) =>
      if i = j then [] else table.columns.filterMap (ofColumn? referenced table)

end Suggestion

end RelSchema
