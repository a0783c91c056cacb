import RelSchema.Schema.Basic
import RelSchema.Sql.Body
import RelSchema.Sql.Item.Reader
import RelSchema.Sql.Script

namespace RelSchema.Sql

open Body (ItemReader Outcome Enums)

def declaredEnums (statements : List (List Char)) : Enums :=
  statements.filterMap fun statement =>
    (Header.createEnum? statement).map fun (name, values) =>
      (Text.lower (String.ofList name), values)

def tableOf? (d : Dialect) (read : ItemReader) (enums : Enums) (statement : List Char) :
    Outcome (Option Table) :=
  match Header.createTable? statement with
  | some (name, rest) =>
    some <$> Body.table d read enums (String.ofList name) (wrappedBody rest)
  | none => do
    Remarked.note (.ignoredStatement (String.ofList statement))
    return none

/-- Adds the tables of some statements to those there are; the first of a name stays. -/
def addTables (d : Dialect) (read : ItemReader) (enums : Enums) (tables : List Table) :
    List (List Char) → Outcome (List Table)
  | [] => pure tables
  | statement :: rest => do
    match ← tableOf? d read enums statement with
    | none => addTables d read enums tables rest
    | some t =>
      if tables.any fun earlier => Text.sameName earlier.name t.name then
        Remarked.note (.repeatedTable t.name)
        addTables d read enums tables rest
      else addTables d read enums (tables ++ [t]) rest

def numberColumns (start : Nat) (columns : List Column) : List Column :=
  columns.mapIdx fun i c => { c with id := numbered "column" (start + i) }

def numberFrom (table column : Nat) : List Table → List Table
  | [] => []
  | t :: rest =>
    { t with id := numbered "table" table, columns := numberColumns column t.columns } ::
      numberFrom (table + 1) (column + t.columns.length) rest

def numberTables (tables : List Table) : List Table := numberFrom 1 1 tables

def assemble (d : Dialect) (tables : List Table) : Schema :=
  let tables := completeReferences (numberTables tables)
  { tables, edges := foreignKeyEdges tables, dialect := d.key }

def readWith (d : Dialect) (read : ItemReader) (script : String) : Outcome Schema := do
  let statements := Script.statementChars script.toList
  let tables ← addTables d read (declaredEnums statements) [] statements
  let schema := assemble d tables
  Remarked.note (.parsed schema.tables.length schema.edges.length)
  return schema

def read (d : Dialect) (script : String) : Outcome Schema := readWith d (Item.read? d) script

end RelSchema.Sql
