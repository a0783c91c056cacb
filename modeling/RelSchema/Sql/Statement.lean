import RelSchema.Json.Basic
import RelSchema.Sql.TypeText

namespace RelSchema.Sql

inductive BodyLine where
  | column (c : Column)
  | primaryKey (names : List String)
  | foreignKey (column : String) (target : Reference)
  | check (expression : String)
  deriving DecidableEq, Repr

inductive Statement where
  | createEnum (name : String) (values : List String)
  | createTable (name : String) (body : List BodyLine)
  deriving DecidableEq, Repr

/-- The lines of a table: its columns, then its keys, then its checks. -/
def bodyLines (t : Table) : List BodyLine :=
  t.columns.map .column ++
    (if t.primaryKey.isEmpty then [] else [.primaryKey (t.primaryKey.map (·.name))]) ++
    t.columns.filterMap (fun c => c.references.map (.foreignKey c.name)) ++
    t.columns.flatMap fun c => c.checks.map .check

def enumStatements (d : Dialect) (t : Table) : List Statement :=
  if d = .postgresql then
    (t.columns.filter fun c => c.type == .enum && !c.values.isEmpty).map fun c =>
      .createEnum (enumTypeName t.name c.name) c.values
  else []

def tableStatements (d : Dialect) (t : Table) : List Statement :=
  enumStatements d t ++ [.createTable t.name (bodyLines t)]

def statements (d : Dialect) (tables : List Table) : List Statement :=
  tables.flatMap (tableStatements d)

def isDeclaredUnique (c : Column) : Bool :=
  c.unique || c.constraints.any (·.kind == .unique)

def columnDefinition (d : Dialect) (table : String) (c : Column) : String :=
  " ".intercalate <|
    [quoteIdentifier d c.name, renderType d (some table) c] ++
    (if !c.nullable || c.primaryKey then ["NOT NULL"] else []) ++
    (if isDeclaredUnique c then ["UNIQUE"] else []) ++
    match c.default? with
    | none | some "" => []
    | some value => [s!"DEFAULT {value}"]

def BodyLine.text (d : Dialect) (table : String) : BodyLine → String
  | column c => columnDefinition d table c
  | primaryKey names =>
    "PRIMARY KEY (" ++ ", ".intercalate (names.map (quoteIdentifier d)) ++ ")"
  | foreignKey name target =>
    s!"FOREIGN KEY ({quoteIdentifier d name}) REFERENCES " ++
      s!"{quoteIdentifier d target.table}({quoteIdentifier d target.column})"
  | check expression => s!"CHECK ({expression})"

def Statement.text (d : Dialect) : Statement → String
  | createEnum name values => s!"CREATE TYPE {name} AS ENUM ({valueList values})"
  | createTable name body =>
    s!"CREATE TABLE {quoteIdentifier d name} (\n" ++
      ",\n".intercalate (body.map fun line => "  " ++ line.text d name) ++ "\n)"

def render (d : Dialect) : List Statement → String
  | [] => ""
  | list => "\n\n".intercalate (list.map fun s => s.text d ++ ";") ++ "\n"

def generate (d : Dialect) (s : Schema) : String := render d (statements d s.tables)

/-- The text that creates a schema, if its sizes have a text. -/
def write (d : Dialect) (s : Schema) : Except Json.WriteError String :=
  if s.tables.all fun t => t.columns.all fun c => (shownSizes c).all fun n => (Json.int n).isWritable
  then .ok (generate d s)
  else .error .tooManyDigits

def nameNotices (d : Dialect) (t : Table) : List Notice :=
  ((t.name :: t.columns.map (·.name)).filter fun name => !d.accepts name).map (.reservedName · d)

def generateNotices (d : Dialect) (s : Schema) : List Notice :=
  s.tables.flatMap fun t => nameNotices d t ++ t.columns.flatMap (typeNotices d)

end RelSchema.Sql
