import RelSchema.Notice
import RelSchema.Validation.Check

namespace RelSchema.Validation

/-- A named check. It applies to the tables listed, or to all if none is. -/
structure Rule where
  name : String
  check : String
  tables : List String := []
  deriving DecidableEq, Repr

def Rule.appliesTo (r : Rule) (t : Table) : Bool :=
  r.tables.isEmpty || r.tables.any fun name => Text.sameName t.name name

def commonRules : List Rule :=
  [{ name := "PK Required", check := "has_primary_key" },
   { name := "ID Column", check := "has_column('id')" },
   { name := "Created At", check := "has_column('created_at')" },
   { name := "Updated At", check := "has_column('updated_at')" },
   { name := "Snake Case Naming", check := "naming_convention('snake_case')" }]

inductive Problem where
  | ruleFailed (table rule check : String)
  | repeatedColumns (table : String)
  | noPrimaryKey (table : String)
  | missingTable (column table target : String)
  | missingColumn (column table target targetColumn : String)
  | typeMismatch (column table : String) (type targetType : ColumnType)
  | danglingEdge (edge id : String)
  deriving DecidableEq, Repr

def Problem.message : Problem → String
  | ruleFailed table rule check =>
    s!"Table \"{table}\" failed validation rule \"{rule}\": {check}"
  | repeatedColumns table => s!"Table \"{table}\" has duplicate column names"
  | noPrimaryKey table => s!"Table \"{table}\" has no primary key"
  | missingTable column table target =>
    s!"Foreign key \"{column}\" in table \"{table}\" references " ++
      s!"non-existent table \"{target}\""
  | missingColumn column table target targetColumn =>
    s!"Foreign key \"{column}\" in table \"{table}\" references " ++
      s!"non-existent column \"{targetColumn}\" in table \"{target}\""
  | typeMismatch column table type targetType =>
    s!"Foreign key \"{column}\" in table \"{table}\" has type \"{type.name}\" " ++
      s!"which is incompatible with referenced column type \"{targetType.name}\""
  | danglingEdge edge id => s!"Relationship \"{edge}\" refers to unknown table id \"{id}\""

def ruleProblems (s : Schema) (r : Rule) : Except CheckError (List Problem) := do
  let found ← (s.tables.filter r.appliesTo).mapM fun t => do
    let passes ← Check.evaluate t r.check
    return if passes then [] else [Problem.ruleFailed t.name r.name r.check]
  return found.flatten

def hasRepeats (names : List String) : Bool := names.eraseDups.length < names.length

def keyProblem? (s : Schema) (t : Table) (c : Column) : Option Problem := do
  let r ← c.references
  match s.table? r.table with
  | none => some (.missingTable c.name t.name r.table)
  | some target =>
    match target.column? r.column with
    | none => some (.missingColumn c.name t.name target.name r.column)
    | some key =>
      if c.type = key.type then none else some (.typeMismatch c.name t.name c.type key.type)

def tableProblems (s : Schema) (t : Table) : List Problem :=
  (if hasRepeats (t.columns.map fun c => Text.lower c.name) then [.repeatedColumns t.name]
    else []) ++
    (if t.primaryKey.isEmpty then [.noPrimaryKey t.name] else []) ++
    t.columns.filterMap (keyProblem? s t)

def edgeProblems (s : Schema) (e : Edge) : List Problem :=
  [e.source, e.target].filterMap fun id =>
    if (s.tableById? id).isNone then some (.danglingEdge e.id id) else none

def structuralProblems (s : Schema) : List Problem :=
  s.tables.flatMap (tableProblems s) ++ s.edges.flatMap (edgeProblems s)

/-- All problems of a schema. A rule that is wrong in itself is an error once it meets a table. -/
def problems (s : Schema) (rules : List Rule) : Except CheckError (List Problem) := do
  let found ← rules.mapM (ruleProblems s)
  return found.flatten ++ structuralProblems s

def notice (s : Schema) (found : List Problem) : Notice :=
  .validated s.tables.length found.length

end RelSchema.Validation
