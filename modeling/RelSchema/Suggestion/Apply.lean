import RelSchema.Notice
import RelSchema.Schema.Naming
import RelSchema.Suggestion.Naming

namespace RelSchema.Suggestion

/-- The first id of a kind that is free, counting from one past the number of ids taken. -/
def freshId (kind : String) (taken : List String) : String :=
  let start := taken.eraseDups.length + 1
  let candidates := (List.range (taken.length + 1)).map fun i => s!"{kind}-{start + i}"
  (candidates.find? (!taken.contains ·)).getD ""

def columnIds (s : Schema) : List String := s.tables.flatMap fun t => t.columns.map (·.id)

/-- The column that a foreign key to a table refers to: the one asked for, the first of the primary
key, or the one called `id`. -/
def referencedKey (t : Table) (asked : Option String) : Column :=
  let found := asked.bind fun name => if name.isEmpty then none else t.column? name
  (found.orElse fun _ => t.primaryKey.head?.orElse fun _ => t.column? "id").getD { name := "id" }

structure Link where
  cardinality : Cardinality := .oneToMany
  sourceColumn : Option String := none
  targetColumn : Option String := none
  primaryKey : Bool := false

def keyColumnName (source : Table) (key : Column) (asked : Option String) : String :=
  match asked.filter (!·.isEmpty) with
  | some name => name
  | none => s!"{Text.lower (singularize source.name)}_{key.name}"

def newColumn (s : Schema) (name : String) (key : Column) (primaryKey : Bool) : Column :=
  { name, type := key.type, id := freshId "column" (columnIds s), length := key.length,
    scale := key.scale, nullable := !primaryKey, primaryKey }

def setReference (name : String) (r : Reference) : List Column → List Column
  | [] => []
  | c :: rest =>
    if Text.sameName c.name name then { c with references := some r } :: rest
    else c :: setReference name r rest

def linkedColumns (s : Schema) (target : Table) (name : String) (key : Column) (r : Reference)
    (primaryKey : Bool) : List Column :=
  match target.column? name with
  | none => target.columns ++ [{ newColumn s name key primaryKey with references := some r }]
  | some _ => setReference name r target.columns

/-- Adds a foreign key from the table at a place to another, unless the column is one already. -/
def addForeignKey (s : Schema) (source : Table) (place : Nat) (link : Link) :
    Schema × List Notice :=
  match s.tables[place]? with
  | none => (s, [])
  | some target =>
    let key := referencedKey source link.sourceColumn
    let name := keyColumnName source key link.targetColumn
    let found := target.column? name
    match found.filter (·.isForeignKey) with
    | some c => (s, [.alreadyForeignKey target.name c.name])
    | none =>
      let columns := linkedColumns s target name key ⟨source.name, key.name⟩ link.primaryKey
      let edge : Edge :=
        { id := freshId "edge" (s.edges.map (·.id)), source := source.id, target := target.id,
          cardinality := link.cardinality, sourceColumn := some key.name,
          targetColumn := some ((found.map (·.name)).getD name) }
      ({ s with
          tables := s.tables.set place { target with columns }
          edges := s.edges ++ [edge] }, [])

def joinTableName (a b : Table) : String := s!"{singularize a.name}_{b.name}"

def addJoinTable (s : Schema) (a b : Table) : Schema × List Notice :=
  let name := joinTableName a b
  match s.table? name with
  | some _ => (s, [.joinTableExists name])
  | none =>
    let place := s.tables.length
    let table : Table := { name, id := freshId "table" (s.tables.map (·.id)) }
    let s := { s with tables := s.tables ++ [table] }
    let (s, first) := addForeignKey s a place { primaryKey := true }
    let (s, second) := addForeignKey s b place { primaryKey := true }
    (s, first ++ second)

def placeOf? (s : Schema) (name : String) : Option Nat :=
  s.tables.findIdx? fun t => Text.sameName t.name name

def applyTo (suggestion : Suggestion) (s : Schema) : Schema × List Notice :=
  match s.table? suggestion.source, s.table? suggestion.target,
      placeOf? s suggestion.target with
  | some source, some target, some place =>
    if suggestion.cardinality = .manyToMany then addJoinTable s source target
    else addForeignKey s source place
      { cardinality := suggestion.cardinality, sourceColumn := suggestion.sourceColumn,
        targetColumn := suggestion.targetColumn }
  | _, _, _ =>
    (s, [.unknownTables suggestion.id suggestion.source suggestion.target])

end RelSchema.Suggestion
