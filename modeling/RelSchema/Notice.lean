import RelSchema.Dialect
import RelSchema.Text.Quoted

namespace RelSchema

inductive Notice where
  | ignoredStatement (statement : String)
  | unreadItem (table item : String)
  | unknownType (name : String)
  | repeatedTable (name : String)
  | repeatedColumn (table column : String)
  | primaryKeyUnknown (table column : String)
  | foreignKeyUnknown (table column : String)
  | checkUnplaced (table expression : String)
  | parsed (tables relationships : Nat)
  | reservedName (name : String) (dialect : Dialect)
  | typeUnavailable (type : ColumnType) (dialect : Dialect)
  | notTokenized
  | namingSuggestions (count : Nat)
  | structuralSuggestions (count : Nat)
  | unknownTables (suggestion source target : String)
  | alreadyForeignKey (table column : String)
  | joinTableExists (name : String)
  | unknownDirection (direction : String)
  | unreachable (count : Nat)
  | validated (tables errors : Nat)
  | reviewed (count : Nat)
  | modelsGenerated (target : String) (tables relations : Nat)
  | parentMissing (parent child column : String)
  | defaultDropped (value column : String)
  deriving DecidableEq, Repr

namespace Notice

def isWarning : Notice → Bool
  | reservedName .. | unknownTables .. | unknownDirection .. => true
  | _ => false

def origin : Notice → String
  | ignoredStatement .. | unreadItem .. | unknownType .. | repeatedTable .. | repeatedColumn ..
  | primaryKeyUnknown .. | foreignKeyUnknown .. | checkUnplaced .. | parsed .. =>
    "erd_engine.parsers.ddl"
  | reservedName .. | typeUnavailable .. | notTokenized => "erd_engine.generators.sql"
  | namingSuggestions .. | structuralSuggestions .. | unknownTables .. | alreadyForeignKey ..
  | joinTableExists .. => "erd_engine.inference"
  | unknownDirection .. | unreachable .. => "erd_engine.layout.networkx_layout"
  | validated .. => "erd_engine.validation"
  | reviewed .. => "erd_engine.analysis"
  | modelsGenerated .. | parentMissing .. | defaultDropped .. => "erd_engine.generators.orm"

/-- Quotations from the input are cut after sixty characters. -/
def excerpt (s : String) : String := String.ofList (s.toList.take 60)

def text : Notice → String
  | ignoredStatement statement => s!"Ignoring statement: {excerpt statement}"
  | unreadItem table item => s!"Skipping unparseable item in {table}: {excerpt item}"
  | unknownType name => s!"Unknown column type {name}, using VARCHAR"
  | repeatedTable name => s!"Skipping duplicate definition of table {name}"
  | repeatedColumn table column => s!"Skipping duplicate column {table}.{column}"
  | primaryKeyUnknown table column => s!"PRIMARY KEY names unknown column {table}.{column}"
  | foreignKeyUnknown table column => s!"FOREIGN KEY names unknown column {table}.{column}"
  | checkUnplaced table expression =>
    s!"CHECK ({expression}) on {table} names no known column"
  | parsed tables relationships =>
    s!"Parsed {tables} tables and {relationships} relationships"
  | reservedName name dialect =>
    s!"Identifier {Text.quoted name} is reserved or too long for {dialect.title}; " ++
      "it will be quoted"
  | typeUnavailable type dialect =>
    s!"Type {type.name} is not available in {dialect.title}, using {dialect.stringType}"
  | notTokenized => "Could not tokenize SQL for display; returning it unannotated"
  | namingSuggestions count => s!"Naming-pattern pass produced {count} suggestions"
  | structuralSuggestions count => s!"Structural pass produced {count} suggestions"
  | unknownTables suggestion source target =>
    s!"Cannot apply suggestion {suggestion}: unknown table {source} or {target}"
  | alreadyForeignKey table column => s!"{table}.{column} is already a foreign key"
  | joinTableExists name => s!"Join table {name} already exists"
  | unknownDirection direction =>
    s!"Unknown layout direction {Text.quoted direction}, using TB"
  | unreachable count => s!"{count} tables unreachable from roots, starting new group"
  | validated tables errors => s!"Validated {tables} tables: {errors} errors"
  | reviewed count => s!"Schema analysis produced {count} suggestions"
  | modelsGenerated target tables relations =>
    s!"Generating {target} models for {tables} tables and {relations} relations"
  | parentMissing parent child column => s!"No table {parent} for {child}.{column}"
  | defaultDropped value column => s!"Dropping SQL default {value} of {column}"

def line (n : Notice) : String :=
  (if n.isWarning then "WARNING " else "DEBUG ") ++ s!"{n.origin}: {n.text}"

end Notice

def warnings (notices : List Notice) : List String :=
  (notices.filter (·.isWarning)).map (·.text)

structure Remarked (ε α : Type) where
  notices : List Notice
  result : Except ε α

namespace Remarked

variable {ε α β : Type}

def ok (a : α) : Remarked ε α := ⟨[], .ok a⟩

def error (e : ε) : Remarked ε α := ⟨[], .error e⟩

def note (n : Notice) : Remarked ε Unit := ⟨[n], .ok ()⟩

def andThen (r : Remarked ε α) (f : α → Remarked ε β) : Remarked ε β :=
  match r.result with
  | .ok a => ⟨r.notices ++ (f a).notices, (f a).result⟩
  | .error e => ⟨r.notices, .error e⟩

instance : Monad (Remarked ε) where
  pure := ok
  bind := andThen

@[simp] theorem result_pure (a : α) : (pure a : Remarked ε α).result = .ok a := rfl

@[simp] theorem result_note (n : Notice) : (note n : Remarked ε Unit).result = .ok () := rfl

@[simp] theorem result_error (e : ε) : (error e : Remarked ε α).result = .error e := rfl

@[simp] theorem result_bind (r : Remarked ε α) (f : α → Remarked ε β) :
    (r >>= f).result = r.result >>= fun a => (f a).result := by
  show (andThen r f).result = _
  unfold andThen
  cases h : r.result <;> rfl

@[simp] theorem result_map (f : α → β) (r : Remarked ε α) :
    (f <$> r).result = f <$> r.result := by
  show (r >>= fun a => pure (f a)).result = _
  rw [result_bind]
  cases r.result <;> rfl

theorem result_bind_ok {r : Remarked ε α} {f : α → Remarked ε β} {b : β} :
    (r >>= f).result = .ok b ↔ ∃ a, r.result = .ok a ∧ (f a).result = .ok b := by
  rw [result_bind]
  cases r.result <;> simp [bind, Except.bind]

end Remarked

end RelSchema
