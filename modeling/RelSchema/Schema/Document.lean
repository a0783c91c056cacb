import RelSchema.Json.Basic
import RelSchema.Json.Reader
import RelSchema.Schema.Basic
import RelSchema.Text.Quoted

namespace RelSchema

inductive Vocabulary where
  | columnType | constraintKind | cardinality
  deriving DecidableEq, Repr

def Vocabulary.title : Vocabulary → String
  | columnType => "ColumnType"
  | constraintKind => "ConstraintKind"
  | cardinality => "RelationshipType"

inductive DocumentError where
  | missingKey (key : String)
  | notAMember (vocabulary : Vocabulary) (word : String)
  | unexpectedReferenceKey (key : String)
  | missingReferenceKeys (keys : List String)
  | noFields (kind : String)
  /-- A value of another kind than that of its field. Schemas hold no such values, so nothing more is
  told about a document with one. -/
  | wrongKind
  deriving DecidableEq, Repr

def DocumentError.message : DocumentError → String
  | missingKey key => Text.quoted key
  | notAMember vocabulary word => s!"{Text.quoted word} is not a valid {vocabulary.title}"
  | unexpectedReferenceKey key =>
    s!"ForeignKeyReference.__init__() got an unexpected keyword argument '{key}'"
  | missingReferenceKeys keys =>
    s!"ForeignKeyReference.__init__() missing {keys.length} required positional " ++
      (if keys.length = 1 then "argument: " else "arguments: ") ++
      " and ".intercalate (keys.map Text.quoted)
  | noFields kind => s!"'{kind}' object has no attribute 'get'"
  | wrongKind => "a value is of the wrong kind"

namespace Document

abbrev Members := List (String × Json)

def object : Json → Except DocumentError Members
  | .object members => .ok members
  | _ => .error .wrongKind

def kindName : Json → String
  | .null => "NoneType"
  | .bool _ => "bool"
  | .int _ => "int"
  | .decimal _ | .nan | .infinite _ => "float"
  | .string _ => "str"
  | .array _ => "list"
  | .object _ => "dict"

def fields : Json → Except DocumentError Members
  | .object members => .ok members
  | value => .error (.noFields (kindName value))

def text : Json → Except DocumentError String
  | .string s => .ok s
  | _ => .error .wrongKind

def flag : Json → Except DocumentError Bool
  | .bool b => .ok b
  | _ => .error .wrongKind

def items (read : Json → Except DocumentError α) : Json → Except DocumentError (List α)
  | .array values => values.mapM read
  | _ => .error .wrongKind

def orNull (read : Json → Except DocumentError α) : Json → Except DocumentError (Option α)
  | .null => .ok none
  | value => (read value).map some

def whole : Json → Except DocumentError Int
  | .int n => .ok n
  | _ => .error .wrongKind

def member (vocabulary : Vocabulary) (ofName? : String → Option α) (value : Json) :
    Except DocumentError α := do
  let word ← text value
  match ofName? word with
  | some a => .ok a
  | none => .error (.notAMember vocabulary word)

def required (members : Members) (key : String) (read : Json → Except DocumentError α) :
    Except DocumentError α :=
  match Json.lookup members key with
  | some value => read value
  | none => .error (.missingKey key)

def optional (members : Members) (key : String) (absent : α)
    (read : Json → Except DocumentError α) : Except DocumentError α :=
  match Json.lookup members key with
  | some value => read value
  | none => .ok absent

/-- Null and the empty object stand for no reference; any other has exactly two keys. -/
def reference (value : Json) : Except DocumentError (Option Reference) := do
  match value with
  | .null => .ok none
  | value =>
    let members ← object value
    if members.isEmpty then .ok none
    else
      let keys := ["table", "column"]
      match members.find? fun (key, _) => !keys.contains key with
      | some (key, _) => .error (.unexpectedReferenceKey key)
      | none =>
        match Json.lookup members "table", Json.lookup members "column" with
        | some table, some column =>
          .ok (some { table := ← text table, column := ← text column })
        | _, _ =>
          .error (.missingReferenceKeys (keys.filter fun k => (Json.lookup members k).isNone))

def columnConstraint (value : Json) : Except DocumentError ColumnConstraint := do
  let members ← object value
  let kind ← required members "kind" (member .constraintKind ConstraintKind.ofName?)
  let expression ← optional members "expression" none (orNull text)
  let value ← optional members "value" none (orNull text)
  .ok { kind, expression, value }

/-- Null and the empty word stand for no element type. -/
def elementType (value : Json) : Except DocumentError (Option ColumnType) :=
  match value with
  | .null => .ok none
  | .string "" => .ok none
  | value => (member .columnType ColumnType.ofName? value).map some

def column (value : Json) : Except DocumentError Column := do
  let members ← fields value
  let name ← required members "name" text
  let type ← optional members "type" .varchar (member .columnType ColumnType.ofName?)
  let id ← optional members "id" "" text
  let length ← optional members "length" none (orNull whole)
  let scale ← optional members "scale" none (orNull whole)
  let nullable ← optional members "nullable" true flag
  let primaryKey ← optional members "primary_key" false flag
  let unique ← optional members "unique" false flag
  let references ← optional members "references" none reference
  let constraints ← optional members "constraints" [] (items columnConstraint)
  let values ← optional members "values" [] (items text)
  let elementType ← optional members "element_type" none elementType
  .ok { name, type, id, length, scale, nullable, primaryKey, unique, references, constraints,
        values, elementType }

def table (value : Json) : Except DocumentError Table := do
  let members ← object value
  let name ← required members "name" text
  let id ← optional members "id" "" text
  let columns ← optional members "columns" [] (items column)
  .ok { name, columns, id }

def edge (value : Json) : Except DocumentError Edge := do
  let members ← object value
  let id ← required members "id" text
  let source ← required members "source" text
  let target ← required members "target" text
  let cardinality ← optional members "relationship_type" .oneToMany
    (member .cardinality Cardinality.ofName?)
  let sourceColumn ← optional members "source_column" none (orNull text)
  let targetColumn ← optional members "target_column" none (orNull text)
  .ok { id, source, target, cardinality, sourceColumn, targetColumn }

def schema (value : Json) : Except DocumentError Schema := do
  let members ← fields value
  let tables ← optional members "tables" [] (items table)
  let edges ← optional members "edges" [] (items edge)
  let dialect ← optional members "dialect" "mysql" text
  .ok { tables, edges, dialect }

end Document

def Reference.toJson (r : Reference) : Json :=
  .object [("table", .string r.table), ("column", .string r.column)]

def ColumnConstraint.toJson (c : ColumnConstraint) : Json :=
  .object
    [("kind", .string c.kind.name),
     ("expression", .ofOption .string c.expression),
     ("value", .ofOption .string c.value)]

def Column.toJson (c : Column) : Json :=
  .object
    [("name", .string c.name),
     ("type", .string c.type.name),
     ("id", .string c.id),
     ("length", .ofOption .int c.length),
     ("scale", .ofOption .int c.scale),
     ("nullable", .bool c.nullable),
     ("primary_key", .bool c.primaryKey),
     ("unique", .bool c.unique),
     ("references", .ofOption Reference.toJson c.references),
     ("constraints", .array (c.constraints.map ColumnConstraint.toJson)),
     ("values", .strings c.values),
     ("element_type", .ofOption (fun t => .string t.name) c.elementType)]

def Table.toJson (t : Table) : Json :=
  .object
    [("name", .string t.name),
     ("columns", .array (t.columns.map Column.toJson)),
     ("id", .string t.id)]

def Edge.toJson (e : Edge) : Json :=
  .object
    [("id", .string e.id),
     ("source", .string e.source),
     ("target", .string e.target),
     ("relationship_type", .string e.cardinality.name),
     ("source_column", .ofOption .string e.sourceColumn),
     ("target_column", .ofOption .string e.targetColumn)]

def Schema.toJson (s : Schema) : Json :=
  .object
    [("tables", .array (s.tables.map Table.toJson)),
     ("edges", .array (s.edges.map Edge.toJson)),
     ("dialect", .string s.dialect)]

def Schema.ofJson (value : Json) : Except DocumentError Schema := Document.schema value

def Schema.toDocument (s : Schema) : Except Json.WriteError Json :=
  (s.toJson.write .line).map fun _ => s.toJson

def Schema.toText (style : Json.Style) (s : Schema) : Except Json.WriteError String := do
  (← s.toDocument).write style

inductive LoadError where
  | malformed (error : Json.SyntaxError)
  | document (error : DocumentError)
  deriving DecidableEq, Repr

def LoadError.message (source : String) : LoadError → String
  | malformed error => error.message source
  | document error => error.message

def Schema.ofText (source : String) : Except LoadError Schema :=
  match Json.read source with
  | .error error => .error (.malformed error)
  | .ok value => (Schema.ofJson value).mapError .document

end RelSchema
