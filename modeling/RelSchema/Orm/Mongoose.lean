import RelSchema.Orm.Script
import RelSchema.Orm.Relation
import RelSchema.Sql.TypeText

namespace RelSchema.Orm.Mongoose

def typeName : ColumnType → String
  | .int | .float | .double => "Number"
  | .varchar | .text | .uuid | .enum | .array => "String"
  | .boolean => "Boolean"
  | .date | .timestamp => "Date"
  | .decimal => "Schema.Types.Decimal128"
  | .json => "Schema.Types.Mixed"

structure Path where
  key : String
  options : List String
  deriving DecidableEq, Repr

namespace Path

def lengthOption (c : Column) : List String :=
  match c.type, c.length with
  | .varchar, some n => if n = 0 then [] else [s!"maxLength: {n}"]
  | _, _ => []

def typeOptions (relation : Option Relation) (c : Column) : List String :=
  match relation with
  | some r =>
    ["type: Schema.Types.ObjectId", s!"ref: {Json.quote (modelName r.parent.item.name)}"]
  | none =>
    if c.type = .array then [s!"type: {Text.bracketed (typeName (Sql.elementOf c))}"]
    else
      [s!"type: {typeName c.type}"] ++ lengthOption c ++
        if c.type = .enum ∧ c.values ≠ [] then
          [s!"enum: {Text.bracketed (Script.quotedList c.values)}"]
        else []

/-- The default of a column; one given by an expression cannot be expressed. -/
def default? (c : Column) : Option String :=
  (DefaultValue.ofColumn? c).bind (·.script "Date.now" fun _ => none)

def ofColumn (relation : Option Relation) (c : Column) : Path where
  key := Script.key c.name
  options :=
    typeOptions relation c ++ (if c.nullable then [] else ["required: true"]) ++
      (if c.unique then ["unique: true"] else []) ++
      ((default? c).map fun value => s!"default: {value}").toList

def line (p : Path) : String := s!"  {p.key}: {Script.object p.options},"

def notices (c : Column) : List Notice :=
  match c.default?, default? c with
  | some value, none => [.defaultDropped value c.name]
  | _, _ => []

end Path

structure Model where
  name : String
  paths : List Path
  collection : String
  deriving DecidableEq, Repr

namespace Model

def relationAt? (relations : List Relation) (table column : Nat) : Option Relation :=
  relations.find? fun r => r.child.place == table && r.column.place == column

def ofTable (relations : List Relation) (t : Placed Table) : Model where
  name := modelName t.item.name
  paths := (placed t.item.columns).map fun c =>
    .ofColumn (relationAt? relations t.place c.place) c.item
  collection := t.item.name

def schemaVariable (m : Model) : String := camelCase m.name ++ "Schema"

def text (m : Model) : String :=
  let body := "\n" ++ Text.lines (m.paths.map Path.line) ++ "\n"
  let options := Script.object [s!"collection: {Json.quote m.collection}"]
  s!"const {m.schemaVariable} = new Schema({Text.braced body}, {options});\n\n" ++
    s!"const {m.name} = mongoose.model({Json.quote m.name}, {m.schemaVariable});"

end Model

def models (s : Schema) : List Model := (placed s.tables).map (.ofTable (relations s))

def header : String :=
  "const mongoose = require(\"mongoose\");\nconst \x7b Schema \x7d = mongoose;"

def footer (models : List Model) : String :=
  s!"module.exports = {Script.object (models.map (·.name))};"

def generate (s : Schema) : String :=
  Text.paragraphs (header :: (models s).map Model.text ++ [footer (models s)]) ++ "\n"

def notices (s : Schema) : List Notice :=
  s.tables.flatMap fun t => t.columns.flatMap Path.notices

end RelSchema.Orm.Mongoose
