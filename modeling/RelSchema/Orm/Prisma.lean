import RelSchema.Orm.Script
import RelSchema.Orm.SqlAlchemy

namespace RelSchema.Orm.Prisma

def isAsciiWord (c : Char) : Bool := c.isAlphanum || c == '_'

/-- Whether a text is a name: ASCII letters, digits and underscores, a letter first. A line break
may follow it. -/
def isName (s : String) : Bool :=
  let chars := s.toList
  let chars := if chars.getLast? = some '\n' then chars.dropLast else chars
  match chars with
  | [] => false
  | c :: rest => c.isAlpha && rest.all isAsciiWord

def fieldName (column : String) : String :=
  if isName column then column
  else
    let name := String.ofList ((SqlAlchemy.attributeName column).toList.dropWhile (· == '_'))
    if name = "" then "field" else name

def typeName : ColumnType → String
  | .int => "Int"
  | .boolean => "Boolean"
  | .date | .timestamp => "DateTime"
  | .float | .double => "Float"
  | .decimal => "Decimal"
  | .json => "Json"
  | .varchar | .text | .uuid | .enum | .array => "String"

structure Joint where
  fields : List String
  references : List String
  deriving DecidableEq, Repr

inductive FieldAttribute where
  | id
  | unique
  | default (value : String)
  | map (column : String)
  | relation (name : Option String) (joint : Option Joint)
  deriving DecidableEq, Repr

namespace FieldAttribute

def text : FieldAttribute → String
  | id => "@id"
  | unique => "@unique"
  | default value => s!"@default({value})"
  | map column => s!"@map({Json.quote column})"
  | relation name joint =>
    let joined := match joint with
      | some j =>
        [s!"fields: {Text.bracketed (Text.commas j.fields)}",
         s!"references: {Text.bracketed (Text.commas j.references)}"]
      | none => []
    s!"@relation({Text.commas (name.toList.map Json.quote ++ joined)})"

end FieldAttribute

structure Field where
  name : String
  type : String
  attributes : List FieldAttribute
  deriving DecidableEq, Repr

structure Enumeration where
  name : String
  members : List String
  deriving DecidableEq, Repr

structure Model where
  name : String
  fields : List Field
  compositeKey : List String
  table : String
  deriving DecidableEq, Repr

def enumName? (table : String) (c : Column) : Option String :=
  if c.type = .enum ∧ c.values ≠ [] ∧ c.values.all isName then
    some (modelName table ++ pascalCase c.name)
  else none

def defaultText (c : Column) (hasEnum : Bool) (value : DefaultValue) : String :=
  match value with
  | .text s => if hasEnum && c.values.contains s then s else Json.quote s
  | .expression sql => s!"dbgenerated({Json.quote sql})"
  | .boolean b => if b then "true" else "false"
  | .number digits => digits
  | .now => "now()"

def columnType (table : String) (c : Column) : String :=
  if c.type = .array then typeName (Sql.elementOf c) ++ "[]"
  else
    (enumName? table c).getD (typeName c.type) ++
      if c.nullable && !c.primaryKey then "?" else ""

def columnField (t : Table) (c : Column) : Field where
  name := fieldName c.name
  type := columnType t.name c
  attributes :=
    (if c.primaryKey && t.primaryKey.length == 1 then [.id] else []) ++
    (if c.unique then [.unique] else []) ++
    ((DefaultValue.ofColumn? c).map fun value =>
      .default (defaultText c (enumName? t.name c).isSome value)).toList ++
    if isName c.name then [] else [.map c.name]

def isParallel (a b : Relation) : Bool :=
  a.child.place == b.child.place && a.parent.place == b.parent.place

/-- The name of a relation. Only relations of a model to itself and relations that are not alone
between their models have one. -/
def relationName? (relations : List Relation) (r : Relation) : Option String :=
  if r.isSelf || 1 < (relations.filter (isParallel r)).length then
    some (modelName r.child.item.name ++ "_" ++ r.name)
  else none

def childField (relations : List Relation) (r : Relation) : Field where
  name := r.name
  type := modelName r.parent.item.name ++ if r.column.item.nullable then "?" else ""
  attributes :=
    [.relation (relationName? relations r)
      (some { fields := [r.column.item.name], references := [r.parentColumn] })]

def parentField (relations : List Relation) (r : Relation) : Field where
  name := r.reverseName
  type := modelName r.child.item.name ++ if r.isOneToOne then "?" else "[]"
  attributes :=
    (relationName? relations r).toList.map fun name => .relation (some name) none

def relationFields (relations : List Relation) (place : Nat) : List Field :=
  relations.flatMap fun r =>
    (if r.child.place = place then [childField relations r] else []) ++
      (if r.parent.place = place then [parentField relations r] else [])

def model (relations : List Relation) (t : Placed Table) : Model where
  name := modelName t.item.name
  fields := t.item.columns.map (columnField t.item) ++ relationFields relations t.place
  compositeKey :=
    if t.item.primaryKey.length > 1 then t.item.primaryKey.map (·.name) else []
  table := t.item.name

def enumeration? (table : String) (c : Column) : Option Enumeration :=
  (enumName? table c).map fun name => { name, members := c.values }

def models (s : Schema) : List Model := (placed s.tables).map (model (relations s))

def enumerations (s : Schema) : List Enumeration :=
  s.tables.flatMap fun t => t.columns.filterMap (enumeration? t.name)

def padded (width : Nat) (s : String) : String :=
  s ++ String.ofList (List.replicate (width - s.length) ' ')

def widest (texts : List String) : Nat := (texts.map String.length).foldl max 0

def Field.line (nameWidth typeWidth : Nat) (f : Field) : String :=
  let attributes := " ".intercalate (f.attributes.map FieldAttribute.text)
  let line := s!"  {padded nameWidth f.name} {padded typeWidth f.type} {attributes}"
  String.ofList (Text.trimRight line.toList)

def Enumeration.text (e : Enumeration) : String :=
  s!"enum {e.name} " ++
    Text.braced ("\n" ++ Text.lines (e.members.map ("  " ++ ·)) ++ "\n")

def Model.blockAttributes (m : Model) : List String :=
  (if m.compositeKey.isEmpty then []
    else [s!"  @@id({Text.bracketed (Text.commas m.compositeKey)})"]) ++
  if m.name = m.table then [] else [s!"  @@map({Json.quote m.table})"]

def Model.text (m : Model) : String :=
  let nameWidth := widest (m.fields.map (·.name))
  let typeWidth := widest (m.fields.map (·.type))
  let attributes := m.blockAttributes
  Text.lines <|
    [s!"model {m.name} \x7b"] ++ m.fields.map (Field.line nameWidth typeWidth) ++
    (if attributes.isEmpty then [] else "" :: attributes) ++ ["\x7d"]

def provider (dialect : String) : String :=
  if ["mysql", "postgresql", "sqlserver", "sqlite"].contains dialect then dialect else "postgresql"

def client : String :=
  "generator client " ++ Text.braced "\n  provider = \"prisma-client-js\"\n"

def datasource (dialect : String) : String :=
  "datasource db " ++
    Text.braced s!"\n  provider = \"{provider dialect}\"\n  url      = env(\"DATABASE_URL\")\n"

def generate (s : Schema) : String :=
  Text.paragraphs
    ([client, datasource s.dialect] ++ (models s).map Model.text ++
      (enumerations s).map Enumeration.text) ++ "\n"

end RelSchema.Orm.Prisma
