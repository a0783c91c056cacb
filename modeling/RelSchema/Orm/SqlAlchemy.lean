import RelSchema.Orm.Relation
import RelSchema.Sql.TypeText
import RelSchema.Orm.Script

namespace RelSchema.Orm.SqlAlchemy

def reservedWords : List String :=
  ["False", "None", "True", "and", "as", "assert", "async", "await", "break", "class", "continue",
   "def", "del", "elif", "else", "except", "finally", "for", "from", "global", "if", "import", "in",
   "is", "lambda", "nonlocal", "not", "or", "pass", "raise", "return", "try", "while", "with",
   "yield"]

/-- A name made fit for an attribute: other characters become underscores, an underscore stands
before a digit at the start and after a reserved word. -/
def attributeName (name : String) : String :=
  let spelled := name.toList.map fun c => if Text.isWordChar c then c else '_'
  let started := match spelled with
    | [] => ['_']
    | c :: _ => if Text.isDigit c then '_' :: spelled else spelled
  let word := String.ofList started
  if reservedWords.contains word then word ++ "_" else word

inductive DataType where
  | named (name : String)
  | string (length : Int)
  | numeric (arguments : String)
  | enum (values : List String) (name : String)
  | array (element : DataType)
  deriving DecidableEq, Repr

namespace DataType

def ofScalar (table : String) (c : Column) : DataType :=
  match c.type with
  | .int => named "Integer"
  | .varchar => string (Sql.varcharLength c.length)
  | .text => named "Text"
  | .boolean => named "Boolean"
  | .date => named "Date"
  | .timestamp => named "DateTime"
  | .float => named "Float"
  | .double => named "Double"
  | .decimal =>
    match Sql.decimalArguments? ", " c with
    | some arguments => numeric arguments
    | none => named "Numeric"
  | .json => named "JSON"
  | .uuid => named "Uuid"
  | .enum =>
    if c.values.isEmpty then string Sql.defaultVarcharLength
    else enum c.values (Sql.enumTypeName table c.name)
  | .array => named "ARRAY"

def ofColumn (table : String) (c : Column) : DataType :=
  if c.type = .array then array (ofScalar table { name := c.name, type := Sql.elementOf c })
  else ofScalar table c

def imports : DataType → List String
  | named name => [name]
  | string _ => ["String"]
  | numeric _ => ["Numeric"]
  | enum .. => ["Enum"]
  | array element => "ARRAY" :: element.imports

def text : DataType → String
  | named name => name
  | string length => s!"String({length})"
  | numeric arguments => s!"Numeric({arguments})"
  | enum values name =>
    s!"Enum({Text.commas (values.map Text.quoted)}, name={Text.quoted name})"
  | array element => s!"ARRAY({element.text})"

end DataType

structure Attribute where
  name : String
  column : String
  type : DataType
  target : Option Reference
  isPrimaryKey : Bool
  isRequired : Bool
  isUnique : Bool
  default : Option String
  deriving DecidableEq, Repr

namespace Attribute

def ofColumn (table : String) (c : Column) : Attribute where
  name := attributeName c.name
  column := c.name
  type := .ofColumn table c
  target := c.references
  isPrimaryKey := c.primaryKey
  isRequired := !c.primaryKey && !c.nullable
  isUnique := c.unique
  default := c.default?

def imports (a : Attribute) : List String :=
  a.type.imports ++ (if a.target.isSome then ["ForeignKey"] else []) ++
    (if a.default.isSome then ["text"] else [])

def arguments (a : Attribute) : List String :=
  (if a.name = a.column then [] else [Text.quoted a.column]) ++ [a.type.text] ++
    (match a.target with
      | some target => [s!"ForeignKey({Text.quoted target.path})"]
      | none => []) ++
    (if a.isPrimaryKey then ["primary_key=True"] else []) ++
    (if a.isRequired then ["nullable=False"] else []) ++
    (if a.isUnique then ["unique=True"] else []) ++
    match a.default with
    | some sql => [s!"server_default=text({Text.quoted sql})"]
    | none => []

def line (a : Attribute) : String := s!"    {a.name} = Column({Text.commas a.arguments})"

end Attribute

structure Relationship where
  name : String
  target : String
  foreignKeys : String
  remoteSide : Option String
  backPopulates : String
  isSingle : Bool
  deriving DecidableEq, Repr

namespace Relationship

def ofChild (r : Relation) : Relationship where
  name := attributeName r.name
  target := modelName r.parent.item.name
  foreignKeys := Text.bracketed (attributeName r.column.item.name)
  remoteSide := if r.isSelf then some (Text.bracketed (attributeName r.parentColumn)) else none
  backPopulates := r.reverseName
  isSingle := false

def ofParent (r : Relation) : Relationship where
  name := attributeName r.reverseName
  target := modelName r.child.item.name
  foreignKeys :=
    Text.quoted (modelName r.child.item.name ++ "." ++ attributeName r.column.item.name)
  remoteSide := none
  backPopulates := r.name
  isSingle := r.isOneToOne

def arguments (r : Relationship) : List String :=
  [Text.quoted r.target, s!"foreign_keys={r.foreignKeys}"] ++
    (match r.remoteSide with
      | some side => [s!"remote_side={side}"]
      | none => []) ++
    [s!"back_populates={Text.quoted r.backPopulates}"] ++
    (if r.isSingle then ["uselist=False"] else [])

def line (r : Relationship) : String :=
  s!"    {r.name} = relationship({Text.commas r.arguments})"

end Relationship

structure Class where
  name : String
  table : String
  attributes : List Attribute
  relationships : List Relationship
  deriving DecidableEq, Repr

namespace Class

def endsAt (relations : List Relation) (place : Nat) : List Relationship :=
  relations.flatMap fun r =>
    (if r.child.place = place then [.ofChild r] else []) ++
      (if r.parent.place = place then [.ofParent r] else [])

def ofTable (relations : List Relation) (t : Placed Table) : Class where
  name := modelName t.item.name
  table := t.item.name
  attributes := t.item.columns.map (.ofColumn t.item.name)
  relationships := endsAt relations t.place

def text (c : Class) : String :=
  Text.lines <|
    [s!"class {c.name}(Base):", s!"    __tablename__ = {Text.quoted c.table}", ""] ++
    c.attributes.map Attribute.line ++
    if c.relationships.isEmpty then [] else "" :: c.relationships.map Relationship.line

end Class

def classes (s : Schema) : List Class :=
  (placed s.tables).map (.ofTable (relations s))

def sortedNames (names : List String) : List String :=
  names.eraseDups.mergeSort fun a b => decide (a ≤ b)

def importedTypes (classes : List Class) : List String :=
  sortedNames ("Column" :: classes.flatMap fun c => c.attributes.flatMap Attribute.imports)

def header (classes : List Class) : String :=
  let helpers :=
    if classes.any (!·.relationships.isEmpty) then "declarative_base, relationship"
    else "declarative_base"
  Text.lines
    [s!"from sqlalchemy import {Text.commas (importedTypes classes)}",
     s!"from sqlalchemy.orm import {helpers}", "", "Base = declarative_base()"]

def generate (s : Schema) : String :=
  "\n\n\n".intercalate (header (classes s) :: (classes s).map Class.text) ++ "\n"

end RelSchema.Orm.SqlAlchemy
