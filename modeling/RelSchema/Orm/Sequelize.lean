import RelSchema.Orm.Script
import RelSchema.Orm.Relation
import RelSchema.Sql.TypeText

namespace RelSchema.Orm.Sequelize

def string (length : Int) : String := s!"DataTypes.STRING({length})"

def scalarType (c : Column) : String :=
  match c.type with
  | .int => "DataTypes.INTEGER"
  | .varchar => string (Sql.varcharLength c.length)
  | .text => "DataTypes.TEXT"
  | .boolean => "DataTypes.BOOLEAN"
  | .date => "DataTypes.DATEONLY"
  | .timestamp => "DataTypes.DATE"
  | .float => "DataTypes.FLOAT"
  | .double => "DataTypes.DOUBLE"
  | .decimal =>
    match Sql.decimalArguments? ", " c with
    | some arguments => s!"DataTypes.DECIMAL({arguments})"
    | none => "DataTypes.DECIMAL"
  | .json => "DataTypes.JSON"
  | .uuid => "DataTypes.UUID"
  | .enum =>
    if c.values.isEmpty then string Sql.defaultVarcharLength
    else s!"DataTypes.ENUM({Script.quotedList c.values})"
  | .array => "DataTypes.ARRAY"

def dataType (c : Column) : String :=
  if c.type = .array then
    s!"DataTypes.ARRAY({scalarType { name := c.name, type := Sql.elementOf c }})"
  else scalarType c

def literal (sql : String) : String := s!"sequelize.literal({Json.quote sql})"

structure Attribute where
  key : String
  type : String
  isPrimaryKey : Bool
  isRequired : Bool
  isUnique : Bool
  default : Option String
  deriving DecidableEq, Repr

namespace Attribute

def ofColumn (c : Column) : Attribute where
  key := Script.key c.name
  type := dataType c
  isPrimaryKey := c.primaryKey
  isRequired := !c.nullable
  isUnique := c.unique
  default := (DefaultValue.ofColumn? c).bind (·.script "DataTypes.NOW" (some ∘ literal))

def lines (a : Attribute) : List String :=
  [s!"    {a.key}: \x7b", s!"      type: {a.type},"] ++
    (if a.isPrimaryKey then ["      primaryKey: true,"] else []) ++
    (if a.isRequired then ["      allowNull: false,"] else []) ++
    (if a.isUnique then ["      unique: true,"] else []) ++
    (match a.default with
      | some value => [s!"      defaultValue: {value},"]
      | none => []) ++
    ["    \x7d,"]

end Attribute

structure Model where
  name : String
  attributes : List Attribute
  table : String
  deriving DecidableEq, Repr

namespace Model

def ofTable (t : Table) : Model where
  name := modelName t.name
  attributes := t.columns.map .ofColumn
  table := t.name

def lines (m : Model) : List String :=
  [s!"  const {m.name} = sequelize.define({Json.quote m.name}, \x7b"] ++
    m.attributes.flatMap Attribute.lines ++
    ["  \x7d, \x7b", s!"    tableName: {Json.quote m.table},", "    timestamps: false,", "  \x7d);",
     ""]

end Model

structure Association where
  source : String
  kind : String
  target : String
  foreignKey : String
  shownAs : String
  deriving DecidableEq, Repr

namespace Association

def ofRelation (r : Relation) : List Association :=
  let child := modelName r.child.item.name
  let parent := modelName r.parent.item.name
  let foreignKey := r.column.item.name
  [{ source := child, kind := "belongsTo", target := parent, foreignKey, shownAs := r.name },
   { source := parent, kind := if r.isOneToOne then "hasOne" else "hasMany", target := child,
     foreignKey, shownAs := r.reverseName }]

def line (a : Association) : String :=
  let options :=
    Script.object [s!"foreignKey: {Json.quote a.foreignKey}", s!"as: {Json.quote a.shownAs}"]
  s!"  {a.source}.{a.kind}({a.target}, {options});"

end Association

def models (s : Schema) : List Model := s.tables.map .ofTable

def associations (s : Schema) : List Association := (relations s).flatMap Association.ofRelation

def generate (s : Schema) : String :=
  let associated := (associations s).map Association.line
  Text.lines
    (["const \x7b DataTypes \x7d = require(\"sequelize\");", "",
      "module.exports = (sequelize) => \x7b"] ++
      (models s).flatMap Model.lines ++ (if associated.isEmpty then [] else associated ++ [""]) ++
      ["  return sequelize.models;", "\x7d;"]) ++ "\n"

end RelSchema.Orm.Sequelize
