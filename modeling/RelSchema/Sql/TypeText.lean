import RelSchema.Notice
import RelSchema.Sql.Quoting
import RelSchema.Text.Letter

namespace RelSchema.Sql

def defaultVarcharLength : Int := 255

/-- The length of a text column: what it says, unless that is nothing or zero. -/
def varcharLength (length : Option Int) : Int :=
  match length with
  | some n => if n = 0 then defaultVarcharLength else n
  | none => defaultVarcharLength

def enumTypeName (table column : String) : String :=
  let spelled := s!"{table}_{column}_enum".toList
  Text.lower (String.ofList (spelled.map fun c => if Text.isWordChar c then c else '_'))

def valueList (values : List String) : String := ", ".intercalate (values.map literal)

def elementOf (c : Column) : ColumnType :=
  match c.elementType with
  | none | some .array => .text
  | some type => type

/-- Precision and scale, if the precision is neither absent nor zero. -/
def decimalArguments? (separator : String) (c : Column) : Option String :=
  match c.length with
  | none | some 0 => none
  | some precision =>
    some (match c.scale with
      | some scale => s!"{precision}{separator}{scale}"
      | none => s!"{precision}")

def shownSizes (c : Column) : List Int :=
  match c.type, c.length with
  | .varchar, length => [varcharLength length]
  | .decimal, none | .decimal, some 0 => []
  | .decimal, some precision => precision :: c.scale.toList
  | _, _ => []

/-- The type of a column that is no array. Without a table there is no name for a declared type of
values. -/
def renderScalar (d : Dialect) (table : Option String) (c : Column) : String :=
  match d.typeName? c.type with
  | none => d.stringType
  | some name =>
    if !d.supports c.type then d.stringType
    else match c.type with
      | .varchar => s!"{name}({varcharLength c.length})"
      | .decimal =>
        match decimalArguments? "," c with
        | none => name
        | some arguments =>
          let rendered := s!"{name}({arguments})"
          if d.typeName? .boolean = some rendered then s!"DECIMAL({arguments})" else rendered
      | .enum =>
        if c.values.isEmpty then d.stringType
        else if d = .postgresql then
          match table with
          | some table => enumTypeName table c.name
          | none => d.stringType
        else s!"{name}({valueList c.values})"
      | _ => name

def renderType (d : Dialect) (table : Option String) (c : Column) : String :=
  if c.type = .array ∧ d.supportsArrays then
    renderScalar d none { name := c.name, type := elementOf c } ++ "[]"
  else renderScalar d table c

def typeNotices (d : Dialect) (c : Column) : List Notice :=
  if d.supports c.type then [] else [.typeUnavailable c.type d]

end RelSchema.Sql
