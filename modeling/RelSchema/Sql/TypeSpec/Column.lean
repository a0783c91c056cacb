import RelSchema.Notice
import RelSchema.Schema.Basic
import RelSchema.Sql.Item
import RelSchema.Text.Character
import RelSchema.Text.Quoted

namespace RelSchema.Sql

inductive ReadError where
  | number (e : Text.NumberError)
  | catalogType
  | unfinishedRule
  | missingArgument
  deriving DecidableEq, Repr

def ReadError.message : ReadError → String
  | number e => e.message
  | catalogType => "'str' object has no attribute 'name'"
  | unfinishedRule => "'Identifier' object has no attribute 'kind'"
  | missingArgument => "SQL cannot be None"

namespace TypeSpec

def columnTypes : List (String × ColumnType) :=
  [("INT", .int), ("INTEGER", .int), ("TINYINT", .int), ("SMALLINT", .int), ("MEDIUMINT", .int),
   ("BIGINT", .int), ("UINT", .int), ("UTINYINT", .int), ("USMALLINT", .int),
   ("UMEDIUMINT", .int), ("UBIGINT", .int), ("SERIAL", .int), ("SMALLSERIAL", .int),
   ("BIGSERIAL", .int), ("VARCHAR", .varchar), ("NVARCHAR", .varchar), ("VARCHAR2", .varchar),
   ("NVARCHAR2", .varchar), ("CHAR", .varchar), ("NCHAR", .varchar), ("CHARACTER", .varchar),
   ("CHARACTER VARYING", .varchar), ("TEXT", .text), ("NTEXT", .text), ("TINYTEXT", .text),
   ("MEDIUMTEXT", .text), ("LONGTEXT", .text), ("CLOB", .text), ("NCLOB", .text),
   ("BOOLEAN", .boolean), ("BOOL", .boolean), ("BIT", .boolean), ("DATE", .date),
   ("TIMESTAMP", .timestamp), ("TIMESTAMPTZ", .timestamp), ("TIMESTAMPLTZ", .timestamp),
   ("DATETIME", .timestamp), ("DATETIME2", .timestamp), ("DATETIMEOFFSET", .timestamp),
   ("SMALLDATETIME", .timestamp), ("FLOAT", .float), ("REAL", .float), ("DOUBLE", .double),
   ("DOUBLE PRECISION", .double), ("BINARY_DOUBLE", .double), ("DECIMAL", .decimal),
   ("NUMERIC", .decimal), ("NUMBER", .decimal), ("MONEY", .decimal), ("JSON", .json),
   ("JSONB", .json), ("UUID", .uuid), ("UNIQUEIDENTIFIER", .uuid), ("ENUM", .enum),
   ("ARRAY", .array)]

def columnType? (name : String) : Option ColumnType := columnTypes.lookup name

structure Sized where
  type : ColumnType
  length : Option Int := none
  scale : Option Int := none
  deriving DecidableEq, Repr

def numbers (arguments : List String) : Except ReadError (List Int) :=
  (arguments.filter Text.isDigits).mapM fun digits =>
    ((Text.number digits).map Int.ofNat).mapError .number

def isUnbounded (type : ColumnType) (arguments : List String) : Bool :=
  type == .varchar && (arguments.head?.map fun a => Text.upper a == "MAX").getD false

def sizedAs (type : ColumnType) (arguments : List String) : Except ReadError Sized :=
  if isUnbounded type arguments then .ok { type := .text }
  else do
    let found ← numbers arguments
    return { type, length := found[0]?, scale := found[1]? }

/-- The column type that a name with arguments stands for. Names that stand for none are text. -/
def sized (name : String) (arguments : List String) : Remarked ReadError Sized :=
  match columnType? name with
  | some type => ⟨[], sizedAs type arguments⟩
  | none => ⟨[.unknownType name], sizedAs .varchar arguments⟩

/-- The numbers in a text, and the word that stands for the greatest length, from left to right. The
fuel is the length of the text. -/
def argumentsFrom : Nat → List Char → List String
  | 0, _ => []
  | _, [] => []
  | fuel + 1, c :: rest =>
    if Text.isDecimal c then
      let (digits, after) := (c :: rest).span Text.isDecimal
      String.ofList digits :: argumentsFrom fuel after
    else
      let word := (c :: rest).take 3
      if word.map Char.toUpper = ['M', 'A', 'X'] then
        String.ofList word :: argumentsFrom fuel (rest.drop 2)
      else argumentsFrom fuel rest

def argumentsIn (text : List Char) : List String := argumentsFrom text.length text

def cutAt (mark : Char) (text : List Char) : List Char × List Char :=
  let (before, after) := text.span (· != mark)
  (before, after.drop 1)

structure Meaning where
  sized : Sized
  values : List String := []
  elementType : Option ColumnType := none
  deriving DecidableEq, Repr

def meaning : TypeSpec → Remarked ReadError Meaning
  | scalar name arguments values => do
    let s ← sized name arguments
    return { sized := s, values := if s.type = .enum then values else [] }
  | declared name arguments values => do
    let (kind, inside) := cutAt '(' name.toList
    let kind := Text.upper (String.ofList (Text.trimChars kind))
    let s ← sized kind (argumentsIn inside ++ arguments)
    return { sized := s, values := if s.type = .enum then values else [] }
  | array none => return { sized := { type := .array } }
  | array (some element) => do
    let e ← meaning element
    return { sized := { type := .array }, elementType := some e.sized.type }
  | catalog _ => .error .catalogType

def applyTo (c : Column) (type : TypeSpec) : Remarked ReadError Column := do
  let m ← type.meaning
  return { c with type := m.sized.type, length := m.sized.length, scale := m.sized.scale,
                  values := m.values, elementType := m.elementType }

end TypeSpec

end RelSchema.Sql
