import RelSchema.Dialect

namespace RelSchema.Sql

inductive TypeSpec where
  /-- A known type. Arguments are its numbers and words, values its strings. -/
  | scalar (name : String) (arguments values : List String)
  | declared (name : String) (arguments values : List String)
  /-- An array; the type of its elements may be left open. -/
  | array (element : Option TypeSpec)
  | catalog (name : String)
  deriving Repr

/-- What a foreign key refers to. The columns may be left out. -/
structure Target where
  table : String
  columns : List String
  deriving DecidableEq, Repr

inductive Rule where
  | nullable (allowed : Bool)
  | primaryKey (columns : Option (List String))
  | unique (columns : List String)
  | default (value : String)
  | check (condition : String) (mentions : List String)
  | references (target : Target)
  | foreignKey (columns : List String) (target : Option Target)
  /-- A rule with a function that lacks an argument. -/
  | incomplete
  /-- A rule that says nothing about the schema. -/
  | other
  | nameOnly
  deriving DecidableEq, Repr

def Rule.isIncomplete (r : Rule) : Bool := r == .incomplete

inductive Item where
  | column (name : String) (type : Option TypeSpec) (rules : List Rule)
  | rules (rules : List Rule)
  deriving Repr

namespace TypeSpec

def commonNames : List (String × String) :=
  [("NCHAR", "CHAR"), ("NVARCHAR", "VARCHAR"), ("MEDIUMTEXT", "TEXT"), ("LONGTEXT", "TEXT"),
   ("TINYTEXT", "TEXT"), ("BLOB", "VARBINARY"), ("MEDIUMBLOB", "BLOB"), ("LONGBLOB", "BLOB"),
   ("TINYBLOB", "BLOB"), ("ROWVERSION", "VARBINARY"), ("SMALLDATETIME", "TIMESTAMP")]

def ownNames : Dialect → List (String × String)
  | .mysql =>
    [("MEDIUMTEXT", "MEDIUMTEXT"), ("LONGTEXT", "LONGTEXT"), ("TINYTEXT", "TINYTEXT"),
     ("BLOB", "BLOB"), ("MEDIUMBLOB", "MEDIUMBLOB"), ("LONGBLOB", "LONGBLOB"),
     ("TINYBLOB", "TINYBLOB"), ("TIMESTAMP", "DATETIME"), ("TIMESTAMPNTZ", "DATETIME"),
     ("TIMESTAMPTZ", "TIMESTAMP"), ("TIMESTAMPLTZ", "TIMESTAMP"), ("DATETIME2", "DATETIME"),
     ("SMALLDATETIME", "DATETIME"), ("UINT", "INT UNSIGNED"), ("UTINYINT", "TINYINT UNSIGNED"),
     ("USMALLINT", "SMALLINT UNSIGNED"), ("UMEDIUMINT", "MEDIUMINT UNSIGNED"),
     ("UBIGINT", "BIGINT UNSIGNED"), ("UDOUBLE", "DOUBLE UNSIGNED")]
  | .postgresql =>
    [("TINYINT", "SMALLINT"), ("FLOAT", "REAL"), ("DOUBLE", "DOUBLE PRECISION"),
     ("BINARY", "BYTEA"), ("VARBINARY", "BYTEA"), ("ROWVERSION", "BYTEA"), ("BLOB", "BYTEA"),
     ("DATETIME", "TIMESTAMP"), ("TIMESTAMPNTZ", "TIMESTAMP")]
  | .sqlserver =>
    [("BOOLEAN", "BIT"), ("DECIMAL", "NUMERIC"), ("DOUBLE", "FLOAT"), ("INT", "INTEGER"),
     ("TEXT", "VARCHAR(MAX)"), ("TIMESTAMP", "DATETIME2"), ("TIMESTAMPNTZ", "DATETIME2"),
     ("TIMESTAMPTZ", "DATETIMEOFFSET"), ("UTINYINT", "TINYINT"), ("VARIANT", "SQL_VARIANT"),
     ("UUID", "UNIQUEIDENTIFIER"), ("NVARCHAR", "NVARCHAR"), ("NCHAR", "NCHAR"),
     ("ROWVERSION", "ROWVERSION"), ("SMALLDATETIME", "SMALLDATETIME")]
  | .sqlite =>
    [("BOOLEAN", "INTEGER"), ("TINYINT", "INTEGER"), ("SMALLINT", "INTEGER"), ("INT", "INTEGER"),
     ("BIGINT", "INTEGER"), ("FLOAT", "REAL"), ("DOUBLE", "REAL"), ("DECIMAL", "REAL"),
     ("CHAR", "TEXT"), ("NCHAR", "TEXT"), ("VARCHAR", "TEXT"), ("NVARCHAR", "TEXT"),
     ("BINARY", "BLOB"), ("VARBINARY", "BLOB"), ("ROWVERSION", "BLOB")]
  | .oracle =>
    [("TINYINT", "SMALLINT"), ("BIGINT", "INT"), ("DECIMAL", "NUMBER"),
     ("DOUBLE", "DOUBLE PRECISION"), ("VARCHAR", "VARCHAR2"), ("NVARCHAR", "NVARCHAR2"),
     ("NCHAR", "NCHAR"), ("TEXT", "CLOB"), ("TIMETZ", "TIME"), ("TIMESTAMPNTZ", "TIMESTAMP"),
     ("TIMESTAMPTZ", "TIMESTAMP"), ("BINARY", "BLOB"), ("VARBINARY", "BLOB"),
     ("ROWVERSION", "BLOB")]

def nameIn (d : Dialect) (name : String) : String :=
  (((ownNames d).lookup name).orElse fun _ => commonNames.lookup name).getD name

def conversionNames : Dialect → List (String × String)
  | .mysql =>
    [("VARCHAR", "CHAR"), ("TEXT", "CHAR"), ("LONGTEXT", "CHAR"), ("MEDIUMTEXT", "CHAR"),
     ("TINYTEXT", "CHAR"), ("LONGBLOB", "CHAR"), ("MEDIUMBLOB", "CHAR"), ("TINYBLOB", "CHAR"),
     ("BOOLEAN", "SIGNED"), ("TINYINT", "SIGNED"), ("SMALLINT", "SIGNED"), ("INT", "SIGNED"),
     ("MEDIUMINT", "SIGNED"), ("BIGINT", "SIGNED"), ("UBIGINT", "UNSIGNED")]
  | _ => []

def conversionName (d : Dialect) (name : String) : String :=
  ((conversionNames d).lookup name).getD (nameIn d name)

def withArguments (name : String) (arguments : List String) : String :=
  if arguments.isEmpty then name else name ++ "(" ++ ", ".intercalate arguments ++ ")"

/-- Whether a type is a number with a fraction of so many digits, which one dialect has just one
name for. -/
def isSizedFraction (d : Dialect) (name : String) (arguments : List String) : Bool :=
  d == .postgresql && (name == "DOUBLE" || name == "FLOAT") && !arguments.isEmpty

def renderInner (d : Dialect) : TypeSpec → String
  | scalar name arguments values =>
    let name := if isSizedFraction d name arguments then "FLOAT" else nameIn d name
    withArguments name (arguments ++ values.map fun v => "'" ++ v ++ "'")
  | declared name arguments _ => withArguments name arguments
  | array none => "ARRAY"
  | array (some element) =>
    match d with
    | .postgresql => renderInner d element ++ "[]"
    | _ => "ARRAY<" ++ renderInner d element ++ ">"
  | catalog name => name

def render (d : Dialect) : TypeSpec → String
  | scalar name arguments values =>
    let name := if isSizedFraction d name arguments then "FLOAT" else conversionName d name
    withArguments name (arguments ++ values.map fun v => "'" ++ v ++ "'")
  | type => renderInner d type

end TypeSpec

end RelSchema.Sql
