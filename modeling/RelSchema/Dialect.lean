import RelSchema.Schema.Basic

namespace RelSchema

inductive Dialect where
  | mysql | postgresql | sqlserver | sqlite | oracle
  deriving DecidableEq, Repr

structure UnknownDialect where
  key : String
  deriving DecidableEq, Repr

namespace Dialect

def all : List Dialect := [mysql, postgresql, sqlserver, sqlite, oracle]

def key : Dialect → String
  | mysql => "mysql"
  | postgresql => "postgresql"
  | sqlserver => "sqlserver"
  | sqlite => "sqlite"
  | oracle => "oracle"

def title : Dialect → String
  | mysql => "MySQL"
  | postgresql => "PostgreSQL"
  | sqlserver => "SQL Server"
  | sqlite => "SQLite"
  | oracle => "Oracle"

def version : Dialect → String
  | mysql => "8.0"
  | postgresql => "15"
  | sqlserver => "2022"
  | sqlite => "3.41"
  | oracle => "21c"

def grammar : Dialect → String
  | mysql => "mysql"
  | postgresql => "postgres"
  | sqlserver => "tsql"
  | sqlite => "sqlite"
  | oracle => "oracle"

def supportsArrays : Dialect → Bool
  | postgresql => true
  | _ => false

def supportsJson : Dialect → Bool
  | sqlserver => false
  | _ => true

def supportsEnums : Dialect → Bool
  | mysql | postgresql => true
  | _ => false

def supportsUuid : Dialect → Bool
  | postgresql | sqlserver => true
  | _ => false

def supportsInheritance : Dialect → Bool
  | postgresql => true
  | _ => false

def maxIdentifierLength : Dialect → Nat
  | mysql => 64
  | postgresql => 63
  | sqlserver => 128
  | sqlite => 1024
  | oracle => 128

/-- The type that stands in for types the dialect lacks. -/
def stringType : Dialect → String
  | mysql => "VARCHAR(255)"
  | postgresql => "TEXT"
  | sqlserver => "NVARCHAR(255)"
  | sqlite => "TEXT"
  | oracle => "VARCHAR2(255)"

def typeName? : Dialect → ColumnType → Option String
  | _, .array => none
  | postgresql, .float => some "REAL"
  | postgresql, .double => some "DOUBLE PRECISION"
  | sqlserver, .varchar => some "NVARCHAR"
  | sqlserver, .text => some "NVARCHAR(MAX)"
  | sqlserver, .boolean => some "BIT"
  | sqlserver, .timestamp => some "DATETIME2"
  | sqlserver, .double => some "DOUBLE PRECISION"
  | sqlserver, .uuid => some "UNIQUEIDENTIFIER"
  | sqlite, .int => some "INTEGER"
  | oracle, .int => some "INTEGER"
  | oracle, .varchar => some "VARCHAR2"
  | oracle, .text => some "CLOB"
  | oracle, .boolean => some "NUMBER(1)"
  | oracle, .double => some "BINARY_DOUBLE"
  | oracle, .decimal => some "NUMBER"
  | _, type => some type.name

def supports (d : Dialect) : ColumnType → Bool
  | .json => d.supportsJson
  | .array => d.supportsArrays
  | .enum => d.supportsEnums
  | .uuid => d.supportsUuid
  | _ => true

def supportedTypes (d : Dialect) : List ColumnType := ColumnType.all.filter d.supports

def commonReserved : List String :=
  ["ADD", "ALL", "ALTER", "AND", "ANY", "AS", "ASC", "BETWEEN", "BY", "CASE", "CHECK", "COLUMN",
   "CONSTRAINT", "CREATE", "CROSS", "DEFAULT", "DELETE", "DESC", "DISTINCT", "DROP", "ELSE",
   "EXISTS", "FOREIGN", "FROM", "GROUP", "HAVING", "IN", "INDEX", "INNER", "INSERT", "INTO", "IS",
   "JOIN", "KEY", "LEFT", "LIKE", "NOT", "NULL", "ON", "OR", "ORDER", "OUTER", "PRIMARY",
   "REFERENCES", "RIGHT", "SELECT", "SET", "TABLE", "THEN", "TO", "UNION", "UNIQUE", "UPDATE",
   "VALUES", "WHEN", "WHERE", "WITH"]

def ownReserved : Dialect → List String
  | mysql => ["ANALYZE", "BEFORE", "RANGE", "READ"]
  | postgresql => ["ANALYSE", "ANALYZE", "ARRAY", "USER"]
  | sqlserver => ["AUTHORIZATION", "BACKUP", "USER"]
  | sqlite => ["ABORT", "ACTION", "AFTER"]
  | oracle => ["ACCESS", "NUMBER", "USER"]

def reserved (d : Dialect) : List String :=
  (commonReserved ++ d.ownReserved).mergeSort fun a b => decide (a ≤ b)

def ofKey? (key : String) : Option Dialect := all.find? (·.key == Text.lower key)

def ofKey (key : String) : Except UnknownDialect Dialect :=
  match ofKey? key with
  | some d => .ok d
  | none => .error ⟨key⟩

/-- Whether a name may stand without quotes as far as length and reserved words go. -/
def accepts (d : Dialect) (name : String) : Bool :=
  name != "" && decide (name.length ≤ d.maxIdentifierLength) &&
    !(commonReserved ++ d.ownReserved).contains (Text.upper name)

def keyAccepts (key name : String) : Bool :=
  match ofKey? key with
  | some d => d.accepts name
  | none => true

end Dialect

def UnknownDialect.message (e : UnknownDialect) : String :=
  s!"Unknown dialect '{e.key}'. Expected one of: " ++ ", ".intercalate (Dialect.all.map (·.key))

end RelSchema
