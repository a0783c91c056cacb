import RelSchema.Dialect

namespace RelSchema.Sql.Lexicon

def commonTypes : List String :=
  ["ARRAY", "BIGDECIMAL", "BIGINT", "BIGNUM", "BIGNUMERIC", "BINARY", "BIT", "BLOB", "BOOL",
   "BOOLEAN", "BPCHAR", "BYTE", "BYTEA", "CHAR", "CHAR VARYING", "CHARACTER", "CHARACTER VARYING",
   "CLOB", "DATE", "DATEMULTIRANGE", "DATERANGE", "DATETIME", "DEC", "DECFLOAT", "DECIMAL",
   "DECIMAL128", "DECIMAL256", "DECIMAL32", "DECIMAL64", "DOUBLE", "DOUBLE PRECISION", "ENUM",
   "FIXED", "FLOAT", "FLOAT4", "FLOAT8", "GEOGRAPHY", "GEOMETRY", "HUGEINT", "INET", "INT",
   "INT1", "INT128", "INT16", "INT2", "INT256", "INT32", "INT4", "INT4MULTIRANGE", "INT4RANGE",
   "INT64", "INT8", "INT8MULTIRANGE", "INT8RANGE", "INTEGER", "INTERVAL", "JSON", "JSONB", "LIST",
   "LONG", "LONGBLOB", "LONGTEXT", "LONGVARCHAR", "MAP", "MEDIUMBLOB", "MEDIUMINT", "MEDIUMTEXT",
   "NCHAR", "NULL", "NULLABLE", "NUMBER", "NUMERIC", "NUMMULTIRANGE", "NUMRANGE", "NVARCHAR",
   "NVARCHAR2", "OBJECT", "RANGE", "REAL", "SHORT", "SMALLINT", "STR", "STRING", "STRUCT", "TEXT",
   "TIME", "TIMESTAMP", "TIMESTAMPLTZ", "TIMESTAMPNTZ", "TIMESTAMPTZ", "TIMESTAMP_LTZ",
   "TIMESTAMP_NTZ", "TIMETZ", "TIME_NS", "TINYBLOB", "TINYINT", "TINYTEXT", "TSMULTIRANGE",
   "TSRANGE", "TSTZMULTIRANGE", "TSTZRANGE", "UHUGEINT", "UINT", "UINT128", "UINT256", "UNION",
   "UNKNOWN", "USER-DEFINED", "UUID", "VARBINARY", "VARCHAR", "VARCHAR2", "VARIANT", "VECTOR"]

def ownTypes : Dialect → List String
  | .mysql =>
    ["SERIAL", "SIGNED", "SIGNED INTEGER", "UNSIGNED", "UNSIGNED INTEGER", "YEAR"]
  | .postgresql =>
    ["BIGSERIAL", "CSTRING", "HSTORE", "MONEY", "NAME", "OID", "POINT", "REGCLASS",
     "REGCOLLATION", "REGCONFIG", "REGDICTIONARY", "REGNAMESPACE", "REGOPER", "REGOPERATOR",
     "REGPROC", "REGPROCEDURE", "REGROLE", "REGTYPE", "SERIAL", "SMALLSERIAL", "XML"]
  | .sqlserver =>
    ["DATETIME2", "DATETIMEOFFSET", "IMAGE", "MONEY", "NTEXT", "ROWVERSION", "SMALLDATETIME",
     "SMALLMONEY", "SQL_VARIANT", "UNIQUEIDENTIFIER", "XML"]
  | .sqlite =>
    []
  | .oracle =>
    ["BINARY_DOUBLE", "BINARY_FLOAT"]

def commonWords : List String :=
  ["ALL", "ALTER", "ANALYZE", "AND", "ANTI", "ANY", "APPLY", "AS", "ASC", "ASOF", "AUTOINCREMENT",
   "AUTO_INCREMENT", "BEGIN", "BETWEEN", "CACHE", "CALL", "CASE", "CHARACTER SET", "CLUSTER BY",
   "COLLATE", "COLUMN", "COMMENT", "COMMIT", "CONNECT BY", "CONSTRAINT", "COPY", "CREATE",
   "CROSS", "CUBE", "CURRENT_CATALOG", "CURRENT_DATE", "CURRENT_SCHEMA", "CURRENT_TIME",
   "CURRENT_TIMESTAMP", "CURRENT_USER", "DATABASE", "DEFAULT", "DELETE", "DESC", "DESCRIBE",
   "DISTINCT", "DISTRIBUTE BY", "DROP", "ELSE", "END", "ESCAPE", "EXCEPT", "EXECUTE", "EXISTS",
   "EXPLAIN", "FALSE", "FETCH", "FILE", "FILTER", "FIRST", "FOR", "FOR TIMESTAMP", "FOR VERSION",
   "FOREIGN KEY", "FORMAT", "FROM", "FULL", "FUNCTION", "GLOB", "GRANT", "GROUP BY",
   "GROUPING SETS", "HAVING", "ILIKE", "IN", "INDEX", "INNER", "INSERT", "INTERSECT", "INTO",
   "IS", "ISNULL", "JOIN", "KEEP", "KILL", "LATERAL", "LEFT", "LIKE", "LIMIT", "LOAD",
   "LOCALTIME", "LOCALTIMESTAMP", "LOCK", "MERGE", "NAMESPACE", "NATURAL", "NEXT", "NOT",
   "NOTNULL", "OFFSET", "ON", "OPERATOR", "OPTIMIZE", "OR", "ORDER BY", "ORDINALITY", "OUT",
   "OUTER", "OVER", "OVERLAPS", "OVERWRITE", "PARTITION", "PARTITION BY", "PARTITIONED BY",
   "PARTITIONED_BY", "PERCENT", "PIVOT", "PRAGMA", "PREPARE", "PRIMARY KEY", "PROCEDURE",
   "QUALIFY", "RECURSIVE", "REFERENCES", "REGEXP", "RENAME", "REPLACE", "RETURNING", "REVOKE",
   "RIGHT", "RLIKE", "ROLLBACK", "ROLLUP", "ROW", "ROWS", "SCHEMA", "SELECT", "SEMI", "SEQUENCE",
   "SESSION", "SESSION_USER", "SET", "SETTINGS", "SHOW", "SIMILAR TO", "SOME", "SORT BY",
   "SQL SECURITY", "START WITH", "STRAIGHT_JOIN", "TABLE", "TABLESAMPLE", "TEMP", "TEMPORARY",
   "THEN", "TRIGGER", "TRUE", "TRUNCATE", "UNCACHE", "UNIQUE", "UNNEST", "UNPIVOT", "UPDATE",
   "USE", "USING", "VACUUM", "VALUES", "VIEW", "VOLATILE", "WHEN", "WHERE", "WINDOW", "WITH",
   "XOR"]

def ownWords : Dialect → List String
  | .mysql =>
    ["CHARSET", "DISTINCTROW", "DIV", "FORCE", "IGNORE", "KEY", "LOCK TABLES", "MEMBER OF", "MOD",
     "SEPARATOR", "SOUNDS LIKE", "START", "UNLOCK TABLES"]
  | .postgresql =>
    ["DECLARE", "DO", "EXEC", "INOUT", "ONLY", "REFRESH", "REINDEX", "RESET", "TYPE", "VARIADIC"]
  | .sqlserver =>
    ["CLUSTERED INDEX", "DECLARE", "DIV", "EXEC", "FOR SYSTEM_TIME", "GO", "NONCLUSTERED INDEX",
     "OPTION", "OUTPUT", "PRINT", "PROC", "SYSTEM_USER", "TOP", "UPDATE STATISTICS"]
  | .sqlite =>
    ["ATTACH", "DETACH", "DIV", "INDEXED BY", "MATCH"]
  | .oracle =>
    ["BULK COLLECT INTO", "COLUMNS", "DIV", "MATCH_RECOGNIZE", "MINUS", "ORDER SIBLINGS BY",
     "SAMPLE", "START", "SYSTIMESTAMP", "TOP"]

def types (d : Dialect) : List String := commonTypes ++ ownTypes d

def words (d : Dialect) : List String := commonWords ++ ownWords d

end RelSchema.Sql.Lexicon

namespace RelSchema.Sql

inductive TokenKind where
  | word
  | keyword
  | type
  | quotedName
  | string
  | national
  | bytes
  | unicode
  | bits
  | hexadecimal
  | dollarString
  | number
  | symbol
  /-- A quote character that quotes nothing in the dialect. -/
  | stray
  deriving DecidableEq, Repr

/-- A token reaches from `start` up to `stop`, counted in characters. `text` is what it says, with
quotes and escapes undone. `key` is by what words and symbols are told apart: the words in upper
case with single spaces, the symbol itself; nothing for all else. -/
structure Token where
  kind : TokenKind
  text : String
  key : String := ""
  start : Nat
  stop : Nat
  deriving DecidableEq, Repr

def Token.is (t : Token) (key : String) : Bool := t.key == key

end RelSchema.Sql
