import RelSchema.Sql.Expr
import RelSchema.Sql.Quoting
import RelSchema.Text.Case
import RelSchema.Text.Character

namespace RelSchema.Sql.Expr

def quotedWords : List String :=
  ["accessible", "add", "all", "alter", "analyze", "and", "as", "asc", "asensitive", "before",
   "between", "bigint", "binary", "blob", "both", "by", "call", "cascade", "case", "change",
   "char", "character", "check", "collate", "column", "condition", "constraint", "continue",
   "convert", "create", "cross", "cube", "cume_dist", "current_date", "current_time",
   "current_timestamp", "current_user", "cursor", "database", "databases", "day_hour",
   "day_microsecond", "day_minute", "day_second", "dec", "decimal", "declare", "default",
   "delayed", "delete", "dense_rank", "desc", "describe", "deterministic", "distinct",
   "distinctrow", "div", "double", "drop", "dual", "each", "else", "elseif", "empty", "enclosed",
   "escaped", "except", "exists", "exit", "explain", "false", "fetch", "first_value", "float",
   "float4", "float8", "for", "force", "foreign", "from", "fulltext", "function", "generated",
   "get", "grant", "group", "grouping", "groups", "having", "high_priority", "hour_microsecond",
   "hour_minute", "hour_second", "if", "ignore", "in", "index", "infile", "inner", "inout",
   "insensitive", "insert", "int", "int1", "int2", "int3", "int4", "int8", "integer",
   "intersect", "interval", "into", "io_after_gtids", "io_before_gtids", "is", "iterate", "join",
   "json_table", "key", "keys", "kill", "lag", "last_value", "lateral", "lead", "leading",
   "leave", "left", "like", "limit", "linear", "lines", "load", "localtime", "localtimestamp",
   "lock", "long", "longblob", "longtext", "loop", "low_priority", "master_bind",
   "master_ssl_verify_server_cert", "match", "maxvalue", "mediumblob", "mediumint", "mediumtext",
   "middleint", "minute_microsecond", "minute_second", "mod", "modifies", "natural", "not",
   "no_write_to_binlog", "nth_value", "ntile", "null", "numeric", "of", "on", "optimize",
   "optimizer_costs", "option", "optionally", "or", "order", "out", "outer", "outfile", "over",
   "partition", "percent_rank", "precision", "primary", "procedure", "purge", "range", "rank",
   "read", "reads", "read_write", "real", "recursive", "references", "regexp", "release",
   "rename", "repeat", "replace", "require", "resignal", "restrict", "return", "revoke", "right",
   "rlike", "row", "rows", "row_number", "schema", "schemas", "select", "sensitive", "separator",
   "set", "show", "signal", "smallint", "spatial", "specific", "sql", "sqlexception", "sqlstate",
   "sqlwarning", "sql_big_result", "sql_calc_found_rows", "sql_small_result", "ssl", "starting",
   "stored", "straight_join", "system", "table", "terminated", "then", "tinyblob", "tinyint",
   "tinytext", "to", "trailing", "trigger", "true", "undo", "union", "unique", "unlock",
   "unsigned", "update", "usage", "use", "using", "utc_date", "utc_time", "utc_timestamp",
   "values", "varbinary", "varchar", "varcharacter", "varying", "virtual", "when", "where",
   "while", "window", "with", "write", "xor", "year_month", "zerofill"]

def needsQuotes (d : Dialect) (name : Name) : Bool :=
  name.quoted ||
    match d with
    | .mysql => quotedWords.contains (Text.lower name.text)
    | _ => (name.text.toList.head?.map Text.isDigit).getD false

def renderName (d : Dialect) (name : Name) : String :=
  if needsQuotes d name then quoteIdentifier d name.text
  else String.ofList (doubled (quoteMarks d).closing name.text.toList)

def escapedChar (c : Char) : List Char :=
  match c.toNat with
  | 7 => ['\\', 'a']
  | 8 => ['\\', 'b']
  | 9 => ['\\', 't']
  | 10 => ['\\', 'n']
  | 11 => ['\\', 'v']
  | 12 => ['\\', 'f']
  | 13 => ['\\', 'r']
  | 0x5C => ['\\', '\\']
  | _ => [c]

def renderString (d : Dialect) (text : String) : String :=
  match d with
  | .mysql => literal (String.ofList (text.toList.flatMap escapedChar))
  | _ => literal text

def separatedBy (d : Dialect) (parts : List Name) : String :=
  ".".intercalate (parts.map (renderName d))

def natOf (base : Nat) (digits : String) : Nat :=
  digits.toList.foldl (fun n c => n * base + (Text.hexValue? c).getD 0) 0

def renderBits (d : Dialect) (digits : String) : String :=
  match d with
  | .mysql | .postgresql => "b'" ++ digits ++ "'"
  | _ => toString (natOf 2 digits)

def renderHexadecimal (d : Dialect) (digits : String) : String :=
  match d with
  | .mysql | .postgresql | .sqlite => "x'" ++ digits ++ "'"
  | .sqlserver => "0x" ++ digits
  | .oracle => toString (natOf 16 digits)

end RelSchema.Sql.Expr
