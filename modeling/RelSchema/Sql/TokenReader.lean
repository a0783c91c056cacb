import RelSchema.Sql.Expr
import RelSchema.Sql.Lexer
import RelSchema.Sql.Token

namespace RelSchema.Sql

abbrev TokenReader := StateT (List Token) Option

namespace TokenReader

def fail {α : Type} : TokenReader α := fun _ => none

def next? : TokenReader (Option Token) := return (← get).head?

def isNext (key : String) : TokenReader Bool := return ((← get).head?.map (·.is key)).getD false

def isSecond (key : String) : TokenReader Bool :=
  return (((← get).drop 1).head?.map (·.is key)).getD false

def skip : TokenReader Unit := modify (·.drop 1)

def takeIf (p : Token → Bool) : TokenReader (Option Token) := do
  match ← get with
  | t :: rest => if p t then set rest; return some t else return none
  | [] => return none

def take (key : String) : TokenReader Bool := return (← takeIf (·.is key)).isSome

def takeOneOf (keys : List String) : TokenReader (Option String) :=
  return (← takeIf fun t => t.key != "" && keys.contains t.key).map (·.key)

def takeAll (keys : List String) : TokenReader Bool := do
  let tokens ← get
  let next := tokens.take keys.length
  if next.map (·.key) = keys then
    set (tokens.drop keys.length)
    return true
  else return false

def expect (key : String) : TokenReader Unit := do
  if !(← take key) then fail

def required {α : Type} (r : TokenReader (Option α)) : TokenReader α := do
  match ← r with
  | some a => return a
  | none => fail

def either {α : Type} (r s : TokenReader (Option α)) : TokenReader (Option α) := do
  match ← r with
  | some a => return some a
  | none => s

def repeatFrom {α : Type} (step : α → TokenReader (Option α)) : Nat → α → TokenReader α
  | 0, a => return a
  | fuel + 1, a => do
    match ← step a with
    | some b => repeatFrom step fuel b
    | none => return a

/-- Extends a value as long as the step finds something to extend it with. Every step takes a
token. -/
def extend {α : Type} (step : α → TokenReader (Option α)) (a : α) : TokenReader α := do
  repeatFrom step (← get).length a

/-- Elements between commas; the places between commas may be empty. -/
def separated {α : Type} (element : TokenReader (Option α)) : TokenReader (List α) := do
  let first ← element
  extend (fun found => do
    if ← take "," then return some (found ++ (← element).toList) else return none) first.toList

def wrapped {α : Type} (inner : TokenReader α) : TokenReader α := do
  expect "("
  let a ← inner
  expect ")"
  return a

def isReserved (d : Dialect) (t : Token) : Bool :=
  (t.kind == .symbol && t.key.length == 1) || t.kind == .stray || t.is "==" || t.is "UNKNOWN" ||
    t.is "SELECT" || t.is "NOT" || (t.is "MOD" && d == .mysql)

def nameKeywords : List String :=
  ["ALL", "ANALYZE", "ANTI", "ANY", "ASC", "ASOF", "AUTO_INCREMENT", "AUTOINCREMENT", "BEGIN",
   "CACHE", "CALL", "CASE", "COLLATE", "COLUMN", "COMMENT", "COMMIT", "CONSTRAINT", "COPY",
   "CUBE", "CURRENT_CATALOG", "CURRENT_DATE", "CURRENT_SCHEMA", "CURRENT_TIME",
   "CURRENT_TIMESTAMP", "CURRENT_USER", "DATABASE", "DEFAULT", "DELETE", "DESC", "DESCRIBE",
   "DIV", "END", "ESCAPE", "EXECUTE", "EXISTS", "EXPLAIN", "FALSE", "FILTER", "FIRST",
   "FOREIGN KEY", "FORMAT", "FULL", "FUNCTION", "INDEX", "IS", "ISNULL", "KEEP", "KILL", "LEFT",
   "LIMIT", "LOAD", "LOCALTIME", "LOCALTIMESTAMP", "LOCK", "MATCH", "MERGE", "NAMESPACE",
   "NATURAL", "NEXT", "OFFSET", "OPERATOR", "OPTIMIZE", "ORDINALITY", "OVER", "OVERLAPS",
   "OVERWRITE", "PARTITION", "PERCENT", "PIVOT", "PRAGMA", "PREPARE", "PROCEDURE", "RECURSIVE",
   "REFERENCES", "REFRESH", "RENAME", "REPLACE", "RIGHT", "ROLLUP", "ROW", "ROWS", "SCHEMA",
   "SEMI", "SEQUENCE", "SESSION", "SET", "SETTINGS", "SHOW", "SOME", "TABLE", "TEMP",
   "TEMPORARY", "TOP", "TRUE", "TRUNCATE", "UNIQUE", "UNNEST", "UNPIVOT", "UPDATE", "USE",
   "VACUUM", "VIEW", "VOLATILE", "WINDOW"]

def isPlainName (t : Token) : Bool :=
  match t.kind with
  | .word | .quotedName | .stray => true
  | .type => t.key != "UNION"
  | .keyword => nameKeywords.contains t.key
  | _ => false

def nameOf (t : Token) : Name :=
  ⟨t.text, t.kind == .quotedName || t.kind == .string⟩

def plainName? : TokenReader (Option Name) := return (← takeIf isPlainName).map nameOf

/-- A name where nothing but a name makes sense: nearly every token is one. -/
def anyName? (d : Dialect) : TokenReader (Option Name) :=
  return (← takeIf fun t => !isReserved d t || isPlainName t).map nameOf

def anyWord? (d : Dialect) : TokenReader (Option Token) := takeIf fun t => !isReserved d t

end TokenReader

end RelSchema.Sql
