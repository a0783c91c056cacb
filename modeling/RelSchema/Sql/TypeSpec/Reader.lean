import RelSchema.Sql.TokenReader

namespace RelSchema.Sql

structure Nested where
  disjunction : TokenReader (Option Expr)
  bitwise : TokenReader (Option Expr)
  term : TokenReader (Option Expr)
  equality : TokenReader (Option Expr)
  unary : TokenReader (Option Expr)
  operand : TokenReader (Option Expr)
  query : TokenReader (Option Expr)
  type : TokenReader (Option TypeSpec)

namespace TypeSpec

open TokenReader

def spellings : List (String × String) :=
  [("REAL", "FLOAT"), ("BLOB", "VARBINARY"), ("BYTEA", "VARBINARY"), ("STRING", "TEXT"),
   ("STR", "TEXT"), ("CLOB", "TEXT"), ("LONGVARCHAR", "TEXT"), ("NUMERIC", "DECIMAL"),
   ("NUMBER", "DECIMAL"), ("DEC", "DECIMAL"), ("FIXED", "DECIMAL"), ("BOOL", "BOOLEAN"),
   ("INTEGER", "INT"), ("INT4", "INT"), ("INT32", "INT"), ("LONG", "BIGINT"), ("INT64", "BIGINT"),
   ("INT8", "TINYINT"), ("BYTE", "TINYINT"), ("INT1", "TINYINT"), ("INT2", "SMALLINT"),
   ("INT16", "SMALLINT"), ("SHORT", "SMALLINT"), ("FLOAT8", "DOUBLE"), ("FLOAT4", "FLOAT"),
   ("DOUBLE PRECISION", "DOUBLE"), ("CHARACTER", "CHAR"), ("CHAR VARYING", "VARCHAR"),
   ("CHARACTER VARYING", "VARCHAR"), ("VARCHAR2", "VARCHAR"), ("NVARCHAR2", "NVARCHAR"),
   ("TIMESTAMP_LTZ", "TIMESTAMPLTZ"), ("TIMESTAMP_NTZ", "TIMESTAMPNTZ"), ("HUGEINT", "INT128"),
   ("UHUGEINT", "UINT128"), ("BIGNUMERIC", "BIGDECIMAL"), ("BIGNUM", "BIGNUM")]

def ownSpellings : Dialect → List (String × String)
  | .mysql =>
    [("BLOB", "BLOB"), ("TIMESTAMP", "TIMESTAMPTZ"), ("SIGNED", "BIGINT"),
     ("SIGNED INTEGER", "BIGINT"), ("UNSIGNED", "UBIGINT"), ("UNSIGNED INTEGER", "UBIGINT")]
  | .postgresql => [("FLOAT", "DOUBLE"), ("INT8", "BIGINT")]
  | .sqlserver =>
    [("TIMESTAMP", "ROWVERSION"), ("TINYINT", "UTINYINT"), ("NTEXT", "TEXT"),
     ("DATETIMEOFFSET", "TIMESTAMPTZ"), ("UNIQUEIDENTIFIER", "UUID"), ("SQL_VARIANT", "VARIANT")]
  | .sqlite => []
  | .oracle => [("BINARY_DOUBLE", "DOUBLE"), ("BINARY_FLOAT", "FLOAT")]

def sharedName (d : Dialect) (key : String) : String :=
  (((ownSpellings d).lookup key).orElse fun _ => spellings.lookup key).getD key

def catalogNames : List String :=
  ["CSTRING", "OID", "REGCLASS", "REGCOLLATION", "REGCONFIG", "REGDICTIONARY", "REGNAMESPACE",
   "REGOPER", "REGOPERATOR", "REGPROC", "REGPROCEDURE", "REGROLE", "REGTYPE"]

def containers : List String := ["ARRAY", "LIST", "MAP", "NULLABLE", "RANGE", "STRUCT", "OBJECT"]

def times : List String :=
  ["TIME", "TIMETZ", "TIMESTAMP", "TIMESTAMPNTZ", "TIMESTAMPTZ", "TIMESTAMPLTZ"]

def zoned (name : String) : String :=
  if name = "TIME" ∨ name = "TIMETZ" then "TIMETZ" else "TIMESTAMPTZ"

def unsignedNames : List (String × String) :=
  [("BIGINT", "UBIGINT"), ("INT", "UINT"), ("MEDIUMINT", "UMEDIUMINT"),
   ("SMALLINT", "USMALLINT"), ("TINYINT", "UTINYINT"), ("DECIMAL", "UDECIMAL"),
   ("DOUBLE", "UDOUBLE")]

def isTypeToken (d : Dialect) (t : Token) : Bool :=
  t.kind == .type || t.kind == .stray || (d == .mysql && t.is "SET")

structure Arguments where
  words : List String := []
  strings : List String := []

def Arguments.add (a : Arguments) (e : Expr) : Arguments :=
  match e with
  | .string text => { a with strings := a.strings ++ [text] }
  | .column [name] => { a with words := a.words ++ [Text.upper name.text] }
  | e => { a with words := a.words ++ [e.leadingText] }

def Arguments.ofValue (a : Arguments) (e : Expr) : Arguments :=
  match e with
  | .string text => { a with strings := a.strings ++ [text] }
  | e => { a with words := a.words ++ [e.leadingText] }

def size? (d : Dialect) (n : Nested) : TokenReader (Option Expr) := do
  match ← n.operand with
  | none => return none
  | some e =>
    let _ ← anyWord? d
    return some e

inductive Head where
  | known (name : String)
  | declared (name : String)

def declaredName (d : Dialect) (first : String) : TokenReader String :=
  extend (fun name => do
    if ← take "." then
      let part ← anyWord? d
      return some (name ++ "." ++ (part.map (·.text)).getD "None")
    else return none) first

/-- A name that stands for a type. Its text is looked at once more, as quotes may hide the name of
a known type. -/
def namedHead? (d : Dialect) : TokenReader (Option Head) := do
  let before ← get
  if ← take "?" then return none
  match ← takeIf fun t => t.kind == .word || t.kind == .quotedName with
  | none => return none
  | some t =>
    match (Lexer.tokens? d t.text.toList).getD [] with
    | [] => reject before t
    | first :: _ =>
      if isTypeToken d first then return some (.known (sharedName d first.key))
      else reject before t
where
  reject (before : List Token) (t : Token) : TokenReader (Option Head) := do
    if d = .mysql then
      set before
      return none
    else return some (.declared (← declaredName d t.text))

def head? (d : Dialect) (named : Bool) : TokenReader (Option Head) := do
  match ← takeIf (isTypeToken d) with
  | some t => return some (.known (if t.kind = .stray then "UNKNOWN" else sharedName d t.key))
  | none => if named then namedHead? d else return none

inductive Content where
  | arguments (a : Arguments)
  | types (list : List TypeSpec)

def field? (n : Nested) : TokenReader (Option TypeSpec) := do
  let before ← get
  match ← plainName? with
  | some _ =>
    let _ ← take ":"
    match ← n.type with
    | some type => return some type
    | none =>
      set before
      n.type
  | none => n.type

def part? (n : Nested) (name : String) : TokenReader (Option TypeSpec) :=
  if ["STRUCT", "OBJECT", "UNION"].contains name then field? n else n.type

/-- The contents of the parentheses, if they open; `none` in the place of contents that do not
close or are empty. -/
def content? (d : Dialect) (n : Nested) (head : Head) : TokenReader (Option (Option Content)) := do
  if !(← take "(") then return none
  match head with
  | .known name =>
    if containers.contains name then
      let list ← separated (part? n name)
      closed list.isEmpty (.types list)
    else if name = "ENUM" ∨ name = "SET" then
      let list ← separated n.equality
      closed list.isEmpty (.arguments (list.foldl Arguments.ofValue {}))
    else sizes
  | .declared _ => sizes
where
  closed (isEmpty : Bool) (content : Content) : TokenReader (Option (Option Content)) := do
    if isEmpty then return some none
    else if ← take ")" then return some (some content)
    else return some none
  sizes : TokenReader (Option (Option Content)) := do
    let list ← separated (size? d n)
    closed list.isEmpty (.arguments (list.foldl Arguments.add {}))

def angled? (n : Nested) (name : String) : TokenReader (Option (List TypeSpec)) := do
  if ← pure (containers.contains name) <&&> take "<" then
    let list ← separated (part? n name)
    expect ">"
    return some list
  else return none

def timeName (name : String) : TokenReader String := do
  if !times.contains name then return name
  if ← takeAll ["WITH", "TIME", "ZONE"] then return zoned name
  if ← takeAll ["WITH", "LOCAL", "TIME", "ZONE"] then return "TIMESTAMPLTZ"
  let _ ← takeAll ["WITHOUT", "TIME", "ZONE"]
  return name

/-- Units after an interval; with one, the type goes without a name. -/
def intervalName (name : String) : TokenReader String := do
  if name != "INTERVAL" then return name
  match ← takeIf (·.kind == .word) with
  | none => return name
  | some _ =>
    if ← take "TO" then
      let _ ← takeIf (·.kind == .word)
    return ""

def unsignedName (name : String) : TokenReader String := do
  if ← take "UNSIGNED" then
    match unsignedNames.lookup name with
    | some unsigned => return unsigned
    | none => fail
  else return name

def ofHead (head : Head) (a : Arguments) (types : List TypeSpec) : TypeSpec :=
  match head with
  | .declared name => .declared name a.words a.strings
  | .known name =>
    if name = "ARRAY" then .array types.getLast?
    else if name = "USER-DEFINED" then .declared "" a.words a.strings
    else if catalogNames.contains name then .catalog name
    else .scalar name a.words a.strings

def suffixed (n : Nested) (isArray : Bool) (type : TypeSpec) : TokenReader TypeSpec := do
  let type ← extend (fun _ => do
    if ← take "LIST" then return some (.scalar "LIST" [] []) else return none) type
  if ← pure isArray <&&> takeAll ["[", "]"] then return type
  let word ← take "ARRAY"
  let type ← if word then bracketed type true else pure type
  extend (fun type => do
    if ← take "[" then return some (← bracketed type false) else return none) type
where
  bracketed (type : TypeSpec) (word : Bool) : TokenReader TypeSpec := do
    if word then
      let _ ← take "["
    let _ ← separated n.disjunction
    let _ ← take "]"
    return .array (some type)

/-- A type. `named` admits names that schemas declare. Where a type is only a guess, arguments count
for a type only before a string. -/
def read? (d : Dialect) (n : Nested) (named guess : Bool) : TokenReader (Option TypeSpec) := do
  let before ← get
  match ← head? d named with
  | none => return none
  | some head =>
    match ← content? d n head with
    | some none =>
      set before
      return none
    | some (some content) =>
      if guess && !((← next?).map (·.kind == .string)).getD false then
        set before
        return none
      finish before head content
    | none => finish before head (.arguments {})
where
  finish (before : List Token) (head : Head) (content : Content) :
      TokenReader (Option TypeSpec) := do
    let (a, types) := match content with
      | .arguments a => (a, ([] : List TypeSpec))
      | .types list => ({}, list)
    match head with
    | .declared name => return some (← suffixed n false (ofHead (.declared name) a types))
    | .known name =>
      if catalogNames.contains name then return some (.catalog name)
      let types := ((← angled? n name)).getD types
      let name ← timeName name
      let name ← intervalName name
      let name ← unsignedName name
      if name = "NULLABLE" ∧ types.isEmpty then
        set before
        return none
      return some (← suffixed n (name = "ARRAY") (ofHead (.known name) a types))

end TypeSpec

end RelSchema.Sql
