import RelSchema.Sql.Expr.Printer
import RelSchema.Sql.Expr.Reader
import RelSchema.Sql.Item

namespace RelSchema.Sql.Item

open TokenReader

/-- How items are read: the dialect of the text, the one of the answer, readers for what is nested,
and a reader for items inside items. -/
structure Setting where
  reads : Dialect
  writes : Dialect
  nested : Nested
  names : TokenReader (List String)

def keyOption? (d : Dialect) : TokenReader (Option Unit) := do
  if ← take "ON" then
    let _ ← anyWord? d
    let actions := [["NO", "ACTION"], ["CASCADE"], ["RESTRICT"], ["SET", "NULL"],
      ["SET", "DEFAULT"]]
    if ← actions.anyM takeAll then return some () else fail
  else
    let options := [["NOT", "ENFORCED"], ["MATCH", "FULL"], ["MATCH", "PARTIAL"],
      ["MATCH", "SIMPLE"], ["INITIALLY", "DEFERRED"], ["INITIALLY", "IMMEDIATE"],
      ["USING", "BTREE"], ["USING", "HASH"], ["DEFERRABLE"], ["NORELY"], ["RELY"]]
    if ← options.anyM takeAll then return some () else return none

def keyOptions (d : Dialect) : TokenReader Unit := extend (fun _ => keyOption? d) ()

def wrappedNames (d : Dialect) : TokenReader (List String) :=
  wrapped (separated (return (← anyName? d).map (·.text)))

def ordering : TokenReader Unit := do
  let _ ← takeOneOf ["ASC", "DESC"]
  if !(← takeAll ["NULLS", "FIRST"]) then
    let _ ← takeAll ["NULLS", "LAST"]

def ordered? (s : Setting) : TokenReader (Option String) := do
  match ← s.nested.disjunction with
  | none => return none
  | some e =>
    ordering
    return some e.elementName

/-- A column of a primary key. In one dialect it may be cut to a length but has no order. -/
def keyPart? (s : Setting) : TokenReader (Option String) := do
  match s.reads with
  | .mysql =>
    match ← anyName? s.reads with
    | none => return none
    | some name =>
      if ← take "(" then
        let _ ← takeIf (·.kind == .number)
        expect ")"
      return some name.text
  | _ => ordered? s

def setting? (s : Setting) : TokenReader (Option Unit) := do
  match ← Expr.column? s.reads s.nested with
  | none => return none
  | some _ =>
    expect "="
    match ← Expr.bitwise? s.reads s.nested with
    | some _ => return some ()
    | none => return (← anyWord? s.reads).map fun _ => ()

def settings (s : Setting) : TokenReader Unit := do
  let _ ← wrapped (separated (setting? s))

def schemaList (s : Setting) : TokenReader (List String) := do
  if !(← isNext "(") then return []
  if (← isSecond "(") || (← isSecond "SELECT") || (← isSecond "WITH") then return []
  wrapped s.names

def tablePart? : TokenReader (Option String) :=
  either (return (← plainName?).map (·.text)) do
    return (← takeIf fun t => t.kind == .string).map (·.text)

def tableName : TokenReader String := do
  let first ← required tablePart?
  let table ← extend (fun _ => do
    if ← take "." then return some ((← tablePart?).getD "") else return none) first
  if table.isEmpty then fail
  return table

def target (s : Setting) : TokenReader Target := do
  let table ← tableName
  let _ ← take "*"
  return { table, columns := ← schemaList s }

def indexPart? (s : Setting) : TokenReader (Option Unit) := do
  match ← s.nested.disjunction with
  | none => return none
  | some _ =>
    let endsHere ← ["ASC", "DESC", "NULLS", "WITH", ",", ")"].anyM isNext
    if !endsHere then
      let _ ← tableName
    ordering
    if ← take "WITH" then skip
    return some ()

def indexParameters (s : Setting) : TokenReader Unit := do
  if ← take "USING" then
    let _ ← anyWord? s.reads
  if ← isNext "(" then
    let _ ← wrapped (separated (indexPart? s))
  if ← take "INCLUDE" then
    let _ ← wrappedNames s.reads
  if ← take "PARTITION BY" then
    let _ ← separated s.nested.disjunction
  if ← take "WITH" then settings s
  if ← takeAll ["USING", "INDEX", "TABLESPACE"] then
    let _ ← anyWord? s.reads
  if ← take "WHERE" then
    let _ ← required s.nested.disjunction
  if ← take "ON" then
    let _ ← anyName? s.reads

def references? (s : Setting) : TokenReader (Option Target) := do
  if ← take "REFERENCES" then
    let found ← target s
    keyOptions s.reads
    return some found
  else return none

def foreignKey (s : Setting) : TokenReader Rule := do
  let columns ← if ← isNext "REFERENCES" then pure [] else wrappedNames s.reads
  let found ← references? s
  extend (fun _ => do
    if ← take "ON" then
      let _ ← required (takeOneOf ["DELETE", "UPDATE"])
      if !(← takeAll ["NO", "ACTION"]) then
        if ← take "SET" then
          let _ ← takeOneOf ["NULL", "DEFAULT"]
        else skip
      return some ()
    else return none) ()
  keyOptions s.reads
  return .foreignKey columns found

def primaryKey (s : Setting) : TokenReader Rule := do
  let _ ← takeOneOf ["ASC", "DESC"]
  if ← isNext "(" then
    let columns ← wrapped (separated (keyPart? s))
    if columns.isEmpty then fail
    indexParameters s
    keyOptions s.reads
    return .primaryKey columns
  else
    keyOptions s.reads
    return .primaryKey none

def onConflict : TokenReader Unit := do
  if ← takeAll ["ON", "CONFLICT"] then
    if ← take "DO" then
      let _ ← required (takeOneOf ["NOTHING", "UPDATE"])
    else
      let _ ← required (takeOneOf ["ABORT", "FAIL", "IGNORE", "REPLACE", "ROLLBACK", "UPDATE"])

def ruleWords : List String :=
  ["AUTOINCREMENT", "AUTO_INCREMENT", "BUCKET", "CASESPECIFIC", "CHARACTER SET", "CHECK",
   "CLUSTERED", "COLLATE", "COMMENT", "COMPRESS", "DEFAULT", "ENCODE", "EPHEMERAL", "EXCLUDE",
   "FOREIGN KEY", "FORMAT", "GENERATED", "IDENTITY", "INLINE", "LIKE", "NONCLUSTERED", "NOT",
   "NULL", "ON", "PATH", "PERIOD", "PRIMARY KEY", "REFERENCES", "TITLE", "TRUNCATE", "TTL",
   "UNIQUE", "UPPERCASE", "WITH"]

/-- The columns that no two rows agree in, with what may be said about the index. In one dialect a
word that opens another rule is no name of the index. -/
def unique (s : Setting) : TokenReader Rule := do
  match s.reads with
  | .sqlserver =>
    if (← takeOneOf ["CLUSTERED", "NONCLUSTERED"]).isSome then
      let _ ← wrapped (separated (ordered? s))
      return .unique []
    let _ ← plainName?
    return .unique (← schemaList s)
  | .sqlite =>
    if ((← next?).map fun t => ruleWords.contains t.key).getD false then return .unique []
    indexed
  | _ => indexed
where
  indexed : TokenReader Rule := do
    let _ ← takeOneOf ["KEY", "INDEX"]
    let _ ← takeAll ["NULLS", "NOT", "DISTINCT"]
    if s.reads != .postgresql then
      let _ ← plainName?
    let columns ← schemaList s
    if ← take "USING" then
      let _ ← anyWord? s.reads
    onConflict
    keyOptions s.reads
    return .unique columns

def check (s : Setting) : TokenReader Rule := do
  let e ← wrapped (required s.nested.disjunction)
  let _ ← take "ENFORCED"
  return if e.isComplete then .check (e.render s.writes) e.mentions else .incomplete

def counting (s : Setting) : TokenReader Rule := do
  let bitwise := Expr.bitwise? s.reads s.nested
  if ← isNext "(" then
    let _ ← wrapped (separated bitwise)
  else if ← take "START" then
    let _ ← bitwise
    let _ ← take "INCREMENT"
    let _ ← bitwise
    let _ ← takeOneOf ["ORDER", "NOORDER"]
  return .other

def generated (s : Setting) : TokenReader Rule := do
  let bitwise := Expr.bitwise? s.reads s.nested
  if ← takeAll ["BY", "DEFAULT"] then
    let _ ← takeAll ["ON", "NULL"]
  else
    let _ ← take "ALWAYS"
  let _ ← take "AS"
  if ← take "ROW" then
    let _ ← takeOneOf ["START", "END"]
    let _ ← take "HIDDEN"
    return .other
  let identity ← take "IDENTITY"
  if ← take "(" then
    if ← take "START WITH" then
      let _ ← bitwise
    for words in [["INCREMENT", "BY"], ["MINVALUE"], ["MAXVALUE"]] do
      if ← takeAll words then
        let _ ← bitwise
    if !(← take "CYCLE") then
      let _ ← takeAll ["NO", "CYCLE"]
    if identity then
      let _ ← separated bitwise
    else
      let _ ← Expr.range? s.reads s.nested
    expect ")"
  if s.reads = .mysql ∨ s.reads = .postgresql then
    let _ ← takeOneOf ["STORED", "VIRTUAL"]
  return .other

def index (s : Setting) : TokenReader Rule := do
  let _ ← takeOneOf ["INDEX", "KEY"]
  let _ ← plainName?
  if ← take "USING" then
    let _ ← anyWord? s.reads
  let columns ← wrapped (separated (ordered? s))
  if columns.isEmpty then fail
  return .other

def compressed (s : Setting) : TokenReader Rule := do
  let bitwise := Expr.bitwise? s.reads s.nested
  if ← isNext "(" then
    let _ ← wrapped (separated bitwise)
  else
    let _ ← bitwise
  return .other

def spread? (s : Setting) : TokenReader (Option Rule) := do
  if ← isNext "(" then
    let part := either (Expr.primary? s.reads s.nested) (Expr.column? s.reads s.nested)
    let _ ← wrapped (separated part)
    return some .other
  else return none

def likeness (s : Setting) : TokenReader Rule := do
  let _ ← target s
  extend (fun _ => do
    if (← takeOneOf ["INCLUDING", "EXCLUDING"]).isSome then
      let _ ← required (anyName? s.reads)
      return some ()
    else return none) ()
  return .other

def stringOrWord (s : Setting) : TokenReader Unit := do
  match ← takeIf (·.kind == .string) with
  | some _ => return ()
  | none =>
    let _ ← required (anyWord? s.reads)

/-- The rule that a word opens, after that word. `none` if the word opens no rule here. -/
def ruleAfter? (s : Setting) (key : String) : TokenReader (Option Rule) := do
  let other (r : TokenReader Unit) : TokenReader (Option Rule) := do
    r
    return some .other
  let ofValue (r : TokenReader (Option Expr)) : TokenReader (Option Rule) := do
    let _ ← required r
    return some .other
  match key with
  | "PRIMARY KEY" => return some (← primaryKey s)
  | "UNIQUE" => return some (← unique s)
  | "FOREIGN KEY" => return some (← foreignKey s)
  | "CHECK" => return some (← check s)
  | "DEFAULT" =>
    let e ← required (Expr.bitwise? s.reads s.nested)
    return some (if e.isComplete then .default (e.render s.writes) else .incomplete)
  | "REFERENCES" =>
    let found ← target s
    keyOptions s.reads
    return some (.references found)
  | "NULL" => return some (.nullable true)
  | "NOT" =>
    if ← take "NULL" then return some (.nullable false)
    if ← take "CASESPECIFIC" <||> takeAll ["FOR", "REPLICATION"] then return some .other
    return none
  | "ON" =>
    if ← take "UPDATE" then ofValue (Expr.function? s.reads s.nested false false)
    else other do
      let _ ← required (anyName? s.reads)
  | "AUTOINCREMENT" | "AUTO_INCREMENT" | "IDENTITY" => return some (← counting s)
  | "GENERATED" => return some (← generated s)
  | "CHARACTER SET" | "FORMAT" | "TITLE" => other (stringOrWord s)
  | "COLLATE" => ofValue (Expr.column? s.reads s.nested)
  | "COMMENT" => other do
    let _ ← required (takeIf (·.kind == .string))
  | "CLUSTERED" | "NONCLUSTERED" => other do
    let _ ← wrapped (separated (ordered? s))
  | "CASESPECIFIC" | "UPPERCASE" => return some .other
  | "COMPRESS" => return some (← compressed s)
  | "INLINE" => other do
    let _ ← take "LENGTH"
    let _ ← required (Expr.bitwise? s.reads s.nested)
  | "PATH" => other do
    let _ ← required (takeIf (·.kind == .string))
  | "PERIOD" =>
    if ← take "FOR TIMESTAMP" <||> take "FOR SYSTEM_TIME" then other do
      if (← wrappedNames s.reads).length < 2 then fail
    else return none
  | "EPHEMERAL" | "TTL" => other do
    let _ ← Expr.bitwise? s.reads s.nested
  | "WITH" => other (settings s)
  | "ENCODE" => other do
    let _ ← required (takeIf (·.kind == .word))
  | "EXCLUDE" => other (indexParameters s)
  | "BUCKET" | "TRUNCATE" => spread? s
  | "LIKE" => return some (← likeness s)
  | "ZEROFILL" => if s.reads = .mysql then return some .other else return none
  | "FULLTEXT" | "INDEX" | "KEY" | "SPATIAL" =>
    if s.reads = .mysql then return some (← index s) else return none
  | _ => return none

def openingWords (d : Dialect) : List String :=
  ["BUCKET", "CHECK", "EXCLUDE", "FOREIGN KEY", "LIKE", "PERIOD", "PRIMARY KEY", "TRUNCATE",
   "UNIQUE"] ++
    if d = .mysql then ["FULLTEXT", "INDEX", "KEY", "SPATIAL"] else []

def rule? (s : Setting) : TokenReader (Option Rule) := do
  let before ← get
  match ← takeIf (fun t => t.key != "" && t.kind != .symbol) with
  | none => return none
  | some t =>
    match ← ruleAfter? s t.key with
    | some rule => return some rule
    | none =>
      set before
      return none

def tableRules? (s : Setting) : TokenReader (Option (List Rule)) := do
  if ← take "CONSTRAINT" then
    let _ ← required (anyName? s.reads)
    let rules ← extend (fun found => do
      match ← rule? s with
      | some rule => return some (found ++ [rule])
      | none =>
        match ← Expr.function? s.reads s.nested false false with
        | some _ => return some (found ++ [.other])
        | none => return none) ([] : List Rule)
    if rules.isEmpty then fail
    return some rules
  else
    match ← next? with
    | some t =>
      if (openingWords s.reads).contains t.key then return (← rule? s).map fun rule => [rule]
      else return none
    | none => return none

structure Start where
  name : String
  element : String

def startOf (e : Expr) : Start :=
  let name := match e with
    | .string text | .number text => text
    | .null => "NULL"
    | .star => "*"
    | _ => ""
  { name, element := e.elementName }

def start? (s : Setting) : TokenReader (Option Start) :=
  either (return (← Expr.primary? s.reads s.nested).map startOf) <|
    either (return (← Expr.function? s.reads s.nested true false).map startOf) <|
      either (return (← Expr.placeholder? s.reads).map startOf) do
        return (← anyName? s.reads).map fun name => ⟨name.text, name.text⟩

def columnRule? (s : Setting) : TokenReader (Option Rule) := do
  let named ← if ← take "CONSTRAINT" then pure (← anyName? s.reads).isSome else pure false
  match ← rule? s with
  | some rule => return some rule
  | none => return if named then some .nameOnly else none

def computed? (s : Setting) (typed : Bool) : TokenReader (Option Rule) := do
  if ← pure typed <&&> isNext "AS" <&&> isSecond "(" then
    skip
    let _ ← required s.nested.disjunction
    let _ ← takeOneOf ["STORED", "VIRTUAL"]
    return some .other
  if ← (pure !typed <&&> take "AS") <||> take "ALIAS" <||> take "MATERIALIZED" then
    let _ ← required s.nested.disjunction
    let _ ← take "PERSISTED"
    let _ ← takeAll ["NOT", "NULL"]
    return some .other
  else return none

def columnEnd (s : Setting) : TokenReader Unit := do
  if s.reads = .sqlserver then
    if ← take "=" then
      let _ ← s.nested.disjunction
    let _ ← takeOneOf ["OUT", "OUTPUT", "READ_ONLY"]

inductive Reading where
  | item (i : Item) (element : String)
  | element (name : String)

def columnOrElement? (s : Setting) : TokenReader (Option Reading) := do
  let start ← start? s
  let type ← TypeSpec.read? s.reads s.nested true false
  if ← takeAll ["FOR", "ORDINALITY"] then
    let start ← required (pure start)
    columnEnd s
    return some (.item (.column start.name none []) start.element)
  let computed ← computed? s type.isSome
  let rules ← extend (fun found => do
    return (← columnRule? s).map fun rule => found ++ [rule]) computed.toList
  match start with
  | none => if type.isNone && rules.isEmpty then return none else fail
  | some start =>
    columnEnd s
    if type.isNone && rules.isEmpty then return some (.element start.element)
    else return some (.item (.column start.name type rules) start.element)

def reading? (s : Setting) : TokenReader (Option Reading) := do
  match ← tableRules? s with
  | some found => return some (.item (.rules found) "")
  | none => columnOrElement? s

def Reading.name : Reading → String
  | .item _ name => name
  | .element name => name

def setting (reads writes : Dialect) (nested : Nested) : Nat → Setting
  | 0 => { reads, writes, nested, names := fail }
  | depth + 1 =>
    let inner := setting reads writes nested depth
    { inner with names := return (← separated (reading? inner)).map Reading.name }

def readings? (reads writes : Dialect) (tokens : List Token) : Option (List Reading) := do
  let depth := tokens.length + 1
  let s := setting reads writes (Expr.nested reads depth) depth
  let opensQuery := match tokens with
    | _ :: t :: _ => t.is "(" || t.is "SELECT" || t.is "WITH"
    | _ => false
  if opensQuery then none
  let (found, rest) ← wrapped (separated (reading? s)) tokens
  if rest.isEmpty then some found else none

/-- Reads an item by the grammar of one dialect. Items that say nothing come out without rules. -/
def readAs? (reads writes : Dialect) (text : List Char) : Option Item := do
  let tokens ← Lexer.tokens? reads ('(' :: text ++ [')'])
  match ← readings? reads writes tokens with
  | [.item i _] => some i
  | [.element _] => some (.rules [])
  | _ => none

def grammars (d : Dialect) : List Dialect := [d, .mysql, .postgresql, .sqlserver].eraseDups

def read? (d : Dialect) (text : List Char) : Option Item :=
  (grammars d).findSome? fun reads => readAs? reads d text

end RelSchema.Sql.Item
