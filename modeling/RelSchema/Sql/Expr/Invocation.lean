import RelSchema.Sql.Expr.Query

namespace RelSchema.Sql.Expr

open TokenReader

def functionKeywords : List String :=
  ["ALL", "ANY", "COLLATE", "CALL", "CURRENT_DATE", "CURRENT_SCHEMA", "CURRENT_TIME",
   "CURRENT_TIMESTAMP", "CURRENT_USER", "CURRENT_CATALOG", "EXISTS", "FILTER", "FIRST", "FORMAT",
   "GLOB", "ILIKE", "INDEX", "INSERT", "ISNULL", "LEFT", "LIKE", "LOCALTIME", "LOCALTIMESTAMP",
   "MATCH", "MERGE", "MOD", "NEXT", "OFFSET", "PRIMARY KEY", "REPLACE", "RIGHT", "RLIKE", "ROW",
   "SEQUENCE", "SESSION_USER", "SOME", "SYSTEM_USER", "TABLE", "TRUNCATE", "UNNEST",
   "WINDOW", "XOR"]

def ownFunctionKeywords : Dialect → List String
  | .mysql => ["DATABASE", "SCHEMA", "VALUES"]
  | _ => []

def opensFunction (d : Dialect) (t : Token) : Bool :=
  match t.kind with
  | .word | .quotedName | .type => true
  | .keyword => functionKeywords.contains t.key || (ownFunctionKeywords d).contains t.key
  | _ => false

def wordCall? (d : Dialect) (key : String) : Option Expr :=
  match key with
  | "CURRENT_TIMESTAMP" => some (.current .timestamp [])
  | "CURRENT_DATE" => some (.current .date [])
  | "CURRENT_TIME" => some (.current .time [])
  | "CURRENT_USER" => some (.current .user [])
  | "LOCALTIME" => some (.current .localTime [])
  | "LOCALTIMESTAMP" => some (.current .localTimestamp [])
  | "SESSION_USER" => some (.word "SESSION_USER")
  | "SYSTEM_USER" => if d = .sqlserver then some (.current .user []) else none
  | "SYSDATE" => if d = .oracle then some (.current .systemDate []) else none
  | "SYSTIMESTAMP" => if d = .oracle then some (.current .systemTimestamp []) else none
  | _ => none

def choiceRest (n : Nested) : TokenReader Expr := do
  let subject ← if ← isNext "WHEN" then pure none else n.disjunction
  let branches ← extend (fun found => do
    if ← take "WHEN" then
      let condition ← required n.disjunction
      let _ ← take "THEN"
      let result ← required n.disjunction
      return some (found ++ [(condition, result)])
    else return none) ([] : List (Expr × Expr))
  let otherwise ← if ← take "ELSE" then n.disjunction else pure none
  expect "END"
  if branches.isEmpty then fail
  return .choice subject branches otherwise

def conditionRest (n : Nested) (condition : Expr) : TokenReader Expr := do
  let _ ← take "THEN"
  let first ← required n.disjunction
  let second ← if ← take "ELSE" then n.disjunction else pure none
  let _ ← take "END"
  return .call "IF" (condition :: first :: second.toList)

/-- A type that says no more than how the characters of a text are encoded. -/
def encodedText (charset : String) : TypeSpec := .declared ("CHAR CHARACTER SET " ++ charset) [] []

def castRest (n : Nested) (safe : Bool) : TokenReader Expr := do
  let e ← required n.disjunction
  expect "AS"
  let type ← required n.type
  let type ← if ← take "CHARACTER SET" then
      pure (encodedText (← required (takeIf (·.kind != .symbol))).text)
    else pure type
  return if safe then .tryCast e type else .cast e type

/-- A conversion: the type comes first in one dialect, and last in the others. -/
def convertRest (d : Dialect) (n : Nested) (safe : Bool) : TokenReader Expr := do
  if d = .sqlserver then
    let type ← required n.type
    let _ ← take ","
    match ← separated n.disjunction with
    | [e] => return .convert safe type e none
    | [e, style] => return .convert safe type e (some style)
    | _ => fail
  else
    let e ← required n.bitwise
    if ← take "USING" then
      return .cast e (encodedText (← required (anyWord? d)).text)
    expect ","
    let type ← required n.type
    return if safe then .tryCast e type else .cast e type

def overlayRest (n : Nested) : TokenReader Expr := do
  let e ← required n.bitwise
  expect "PLACING"
  let part ← required n.bitwise
  expect "FROM"
  let start ← required n.bitwise
  let length ← if ← take "FOR" then n.bitwise else pure none
  return .call "OVERLAY" (e :: part :: start :: length.toList)

def substringRest (d : Dialect) (n : Nested) : TokenReader Expr := do
  let arguments ← separated n.bitwise
  let start ← if ← take "FROM" then n.bitwise else pure none
  let length ← if ← take "FOR" then n.bitwise else pure none
  let start := if length.isSome then start.orElse fun _ => some (.number "1") else start
  required (pure (ofCall? d "SUBSTRING" (arguments ++ start.toList ++ length.toList)))

def trimRest (n : Nested) : TokenReader Expr := do
  let side : TrimSide := match ← takeOneOf ["BOTH", "LEADING", "TRAILING"] with
    | some "BOTH" => .both
    | some "LEADING" => .leading
    | some _ => .trailing
    | none => .unsaid
  let first ← n.bitwise
  if ← take "FROM" then return .trim side (← required n.bitwise) first
  let marks ← if ← take "," then n.bitwise else pure none
  return .trim side (← required (pure first)) marks

def positionRest (n : Nested) : TokenReader Expr := do
  match ← separated n.bitwise with
  | [part] =>
    expect "IN"
    return .call "STRPOS" [← required n.bitwise, part]
  | part :: whole :: rest => return .call "STRPOS" (whole :: part :: rest)
  | [] => fail

def extractRest (d : Dialect) (n : Nested) : TokenReader Expr := do
  let field ← match ← string? with
    | some text => pure ("'" ++ text ++ "'")
    | none => pure (Text.upper (← required (anyWord? d)).text)
  if !(← take "FROM") then expect ","
  return .extract field (← required n.bitwise)

def datePartRest (d : Dialect) (n : Nested) : TokenReader Expr := do
  let field ← required (anyWord? d)
  expect ","
  let name := if d = .sqlserver then partName field.text else field.text
  return .extract name (← required n.bitwise)

def charactersRest (d : Dialect) (n : Nested) : TokenReader Expr := do
  let codes ← separated n.disjunction
  let charset ← if ← take "USING" then anyWord? d else pure none
  return .characters codes (charset.map (·.text))

def searchModifier : TokenReader String := do
  if ← takeAll ["IN", "NATURAL", "LANGUAGE", "MODE"] then
    if ← takeAll ["WITH", "QUERY", "EXPANSION"] then
      return "IN NATURAL LANGUAGE MODE WITH QUERY EXPANSION"
    return "IN NATURAL LANGUAGE MODE"
  if ← takeAll ["IN", "BOOLEAN", "MODE"] then return "IN BOOLEAN MODE"
  if ← takeAll ["WITH", "QUERY", "EXPANSION"] then return "WITH QUERY EXPANSION"
  return ""

def pair? (n : Nested) : TokenReader (Option Expr) := do
  let _ ← take "KEY"
  match ← n.operand with
  | none => return none
  | some key =>
    let _ ← takeOneOf [":", ",", "IS"]
    let _ ← take "VALUE"
    return some (.tuple [key, ← required n.bitwise])

def documentRest (n : Nested) : TokenReader Expr := do
  if ← isNext ")" then return .call "JSON_OBJECT" []
  if ← take "*" then return .call "JSON_OBJECT" [.star]
  return .call "JSON_OBJECT" (← separated (pair? n))

def aggregateRest (d : Dialect) (n : Nested) : TokenReader Expr := do
  let isDistinct ← take "DISTINCT"
  let values ← separated n.disjunction
  match values with
  | [] => fail
  | first :: rest =>
    let first := if isDistinct then .distinct [first] else first
    let keys ← order d n
    let first := if keys.isEmpty then first else .sorted first keys
    if d = .mysql then
      let separator ← if ← take "SEPARATOR" then literal? else pure none
      let joined := if rest.isEmpty then first else .call "CONCAT" (first :: rest)
      return .call "GROUP_CONCAT" (joined :: separator.toList)
    else return .call "GROUP_CONCAT" (first :: rest.take 1)

def ownGrammar? (d : Dialect) (n : Nested) (name : String) : Option (TokenReader Expr) :=
  match name with
  | "CAST" => some (castRest n false)
  | "TRY_CAST" | "SAFE_CAST" => some (castRest n true)
  | "CONVERT" => if d = .oracle then none else some (convertRest d n false)
  | "TRY_CONVERT" => some (convertRest d n true)
  | "SUBSTRING" => some (substringRest d n)
  | "SUBSTR" => if d = .mysql then some (substringRest d n) else none
  | "OVERLAY" => some (overlayRest n)
  | "TRIM" => some (trimRest n)
  | "POSITION" => some (positionRest n)
  | "EXTRACT" => some (extractRest d n)
  | "DATE_PART" => if d = .postgresql then some (datePartRest d n) else none
  | "DATEPART" => if d = .sqlserver then some (datePartRest d n) else none
  | "CHAR" | "CHR" => some (charactersRest d n)
  | "DECODE" => some do return ofDecode (← separated n.disjunction)
  | "JSON_OBJECT" => some (documentRest n)
  | "STRING_AGG" => some (aggregateRest .postgresql n)
  | "GROUP_CONCAT" => if d = .mysql then some (aggregateRest .mysql n) else none
  | "VALUES" =>
    if d = .mysql then some do
      return .invoke ⟨"VALUES", false⟩ [.label (← required (anyName? d))]
    else none
  | "MATCH" => some do
    let columns ← separated n.operand
    if !(← takeAll [")", "AGAINST", "("]) then fail
    let text ← required string?
    return .search columns (.string text) (← searchModifier)
  | _ => none

def frame : TokenReader String := do
  match ← takeOneOf ["ROWS", "RANGE"] with
  | none => return ""
  | some kind =>
    let isBetween ← take "BETWEEN"
    let start ← bound
    let stop ← if isBetween then
        expect "AND"
        bound
      else pure "CURRENT ROW"
    return kind ++ " BETWEEN " ++ start ++ " AND " ++ stop
where
  bound : TokenReader String := do
    if ← takeAll ["CURRENT", "ROW"] then return "CURRENT ROW"
    let distance ← if ← take "UNBOUNDED" then pure "UNBOUNDED" else
      pure (← required (takeIf (·.kind == .number))).text
    return distance ++ " " ++ (← required (takeOneOf ["PRECEDING", "FOLLOWING"]))

def windowed (d : Dialect) (n : Nested) (e : Expr) : TokenReader Expr := do
  if !(← take "OVER") then return e
  if ← take "(" then
    let partition ← if ← take "PARTITION BY" then separated n.disjunction else pure []
    let keys ← order d n
    let rows ← frame
    expect ")"
    return .overRows e partition keys rows
  else return .overNamed e (← required (anyName? d))

/-- The call of a function after the parenthesis. `qualified` tells that the function belongs to
something, so that nothing is known of it. -/
def callRest (d : Dialect) (n : Nested) (qualified : Bool) (t : Token) : TokenReader Expr := do
  let spelling := Text.upper t.text
  match if qualified then none else ownGrammar? d n spelling with
  | some rest =>
    let e ← rest
    expect ")"
    return e
  | none =>
    if ["ALL", "ANY", "SOME", "EXISTS"].contains t.key then
      match ← n.query with
      | some inner =>
        expect ")"
        return .call (if t.key = "SOME" then "ANY" else t.key) [inner]
      | none => generic spelling
    else generic spelling
where
  generic (spelling : String) : TokenReader Expr := do
    let known := !qualified && isKnown d spelling
    let arguments ← separated (argument? d n (!known))
    expect ")"
    if known then required (pure (ofCall? d spelling arguments))
    else return .invoke ⟨t.text, t.kind == .quotedName⟩ arguments

/-- A function and its arguments, or one of the words that stand for a function without any. Where
nothing but a name makes sense, nearly every token may be a function. -/
def function? (d : Dialect) (n : Nested) (anyToken qualified : Bool) :
    TokenReader (Option Expr) := do
  match ← next? with
  | none => return none
  | some t =>
    if t.is "CASE" && !(← isSecond ".") then
      skip
      return some (← windowed d n (← choiceRest n))
    if t.is "ANY" then
      skip
      return some (.call "ANY" [← required n.bitwise])
    if d = .sqlserver then
      if ← takeAll ["NEXT", "VALUE", "FOR"] then
        let first ← required (anyName? d)
        let parts ← extend (fun found => do
          if ← take "." then return some (found ++ [← required (anyName? d)])
          else return none) [first]
        return some (.nextValue (.column parts))
    if t.is "IF" && !(← isSecond "(") then
      let before ← get
      skip
      match ← n.disjunction with
      | some condition => return some (← conditionRest n condition)
      | none => set before
    if ← isSecond "(" then
      if (if anyToken then !isReserved d t && t.kind != .string else opensFunction d t) then
        skip
        skip
        return some (← windowed d n (← callRest d n qualified t))
      else return none
    match wordCall? d t.key with
    | some e =>
      skip
      return some e
    | none => return none

end RelSchema.Sql.Expr
