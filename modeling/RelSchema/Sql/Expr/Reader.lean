import RelSchema.Sql.Expr.Invocation
import RelSchema.Text.Character

namespace RelSchema.Sql.Expr

open TokenReader

abbrev Operators := List (String × (Expr → Expr → Expr))

def takeOperator (operators : Operators) : TokenReader (Option (Expr → Expr → Expr)) := do
  match ← takeOneOf (operators.map (·.1)) with
  | some key => return operators.lookup key
  | none => return none

def chain (operators : Operators) (operand : TokenReader (Option Expr)) :
    TokenReader (Option Expr) := do
  match ← operand with
  | none => return none
  | some first =>
    let whole ← extend (fun left => do
      match ← takeOperator operators with
      | some op => return some (op left (← required operand))
      | none => return none) first
    return some whole

def takeNot : TokenReader Bool := take "NOT" <||> take "!"

def field? (d : Dialect) (n : Nested) : TokenReader (Option Expr) :=
  either (primary? d n) <| either (function? d n false false) <| either (placeholder? d) do
    return (← plainName?).map fun name => .column [name]

def index? (n : Nested) : TokenReader (Option Expr) := do
  match ← n.disjunction with
  | none => return none
  | some e =>
    if ← take ":" then return some (.binary .slice e (← required n.disjunction))
    else return some e

def bracedTimes : List (String × String) := [("D", "DATE"), ("T", "TIME"), ("TS", "TIMESTAMP")]

def braceRest (n : Nested) : TokenReader Expr := do
  let e ← match ← takeOneOf (bracedTimes.map (·.1)) with
    | some key =>
      pure (Expr.call ((bracedTimes.lookup key).getD key) [.string (← required string?)])
    | none => pure (.struct (← separated n.disjunction))
  expect "\x7d"
  return e

def bracketed? (n : Nested) : TokenReader (Option Expr) := do
  if ← take "[" then
    let items ← separated (index? n)
    expect "]"
    return some (.array items)
  if ← take "\x7b" then return some (← braceRest n)
  return none

/-- What a part belongs to: columns stand for nothing but their names there. -/
def asOwner (e : Expr) : Expr :=
  match e with
  | .column (first :: rest) => rest.foldl (fun e name => .dot e (.label name)) (.label first)
  | e => e

def partRest (d : Dialect) (n : Nested) (e : Expr) : TokenReader Expr := do
  match ← function? d n true true with
  | some (.overRows f partition keys rows) =>
    return .overRows (.dot (asOwner e) f) partition keys rows
  | some f => return .dot (asOwner e) f
  | none =>
    match ← primary? d n with
    | some part => return .dot (asOwner e) part
    | none =>
      let name ← required (anyName? d)
      match e with
      | .column parts =>
        if parts.length < 4 then return .column (parts ++ [name])
        else return .dot (asOwner e) (.label name)
      | e => return .dot e (.label name)

/-- A type that a value is converted to. In one dialect also names and functions stand here, which
belong to the value. -/
def convertedRest (d : Dialect) (n : Nested) (e : Expr) : TokenReader Expr := do
  if d != .sqlserver then return .cast e (← required n.type)
  let isType := ((← next?).map (TypeSpec.isTypeToken d)).getD false
  match ← if isType then pure none else function? d n false false with
  | some f => return .inScope e f
  | none =>
    match ← required n.type with
    | .declared name _ _ => return .inScope e (.word name)
    | type => return .cast e type

def operandAfter (d : Dialect) (n : Nested) : TokenReader Expr :=
  required (either (field? d n) n.bitwise)

def follow? (d : Dialect) (n : Nested) (e : Expr) : TokenReader (Option Expr) := do
  if ← take "[" then
    let items ← separated (index? n)
    expect "]"
    match e with
    | .column [name] =>
      if Text.upper name.text = "ARRAY" then return some (.array items)
      else return some (.item (d == .postgresql) e items)
    | e => return some (.item (d == .postgresql) e items)
  if ← take "\x7b" then return some (← braceRest n)
  if ← take "." then return some (← partRest d n e)
  if ← take "::" then return some (← convertedRest d n e)
  if ← take "->" then return some (memberAt d false e (← operandAfter d n))
  if ← take "->>" then return some (memberAt d true e (← operandAfter d n))
  if ← take "#>" then return some (.call "JSONB_EXTRACT" [e, ← operandAfter d n])
  if ← take "#>>" then return some (.call "JSONB_EXTRACT_SCALAR" [e, ← operandAfter d n])
  if ← take "?" then return some (.call "JSONB_CONTAINS" [e, ← operandAfter d n])
  return none

def column? (d : Dialect) (n : Nested) : TokenReader (Option Expr) := do
  match ← either (field? d n) (bracketed? n) with
  | none => return none
  | some e =>
    match ← extend (follow? d n) e with
    | .column parts =>
      if ← take "(+)" then return some (.outerColumn parts) else return some (.column parts)
    | e => return some e

def intervalUnits : List String :=
  ["YEAR", "Y", "YY", "YYY", "YYYY", "YR", "YEARS", "YRS", "MONTH", "MM", "MON", "MONS", "MONTHS",
   "DAY", "D", "DD", "DAYS", "DAYOFMONTH", "DAYOFWEEK", "WEEKDAY", "DOW", "DW", "DAYOFWEEKISO",
   "WEEKDAY_ISO", "DOW_ISO", "DW_ISO", "DAYOFYEAR", "DOY", "DY", "WEEK", "W", "WK", "WEEKOFYEAR",
   "WOY", "WY", "WEEKISO", "WEEK_ISO", "WEEKOFYEARISO", "WEEKOFYEAR_ISO", "QUARTER", "Q", "QTR",
   "QTRS", "QUARTERS", "HOUR", "H", "HH", "HR", "HOURS", "HRS", "MINUTE", "M", "MI", "MIN",
   "MINUTES", "MINS", "SECOND", "S", "SEC", "SECONDS", "SECS", "MILLISECOND", "MS", "MSEC",
   "MSECS", "MSECOND", "MSECONDS", "MILLISEC", "MILLISECS", "MILLISECON", "MILLISECONDS",
   "MICROSECOND", "US", "USEC", "USECS", "MICROSEC", "MICROSECS", "USECOND", "USECONDS",
   "MICROSECONDS", "NANOSECOND", "NS", "NSEC", "NANOSEC", "NSECOND", "NSECONDS", "NANOSECS",
   "EPOCH_SECOND", "EPOCH_SECONDS", "EPOCH_MILLISECOND", "EPOCH_MILLISECONDS",
   "EPOCH_MICROSECOND", "EPOCH_MICROSECONDS", "EPOCH_NANOSECOND", "EPOCH_NANOSECONDS",
   "TIMEZONE_HOUR", "TZH", "TIMEZONE_MINUTE", "TZM", "DECADE", "DEC", "DECS", "DECADES",
   "MILLENIUM", "MIL", "MILS", "MILLENIA", "CENTURY", "C", "CENT", "CENTS", "CENTURIES"]

def pairedUnits : List String :=
  ["SECOND_MICROSECOND", "MINUTE_MICROSECOND", "MINUTE_SECOND", "HOUR_MICROSECOND",
   "HOUR_SECOND", "HOUR_MINUTE", "DAY_MICROSECOND", "DAY_SECOND", "DAY_MINUTE", "DAY_HOUR",
   "YEAR_MONTH"]

def isIntervalUnit (d : Dialect) (t : Token) : Bool :=
  let unit := Text.upper t.text
  intervalUnits.contains unit || (d == .mysql && pairedUnits.contains unit)

def countedUnit? (text : List Char) : Option ((List Char × List Char) × List Char) :=
  let text := text.dropWhile Text.isBlank
  let (minus, text) := match text with
    | '-' :: rest => (['-'], rest)
    | text => ([], text)
  let (whole, rest) := text.span Char.isDigit
  let (decimals, rest) := match rest with
    | '.' :: c :: rest =>
      if c.isDigit then
        let (more, rest) := rest.span Char.isDigit
        ('.' :: c :: more, rest)
      else ([], '.' :: c :: rest)
    | rest => ([], rest)
  let (unit, rest) := (rest.dropWhile Text.isBlank).span Char.isAlpha
  if whole.isEmpty || unit.isEmpty then none
  else some ((minus ++ whole ++ decimals, unit), rest.dropWhile Text.isBlank)

def countedUnits : Nat → List Char → List (List Char × List Char)
  | 0, _ | _, [] => []
  | fuel + 1, c :: rest =>
    match countedUnit? (c :: rest) with
    | some (part, rest) => part :: countedUnits fuel rest
    | none => countedUnits fuel rest

def intervalUnit? (d : Dialect) : TokenReader (Option String) := do
  if ← isNext "AS" then return none
  return (← anyWord? d).map fun t => unitName (Text.upper t.text)

def amountText? : Expr → Option String
  | .number text => some text
  | .unary .negate (.number text) => some ("-" ++ text)
  | _ => none

/-- The amount and the unit of an interval. What is in quotes may name its unit itself. -/
def amountWithUnit (d : Dialect) (amount : Expr) : TokenReader (Expr × String) := do
  match amount with
  | .string text =>
    let parts := countedUnits text.length text.toList
    let unit ← if parts.isEmpty then intervalUnit? d else pure none
    match parts with
    | [(count, own)] =>
      return (.string (String.ofList count), unitName (Text.upper (String.ofList own)))
    | _ => return (amount, unit.getD "")
  | amount =>
    let unit ← intervalUnit? d
    return (((amountText? amount).map Expr.string).getD amount, unit.getD "")

def interval? (d : Dialect) (n : Nested) : TokenReader (Option Expr) := do
  let before ← get
  if !(← take "INTERVAL") then return none
  let isText := ((← next?).map (·.kind == .string)).getD false
  let amount ← if isText then literal? else n.term
  let isName ← match amount with
    | none => pure true
    | some (.column [name]) =>
      pure (!name.quoted && !((← next?).map (isIntervalUnit d)).getD true)
    | some _ => pure false
  match amount with
  | some amount =>
    if isName then
      set before
      return none
    let (amount, unit) ← amountWithUnit d amount
    if ← take "TO" then
      let last ← required (anyWord? d)
      return some (.interval amount (unit ++ " TO " ++ Text.upper last.text))
    return some (.interval amount unit)
  | none =>
    set before
    return none

def typedLiteral (d : Dialect) (type : TypeSpec) (e : Expr) : Expr :=
  match d, type with
  | .oracle, .scalar "DATE" _ _ => .call "TO_DATE" [e, .string "YYYY-MM-DD"]
  | .oracle, .scalar "TIMESTAMP" _ _ =>
    .call "TO_TIMESTAMP" [e, .string "YYYY-MM-DD HH24:MI:SS.FF6"]
  | .oracle, type => .cast e type
  | _, .scalar "JSON" _ _ => .call "PARSE_JSON" [e]
  | _, type => .cast e type

def operand? (d : Dialect) (n : Nested) : TokenReader (Option Expr) :=
  either (interval? d n) do
    let before ← get
    match ← TypeSpec.read? d n false true with
    | none => column? d n
    | some type =>
      match ← primary? d n with
      | some (.string text) =>
        return some (typedLiteral d type (← extend (follow? d n) (.string text)))
      | some (.number text) =>
        return some (typedLiteral d type (← extend (follow? d n) (.number text)))
      | _ =>
        set before
        column? d n

def zoned (n : Nested) (e : Expr) : TokenReader Expr :=
  extend (fun e => do
    if ← takeAll ["AT", "TIME", "ZONE"] then
      return some (.binary .atTimeZone e (← required n.unary))
    else return none) e

def unary? (d : Dialect) (n : Nested) : TokenReader (Option Expr) := do
  if ← take "+" then return ← n.unary
  if ← take "-" then return some (.unary .negate (← required n.unary))
  if d = .postgresql then
    if ← take "|/" then return some (.call "SQRT" [← required n.unary])
    if ← take "||/" then return some (.call "CBRT" [← required n.unary])
  else if ← take "~" then return some (.unary .complement (← required n.unary))
  if ← takeNot then return some (.unary .not (← required n.equality))
  match ← operand? d n with
  | some e => return some (← zoned n e)
  | none => return none

def power? (d : Dialect) (n : Nested) : TokenReader (Option Expr) :=
  if d = .postgresql then chain [("^", .binary .power)] (unary? d n) else unary? d n

def factorOperators (d : Dialect) : Operators :=
  let whole := d == .postgresql || d == .sqlserver || d == .sqlite
  let safe := d == .mysql || d == .sqlite
  [("*", .binary .multiply), ("/", .binary (.divide whole safe)), ("<->", .binary .distance)] ++
    if d = .postgresql then [] else [("DIV", .binary .wholeDivide)]

def factor? (d : Dialect) (n : Nested) : TokenReader (Option Expr) :=
  chain (factorOperators d) (power? d n)

def collated (e collation : Expr) : Expr :=
  match collation with
  | .column [name] =>
    .binary .collate e (if name.quoted then .label name else .word name.text)
  | collation => .binary .collate e collation

def termOperators (d : Dialect) : Operators :=
  [("+", .binary .add), ("-", .binary .subtract), ("%", .binary .remainder),
   ("COLLATE", collated)] ++ if d = .mysql then [("MOD", .binary .remainder)] else []

def term? (d : Dialect) (n : Nested) : TokenReader (Option Expr) :=
  chain (termOperators d) (factor? d n)

def bitOperators : Dialect → Operators
  | .mysql => [("&", .binary .bitAnd), ("|", .binary .bitOr), ("^", .binary .bitXor)]
  | .postgresql =>
    [("&", .binary .bitAnd), ("|", .binary .bitOr), ("#", .binary .bitXor),
     ("||", .binary .concat)]
  | _ =>
    [("&", .binary .bitAnd), ("|", .binary .bitOr), ("^", .binary .bitXor),
     ("||", .binary .concat)]

def bitwise? (d : Dialect) (n : Nested) : TokenReader (Option Expr) := do
  match ← term? d n with
  | none => return none
  | some first =>
    let whole ← extend (fun left => do
      match ← takeOperator (bitOperators d) with
      | some op => return some (op left (← required (term? d n)))
      | none =>
        if ← take "??" then return some (.call "COALESCE" [left, ← required (term? d n)])
        if ← takeAll ["<", "<"] then return some (.binary .shiftLeft left (← required (term? d n)))
        if ← takeAll [">", ">"] then
          return some (.binary .shiftRight left (← required (term? d n)))
        return none) first
    return some whole

def matchesPattern (e pattern : Expr) : Expr := .call "REGEXP_LIKE" [e, pattern]

def testOperators (d : Dialect) : Operators :=
  [("LIKE", .binary .like), ("~~", .binary .like), ("ILIKE", .binary .ilike),
   ("~~*", .binary .ilike), ("RLIKE", matchesPattern), ("REGEXP", matchesPattern),
   ("~*", fun e pattern => .call "REGEXP_I_LIKE" [e, pattern]), ("GLOB", .binary .glob),
   ("~~~", .binary .glob), ("SIMILAR TO", .binary .similar), ("OVERLAPS", .binary .overlaps),
   ("-|-", .binary .touches)] ++
    match d with
    | .postgresql =>
      [("~", matchesPattern), ("&&", .binary .intersects), ("@>", .binary .contains),
       ("<@", fun part whole => .binary .contains whole part), ("?|", .binary .hasAnyKey),
       ("?&", .binary .hasAllKeys), ("#-", .binary .without)]
    | .sqlite => [("MATCH", .binary .textMatch)]
    | _ => []

def documentTest : TokenReader Expr := do
  let kind ← takeOneOf ["VALUE", "SCALAR", "ARRAY", "OBJECT"]
  let keys ← takeOneOf ["WITH", "WITHOUT"]
  let unique ← take "UNIQUE"
  let _ ← take "KEYS"
  return .word (" ".intercalate
    ("JSON" :: kind.toList ++ keys.toList ++ if unique then ["UNIQUE KEYS"] else []))

/-- What `IS` says of a value, with that word. Nothing but a literal or the like may follow. -/
def isTest? (d : Dialect) (n : Nested) (e : Expr) : TokenReader (Option Expr) := do
  let before ← get
  if !(← take "IS") then return none
  let negated ← takeNot
  if ← takeAll ["DISTINCT", "FROM"] then
    return some (.binary (if negated then .same else .distinct) e (← required (bitwise? d n)))
  let said ← if ← take "JSON" then pure (some (← documentTest)) else
    either (primary? d n) (return if ← take "UNKNOWN" then some .null else none)
  match said with
  | none =>
    set before
    return none
  | some said =>
    let test := Expr.binary .is e said
    return some (if negated then .unary .not test else test)

def inRest (d : Dialect) (n : Nested) (e : Expr) : TokenReader Expr := do
  if ← take "(" then
    let items ← separated (either n.query n.disjunction)
    expect ")"
    return .isIn e items
  if ← take "[" then
    let items ← separated (either n.query n.disjunction)
    expect "]"
    return .isIn e items
  match ← column? d n with
  | some whole => return .isInSet e whole
  | none => return .isIn e []

def namedRest (d : Dialect) (n : Nested) (e : Expr) : TokenReader Expr :=
  extend (fun left => do
    let opens ← take "("
    if !opens then return none
    let name ← extend (fun name => do
      if ← isNext ")" then return none
      return (← takeIf fun _ => true).map fun t => name ++ t.text) ""
    expect ")"
    let whole := Expr.binary (.named name) left (← required (bitwise? d n))
    let _ ← take "OPERATOR"
    return some whole) e

def ownTest? (d : Dialect) (n : Nested) (left : Option Expr) : TokenReader (Option Expr) := do
  match d with
  | .mysql =>
    if ← take "MEMBER OF" then
      let whole ← wrapped (required n.disjunction)
      return some (.call "JSON_ARRAY_CONTAINS" [← required (pure left), whole])
    if ← take "SOUNDS LIKE" then
      let other ← required (term? d n)
      return some (.binary .equal (.call "SOUNDEX" [← required (pure left)])
        (.call "SOUNDEX" [other]))
    return none
  | .postgresql =>
    if ← take "@@" then return some (.search left.toList (← required (bitwise? d n)) "")
    if ← take "OPERATOR" then return some (← namedRest d n (← required (pure left)))
    return none
  | _ => return none

def rangeTest? (d : Dialect) (n : Nested) (left : Option Expr) : TokenReader (Option Expr) :=
  either (ownTest? d n left) do
    match left with
    | none => return none
    | some e =>
      if ← take "BETWEEN" then
        let symmetric ← if ← take "SYMMETRIC" then pure (some true) else
          if ← take "ASYMMETRIC" then pure (some false) else pure none
        let low ← required (bitwise? d n)
        let _ ← take "AND"
        let high ← required (bitwise? d n)
        return some (.between symmetric e low high)
      if ← take "IN" then return some (← inRest d n e)
      match ← takeOperator (testOperators d) with
      | some op =>
        let test := op e (← required (bitwise? d n))
        if ← take "ESCAPE" then return some (.escape test (← required literal?))
        else return some test
      | none => isTest? d n e

def range? (d : Dialect) (n : Nested) : TokenReader (Option Expr) := do
  let left ← bitwise? d n
  let negated ← takeNot
  let tested ← match ← rangeTest? d n left with
    | some test => pure (some test)
    | none =>
      if ← take "ISNULL" <||> (pure negated <&&> take "NULL") then pure (left.map isNull)
      else pure left
  match tested with
  | none => return none
  | some e =>
    let e := if ← take "NOTNULL" then Expr.unary .not (isNull e) else e
    let e := if negated then Expr.unary .not e else e
    return some ((← isTest? d n e).getD e)

def comparison? (d : Dialect) (n : Nested) : TokenReader (Option Expr) :=
  chain [(">", .binary .greater), (">=", .binary .greaterEqual), ("<", .binary .less),
    ("<=", .binary .lessEqual)] (range? d n)

def equality? (d : Dialect) (n : Nested) : TokenReader (Option Expr) :=
  chain [("=", .binary .equal), ("==", .binary .equal), ("<>", .binary .notEqual),
    ("!=", .binary .notEqual), ("<=>", .binary .same)] (comparison? d n)

def conjunction? (d : Dialect) (n : Nested) : TokenReader (Option Expr) :=
  let own := if d = .mysql then [("&&", Expr.binary .and), ("XOR", .binary .exclusiveOr)] else []
  chain (("AND", .binary .and) :: own) (equality? d n)

def disjunction? (d : Dialect) (n : Nested) : TokenReader (Option Expr) :=
  let own := if d = .mysql then [("||", Expr.binary .or)] else []
  chain (("OR", .binary .or) :: own) (conjunction? d n)

def whole? (d : Dialect) (n : Nested) : TokenReader (Option Expr) := do
  match ← disjunction? d n with
  | none => return none
  | some e =>
    if ← take ":=" then
      let place := match e with
        | .column [name] => Expr.label name
        | e => e
      return some (.binary .assign place (← required n.disjunction))
    else return some e

/-- Readers for what is nested to some depth. -/
def nested (d : Dialect) : Nat → Nested
  | 0 => ⟨fail, fail, fail, fail, fail, fail, fail, fail⟩
  | depth + 1 =>
    let inner := nested d depth
    { disjunction := whole? d inner, bitwise := bitwise? d inner, term := term? d inner,
      equality := equality? d inner, unary := unary? d inner, operand := operand? d inner,
      query := query? d inner, type := TypeSpec.read? d inner true false }

end RelSchema.Sql.Expr
