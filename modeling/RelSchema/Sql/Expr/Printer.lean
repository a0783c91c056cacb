import RelSchema.Sql.Expr.Printer.Call

namespace RelSchema.Sql.Expr

/-- What is asked of an expression by the one it is a part of. -/
inductive Place where
  | plain
  | value
  | condition
  /-- A text, so that a conversion to text says nothing. -/
  | text
  | qualified
  | pair
  deriving DecidableEq, Repr

/-- Truth values are comparisons in one dialect, except in some places. -/
def renderTruth (d : Dialect) (place : Place) (value : Bool) : String :=
  match d with
  | .sqlserver =>
    if place = .value then (if value then "1" else "0")
    else (if value then "(1 = 1)" else "(1 = 0)")
  | _ => if value then "TRUE" else "FALSE"

def wholeTypes : List String :=
  ["BIGINT", "BIT", "INT", "INT128", "INT256", "MEDIUMINT", "SMALLINT", "TINYINT", "UBIGINT",
   "UINT", "UINT128", "UINT256", "UMEDIUMINT", "USMALLINT", "UTINYINT"]

def fractionTypes : List String :=
  ["BIGDECIMAL", "DECFLOAT", "DECIMAL", "DECIMAL128", "DECIMAL256", "DECIMAL32", "DECIMAL64",
   "DOUBLE", "FLOAT", "MONEY", "SMALLMONEY", "UDECIMAL", "UDOUBLE"]

def convertsTo (types : List String) : Expr → Bool
  | cast _ (.scalar name ..) | tryCast _ (.scalar name ..) => types.contains name
  | _ => false

def isNumber : Expr → Bool
  | number _ => true
  | unary .negate e => isNumber e
  | _ => false

def needsComparison (e : Expr) : Bool :=
  match e with
  | column _ => true
  | e => isNumber e || convertsTo ("UNKNOWN" :: wholeTypes ++ fractionTypes) e

def operandPlace : BinaryOp → Place
  | .equal | .notEqual | .is => .value
  | .and | .or | .exclusiveOr => .condition
  | _ => .plain

def firstPlace (name : String) : Place :=
  match name with
  | "IF" => .condition
  | "CHAR_LENGTH" | "LENGTH" | "LEFT" | "RIGHT" => .text
  | "JSON_OBJECT" => .pair
  | _ => .plain

def laterPlace (name : String) : Place := if name = "JSON_OBJECT" then .pair else .plain

def symbolOf : BinaryOp → String
  | .assign => ":="
  | .or => "OR"
  | .exclusiveOr => "XOR"
  | .and => "AND"
  | .equal => "="
  | .notEqual => "<>"
  | .same => "IS NOT DISTINCT FROM"
  | .distinct => "IS DISTINCT FROM"
  | .less => "<"
  | .lessEqual => "<="
  | .greater => ">"
  | .greaterEqual => ">="
  | .like => "LIKE"
  | .ilike => "ILIKE"
  | .glob => "GLOB"
  | .textMatch => "MATCH"
  | .similar => "SIMILAR TO"
  | .overlaps => "OVERLAPS"
  | .is => "IS"
  | .contains => "@>"
  | .intersects => "&&"
  | .touches => "-|-"
  | .hasAnyKey => "?|"
  | .hasAllKeys => "?&"
  | .without => "#-"
  | .named operator => "OPERATOR(" ++ operator ++ ")"
  | .bitAnd => "&"
  | .bitOr => "|"
  | .bitXor => "^"
  | .concat => "||"
  | .shiftLeft => "<<"
  | .shiftRight => ">>"
  | .add => "+"
  | .subtract => "-"
  | .remainder => "%"
  | .collate => "COLLATE"
  | .multiply => "*"
  | .divide _ _ => "/"
  | .wholeDivide => "DIV"
  | .power => "^"
  | .distance => "<->"
  | .atTimeZone => "AT TIME ZONE"
  | .slice => ":"

/-- A division. Where whole numbers would give a whole number but are not meant to, the first
operand becomes a fraction; where a divisor of zero would be an error but is not meant to be, it
becomes nothing. -/
def renderQuotient (d : Dialect) (whole safe : Bool) (left right : Expr) (a b : String) : String :=
  let divisor := match d with
    | .mysql | .sqlite => b
    | _ => if safe then callText "NULLIF" [b, "0"] else b
  match d with
  | .mysql | .oracle => a ++ " / " ++ divisor
  | _ =>
    if whole || convertsTo fractionTypes left || convertsTo fractionTypes right then
      a ++ " / " ++ divisor
    else castText d a "DOUBLE" ++ " / " ++ divisor

def renderWholeQuotient (d : Dialect) (left right : Expr) (a b : String) : String :=
  match d with
  | .mysql => a ++ " DIV " ++ b
  | .postgresql => callText "DIV" [a, b]
  | _ => castText d (renderQuotient d false false left right a b) "INT"

def renderBinary (d : Dialect) (op : BinaryOp) (left right : Expr) (a b : String) : String :=
  let spaced (symbol : String) := a ++ " " ++ symbol ++ " " ++ b
  match d, op with
  | _, .divide whole safe => renderQuotient d whole safe left right a b
  | _, .wholeDivide => renderWholeQuotient d left right a b
  | .mysql, .same => spaced "<=>"
  | .mysql, .distinct => "NOT " ++ spaced "<=>"
  | .mysql, .concat => callText "CONCAT" [a, b]
  | .mysql, .atTimeZone => a
  | .postgresql, .exclusiveOr =>
    "(" ++ a ++ " AND (NOT " ++ b ++ ")) OR ((NOT " ++ a ++ ") AND " ++ b ++ ")"
  | .postgresql, .bitXor => spaced "#"
  | .postgresql, .power => spaced "^"
  | .sqlserver, .concat => spaced "+"
  | .oracle, .remainder => callText "MOD" [a, b]
  | .postgresql, .ilike | .sqlserver, .ilike => spaced "ILIKE"
  | _, .ilike => callText "LOWER" [a] ++ " LIKE " ++ callText "LOWER" [b]
  | _, .power => callText "POWER" [a, b]
  | _, op => spaced (symbolOf op)

/-- A test against a range. Where its ends cannot be in either order, there are two tests. -/
def renderRange (d : Dialect) (symmetric : Option Bool) (e low high : String) : String :=
  let test (flag low high : String) := e ++ " BETWEEN " ++ flag ++ low ++ " AND " ++ high
  match d, symmetric with
  | _, none => test "" low high
  | .postgresql, some true => test "SYMMETRIC " low high
  | .postgresql, some false => test "ASYMMETRIC " low high
  | _, some true => "(" ++ test "" low high ++ " OR " ++ test "" high low ++ ")"
  | _, some false => test "" low high

def renderPlaces (d : Dialect) (fromOne : Bool) (places : List Expr) (texts : List String) :
    List String :=
  let shift : Int := (if d = .postgresql then 1 else 0) - (if fromOne then 1 else 0)
  match places with
  | [number text] => [((text.toInt?.map fun n => toString (n + shift)).getD text)]
  | _ => texts

def renderTrim (d : Dialect) (side : TrimSide) (e : String) (marks : Option String) : String :=
  let sideName := match side with
    | .leading => "LTRIM"
    | .trailing => "RTRIM"
    | _ => "TRIM"
  let sideWord := match side with
    | .unsaid => ""
    | .both => "BOTH "
    | .leading => "LEADING "
    | .trailing => "TRAILING "
  match d, marks with
  | _, none => callText sideName [e]
  | .sqlite, some marks => callText sideName [e, marks]
  | .oracle, some marks =>
    if sideName = "TRIM" then "TRIM(" ++ sideWord ++ marks ++ " FROM " ++ e ++ ")"
    else callText sideName [e, marks]
  | _, some marks => "TRIM(" ++ sideWord ++ marks ++ " FROM " ++ e ++ ")"

def renderCharacters (d : Dialect) (codes : List String) (charset : Option String) : String :=
  let name := match d with
    | .postgresql | .oracle => "CHR"
    | _ => "CHAR"
  match d, charset with
  | _, none => callText name codes
  | .sqlserver, some charset | .sqlite, some charset => callText name (codes ++ [charset])
  | _, some charset => name ++ "(" ++ ", ".intercalate codes ++ " USING " ++ charset ++ ")"

def stepArgument (d : Dialect) (quotes : Bool) : JsonStep → String
  | .key name => renderString d name
  | .index position => if quotes then literal (toString position) else toString position
  | .anyKey | .anyIndex => "*"

def renderPath (d : Dialect) (steps : JsonPath) : String :=
  let brackets := d == .postgresql || d == .oracle
  renderString d (steps.render brackets)

def renderMember (d : Dialect) (text arrow : Bool) (place : Expr) (e shown : String)
    (more : List String) : String :=
  match d with
  | .mysql =>
    if text then e ++ " ->> " ++ shown else callText "JSON_EXTRACT" (e :: shown :: more)
  | .sqlite =>
    if text then e ++ " ->> " ++ shown
    else if more.isEmpty then e ++ " -> " ++ shown
    else callText "JSON_EXTRACT" (e :: shown :: more)
  | .sqlserver =>
    callText "ISNULL" [callText "JSON_QUERY" [e, shown], callText "JSON_VALUE" [e, shown]]
  | .oracle =>
    callText (if text then "JSON_EXTRACT_SCALAR" else "JSON_EXTRACT") (e :: shown :: more)
  | .postgresql =>
    let name := if text then "JSON_EXTRACT_PATH_TEXT" else "JSON_EXTRACT_PATH"
    match place with
    | path steps =>
      let arguments := e :: steps.map (stepArgument d (!arrow))
      if arrow then (if text then " ->> " else " -> ").intercalate arguments
      else callText name arguments
    | _ => callText name (e :: shown :: more)

def renderSearch (d : Dialect) (columns : List String) (text modifier : String) : String :=
  match d, columns with
  | .postgresql, [] => " @@ " ++ text
  | .postgresql, [name] => name ++ " @@ " ++ text
  | .postgresql, columns => "(" ++ " OR ".intercalate (columns.map (· ++ " @@ " ++ text)) ++ ")"
  | _, columns =>
    callText "MATCH" columns ++ " AGAINST(" ++ text ++
      (if modifier.isEmpty then "" else " " ++ modifier) ++ ")"

def renderCast (d : Dialect) (safe : Bool) (e : String) (type : TypeSpec) : String :=
  match d, type with
  | .mysql, .scalar "TIMESTAMPTZ" _ _ | .mysql, .scalar "TIMESTAMPLTZ" _ _ =>
    callText "TIMESTAMP" [e]
  | .sqlite, .scalar "DATE" _ _ => callText "DATE" [e]
  | .sqlserver, type | .oracle, type =>
    (if safe then "TRY_CAST(" else "CAST(") ++ e ++ " AS " ++ type.render d ++ ")"
  | _, type => "CAST(" ++ e ++ " AS " ++ type.render d ++ ")"

def sizedTexts : List String := ["CHAR", "NCHAR", "NVARCHAR", "VARCHAR"]

/-- A conversion in a style. A text has thirty characters if its length is not said. -/
def renderConvert (d : Dialect) (safe : Bool) (type : TypeSpec) (e : String) (style : Option Expr)
    (styleText : Option String) : String :=
  if d = .sqlserver then
    callText (if safe then "TRY_CONVERT" else "CONVERT") (type.render d :: e :: styleText.toList)
  else
    let format := match style with
      | some (number digits) => DateFormat.style? digits
      | _ => none
    match type with
    | .scalar name arguments values =>
      if sizedTexts.contains name then
        let arguments := if arguments.isEmpty then ["30"] else arguments
        renderCast d safe ((format.map (renderFormatted d e)).getD e)
          (.scalar name arguments values)
      else
        match format, name with
        | some format, "DATE" => renderParsed d e format
        | some format, "DATETIME" | some format, "DATETIME2" => renderParsedTime d e format
        | some format, "TEXT" => renderFormatted d e format
        | _, _ => renderCast d safe e type
    | type => renderCast d safe e type

/-- A key of an order. Where an order cannot say where nulls go, a key before it does. -/
def renderSortKey (d : Dialect) (e : Expr) (text : String) (descends : Option Bool)
    (nullsFirst : Bool) : String :=
  let direction := match descends with
    | some true => " DESC"
    | some false => " ASC"
    | none => ""
  if nullsFirst = (descends.getD false == nullsAreLarge d) then text ++ direction
  else
    match d with
    | .mysql | .sqlserver =>
      if isNumber e then text ++ direction
      else "CASE WHEN " ++ text ++ " IS NULL THEN 1 ELSE 0 END" ++
        (if nullsFirst then " DESC" else "") ++ ", " ++ text ++ direction
    | _ => text ++ direction ++ if nullsFirst then " NULLS FIRST" else " NULLS LAST"

def renderLambda (d : Dialect) (parameters : List Name) (body : String) : String :=
  let names := ", ".intercalate (parameters.map (renderName d))
  (if parameters.length > 1 then "(" ++ names ++ ")" else names) ++ " -> " ++ body

/-- The values that are counted once. One dialect counts rows of several values only if none of
them is null. -/
def renderDistinct (d : Dialect) (items : List String) : String :=
  let listed := ", ".intercalate items
  if d = .postgresql ∧ items.length > 1 then
    "CASE" ++ String.join (items.map (" WHEN " ++ · ++ " IS NULL THEN NULL")) ++
      " ELSE (" ++ listed ++ ") END"
  else listed

def negated (operand : String) : String :=
  if operand.startsWith "-" then "- " ++ operand else "-" ++ operand

def clause (lead : String) (texts : List String) : String :=
  if texts.isEmpty then "" else lead ++ ", ".intercalate texts

def isJoin : Expr → Bool
  | join .. => true
  | _ => false

def renderTables : List Expr → List String → String
  | e :: rest, text :: texts =>
    (if isJoin e then " " else ", ") ++ text ++ renderTables rest texts
  | _, _ => ""

def renderFrom? : List Expr → List String → Option String
  | _ :: rest, text :: texts => some (text ++ renderTables rest texts)
  | _, _ => none

def after (lead : String) : Option String → String
  | none => ""
  | some text => lead ++ text

mutual

def renderAt (d : Dialect) (place : Place) (e : Expr) : String :=
  let text := match e with
    | number text => text
    | string text => renderString d text
    | national text => "N" ++ renderString d text
    | bytes text => if d = .postgresql then "e" ++ renderString d text else text
    | bits digits => renderBits d digits
    | hexadecimal digits => renderHexadecimal d digits
    | introduced charset e => charset ++ " " ++ renderAt d .plain e
    | truth value => renderTruth d place value
    | null => "NULL"
    | star => "*"
    | column parts => separatedBy d parts
    | outerColumn parts => separatedBy d parts ++ " (+)"
    | label name => renderName d name
    | word text => text
    | missing => ""
    | placeholder name =>
      if name.isEmpty then "?"
      else if d = .postgresql then "%(" ++ name ++ ")s"
      else ":" ++ name
    | parameter e => (if d = .postgresql then "$" else "@") ++ renderAt d .plain e
    | path steps => renderPath d steps
    | unary .not e => "NOT " ++ renderAt d .condition e
    | unary .negate e => negated (renderAt d .plain e)
    | unary .complement e => "~" ++ renderAt d .plain e
    | binary op a b =>
      let op := match d, op, b with
        | .sqlserver, .is, .truth _ => .equal
        | _, op, _ => op
      renderBinary d op a b (renderAt d (operandPlace op) a) (renderAt d (operandPlace op) b)
    | between symmetric e low high =>
      renderRange d symmetric (renderAt d .plain e) (renderAt d .plain low) (renderAt d .plain high)
    | isIn e items =>
      renderAt d .value e ++ " IN (" ++ ", ".intercalate (renderAll d .value .value items) ++ ")"
    | isInSet e whole => renderAt d .value e ++ " IN " ++ renderAt d .value whole
    | escape a b => renderAt d .plain a ++ " ESCAPE " ++ renderAt d .plain b
    | paren e => "(" ++ renderAt d .plain e ++ ")"
    | tuple items =>
      match place, d, items with
      | .pair, .mysql, items | .pair, .sqlite, items =>
        ", ".intercalate (renderAll d .plain .plain items)
      | .pair, _, items => ": ".intercalate (renderAll d .plain .plain items)
      | _, _, items => "(" ++ ", ".intercalate (renderAll d .plain .plain items) ++ ")"
    | array items =>
      let elements := ", ".intercalate (renderAll d .plain .plain items)
      if d = .postgresql then "ARRAY[" ++ elements ++ "]" else "ARRAY(" ++ elements ++ ")"
    | struct items => callText "STRUCT" (renderAll d .plain .plain items)
    | item fromOne e places =>
      let whole := match d, e with
        | .postgresql, array _ => "(" ++ renderAt d .plain e ++ ")"
        | _, _ => renderAt d .plain e
      whole ++ "[" ++
        ", ".intercalate (renderPlaces d fromOne places (renderAll d .plain .plain places)) ++ "]"
    | renamed e name => renderAt d .value e ++ " AS " ++ renderName d name
    | dot owner part => renderAt d .plain owner ++ "." ++ renderAt d .qualified part
    | lambda parameters body => renderLambda d parameters (renderAt d .plain body)
    | keyword name value => name ++ " => " ++ renderAt d .plain value
    | distinct items => "DISTINCT " ++ renderDistinct d (renderAll d .plain .plain items)
    | sorted e keys => renderAt d .plain e ++ clause " ORDER BY " (renderAll d .plain .plain keys)
    | sortKey e descends nullsFirst =>
      renderSortKey d e (renderAt d .plain e) descends nullsFirst
    | call name items =>
      renderCall d name items (renderAll d (firstPlace name) (laterPlace name) items)
    | invoke name items =>
      let shown := if name.quoted then renderName d name else name.text
      callText (if place = .qualified then shown else Text.upper shown)
        (renderAll d .plain .plain items)
    | overRows function partition order frame =>
      let inside := [clause "PARTITION BY " (renderAll d .plain .plain partition),
        clause "ORDER BY " (renderAll d .plain .plain order), frame]
      renderAt d place function ++ " OVER (" ++
        " ".intercalate (inside.filter fun text => !text.isEmpty) ++ ")"
    | overNamed function window => renderAt d place function ++ " OVER " ++ renderName d window
    | current what items => renderCurrent d what (renderAll d .plain .plain items)
    | trim side e marks => renderTrim d side (renderAt d .plain e) (renderOption? d marks)
    | characters codes charset => renderCharacters d (renderAll d .plain .plain codes) charset
    | member text arrow e steps more =>
      renderMember d text arrow steps (renderAt d .plain e) (renderAt d .plain steps)
        (renderAll d .plain .plain more)
    | search columns text modifier =>
      renderSearch d (renderAll d .plain .plain columns) (renderAt d .plain text) modifier
    | cast e type =>
      match place, d, type with
      | .text, .sqlserver, .scalar "TEXT" _ _ => renderAt d .plain e
      | _, _, _ => renderCast d false (renderAt d .plain e) type
    | tryCast e type => renderCast d true (renderAt d .plain e) type
    | convert safe type e style =>
      renderConvert d safe type (renderAt d .plain e) style (renderOption? d style)
    | inScope e part => renderAt d .plain e ++ "::" ++ renderAt d .plain part
    | nextValue sequence => "NEXT VALUE FOR " ++ renderAt d .plain sequence
    | extract field e => renderExtract d field (renderAt d .plain e)
    | interval amount unit => renderInterval d amount (renderAt d .plain amount) unit
    | choice subject branches otherwise =>
      "CASE" ++ after " " (renderOption? d subject) ++
        renderBranches d (if subject.isSome then .plain else .condition) branches ++
        after " ELSE " (renderOption? d otherwise) ++ " END"
    | query isDistinct items tables condition groups groupCondition order limit =>
      let count := renderOption? d limit
      "SELECT " ++ (if isDistinct then "DISTINCT " else "") ++
        (if d = .sqlserver then ((count.map fun n => "TOP " ++ n ++ " ").getD "") else "") ++
        ", ".intercalate (renderAll d .value .value items) ++
        after " FROM " (renderFrom? tables (renderAll d .plain .plain tables)) ++
        after " WHERE " (renderCondition? d condition) ++
        clause " GROUP BY " (renderAll d .plain .plain groups) ++
        after " HAVING " (renderCondition? d groupCondition) ++
        clause " ORDER BY " (renderAll d .plain .plain order) ++
        match d with
        | .sqlserver => ""
        | .oracle => ((count.map fun n => " FETCH FIRST " ++ n ++ " ROWS ONLY").getD "")
        | _ => after " LIMIT " count
    | table parts shownAs =>
      separatedBy d parts ++ ((shownAs.map fun name =>
        (if d = .oracle then " " else " AS ") ++ renderName d name).getD "")
    | join kind e condition =>
      kind ++ " " ++ renderAt d .plain e ++ after " ON " (renderOption? d condition)
  if place = .condition ∧ d = .sqlserver ∧ needsComparison e then text ++ " <> 0" else text

def renderAll (d : Dialect) (first later : Place) : List Expr → List String
  | [] => []
  | e :: rest => renderAt d first e :: renderAll d later later rest

def renderOption? (d : Dialect) : Option Expr → Option String
  | none => none
  | some e => some (renderAt d .plain e)

def renderCondition? (d : Dialect) : Option Expr → Option String
  | none => none
  | some e => some (renderAt d .condition e)

def renderBranches (d : Dialect) (place : Place) : List (Expr × Expr) → String
  | [] => ""
  | (condition, result) :: rest =>
    " WHEN " ++ renderAt d place condition ++ " THEN " ++ renderAt d .plain result ++
      renderBranches d place rest

end

def render (d : Dialect) : Expr → String
  | string text => literal text
  | truth value => if value then "TRUE" else "FALSE"
  | e => renderAt d .plain e

end RelSchema.Sql.Expr
