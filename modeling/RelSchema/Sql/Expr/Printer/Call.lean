import RelSchema.Sql.Expr.Printer.Time

namespace RelSchema.Sql.Expr

def functionNames : Dialect → List (String × String)
  | .mysql =>
    [("CHAR_LENGTH", "CHAR_LENGTH"), ("RANDOM", "RAND"), ("STUFF", "INSERT"),
     ("ARRAY_AGG", "GROUP_CONCAT"), ("LOGICAL_OR", "MAX"), ("LOGICAL_AND", "MIN"),
     ("DAY_OF_WEEK", "DAYOFWEEK"), ("DAY_OF_MONTH", "DAYOFMONTH"), ("DAY_OF_YEAR", "DAYOFYEAR"),
     ("WEEK_OF_YEAR", "WEEKOFYEAR")]
  | .postgresql =>
    [("UUID", "GEN_RANDOM_UUID"), ("LOGICAL_OR", "BOOL_OR"), ("LOGICAL_AND", "BOOL_AND"),
     ("ARRAY_CONCAT", "ARRAY_CAT"), ("UNICODE", "ASCII"), ("VARIANCE", "VAR_SAMP"),
     ("VARIANCE_POP", "VAR_POP")]
  | .sqlserver =>
    [("UUID", "NEWID"), ("LENGTH", "LEN"), ("CHAR_LENGTH", "LEN"), ("RANDOM", "RAND"),
     ("CEIL", "CEILING"), ("REPEAT", "REPLICATE"), ("LN", "LOG"), ("STDDEV", "STDEV"),
     ("ANY_VALUE", "MAX"), ("LAST_DAY", "EOMONTH"), ("DATE_FROM_PARTS", "DATEFROMPARTS"),
     ("ARRAY_TO_STRING", "STRING_AGG"), ("IF", "IIF")]
  | .sqlite =>
    [("STRPOS", "INSTR"), ("ANY_VALUE", "MAX"), ("LOGICAL_OR", "MAX"), ("LOGICAL_AND", "MIN"),
     ("LEVENSHTEIN", "EDITDIST3"), ("IF", "IIF")]
  | .oracle =>
    [("SUBSTRING", "SUBSTR"), ("RANDOM", "DBMS_RANDOM.VALUE"), ("STRPOS", "INSTR"),
     ("LOGICAL_OR", "MAX"), ("LOGICAL_AND", "MIN"), ("NVL", "NVL")]

def commonFunctionNames : List (String × String) := [("CHAR_LENGTH", "LENGTH"), ("NVL", "COALESCE")]

def functionName (d : Dialect) (name : String) : String :=
  (((functionNames d).lookup name).orElse fun _ => commonFunctionNames.lookup name).getD name

def castText (d : Dialect) (e type : String) : String :=
  "CAST(" ++ e ++ " AS " ++ TypeSpec.conversionName d type ++ ")"

def choiceText (condition first : String) (second : Option String) : String :=
  "CASE WHEN " ++ condition ++ " THEN " ++ first ++
    ((second.map (" ELSE " ++ ·)).getD "") ++ " END"

def decisionText (d : Dialect) (condition first second : String) : String :=
  if d = .sqlserver ∨ d = .sqlite then callText "IIF" [condition, first, second]
  else choiceText condition first (some second)

/-- The place of a part in a text from some place on, in a dialect that can only search a text as
a whole. -/
def renderLaterPlace (d : Dialect) (whole part : String) (start : Expr) (startText : String) :
    String :=
  let place := match d with
    | .postgresql =>
      "POSITION(" ++ part ++ " IN SUBSTRING(" ++ whole ++ " FROM " ++ startText ++ "))"
    | _ => callText "INSTR" [callText "SUBSTRING" [whole, startText], part]
  let offset := match start with
    | binary .. => "(" ++ startText ++ ")"
    | _ => startText
  decisionText d (place ++ " = 0") "0" (place ++ " + " ++ offset ++ " - 1")

def overlayText (e part start : String) (length : Option String) : String :=
  "OVERLAY(" ++ e ++ " PLACING " ++ part ++ " FROM " ++ start ++
    ((length.map (" FOR " ++ ·)).getD "") ++ ")"

def renderDigest (d : Dialect) (e size : String) : String :=
  match d with
  | .postgresql => callText ("SHA" ++ size) [e]
  | .sqlserver => callText "HASHBYTES" [literal ("SHA2_" ++ size), e]
  | _ => callText "SHA2" [e, size]

/-- A part of a text between points, by its number from the left. One dialect counts from the
right, and writes nothing where that does not help. -/
def renderTextPart (d : Dialect) (arguments : List Expr) (texts : List String) : String :=
  match d, arguments with
  | .sqlserver, [string text, string mark, number index] =>
    let count := (text.splitOn ".").length
    if mark = "." ∧ count ≤ 4 then
      callText "PARSENAME" [literal text, toString ((count : Int) + 1 - index.toInt?.getD 0)]
    else ""
  | .sqlserver, _ => ""
  | _, _ => callText "SPLIT_PART" texts

def renderGathered (d : Dialect) (texts : List String) : String :=
  match d, texts with
  | .mysql, e :: separator => "GROUP_CONCAT(" ++ e ++ " SEPARATOR " ++
      separator.head?.getD "','" ++ ")"
  | .postgresql, e :: separator | .sqlserver, e :: separator =>
    callText "STRING_AGG" [e, separator.head?.getD "','"]
  | _, texts => callText "GROUP_CONCAT" texts

def ownCallText? (d : Dialect) (name : String) (texts : List String) : Option String :=
  match d, name, texts with
  | .mysql, "STRPOS", whole :: part :: rest => some (callText "LOCATE" (part :: whole :: rest))
  | .mysql, "LPAD", [e, length] | .mysql, "RPAD", [e, length] =>
    some (callText name [e, length, "' '"])
  | .mysql, "MAX", texts | .postgresql, "MAX", texts | .sqlserver, "MAX", texts =>
    if texts.length > 1 then some (callText "GREATEST" texts) else none
  | .mysql, "MIN", texts | .postgresql, "MIN", texts | .sqlserver, "MIN", texts =>
    if texts.length > 1 then some (callText "LEAST" texts) else none
  | .mysql, "JSON_ARRAY_CONTAINS", [e, whole] => some (e ++ " MEMBER OF(" ++ whole ++ ")")
  | .mysql, "PARSE_JSON", e :: _ | .sqlserver, "PARSE_JSON", e :: _
  | .sqlite, "PARSE_JSON", e :: _ => some e
  | .mysql, "TO_CHAR", e :: _ | .sqlite, "TO_CHAR", e :: _ | .sqlserver, "TO_CHAR", e :: _ =>
    some (castText d e "TEXT")
  | .mysql, "TO_NUMBER", e :: _ | .sqlite, "TO_NUMBER", e :: _ | .sqlserver, "TO_NUMBER", e :: _
  | .postgresql, "TO_NUMBER", [e] => some (castText d e "DOUBLE")
  | .postgresql, "TO_NUMBER", e :: format :: _ => some (callText name [e, format])
  | .mysql, "UNICODE", [e] => some ("ORD(CONVERT(" ++ e ++ " USING utf32))")
  | .oracle, "UNICODE", [e] => some (callText "ASCII" [callText "UNISTR" [e]])
  | .postgresql, "COUNT_IF", [e] | .sqlserver, "COUNT_IF", [e] | .sqlite, "COUNT_IF", [e] =>
    some (callText "SUM" [decisionText d e "1" "0"])
  | .postgresql, "SUBSTRING", [text, start] =>
    some ("SUBSTRING(" ++ text ++ " FROM " ++ start ++ ")")
  | .postgresql, "SUBSTRING", [text, start, length] =>
    some ("SUBSTRING(" ++ text ++ " FROM " ++ start ++ " FOR " ++ length ++ ")")
  | .postgresql, "STRPOS", [whole, part] => some ("POSITION(" ++ part ++ " IN " ++ whole ++ ")")
  | .postgresql, "REGEXP_LIKE", e :: pattern :: _ => some (e ++ " ~ " ++ pattern)
  | .postgresql, "REGEXP_I_LIKE", e :: pattern :: _ => some (e ++ " ~* " ++ pattern)
  | .postgresql, "ARRAY_LENGTH", [e] => some (callText name [e, "1"])
  | .postgresql, "PARSE_JSON", e :: _ => some (castText d e "JSON")
  | .postgresql, "JSONB_EXTRACT", [e, place] => some (e ++ " #> " ++ place)
  | .postgresql, "JSONB_EXTRACT_SCALAR", [e, place] => some (e ++ " #>> " ++ place)
  | .postgresql, "JSONB_CONTAINS", [e, key] => some (e ++ " ? " ++ key)
  | .postgresql, "LAST_DAY", e :: _ =>
    some ("CAST(DATE_TRUNC('MONTH', " ++ e ++ ") + INTERVAL '1 MONTH' - INTERVAL '1 DAY' AS DATE)")
  | .sqlserver, "STRPOS", whole :: part :: rest =>
    some (callText "CHARINDEX" (part :: whole :: rest))
  | .sqlserver, "LOG", [base, e] => some (callText "LOG" [e, base])
  | .sqlserver, "MD5", [e] => some (callText "HASHBYTES" ["'MD5'", e])
  | .sqlserver, "SHA", [e] => some (callText "HASHBYTES" ["'SHA1'", e])
  | .sqlserver, "CONCAT", [e] => some e
  | .sqlite, "CONCAT", texts => some (" || ".intercalate texts)
  | .postgresql, "ARRAY_LENGTH", _ => none
  | _, "ARRAY_LENGTH", e :: _ => some (callText name [e])
  | _, _, _ => none

def renderCall (d : Dialect) (name : String) (arguments : List Expr) (texts : List String) :
    String :=
  match ownCallText? d name texts with
  | some text => text
  | none =>
    match name, arguments, texts with
    | "IF", _, [condition, first] =>
      if d = .sqlserver ∨ d = .sqlite then callText "IIF" texts
      else choiceText condition first none
    | "IF", _, [condition, first, second] =>
      decisionText d condition first second
    | "NVL2", _, e :: first :: second =>
      if d = .oracle then callText "NVL2" texts
      else choiceText ("NOT " ++ e ++ " IS NULL") first second.head?
    | "STRPOS", _ :: _ :: start :: _, whole :: part :: startText :: _ =>
      if d = .postgresql ∨ d = .sqlite then renderLaterPlace d whole part start startText
      else callText (functionName d name) texts
    | "OVERLAY", _, e :: part :: start :: length => overlayText e part start length.head?
    | "SHA2", _, e :: size => renderDigest d e (size.head?.getD "256")
    | "SPLIT_PART", arguments, texts => renderTextPart d arguments texts
    | "GROUP_CONCAT", _, texts => renderGathered d texts
    | "DATE_ADD", arguments, texts => renderShift d false arguments texts
    | "DATE_SUB", arguments, texts => renderShift d true arguments texts
    | "DATEDIFF", arguments, texts => renderDifference d arguments texts
    | "DATE_TRUNC", arguments, texts => renderTruncated d arguments texts
    | "STR_TO_DATE", [_, format], [e, text] =>
      if d = .postgresql ∨ d = .oracle then callText "TO_DATE" [e, formatArgument d format text]
      else callText name texts
    | "ANY", [paren (query ..)], [e] => "ANY " ++ e
    | "ANY", [paren _], [e] => "ANY" ++ e
    | "ANY", [query ..], [e] => "ANY(" ++ e ++ ")"
    | "ANY", _, [e] => "ANY " ++ e
    | "ALL", [query ..], [e] => "ALL (" ++ e ++ ")"
    | _, _, texts => callText (functionName d name) texts

end RelSchema.Sql.Expr
