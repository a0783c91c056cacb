import RelSchema.Sql.DateFormat
import RelSchema.Sql.Expr
import RelSchema.Sql.Function
import RelSchema.Text.Case
import RelSchema.Text.Timestamp

namespace RelSchema.Sql.Expr

def unitLetters : List (String × String) :=
  [("D", "DAY"), ("H", "HOUR"), ("M", "MINUTE"), ("MS", "MILLISECOND"), ("NS", "NANOSECOND"),
   ("Q", "QUARTER"), ("S", "SECOND"), ("US", "MICROSECOND"), ("W", "WEEK"), ("Y", "YEAR")]

def unitAbbreviations : List (String × String) :=
  [("yyyy", "YEAR"), ("yy", "YEAR"), ("qq", "QUARTER"), ("q", "QUARTER"), ("mm", "MONTH"),
   ("m", "MONTH"), ("ww", "WEEK"), ("wk", "WEEK"), ("dd", "DAY"), ("d", "DAY")]

def partNames : List (String × String) :=
  [("YY", "YEAR"), ("YYY", "YEAR"), ("YYYY", "YEAR"), ("YR", "YEAR"), ("YEARS", "YEAR"),
   ("YRS", "YEAR"), ("QQ", "QUARTER"), ("Q", "QUARTER"), ("QTR", "QUARTER"),
   ("QUARTERS", "QUARTER"), ("M", "MONTH"), ("MM", "MONTH"), ("MON", "MONTH"), ("MONS", "MONTH"),
   ("MONTHS", "MONTH"), ("D", "DAY"), ("DD", "DAY"), ("DAYS", "DAY"), ("DAYOFMONTH", "DAY"),
   ("DAYOFWEEK", "WEEKDAY"), ("WEEKDAY", "WEEKDAY"), ("DOW", "WEEKDAY"), ("DW", "WEEKDAY"),
   ("Y", "DAYOFYEAR"), ("DY", "DAYOFYEAR"), ("DOY", "DAYOFYEAR"), ("W", "WEEK"), ("WK", "WEEK"),
   ("WW", "WEEK"), ("WEEKOFYEAR", "WEEK"), ("WOY", "WEEK"), ("WY", "WEEK"),
   ("WEEKISO", "ISO_WEEK"), ("ISO_WEEK", "ISO_WEEK"), ("ISOWK", "ISO_WEEK"),
   ("ISOWW", "ISO_WEEK"), ("H", "HOUR"), ("HH", "HOUR"), ("HR", "HOUR"), ("HOURS", "HOUR"),
   ("HRS", "HOUR"), ("N", "MINUTE"), ("MI", "MINUTE"), ("MIN", "MINUTE"), ("MINUTES", "MINUTE"),
   ("MINS", "MINUTE"), ("S", "SECOND"), ("SS", "SECOND"), ("SEC", "SECOND"),
   ("SECONDS", "SECOND"), ("SECS", "SECOND"), ("MS", "MILLISECOND"), ("US", "MICROSECOND"),
   ("MCS", "MICROSECOND"), ("NS", "NANOSECOND"), ("TZ", "TZOFFSET"), ("TZOFFSET", "TZOFFSET")]

def partName (text : String) : String := (partNames.lookup (Text.upper text)).getD text

def unitName (text : String) : String := (unitLetters.lookup text).getD (Text.upper text)

def unitText? : Expr → Option String
  | column [name] => some name.text
  | string text | number text | word text => some text
  | _ => none

def unitOf (e : Expr) : Expr := ((unitText? e).map fun text => word (unitName text)).getD e

def abbreviatedUnit (e : Expr) : Expr :=
  ((unitText? e).map fun text =>
    word ((unitAbbreviations.lookup (Text.lower text)).getD (unitName text))).getD e

def truncationUnit (spellsOut : Bool) (e : Expr) : Expr :=
  ((unitText? e).map fun text =>
    let unit := Text.upper text
    string (if spellsOut then (unitLetters.lookup unit).getD unit else unit)).getD e

/-- What is at a path of a document. The text of a path is looked into if it reads as one. -/
def memberOf (text arrow : Bool) (document place : Expr) (more : List Expr) : Expr :=
  let steps? := match place with
    | string s => JsonPath.read? s
    | number s => JsonPath.read? ("[" ++ s ++ "]")
    | _ => none
  member text arrow document ((steps?.map path).getD place) more

/-- What an arrow asks a document for. In one dialect a literal after it is a key or a place, and
no path. -/
def memberAt (d : Dialect) (text : Bool) (document place : Expr) : Expr :=
  match d, place with
  | .postgresql, string key => member text true document (path [.key key]) []
  | .postgresql, number digits =>
    member text true document (path [(digits.toInt?.map .index).getD (.key digits)]) []
  | .postgresql, place => member text false document place []
  | _, place => memberOf text true document place []

def stepOf? : Expr → Option JsonStep
  | string text | number text => some ((text.toInt?.map JsonStep.index).getD (.key text))
  | _ => none

def memberAlong (text : Bool) (document : Expr) (places : List Expr) : Expr :=
  match places.mapM stepOf? with
  | some steps => member text false document (path steps) []
  | none => member text false document (places.head?.getD missing) (places.drop 1)

def grouped (e : Expr) : Expr :=
  match e with
  | binary .. => paren e
  | _ => e

def isNull (e : Expr) : Expr := binary .is e null

def textType : TypeSpec := .scalar "TEXT" [] []

def asText (e : Expr) : Expr :=
  match e with
  | string _ | cast _ (.scalar "TEXT" ..) => e
  | e => cast e textType

def asTime (e : Expr) : Expr := cast e (.scalar "TIMESTAMP" [] [])

def asDate (e : Expr) : Expr :=
  match e with
  | cast _ (.scalar "DATE" ..) => e
  | e => cast e (.scalar "DATE" [] [])

/-- The day that a number of days after the start of 1900 is, as a text. -/
def dayText (days : Nat) : String :=
  let date := Text.dateFrom 1900 days
  s!"{date.year}-{Text.twoDigits date.month}-{Text.twoDigits date.day}"

def asStart (e : Expr) : Expr :=
  match e with
  | number digits => ((digits.toNat?.map fun days => asTime (string (dayText days)))).getD e
  | e => asTime e

def matchTest (subject candidate : Expr) : Expr :=
  match candidate with
  | number _ | string _ => binary .equal subject candidate
  | null => isNull subject
  | candidate =>
    let other := grouped candidate
    binary .or (binary .equal subject other)
      (paren (binary .and (isNull subject) (isNull other)))

/-- The branches of a choice by candidates and results; a last value alone stands for all
else. -/
def branchesOf (subject : Expr) : List Expr → List (Expr × Expr) × Option Expr
  | [] => ([], none)
  | [otherwise] => ([], some otherwise)
  | candidate :: result :: rest =>
    let (branches, otherwise) := branchesOf subject rest
    ((matchTest subject candidate, result) :: branches, otherwise)

def ofDecode : List Expr → Expr
  | subject :: candidate :: result :: rest =>
    let (branches, otherwise) := branchesOf subject (candidate :: result :: rest)
    choice none branches otherwise
  | arguments => call "DECODE" arguments

def normalizedFormat (d : Dialect) : Expr → Expr
  | string format => string (DateFormat.normalized d format)
  | e => e

def partText (part e : Expr) : Expr :=
  let format := DateFormat.ofShared .sqlserver (DateFormat.ofPart part.leadingText)
  call "FORMAT" [cast e (.scalar "DATETIME2" [] []), string format]

def ownCall? (d : Dialect) (spelling : String) (arguments : List Expr) : Option Expr :=
  match d with
  | .mysql =>
    match spelling, arguments with
    | "CURDATE", _ => some (current .date arguments)
    | "CURTIME", _ => some (current .time arguments)
    | "DATE", e :: _ => some (call "DATE" [e])
    | "DATE_ADD", [e, interval amount unit] | "DATE_SUB", [e, interval amount unit] =>
      some (call spelling [e, amount, word unit])
    | "DATE_FORMAT", [e, format] => some (call spelling [e, normalizedFormat d format])
    | "STR_TO_DATE", [e, format] => some (call spelling [e, normalizedFormat d format])
    | "ISNULL", _ => some (paren (isNull (arguments.head?.getD (word ""))))
    | "LENGTH", [_] => some (call "LENGTH" arguments)
    | "MONTHNAME", [e] => some (call "DATE_FORMAT" [e, string "%M"])
    | "TIMESTAMPDIFF", [unit, a, b] => some (call spelling [unitOf unit, a, b])
    | "TO_DAYS", [e] =>
      some (paren (binary .add (call "DATEDIFF" [e, string "0000-01-01"]) (number "1")))
    | "JSON_VALUE", [e, string place] =>
      some (call spelling [e, ((JsonPath.read? place).map path).getD (string place)])
    | _, _ => none
  | .postgresql =>
    match spelling, arguments with
    | "NOW", _ => some (current .timestamp arguments)
    | "TO_CHAR", [e, format] => some (call spelling [e, normalizedFormat d format])
    | "TO_DATE", [e, format] | "TO_TIMESTAMP", [e, format] =>
      some (call spelling [e, normalizedFormat d format])
    | "DIV", [a, b] =>
      some (cast (binary .wholeDivide (grouped a) (grouped b)) (.scalar "DECIMAL" [] []))
    | "SHA256", [e] => some (call "SHA2" [e, number "256"])
    | "SHA384", [e] => some (call "SHA2" [e, number "384"])
    | "SHA512", [e] => some (call "SHA2" [e, number "512"])
    | "JSON_EXTRACT_PATH", e :: place :: more => some (memberAlong false e (place :: more))
    | "JSON_EXTRACT_PATH_TEXT", e :: place :: more => some (memberAlong true e (place :: more))
    | _, _ => none
  | .sqlserver =>
    match spelling, arguments with
    | "GETDATE", _ | "SYSDATETIME", _ => some (current .timestamp arguments)
    | "SUSER_NAME", _ | "SUSER_SNAME", _ | "SYSTEM_USER", _ => some (current .user arguments)
    | "NEWID", _ => some (call "UUID" arguments)
    | "LEN", [e] => some (call "CHAR_LENGTH" [asText e])
    | "LEFT", [e, count] | "RIGHT", [e, count] => some (call spelling [asText e, count])
    | "DATEADD", [unit, amount, e] => some (call "DATE_ADD" [e, amount, abbreviatedUnit unit])
    | "DATEADD", [e, amount] => some (call "DATE_ADD" [e, amount])
    | "DATEDIFF", [unit, start, stop] =>
      some (call "DATEDIFF" [asTime stop, asStart start, abbreviatedUnit unit])
    | "DATEDIFF", [unit, start] =>
      some (call "DATEDIFF" [missing, asStart start, abbreviatedUnit unit])
    | "DATENAME", [part, e] => some (partText part e)
    | "DATETRUNC", [unit, e] =>
      let e := match e with
        | string _ => cast e (.scalar "DATETIME2" [] [])
        | e => e
      some (call spelling [unitOf unit, e])
    | "EOMONTH", [e] => some (call "LAST_DAY" [asDate e])
    | "EOMONTH", [e, months] =>
      some (call "LAST_DAY" [call "DATE_ADD" [asDate e, months, word "MONTH"]])
    | "FORMAT", e :: string format :: culture =>
      some (call spelling (e :: string (DateFormat.rewritten format) :: culture))
    | "JSON_VALUE", [e, place] => some (memberOf true false e place [])
    | "JSON_QUERY", [e] => some (memberOf false false e (string "$") [])
    | "JSON_QUERY", [e, place] => some (memberOf false false e place [])
    | "REPLICATE", [_, _] => some (call "REPEAT" arguments)
    | "SQUARE", [e] => some (binary .power e (number "2"))
    | "HASHBYTES", [string kind, e] =>
      match Text.upper kind with
      | "MD5" => some (call "MD5" [e])
      | "SHA" | "SHA1" => some (call "SHA" [e])
      | "SHA2_256" => some (call "SHA2" [e, number "256"])
      | "SHA2_512" => some (call "SHA2" [e, number "512"])
      | _ => none
    | "LOG", [value, base] => some (call "LOG" [base, value])
    | "LOG", [e] => some (call "LN" [e])
    | _, _ => none
  | .sqlite =>
    match spelling, arguments with
    | "STRFTIME", [format] => some (call spelling [format, current .timestamp []])
    | _, _ => none
  | .oracle =>
    match spelling, arguments with
    | "NVL", _ => some (call "NVL" arguments)
    | "TRUNC", [e] => some (call "DATE_TRUNC" [string "DD", e])
    | "TRUNC", [e, unit] => some (call "DATE_TRUNC" [truncationUnit false unit, e])
    | "TO_DATE", [e, format] | "TO_TIMESTAMP", [e, format] =>
      some (call spelling [e, normalizedFormat d format])
    | "SQUARE", [e] => some (binary .power e (number "2"))
    | _, _ => none

def commonCall? (d : Dialect) (spelling : String) (arguments : List Expr) : Option Expr :=
  match spelling, arguments with
  | "CURRENT_TIMESTAMP", _ => some (current .timestamp arguments)
  | "CURRENT_DATE", _ => some (current .date arguments)
  | "CURRENT_TIME", _ => some (current .time arguments)
  | "CURRENT_USER", _ => some (current .user arguments)
  | "LOCALTIME", _ => some (current .localTime arguments)
  | "LOCALTIMESTAMP", _ => some (current .localTimestamp arguments)
  | "NVL", _ => some (call "COALESCE" arguments)
  | "ARRAY", _ => some (array arguments)
  | "ARRAY_AGG", e :: _ => some (call spelling [e])
  | "POWER", [a, b] | "POW", [a, b] => some (binary .power a b)
  | "MOD", [a, b] => some (binary .remainder (grouped a) (grouped b))
  | "INSTR", _ :: _ :: _ | "STRPOS", _ :: _ :: _ | "STR_POSITION", _ :: _ :: _ =>
    some (call "STRPOS" arguments)
  | "LOCATE", part :: whole :: rest | "CHARINDEX", part :: whole :: rest =>
    some (call "STRPOS" (whole :: part :: rest))
  | "DATE_TRUNC", unit :: rest => some (call spelling (truncationUnit true unit :: rest))
  | "DATE_ADD", [a, b, unit] | "DATE_SUB", [a, b, unit] =>
    some (call spelling [a, b, unitOf unit])
  | "DATEDIFF", a :: b :: unit :: rest | "DATE_DIFF", a :: b :: unit :: rest =>
    some (call "DATEDIFF" (a :: b :: unitOf unit :: rest))
  | "TIMESTAMPDIFF", [a, b, unit] | "TIMESTAMP_DIFF", [a, b, unit] =>
    some (call "TIMESTAMPDIFF" [a, b, unitOf unit])
  | "JSON_EXTRACT", e :: place :: more => some (memberOf false false e place more)
  | "JSON_EXTRACT_SCALAR", e :: place :: _ => some (memberOf true false e place [])
  | "JSON_EXTRACT_PATH_TEXT", e :: place :: _ => some (memberOf true false e place [])
  | "ARRAY_CONTAINS_ALL", [a, b] | "ARRAY_HAS_ALL", [a, b] => some (binary .contains a b)
  | "ARRAY_OVERLAPS", [a, b] => some (binary .intersects a b)
  | "UPPER", [call "HEX" codes] => some (call "HEX" codes)
  | "LIKE", [pattern, e] => some (binary .like e pattern)
  | "LIKE", [pattern, e, mark] => some (escape (binary .like e pattern) mark)
  | "GLOB", [pattern, e] => some (binary .glob e pattern)
  | "LOG", [e] => some (if d = .mysql then call "LN" [e] else call "LOG" [e])
  | "LOG", [a, b] => some (call "LOG" [a, b])
  | "LOG2", [e] => some (call "LOG" [number "2", e])
  | "LOG10", [e] => some (call "LOG" [number "10", e])
  | "LTRIM", e :: marks => some (trim .leading e marks.head?)
  | "RTRIM", e :: marks => some (trim .trailing e marks.head?)
  | "LPAD", _ :: _ :: _ | "RPAD", _ :: _ :: _ => some (call spelling arguments)
  | _, _ => none

def commonSpellings : List String :=
  ["CURRENT_TIMESTAMP", "CURRENT_DATE", "CURRENT_TIME", "CURRENT_USER", "LOCALTIME",
   "LOCALTIMESTAMP", "POWER", "POW", "MOD", "INSTR", "STRPOS", "STR_POSITION", "LOCATE",
   "CHARINDEX", "JSON_EXTRACT", "JSON_EXTRACT_SCALAR", "JSON_EXTRACT_PATH_TEXT",
   "ARRAY_CONTAINS_ALL", "ARRAY_HAS_ALL", "ARRAY_OVERLAPS", "LIKE", "GLOB", "LOG", "LOG2", "LOG10",
   "LTRIM", "RTRIM", "LPAD", "RPAD"]

def ownSpellings : Dialect → List String
  | .mysql => ["CURDATE", "CURTIME", "DATE_FORMAT", "ISNULL", "JSON_VALUE", "MONTHNAME", "TO_DAYS"]
  | .postgresql =>
    ["NOW", "TO_DATE", "TO_TIMESTAMP", "DIV", "JSON_EXTRACT_PATH", "SHA256", "SHA384", "SHA512"]
  | .sqlserver =>
    ["GETDATE", "SYSDATETIME", "SUSER_NAME", "SUSER_SNAME", "SYSTEM_USER", "NEWID", "DATEADD",
     "DATENAME", "DATETRUNC", "EOMONTH", "FORMAT", "JSON_VALUE", "JSON_QUERY", "REPLICATE",
     "SQUARE", "HASHBYTES", "ISNULL"]
  | .sqlite => ["STRFTIME"]
  | .oracle => ["TRUNC", "TO_DATE", "TO_TIMESTAMP", "SQUARE", "CONVERT"]

def isKnown (d : Dialect) (spelling : String) : Bool :=
  commonSpellings.contains spelling || (ownSpellings d).contains spelling ||
    (Function.find? spelling).isSome

def ofCall? (d : Dialect) (spelling : String) (arguments : List Expr) : Option Expr :=
  match ownCall? d spelling arguments with
  | some e => some e
  | none =>
    if d = .mysql && (spelling == "DATE_ADD" || spelling == "DATE_SUB") then none
    else
      match Function.find? spelling with
      | some f =>
        if f.takes arguments.length then
          some ((commonCall? d spelling arguments).getD (call f.name arguments))
        else none
      | none =>
        match commonCall? d spelling arguments with
        | some e => some e
        | none => if commonSpellings.contains spelling then none else some (call spelling arguments)

end RelSchema.Sql.Expr
