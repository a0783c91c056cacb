import RelSchema.Sql.DateFormat
import RelSchema.Sql.Expr.Printer.Word
import RelSchema.Sql.Item

namespace RelSchema.Sql.Expr

def callText (name : String) (arguments : List String) : String :=
  name ++ "(" ++ ", ".intercalate arguments ++ ")"

def renderCurrent (d : Dialect) (what : Current) (arguments : List String) : String :=
  let orBare (name : String) := if arguments.isEmpty then name else callText name arguments
  match what with
  | .timestamp =>
    match d with
    | .mysql => callText "CURRENT_TIMESTAMP" arguments
    | .sqlserver => callText "GETDATE" arguments
    | .oracle => orBare "CURRENT_TIMESTAMP"
    | _ => "CURRENT_TIMESTAMP"
  | .date =>
    match d with
    | .sqlserver => callText "GETDATE" arguments
    | .sqlite => "CURRENT_DATE"
    | _ => orBare "CURRENT_DATE"
  | .time => if d = .sqlite then "CURRENT_TIME" else callText "CURRENT_TIME" arguments
  | .user => if d = .postgresql then "CURRENT_USER" else callText "CURRENT_USER" arguments
  | .localTime => orBare "LOCALTIME"
  | .localTimestamp => orBare "LOCALTIMESTAMP"
  | .systemDate => "SYSDATE"
  | .systemTimestamp => "SYSTIMESTAMP"

def singularUnits : List (String × String) :=
  [("MICROSECONDS", "MICROSECOND"), ("SECONDS", "SECOND"), ("MINUTES", "MINUTE"),
   ("HOURS", "HOUR"), ("DAYS", "DAY"), ("WEEKS", "WEEK"), ("MONTHS", "MONTH"),
   ("QUARTERS", "QUARTER"), ("YEARS", "YEAR")]

def isPlainAmount : Expr → Bool
  | column _ | string _ | number _ | unary .negate _ | paren _ => true
  | _ => false

/-- An interval. One dialect puts the unit into the quotes, and one has no plural. -/
def renderInterval (d : Dialect) (amount : Expr) (rendered unit : String) : String :=
  let after := if unit.isEmpty then "" else " " ++ unit
  match d with
  | .postgresql =>
    let count := amount.leadingText
    if count.isEmpty then "INTERVAL" ++ after
    else if (unit.splitOn " TO ").length > 1 then "INTERVAL '" ++ count ++ "'" ++ after
    else "INTERVAL '" ++ count ++ after ++ "'"
  | _ =>
    let after := if d = .mysql then ((singularUnits.lookup unit).map (" " ++ ·)).getD after
      else after
    "INTERVAL " ++ (if isPlainAmount amount then rendered else "(" ++ rendered ++ ")") ++ after

def unitIn (argument : Option Expr) : String :=
  match argument with
  | some e => Text.upper e.leadingText
  | none => "DAY"

def quotedNumber (e : Expr) : Expr :=
  match e with
  | unary .negate (number digits) => string ("-" ++ digits)
  | e => e

/-- A time later or earlier by an amount. Most dialects count days unless the unit is given. -/
def renderShift (d : Dialect) (earlier : Bool) (arguments : List Expr) (texts : List String) :
    String :=
  let name := if earlier then "DATE_SUB" else "DATE_ADD"
  match arguments, texts with
  | _ :: amount :: given, start :: count :: _ =>
    let given := given.head?
    let unit := unitIn given
    let unitIfGiven := (given.map fun e => Text.upper e.leadingText).getD ""
    match d, earlier with
    | .mysql, _ => callText name [start, renderInterval d amount count unit]
    | .postgresql, _ =>
      start ++ (if earlier then " - " else " + ") ++
        renderInterval d (quotedNumber amount) count unitIfGiven
    | _, true => callText name texts
    | .sqlserver, false => callText "DATEADD" [unit, count, start]
    | .sqlite, false =>
      let amountText := match amount with
        | string text => text
        | _ => count
      let after := if unitIfGiven.isEmpty then "" else " " ++ unitIfGiven
      callText "DATE" [start, "'" ++ amountText ++ after ++ "'"]
    | .oracle, false => callText name [start, count, literal unit]
  | _, _ => callText name texts

def dayFactors : List (String × String) :=
  [("MONTH", " / 30.0"), ("YEAR", " / 365.0"), ("HOUR", " * 24.0"), ("MINUTE", " * 1440.0"),
   ("SECOND", " * 86400.0"), ("MILLISECOND", " * 86400000.0"),
   ("MICROSECOND", " * 86400000000.0"), ("NANOSECOND", " * 8640000000000.0")]

def secondFactors : List (String × String) :=
  [("MICROSECOND", " * 1000000"), ("MILLISECOND", " * 1000"), ("SECOND", ""), ("MINUTE", " / 60"),
   ("HOUR", " / 3600"), ("DAY", " / 86400")]

def ageText (unit stop start : String) : String :=
  let stop := "CAST(" ++ stop ++ " AS TIMESTAMP)"
  let start := "CAST(" ++ start ++ " AS TIMESTAMP)"
  let age := "AGE(" ++ stop ++ ", " ++ start ++ ")"
  let counted := match secondFactors.lookup unit with
    | some factor => "EXTRACT(epoch FROM " ++ stop ++ " - " ++ start ++ ")" ++ factor
    | none =>
      match unit with
      | "WEEK" => "EXTRACT(days FROM (" ++ stop ++ " - " ++ start ++ ")) / 7"
      | "MONTH" => "EXTRACT(year FROM " ++ age ++ ") * 12 + EXTRACT(month FROM " ++ age ++ ")"
      | "QUARTER" => "EXTRACT(year FROM " ++ age ++ ") * 4 + EXTRACT(month FROM " ++ age ++ ") / 3"
      | "YEAR" => "EXTRACT(year FROM " ++ age ++ ")"
      | _ => age
  "CAST(" ++ counted ++ " AS BIGINT)"

def renderDifference (d : Dialect) (arguments : List Expr) (texts : List String) : String :=
  match texts with
  | stop :: start :: _ =>
    let unit := (arguments.drop 2).head?
    match d with
    | .mysql => callText "DATEDIFF" [stop, start]
    | .postgresql => ageText ((unit.map fun e => Text.upper e.leadingText).getD "") stop start
    | .sqlserver => callText "DATEDIFF" [unitIn unit, start, stop]
    | .sqlite =>
      "CAST((JULIANDAY(" ++ stop ++ ") - JULIANDAY(" ++ start ++ "))" ++
        (dayFactors.lookup (unitIn unit)).getD "" ++ " AS INTEGER)"
    | .oracle => callText "DATEDIFF" texts
  | texts => callText "DATEDIFF" texts

def truncatedText (unit e : String) : Option String :=
  match unit with
  | "DAY" => some ("DATE(" ++ e ++ ")")
  | "WEEK" =>
    some ("STR_TO_DATE(CONCAT(YEAR(" ++ e ++ "), ' ', WEEK(" ++ e ++ ", 1), ' 1'), '%Y %u %w')")
  | "MONTH" =>
    some ("STR_TO_DATE(CONCAT(YEAR(" ++ e ++ "), ' ', MONTH(" ++ e ++ "), ' 1'), '%Y %c %e')")
  | "QUARTER" =>
    some ("STR_TO_DATE(CONCAT(YEAR(" ++ e ++ "), ' ', QUARTER(" ++ e ++ ") * 3 - 2, ' 1'), " ++
      "'%Y %c %e')")
  | "YEAR" => some ("STR_TO_DATE(CONCAT(YEAR(" ++ e ++ "), ' 1 1'), '%Y %c %e')")
  | _ => none

def renderTruncated (d : Dialect) (arguments : List Expr) (texts : List String) : String :=
  match d, arguments, texts with
  | .mysql, unit :: _, _ :: e :: _ =>
    (truncatedText (Text.upper unit.leadingText) e).getD ("DATE(" ++ e ++ ")")
  | .oracle, _, unit :: e :: _ => callText "TRUNC" [e, unit]
  | _, _, texts => callText "DATE_TRUNC" texts

def formatArgument (d : Dialect) (format : Expr) (text : String) : String :=
  match format with
  | string format => literal (DateFormat.ofShared d format)
  | _ => text

def renderFormatted (d : Dialect) (e format : String) : String :=
  let format := literal (DateFormat.ofShared d format)
  match d with
  | .mysql => callText "DATE_FORMAT" [e, format]
  | .sqlite => callText "STRFTIME" [format, e]
  | .sqlserver => callText "FORMAT" [e, format]
  | _ => callText "TO_CHAR" [e, format]

def renderParsed (d : Dialect) (e format : String) : String :=
  let format := literal (DateFormat.ofShared d format)
  match d with
  | .postgresql | .oracle => callText "TO_DATE" [e, format]
  | _ => callText "STR_TO_DATE" [e, format]

def renderParsedTime (d : Dialect) (e format : String) : String :=
  let format := literal (DateFormat.ofShared d format)
  match d with
  | .mysql => callText "STR_TO_DATE" [e, format]
  | .postgresql | .oracle => callText "TO_TIMESTAMP" [e, format]
  | .sqlserver | .sqlite => callText "STR_TO_TIME" [e, format]

def renderExtract (d : Dialect) (field e : String) : String :=
  match d with
  | .sqlserver => callText "DATEPART" [field, e]
  | _ =>
    if d = .mysql ∧ Text.lower field = "epoch" then callText "UNIX_TIMESTAMP" [e]
    else "EXTRACT(" ++ field ++ " FROM " ++ e ++ ")"

end RelSchema.Sql.Expr
