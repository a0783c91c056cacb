import RelSchema.Json.Basic
import RelSchema.Sql.Quoting
import RelSchema.Text.Character
import RelSchema.Text.Letter

namespace RelSchema.Text

def commas (items : List String) : String := ", ".intercalate items

def lines (items : List String) : String := "\n".intercalate items

def paragraphs (items : List String) : String := "\n\n".intercalate items

def braced (s : String) : String := "\x7b" ++ s ++ "\x7d"

def bracketed (s : String) : String := "[" ++ s ++ "]"

end RelSchema.Text

namespace RelSchema.Orm.Script

/-- Whether a text is a name: letters, numerals, underscores and dollars, at the start an ASCII
letter, an underscore or a dollar. A line break may follow it. -/
def isName (s : String) : Bool :=
  let chars := s.toList
  let chars := if chars.getLast? = some '\n' then chars.dropLast else chars
  match chars with
  | [] => false
  | c :: rest =>
    (c.isAlpha || c == '_' || c == '$') && rest.all fun c => Text.isWordChar c || c == '$'

def key (name : String) : String := if isName name then name else Json.quote name

def quotedList (values : List String) : String := Text.commas (values.map Json.quote)

def object (members : List String) : String := Text.braced s!" {Text.commas members} "

end RelSchema.Orm.Script

namespace RelSchema.Orm

inductive DefaultValue where
  | text (value : String)
  | boolean (value : Bool)
  | number (digits : String)
  | now
  | expression (sql : String)
  deriving DecidableEq, Repr

namespace DefaultValue

def nowSpellings : List String :=
  ["CURRENT_TIMESTAMP", "CURRENT_TIMESTAMP()", "CURRENT_DATE", "NOW()", "GETDATE()",
   "SYSDATETIME()", "SYSDATE", "SYSTIMESTAMP", "LOCALTIMESTAMP"]

def isDecimals (s : List Char) : Bool := !s.isEmpty && s.all Text.isDecimal

def isNumber (s : List Char) : Bool :=
  let unsigned := match s with
    | '-' :: rest => rest
    | _ => s
  match unsigned.dropWhile Text.isDecimal with
  | [] => isDecimals unsigned
  | '.' :: fraction => isDecimals (unsigned.takeWhile Text.isDecimal) && isDecimals fraction
  | _ => false

def quotedBody? (s : List Char) : Option (List Char) :=
  match s with
  | '\'' :: rest => if rest.getLast? = some '\'' then some rest.dropLast else none
  | _ => none

def ofText (type : ColumnType) (sql : String) : DefaultValue :=
  match quotedBody? sql.toList with
  | some body => text (String.ofList (Sql.undoubled body))
  | none =>
    let spelled := Text.upper sql
    if spelled = "TRUE" then boolean true
    else if spelled = "FALSE" then boolean false
    else if type = .boolean ∧ sql = "1" then boolean true
    else if type = .boolean ∧ sql = "0" then boolean false
    else if isNumber sql.toList then number sql
    else if nowSpellings.contains spelled then now
    else expression sql

def ofColumn? (c : Column) : Option DefaultValue :=
  c.default?.map fun sql => ofText c.type (Text.trim sql)

def script (now : String) (expression : String → Option String) : DefaultValue → Option String
  | .text value => some (Json.quote value)
  | .boolean value => some (if value then "true" else "false")
  | .number digits => some digits
  | .now => some now
  | .expression sql => expression sql

end DefaultValue

end RelSchema.Orm
