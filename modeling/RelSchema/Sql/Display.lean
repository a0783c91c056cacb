import RelSchema.Notice
import RelSchema.Sql.Lexer
import RelSchema.Text.Quoted

namespace RelSchema.Sql.Display

inductive SpanClass where
  | keyword | identifier | literal | dataType | constraint
  deriving DecidableEq, Repr

def SpanClass.name : SpanClass → String
  | keyword => "keyword"
  | identifier => "identifier"
  | literal => "literal"
  | dataType => "data-type"
  | constraint => "constraint"

def constraintWords : List String :=
  ["PRIMARY KEY", "PRIMARY", "FOREIGN KEY", "FOREIGN", "KEY", "REFERENCES", "NOT", "NULL",
   "UNIQUE", "DEFAULT", "CHECK", "CONSTRAINT"]

def keywordWords : List String := ["CREATE", "TABLE", "TYPE", "AS", "IF", "EXISTS"]

def typeWords : List String :=
  ["INT", "INTEGER", "VARCHAR", "VARCHAR2", "NVARCHAR", "TEXT", "CLOB", "BOOLEAN", "BIT", "DATE",
   "TIMESTAMP", "DATETIME2", "FLOAT", "DOUBLE", "DOUBLE PRECISION", "BINARY_DOUBLE", "DECIMAL",
   "NUMBER", "JSON", "UUID", "UNIQUEIDENTIFIER", "ENUM", "MAX", "PRECISION", "REAL"]

def classify (kind : TokenKind) (raw : List Char) : Option SpanClass :=
  if kind = .quotedName then some .identifier
  else if kind = .string ∨ kind = .number then some .literal
  else
    let spelled := " ".intercalate (Text.words (raw.flatMap Text.upperChar))
    if constraintWords.contains spelled then some .constraint
    else if keywordWords.contains spelled then some .keyword
    else if kind = .type ∨ kind = .stray ∨ typeWords.contains spelled then some .dataType
    else if kind = .word then some .identifier
    else match raw with
      | c :: _ => if c = '_' ∨ Text.isLetter c then some .keyword else none
      | [] => none

def spanned (spanClass : Option SpanClass) (raw : List Char) : List Char :=
  match spanClass with
  | some k =>
    "<span class=\"".toList ++ k.name.toList ++ "\">".toList ++ Text.escapeChars raw ++
      "</span>".toList
  | none => Text.escapeChars raw

/-- The text from `cursor` on with the tokens marked. A token that starts before the cursor or ends
past the text is left unmarked. -/
def annotateFrom (cursor : Nat) (text : List Char) : List Token → List Char
  | [] => Text.escapeChars text
  | t :: rest =>
    if t.start < cursor ∨ cursor + text.length < t.stop then annotateFrom cursor text rest
    else
      let before := t.start - cursor
      let raw := (text.drop before).take (t.stop - t.start)
      Text.escapeChars (text.take before) ++ spanned (classify t.kind raw) raw ++
        annotateFrom t.stop (text.drop (t.stop - cursor)) rest

def annotate (text : List Char) (tokens : List Token) : List Char := annotateFrom 0 text tokens

/-- Text that cannot be read as tokens is shown without spans. -/
def formatWith (tokens : Option (List Token)) (sql : String) : String :=
  String.ofList <| match tokens with
    | some tokens => annotate sql.toList tokens
    | none => Text.escapeChars sql.toList

def format (d : Dialect) (sql : String) : String := formatWith (Lexer.tokens? d sql.toList) sql

def formatNotices (d : Dialect) (sql : String) : List Notice :=
  if (Lexer.tokens? d sql.toList).isSome then [] else [.notTokenized]

end RelSchema.Sql.Display
