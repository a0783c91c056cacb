import RelSchema.Sql.Quoting
import RelSchema.Text.Character
import RelSchema.Text.Letter

namespace RelSchema.Sql.Script

inductive Mode where
  | code
  | lineComment
  | blockOpening
  | blockComment
  | blockClosing
  deriving DecidableEq, Repr

/-- The place in a script. `before` is the character before it, `started` whether the statement
has any text yet. -/
structure Place where
  mode : Mode := .code
  scan : Scan := {}
  before : Option Char := none
  started : Bool := false
  deriving DecidableEq, Repr

def startsCreate (text : List Char) : Bool :=
  (text.take 6).map Char.toLower == "create".toList &&
    match text.drop 6 with
    | [] => true
    | c :: _ => !Text.isWordChar c

def endsWord : Option Char → Bool
  | none => true
  | some c => !Text.isWordChar c

/-- Whether a new statement starts here although no semicolon ends the one before. -/
def breaksBefore (p : Place) (text : List Char) : Bool :=
  p.scan.isTop && p.started && endsWord p.before && startsCreate text

def Place.take (p : Place) (c : Char) : Place :=
  { p with
    scan := p.scan.step c
    before := some c
    started := p.started || !Text.isBlank c }

/-- The pieces of a script from a place on; the first continues the statement at hand. -/
def pieces (p : Place) : List Char → List (List Char)
  | [] => [[]]
  | c :: rest =>
    let passed : Place := { p with before := some c }
    match p.mode with
    | .lineComment =>
      if c = '\n' then consPiece c (pieces ({ p with mode := .code }.take c) rest)
      else pieces passed rest
    | .blockOpening => pieces { passed with mode := .blockComment } rest
    | .blockComment =>
      if c = '*' ∧ rest.head? = some '/' then pieces { passed with mode := .blockClosing } rest
      else pieces passed rest
    | .blockClosing => pieces { passed with mode := .code } rest
    | .code =>
      if p.scan.quote.isSome then consPiece c (pieces (p.take c) rest)
      else if c = '-' ∧ rest.head? = some '-' then pieces { passed with mode := .lineComment } rest
      else if c = '/' ∧ rest.head? = some '*' then
        consPiece ' ' (pieces { passed with mode := .blockOpening } rest)
      else if c = ';' ∧ p.scan.isTop then [] :: pieces { before := some c } rest
      else if breaksBefore p (c :: rest) then
        [] :: consPiece c (pieces ({ before := p.before : Place }.take c) rest)
      else consPiece c (pieces (p.take c) rest)

def statementChars (text : List Char) : List (List Char) :=
  ((pieces {} text).map Text.trimChars).filter (!·.isEmpty)

def statements (text : String) : List String :=
  (statementChars text.toList).map String.ofList

end RelSchema.Sql.Script
