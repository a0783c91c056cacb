import RelSchema.Dialect

namespace RelSchema.Sql

structure QuoteMarks where
  opening : Char
  closing : Char
  deriving DecidableEq, Repr

def quoteMarks : Dialect → QuoteMarks
  | .mysql => ⟨Char.ofNat 0x60, Char.ofNat 0x60⟩
  | .sqlserver => ⟨'[', ']'⟩
  | _ => ⟨'"', '"'⟩

def doubled (mark : Char) (s : List Char) : List Char :=
  s.flatMap fun c => if c = mark then [c, c] else [c]

def quoteChars (marks : QuoteMarks) (name : List Char) : List Char :=
  marks.opening :: doubled marks.closing name ++ [marks.closing]

def quoteIdentifier (d : Dialect) (name : String) : String :=
  String.ofList (quoteChars (quoteMarks d) name.toList)

def literalChars (s : List Char) : List Char := '\'' :: doubled '\'' s ++ ['\'']

def literal (s : String) : String := String.ofList (literalChars s.toList)

def undoubled : List Char → List Char
  | [] => []
  | '\'' :: '\'' :: rest => '\'' :: undoubled rest
  | c :: rest => c :: undoubled rest

/-- The body of a literal after its opening quote, and the text after its closing one. Of two
quotes in a row both belong to the body if a closing quote follows later; otherwise the first of
them closes. -/
def literalBody? : List Char → Option (List Char × List Char)
  | [] => none
  | '\'' :: '\'' :: rest =>
    match literalBody? rest with
    | some (body, after) => some ('\'' :: body, after)
    | none => some ([], '\'' :: rest)
  | '\'' :: rest => some ([], rest)
  | c :: rest => (literalBody? rest).map fun (body, after) => (c :: body, after)

def literalsFrom : Nat → List Char → List (List Char)
  | 0, _ => []
  | _, [] => []
  | fuel + 1, '\'' :: rest =>
    match literalBody? rest with
    | some (body, after) => body :: literalsFrom fuel after
    | none => literalsFrom fuel rest
  | fuel + 1, _ :: rest => literalsFrom fuel rest

def literals (s : List Char) : List String := (literalsFrom s.length s).map String.ofList

def isQuoteMark (c : Char) : Bool := c == '\'' || c == '"' || c == Char.ofNat 0x60

/-- The quotation that is open, by its closing character, and the count of open parentheses. -/
structure Scan where
  quote : Option Char := none
  depth : Nat := 0
  deriving DecidableEq, Repr

namespace Scan

/-- A parenthesis that closes nothing is passed over. -/
def step (s : Scan) (c : Char) : Scan :=
  match s.quote with
  | some closing => if c = closing then { s with quote := none } else s
  | none =>
    if isQuoteMark c then { s with quote := some c }
    else if c = '[' then { s with quote := some ']' }
    else if c = '(' then { s with depth := s.depth + 1 }
    else if c = ')' then { s with depth := s.depth - 1 }
    else s

def isTop (s : Scan) : Bool := s.quote.isNone && s.depth == 0

def run (s : Scan) (text : List Char) : Scan := text.foldl step s

end Scan

def isBracketing (c : Char) : Bool := isQuoteMark c || c == '[' || c == '(' || c == ')'

def separates (separator : Char) (s : Scan) (c : Char) : Bool :=
  s.isTop && c == separator && !isBracketing c

def consPiece (c : Char) : List (List Char) → List (List Char)
  | [] => [[c]]
  | piece :: rest => (c :: piece) :: rest

def splitFrom (separator : Char) (s : Scan) : List Char → List (List Char)
  | [] => [[]]
  | c :: rest =>
    if separates separator s c then [] :: splitFrom separator s rest
    else consPiece c (splitFrom separator (s.step c) rest)

def splitTopLevel (text : List Char) (separator : Char) : List (List Char) :=
  splitFrom separator {} text

def bodyFrom (s : Scan) : List Char → List Char
  | [] => []
  | c :: rest => if s.isTop && c == ')' then [] else c :: bodyFrom (s.step c) rest

/-- The text up to the parenthesis that closes the one before the text; all of it if none does. -/
def wrappedBody (text : List Char) : List Char := bodyFrom {} text

end RelSchema.Sql
