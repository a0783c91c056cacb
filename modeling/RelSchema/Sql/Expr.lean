import RelSchema.Dialect
import RelSchema.Sql.JsonPath
import RelSchema.Sql.Item

namespace RelSchema.Sql

structure Name where
  text : String
  quoted : Bool := false
  deriving DecidableEq, Repr

inductive BinaryOp where
  | assign
  | or | exclusiveOr | and
  | equal | notEqual | same | distinct
  | less | lessEqual | greater | greaterEqual
  | like | ilike | glob | textMatch | similar | overlaps | is
  | contains | intersects | touches | hasAnyKey | hasAllKeys | without
  | named (operator : String)
  | bitAnd | bitOr | bitXor | concat | shiftLeft | shiftRight
  | add | subtract | remainder | collate
  | multiply
  /-- A division: whether whole numbers give a whole number, and whether a divisor of zero gives
  nothing. -/
  | divide (whole safe : Bool)
  | wholeDivide | power | distance
  | atTimeZone
  | slice
  deriving DecidableEq, Repr

inductive UnaryOp where
  | not | negate | complement
  deriving DecidableEq, Repr

inductive Current where
  | timestamp | date | time | user | localTime | localTimestamp | systemDate | systemTimestamp
  deriving DecidableEq, Repr

inductive TrimSide where
  | unsaid | both | leading | trailing
  deriving DecidableEq, Repr

inductive Expr where
  | number (text : String)
  | string (text : String)
  | national (text : String)
  | bytes (text : String)
  | bits (digits : String)
  | hexadecimal (digits : String)
  | introduced (charset : String) (value : Expr)
  | truth (value : Bool)
  | null
  | star
  | column (parts : List Name)
  | outerColumn (parts : List Name)
  | label (name : Name)
  | word (text : String)
  | missing
  | placeholder (name : String)
  | parameter (inner : Expr)
  | path (steps : JsonPath)
  | unary (op : UnaryOp) (operand : Expr)
  | binary (op : BinaryOp) (left right : Expr)
  /-- A test against a range; with the flag `symmetric` its ends may be in either order. -/
  | between (symmetric : Option Bool) (operand low high : Expr)
  | isIn (operand : Expr) (items : List Expr)
  | isInSet (operand set : Expr)
  | escape (pattern mark : Expr)
  | paren (inner : Expr)
  | tuple (items : List Expr)
  | array (items : List Expr)
  | struct (items : List Expr)
  /-- Parts of a value by their places, which are counted from zero or from one. -/
  | item (fromOne : Bool) (container : Expr) (indexes : List Expr)
  | renamed (inner : Expr) (name : Name)
  | dot (owner part : Expr)
  | lambda (parameters : List Name) (body : Expr)
  | keyword (name : String) (value : Expr)
  | distinct (items : List Expr)
  | sorted (inner : Expr) (keys : List Expr)
  | sortKey (inner : Expr) (descends : Option Bool) (nullsFirst : Bool)
  | call (name : String) (arguments : List Expr)
  | invoke (name : Name) (arguments : List Expr)
  | overRows (function : Expr) (partition order : List Expr) (frame : String)
  | overNamed (function : Expr) (window : Name)
  | current (what : Current) (arguments : List Expr)
  | trim (side : TrimSide) (operand : Expr) (marks : Option Expr)
  | characters (codes : List Expr) (charset : Option String)
  /-- What is at a path of a document: a document, or with the flag `text` its text. The flag
  `arrow` tells that an arrow asks for it. -/
  | member (text arrow : Bool) (document path : Expr) (more : List Expr)
  | search (columns : List Expr) (text : Expr) (modifier : String)
  | cast (operand : Expr) (type : TypeSpec)
  | tryCast (operand : Expr) (type : TypeSpec)
  | convert (safe : Bool) (type : TypeSpec) (operand : Expr) (style : Option Expr)
  | inScope (inner part : Expr)
  | nextValue (sequence : Expr)
  | extract (field : String) (operand : Expr)
  | interval (amount : Expr) (unit : String)
  /-- The branches are conditions and results by turns. -/
  | choice (subject : Option Expr) (branches : List (Expr × Expr)) (otherwise : Option Expr)
  | query (isDistinct : Bool) (items tables : List Expr) (condition : Option Expr)
      (groups : List Expr) (groupCondition : Option Expr) (order : List Expr)
      (limit : Option Expr)
  | table (parts : List Name) (shownAs : Option Name)
  | join (kind : String) (table : Expr) (condition : Option Expr)

namespace Expr

def joinRows : List (List String) → List (List String) → List (List String)
  | [], rows => rows
  | rows, [] => rows
  | a :: as, b :: bs => (a ++ b) :: joinRows as bs

def ownColumns : Expr → List String
  | column parts | outerColumn parts => (parts.getLast?.map (·.text)).toList
  | _ => []

def ownNames : Expr → List String
  | column parts | outerColumn parts | table parts _ => (parts.getLast?.map (·.text)).toList
  | label name | renamed _ name => [name.text]
  | invoke name _ => if name.quoted then [name.text] else []
  | _ => []

mutual

def levels (own : Expr → List String) (e : Expr) : List (List String) :=
  own e :: match e with
    | number _ | string _ | national _ | bytes _ | bits _ | hexadecimal _ | truth _ | null | star
    | column _ | outerColumn _ | label _ | word _ | missing | placeholder _ | path _
    | table _ _ => []
    | introduced _ e | unary _ e | paren e | cast e _ | tryCast e _ | extract _ e | interval e _
    | nextValue e | parameter e | renamed e _ | keyword _ e | sortKey e _ _
    | overNamed e _ => levels own e
    | lambda parameters e =>
      (levels own e).map (·.filter fun name => !(parameters.map (·.text)).contains name)
    | binary _ a b | escape a b | isInSet a b | dot a b | inScope a b =>
      joinRows (levels own a) (levels own b)
    | between _ a b c => joinRows (levels own a) (joinRows (levels own b) (levels own c))
    | isIn e items | item _ e items | sorted e items =>
      joinRows (levels own e) (levelsOfAll own items)
    | tuple items | array items | struct items | call _ items | invoke _ items | current _ items
    | distinct items | characters items _ => levelsOfAll own items
    | overRows e partition order _ =>
      joinRows (levels own e)
        (joinRows (levelsOfAll own partition) ([] :: levelsOfAll own order))
    | trim _ e marks => joinRows (levels own e) (levelsOfOption own marks)
    | member _ _ e place more =>
      joinRows (levels own e) (joinRows (levels own place) (levelsOfAll own more))
    | search columns text _ => joinRows (levels own text) (levelsOfAll own columns)
    | convert _ _ e style => joinRows (levels own e) (levelsOfOption own style)
    | choice subject branches otherwise =>
      joinRows (levelsOfOption own subject)
        (joinRows ([] :: levelsOfBranches own branches) (levelsOfOption own otherwise))
    | query _ items tables condition groups groupCondition order limit =>
      joinRows (levelsOfAll own items)
        (joinRows ([] :: levelsOfAll own tables)
          (joinRows ([] :: levelsOfOption own condition)
            (joinRows ([] :: levelsOfAll own groups)
              (joinRows ([] :: levelsOfOption own groupCondition)
                (joinRows ([] :: levelsOfAll own order) ([] :: levelsOfOption own limit))))))
    | join _ e condition => joinRows (levels own e) (levelsOfOption own condition)

def levelsOfAll (own : Expr → List String) : List Expr → List (List String)
  | [] => []
  | e :: rest => joinRows (levels own e) (levelsOfAll own rest)

def levelsOfOption (own : Expr → List String) : Option Expr → List (List String)
  | none => []
  | some e => levels own e

def levelsOfBranches (own : Expr → List String) : List (Expr × Expr) → List (List String)
  | [] => []
  | (condition, result) :: rest =>
    joinRows (joinRows (levels own condition) (levels own result)) (levelsOfBranches own rest)

end

/-- The columns that an expression mentions, those nearer to its root first. -/
def mentions (e : Expr) : List String := (e.levels ownColumns).flatten

def names (e : Expr) : List String := (e.levels ownNames).flatten

def ownGaps : Expr → List String
  | missing => ["?"]
  | _ => []

def isComplete (e : Expr) : Bool := (e.levels ownGaps).flatten.isEmpty

def nullsAreLarge : Dialect → Bool
  | .postgresql | .oracle => true
  | _ => false

def leadingText : Expr → String
  | number text | string text | national text | bytes text | bits text | hexadecimal text
  | word text | placeholder text => text
  | column parts => (parts.getLast?.map (·.text)).getD ""
  | star => "*"
  | null => "NULL"
  | invoke name _ => name.text
  | call _ (e :: _) => bare e
  | unary _ e | paren e | cast e _ | tryCast e _ | trim _ e _ | binary _ e _ | isIn e _
  | interval e _ => bare e
  | _ => ""
where
  bare : Expr → String
    | number text | string text | word text => text
    | _ => ""

def elementName (e : Expr) : String := e.names.head?.getD e.leadingText

end Expr

end RelSchema.Sql
