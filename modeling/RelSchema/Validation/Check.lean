import RelSchema.Schema.Naming
import RelSchema.Sql.Quoting
import RelSchema.Text.Character
import RelSchema.Text.Letter
import RelSchema.Text.Quoted

namespace RelSchema.Validation

inductive Check where
  | hasPrimaryKey
  | hasColumn (name : String)
  | minColumns (count : Nat)
  | hasColumnType (name type : String)
  | namingConvention (convention : Convention)
  deriving DecidableEq, Repr

inductive CheckError where
  | unknown (text : String)
  | wrongCount (text : String) (expected given : Nat)
  | notDigits (argument : String)
  | number (e : Text.NumberError)
  | unknownConvention (name : String)
  deriving DecidableEq, Repr

def CheckError.message : CheckError → String
  | unknown text => s!"Unknown validation rule: {text}"
  | wrongCount text expected given =>
    s!"Rule {text} expects {expected} argument(s), got {given}"
  | notDigits argument => s!"min_columns expects a number, got {Text.quoted argument}"
  | number e => e.message
  | unknownConvention name => s!"Unknown naming convention: {name}"

namespace Check

def holds (t : Table) : Check → Bool
  | hasPrimaryKey => !t.primaryKey.isEmpty
  | hasColumn name => (t.column? name).isSome
  | minColumns count => count ≤ t.columns.length
  | hasColumnType name type =>
    match t.column? name with
    | some c => Text.upper c.type.name == Text.upper type
    | none => false
  | namingConvention convention => convention.admits t.name

def between? (text : List Char) : Option (List Char) :=
  match Text.trimChars text with
  | [] => some []
  | '(' :: rest => if rest.getLast? = some ')' then some rest.dropLast else none
  | _ => none

def isQuote (c : Char) : Bool := c == '\'' || c == '"'

def withoutQuotes (text : List Char) : List Char :=
  ((text.dropWhile isQuote).reverse.dropWhile isQuote).reverse

/-- The arguments between commas, without white space and quotes around them. Blank ones do not
count. -/
def arguments (text : List Char) : List String :=
  (((Sql.splitTopLevel text ',').map Text.trimChars).filter (!·.isEmpty)).map fun a =>
    String.ofList (withoutQuotes a)

def split? (text : List Char) : Option (String × List String) :=
  let (name, rest) := (text.dropWhile Text.isBlank).span Text.isWordChar
  if name.isEmpty then none
  else (between? rest).map fun inside => (String.ofList name, arguments inside)

def arities : List (String × Nat) :=
  [("has_primary_key", 0), ("has_column", 1), ("min_columns", 1), ("has_column_type", 2),
   ("naming_convention", 1)]

def ofArguments (text name : String) (list : List String) : Except CheckError Check :=
  match arities.lookup name with
  | none => .error (.unknown text)
  | some arity =>
    match name, list with
    | "has_primary_key", [] => .ok .hasPrimaryKey
    | "has_column", [column] => .ok (.hasColumn column)
    | "min_columns", [count] =>
      if Text.isDigits count then ((Text.number count).map .minColumns).mapError .number
      else .error (.notDigits count)
    | "has_column_type", [column, type] => .ok (.hasColumnType column type)
    | "naming_convention", [convention] =>
      match Convention.ofName? convention with
      | some v => .ok (.namingConvention v)
      | none => .error (.unknownConvention convention)
    | _, list => .error (.wrongCount text arity list.length)

def read (text : String) : Except CheckError Check :=
  match split? text.toList with
  | some (name, list) => ofArguments text name list
  | none => .error (.unknown text)

def evaluate (t : Table) (text : String) : Except CheckError Bool :=
  (read text).map fun check => check.holds t

end Check

end RelSchema.Validation
