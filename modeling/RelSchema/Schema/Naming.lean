import RelSchema.Schema.Basic
import RelSchema.Text.Character
import RelSchema.Text.Letter

namespace RelSchema

inductive Convention where
  | snakeCase | camelCase | pascalCase
  deriving DecidableEq, Repr

namespace Convention

def all : List Convention := [snakeCase, camelCase, pascalCase]

def name : Convention → String
  | snakeCase => "snake_case"
  | camelCase => "camel_case"
  | pascalCase => "pascal_case"

def title : Convention → String
  | snakeCase => "snake_case"
  | camelCase => "camelCase"
  | pascalCase => "PascalCase"

def ofName? (s : String) : Option Convention := all.find? (·.name == Text.lower s)

def starts : Convention → Char → Bool
  | snakeCase, c | camelCase, c => c.isLower
  | pascalCase, c => c.isUpper

def continues : Convention → Char → Bool
  | snakeCase, c => c.isLower || c.isDigit || c == '_'
  | camelCase, c | pascalCase, c => c.isAlphanum

/-- A line break at the end of a name is passed over. -/
def admits (v : Convention) (name : String) : Bool :=
  let chars := name.toList
  let chars := if chars.getLast? = some '\n' then chars.dropLast else chars
  match chars with
  | [] => false
  | c :: rest => v.starts c && rest.all v.continues

def of? (name : String) : Option Convention := all.find? (·.admits name)

abbrev Tally := List (Option Convention × Nat)

def Tally.add (t : Tally) (label : Option Convention) : Tally :=
  match t with
  | [] => [(label, 1)]
  | (l, n) :: rest => if l = label then (l, n + 1) :: rest else (l, n) :: Tally.add rest label

def ranked (names : List String) : Tally :=
  (names.foldl (fun t name => Tally.add t (of? name)) []).mergeSort fun a b => b.2 ≤ a.2

/-- The convention that more names keep to than to any other, or to none. -/
def dominant (names : List String) : Option Convention :=
  match ranked names with
  | [] => none
  | [(label, _)] => label
  | (label, n) :: (_, m) :: _ => if n = m then none else label

end Convention

private def endsIn (s : List Char) (ending : String) : Bool := ending.toList.isSuffixOf s

def singularize (name : String) : String :=
  let chars := name.toList
  let lowered := (Text.lower name).toList
  let butLast (n : Nat) := chars.take (chars.length - n)
  if endsIn lowered "ies" && chars.length > 3 then
    String.ofList (butLast 3 ++ [if endsIn chars "IES" then 'Y' else 'y'])
  else if ["sses", "xes", "zes", "ches", "shes"].any (endsIn lowered) then
    String.ofList (butLast 2)
  else if endsIn lowered "s" && !endsIn lowered "ss" && chars.length > 1 then
    String.ofList (butLast 1)
  else name

def nameParts (name : String) : List String :=
  (name.toList.splitBy fun a b => Text.isAlphanumeric a == Text.isAlphanumeric b).filterMap
    fun run => if run.any Text.isAlphanumeric then some (String.ofList run) else none

def capitalized : List Char → List Char
  | [] => []
  | c :: rest => Text.upperChar c ++ rest

def uncapitalized : List Char → List Char
  | [] => []
  | c :: rest => Text.lowerChar [] c [] ++ rest

def pascalCase (name : String) : String :=
  String.ofList ((nameParts name).flatMap fun part => capitalized part.toList)

def camelCase (name : String) : String := String.ofList (uncapitalized (pascalCase name).toList)

/-- The name of the model of a table: its singular in Pascal case, made to start with no digit. -/
def modelName (table : String) : String :=
  match (pascalCase (singularize table)).toList with
  | [] => "Model"
  | c :: rest => String.ofList (if Text.isDigit c then '_' :: c :: rest else c :: rest)

end RelSchema
