import RelSchema.Text.Character
import RelSchema.Text.Letter

namespace RelSchema.Sql

inductive JsonStep where
  | key (name : String)
  | anyKey
  | index (position : Int)
  | anyIndex
  deriving DecidableEq, Repr

abbrev JsonPath := List JsonStep

namespace JsonPath

def isMark (c : Char) : Bool := "()[]:,-.?@'\"$*".toList.contains c

def position? (text : List Char) : Option Int :=
  let (sign, digits) := match text with
    | '-' :: rest => ((-1 : Int), rest)
    | text => (1, text)
  if digits.isEmpty || !digits.all Char.isDigit then none
  else some (sign * Int.ofNat (digits.foldl (fun n c => n * 10 + (c.toNat - 48)) 0))

def bracketed? (text : List Char) : Option JsonStep :=
  match text with
  | ['*'] => some .anyIndex
  | quote :: rest =>
    if (quote == '\'' || quote == '"') && rest.getLast? == some quote then
      let name := rest.dropLast
      if name.contains quote then none else some (.key (String.ofList name))
    else (position? text).map .index
  | [] => none

def bareKey? (text : List Char) : Option JsonStep :=
  match text with
  | [] => none
  | c :: _ => if c.isDigit || text.any isMark then none else some (.key (String.ofList text))

/-- The steps that a text tells. The fuel is the length of the text. -/
def stepsFrom? : Nat → List Char → Option JsonPath
  | _, [] => some []
  | 0, _ => none
  | fuel + 1, c :: rest =>
    if c == '[' then
      let (inside, after) := rest.span (· != ']')
      match after with
      | [] => none
      | _ :: after => return (← bracketed? inside) :: (← stepsFrom? fuel after)
    else if c == '.' || c == ':' then
      match rest with
      | '*' :: after => return .anyKey :: (← stepsFrom? fuel after)
      | '"' :: quoted =>
        let (name, after) := quoted.span (· != '"')
        match after with
        | [] => none
        | _ :: after => return .key (String.ofList name) :: (← stepsFrom? fuel after)
      | rest =>
        let (name, after) := rest.span (fun c => !isMark c)
        return (← bareKey? name) :: (← stepsFrom? fuel after)
    else
      let (name, after) := (c :: rest).span (fun c => !isMark c)
      return (← bareKey? name) :: (← stepsFrom? fuel after)

def read? (text : String) : Option JsonPath :=
  let chars := text.toList
  let steps := if chars.head? == some '$' then chars.drop 1 else chars
  if chars.isEmpty then none else stepsFrom? steps.length steps

def isBare (name : String) : Bool :=
  match name.toList with
  | [] => false
  | c :: rest =>
    (c == '_' || c.isAlpha) && rest.all fun c => c == '_' || Text.isLetter c || Text.isDigit c

def renderStep (bracketsKeys : Bool) : JsonStep → String
  | .key name =>
    if isBare name then "." ++ name
    else
      let quoted := "\"" ++ String.intercalate "\\\"" (name.splitOn "\"") ++ "\""
      if bracketsKeys then "[" ++ quoted ++ "]" else "." ++ quoted
  | .anyKey => ".*"
  | .index position => "[" ++ toString position ++ "]"
  | .anyIndex => "[*]"

def render (bracketsKeys : Bool) (path : JsonPath) : String :=
  "$" ++ String.join (path.map (renderStep bracketsKeys))

end JsonPath

end RelSchema.Sql
