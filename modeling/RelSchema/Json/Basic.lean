import RelSchema.Decimal
import RelSchema.Text.Character

namespace RelSchema

/-- Numbers with a fraction or an exponent are kept exactly as they are written. -/
inductive Json where
  | null
  | bool (value : Bool)
  | int (value : Int)
  | decimal (value : Decimal.Scaled)
  | nan
  | infinite (negative : Bool)
  | string (value : String)
  | array (items : List Json)
  | object (members : List (String × Json))
  deriving Repr

namespace Json

def maxDigits : Nat := 4300

/-- The value of the last member with that key. -/
def lookup (members : List (String × Json)) (key : String) : Option Json :=
  (members.reverse.find? (·.1 == key)).map (·.2)

def ofOption (f : α → Json) : Option α → Json
  | some a => f a
  | none => null

def strings (items : List String) : Json := array (items.map string)

def unicodeEscape (unit : Nat) : List Char := '\\' :: 'u' :: Text.hex 4 unit

/-- A character outside the basic plane is written as a pair of surrogates. -/
def escapeChar (c : Char) : List Char :=
  if c = '"' then ['\\', '"']
  else if c = '\\' then ['\\', '\\']
  else if c = '\n' then ['\\', 'n']
  else if c = '\r' then ['\\', 'r']
  else if c = '\t' then ['\\', 't']
  else if c.toNat = 8 then ['\\', 'b']
  else if c.toNat = 12 then ['\\', 'f']
  else if 32 ≤ c.toNat ∧ c.toNat < 127 then [c]
  else if c.toNat < 0x10000 then unicodeEscape c.toNat
  else
    let offset := c.toNat - 0x10000
    unicodeEscape (0xD800 + offset / 1024) ++ unicodeEscape (0xDC00 + offset % 1024)

def stringChars (s : List Char) : List Char := '"' :: s.flatMap escapeChar ++ ['"']

def quote (s : String) : String := String.ofList (stringChars s.toList)

inductive Style where
  | line
  | indented (width : Nat)
  deriving DecidableEq, Repr

def Style.newline (style : Style) (depth : Nat) : List Char :=
  match style with
  | line => []
  | indented width => '\n' :: List.replicate (width * depth) ' '

def Style.separator (style : Style) (depth : Nat) : List Char :=
  match style with
  | line => [',', ' ']
  | indented _ => ',' :: style.newline depth

def numberChars : Json → List Char
  | int value => (toString value).toList
  | decimal value => (Decimal.shortest value.toFloat).toList
  | nan => "NaN".toList
  | infinite negative => (if negative then "-Infinity" else "Infinity").toList
  | _ => []

mutual

def chars (style : Style) (depth : Nat) : Json → List Char
  | null => "null".toList
  | bool value => (if value then "true" else "false").toList
  | string value => stringChars value.toList
  | array [] => "[]".toList
  | array (item :: rest) =>
    '[' :: style.newline (depth + 1) ++ chars style (depth + 1) item ++
      itemChars style (depth + 1) rest ++ style.newline depth ++ [']']
  | object [] => "{}".toList
  | object ((key, value) :: rest) =>
    Char.ofNat 0x7B :: style.newline (depth + 1) ++ memberChars style (depth + 1) key value ++
      laterMemberChars style (depth + 1) rest ++ style.newline depth ++ [Char.ofNat 0x7D]
  | number => numberChars number

def itemChars (style : Style) (depth : Nat) : List Json → List Char
  | [] => []
  | item :: rest =>
    style.separator depth ++ chars style depth item ++ itemChars style depth rest

def memberChars (style : Style) (depth : Nat) (key : String) (value : Json) : List Char :=
  stringChars key.toList ++ ':' :: ' ' :: chars style depth value

def laterMemberChars (style : Style) (depth : Nat) : List (String × Json) → List Char
  | [] => []
  | (key, value) :: rest =>
    style.separator depth ++ memberChars style depth key value ++
      laterMemberChars style depth rest

end

def render (style : Style) (json : Json) : String := String.ofList (chars style 0 json)

mutual

def isWritable : Json → Bool
  | int value => decide (value.natAbs.repr.length ≤ maxDigits)
  | array items => areWritable items
  | object members => membersAreWritable members
  | _ => true

def areWritable : List Json → Bool
  | [] => true
  | item :: rest => item.isWritable && areWritable rest

def membersAreWritable : List (String × Json) → Bool
  | [] => true
  | (_, value) :: rest => value.isWritable && membersAreWritable rest

end

inductive WriteError where
  | tooManyDigits
  deriving DecidableEq, Repr

def WriteError.message : WriteError → String
  | tooManyDigits =>
    s!"Exceeds the limit ({maxDigits} digits) for integer string conversion; " ++
      "use sys.set_int_max_str_digits() to increase the limit"

def write (style : Style) (json : Json) : Except WriteError String :=
  if json.isWritable then .ok (json.render style) else .error .tooManyDigits

end Json

end RelSchema
