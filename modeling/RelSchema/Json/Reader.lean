import RelSchema.Json.Basic
import RelSchema.Text.Character

namespace RelSchema.Json

inductive SyntaxCause where
  | valueExpected | keyExpected | colonExpected | commaExpected
  | unterminatedString | controlCharacter | badEscape | badUnicodeEscape
  | extraText | byteOrderMark
  | tooManyDigits (count : Nat)
  deriving DecidableEq, Repr

/-- What is wrong, and how much of the text was left there. -/
structure SyntaxError where
  cause : SyntaxCause
  remaining : Nat
  deriving DecidableEq, Repr

def fail (cause : SyntaxCause) (rest : List Char) : Except SyntaxError α :=
  .error ⟨cause, rest.length⟩

def isSpace (c : Char) : Bool := c == ' ' || c == '\t' || c == '\n' || c == '\r'

def skipSpace (s : List Char) : List Char := s.dropWhile isSpace

def simpleEscape? : Char → Option Char
  | '"' => some '"'
  | '\\' => some '\\'
  | '/' => some '/'
  | 'b' => some (Char.ofNat 8)
  | 'f' => some (Char.ofNat 12)
  | 'n' => some '\n'
  | 'r' => some '\r'
  | 't' => some '\t'
  | _ => none

def unit? (a b c d : Char) : Option Nat := do
  let a ← Text.hexValue? a
  let b ← Text.hexValue? b
  let c ← Text.hexValue? c
  let d ← Text.hexValue? d
  some (((a * 16 + b) * 16 + c) * 16 + d)

def isHighSurrogate (unit : Nat) : Bool := decide (0xD800 ≤ unit) && decide (unit < 0xDC00)

def isLowSurrogate (unit : Nat) : Bool := decide (0xDC00 ≤ unit) && decide (unit < 0xE000)

/-- A surrogate without its partner is shown as the replacement character. -/
def charOfUnit (unit : Nat) : Char :=
  if isHighSurrogate unit || isLowSurrogate unit then Char.ofNat 0xFFFD else Char.ofNat unit

def joinSurrogates (high low : Nat) : Char :=
  Char.ofNat (0x10000 + (high - 0xD800) * 1024 + (low - 0xDC00))

inductive StringPart where
  | plain (c : Char)
  | unit (code : Nat)
  deriving DecidableEq, Repr

def joinParts : List StringPart → List Char
  | [] => []
  | .plain c :: rest => c :: joinParts rest
  | .unit high :: .unit low :: rest =>
    if isHighSurrogate high && isLowSurrogate low then joinSurrogates high low :: joinParts rest
    else charOfUnit high :: joinParts (.unit low :: rest)
  | .unit code :: rest => charOfUnit code :: joinParts rest

def consTo (part : StringPart) (r : Except SyntaxError (List StringPart × List Char)) :
    Except SyntaxError (List StringPart × List Char) :=
  r.map fun (parts, rest) => (part :: parts, rest)

def readParts (opening : List Char) : List Char → Except SyntaxError (List StringPart × List Char)
  | [] => fail .unterminatedString opening
  | c :: rest =>
    if c = '"' then .ok ([], rest)
    else if c = '\\' then
      match rest with
      | [] => fail .unterminatedString opening
      | e :: body =>
        match simpleEscape? e with
        | some plain => consTo (.plain plain) (readParts opening body)
        | none =>
          if e != 'u' then fail .badEscape (c :: rest)
          else match body with
            | d1 :: d2 :: d3 :: d4 :: after =>
              if after.isEmpty then fail .badUnicodeEscape rest
              else match unit? d1 d2 d3 d4 with
                | some code => consTo (.unit code) (readParts opening after)
                | none => fail .badUnicodeEscape rest
            | _ => fail .badUnicodeEscape rest
    else if c.toNat < 32 then fail .controlCharacter (c :: rest)
    else consTo (.plain c) (readParts opening rest)

def readString (opening body : List Char) : Except SyntaxError (String × List Char) :=
  (readParts opening body).map fun (parts, rest) => (String.ofList (joinParts parts), rest)

def digitsValue (digits : List Char) : Nat :=
  digits.foldl (fun value d => value * 10 + (d.toNat - '0'.toNat)) 0

def spanWhole : List Char → List Char × List Char
  | '0' :: rest => (['0'], rest)
  | s => s.span Char.isDigit

def spanFraction : List Char → List Char × List Char
  | '.' :: rest =>
    match rest.span Char.isDigit with
    | ([], _) => ([], '.' :: rest)
    | found => found
  | s => ([], s)

def spanExponent (s : List Char) : Option Int × List Char :=
  match s with
  | e :: rest =>
    if e != 'e' && e != 'E' then (none, s)
    else
      let (negative, digits) := match rest with
        | '-' :: more => (true, more)
        | '+' :: more => (false, more)
        | _ => (false, rest)
      match digits.span Char.isDigit with
      | ([], _) => (none, s)
      | (power, after) =>
        (some (if negative then -(digitsValue power : Int) else digitsValue power), after)
  | [] => (none, s)

def readNumber (start : List Char) (negative : Bool) (s : List Char) :
    Except SyntaxError (Json × List Char) :=
  let (whole, afterWhole) := spanWhole s
  if whole.isEmpty then fail .valueExpected start
  else
    let (fraction, afterFraction) := spanFraction afterWhole
    let (exponent, rest) := spanExponent afterFraction
    let sign : Int := if negative then -1 else 1
    if fraction.isEmpty && exponent.isNone then
      if whole.length > maxDigits then fail (.tooManyDigits whole.length) start
      else .ok (.int (sign * digitsValue whole), rest)
    else
      .ok (.decimal ⟨sign * digitsValue (whole ++ fraction),
        exponent.getD 0 - (fraction.length : Int)⟩, rest)

def afterWord? (word : String) (s : List Char) : Option (List Char) :=
  if word.toList.isPrefixOf s then some (s.drop word.length) else none

def wordValues : List (String × Json) :=
  [("null", .null), ("true", .bool true), ("false", .bool false), ("NaN", .nan),
   ("Infinity", .infinite false), ("-Infinity", .infinite true)]

def readWord? (s : List Char) : Option (Json × List Char) :=
  wordValues.findSome? fun (word, value) => (afterWord? word s).map (value, ·)

def readScalar (s : List Char) : Except SyntaxError (Json × List Char) :=
  match readWord? s with
  | some found => .ok found
  | none =>
    match s with
    | '-' :: rest => readNumber s true rest
    | _ => readNumber s false s

def openBrace : Char := Char.ofNat 0x7B

def closeBrace : Char := Char.ofNat 0x7D

mutual

/-- A value. The fuel bounds the nesting together with the number of items. -/
def readValue : Nat → List Char → Except SyntaxError (Json × List Char)
  | 0, s => fail .valueExpected s
  | fuel + 1, s =>
    match s with
    | [] => fail .valueExpected s
    | c :: rest =>
      if c = '"' then
        (readString s rest).map fun (text, after) => (.string text, after)
      else if c = '[' then
        match skipSpace rest with
        | ']' :: after => .ok (.array [], after)
        | first => (readItems fuel first).map fun (items, after) => (.array items, after)
      else if c = openBrace then
        let first := skipSpace rest
        if first.head? == some closeBrace then .ok (.object [], first.tail)
        else (readMembers fuel first).map fun (members, after) => (.object members, after)
      else readScalar s

def readItems : Nat → List Char → Except SyntaxError (List Json × List Char)
  | 0, s => fail .valueExpected s
  | fuel + 1, s => do
    let (item, after) ← readValue fuel s
    match skipSpace after with
    | ']' :: rest => .ok ([item], rest)
    | ',' :: rest =>
      let (items, rest) ← readItems fuel (skipSpace rest)
      .ok (item :: items, rest)
    | rest => fail .commaExpected rest

def readMembers : Nat → List Char → Except SyntaxError (List (String × Json) × List Char)
  | 0, s => fail .keyExpected s
  | fuel + 1, s =>
    match s with
    | '"' :: body => do
      let (key, after) ← readString s body
      match skipSpace after with
      | ':' :: rest =>
        let (value, after) ← readValue fuel (skipSpace rest)
        let after := skipSpace after
        let member := (key, value)
        if after.head? == some closeBrace then .ok ([member], after.tail)
        else match after with
          | ',' :: rest =>
            let (members, rest) ← readMembers fuel (skipSpace rest)
            .ok (member :: members, rest)
          | rest => fail .commaExpected rest
      | rest => fail .colonExpected rest
    | _ => fail .keyExpected s

end

def readChars (s : List Char) : Except SyntaxError Json :=
  if s.head? == some (Char.ofNat 0xFEFF) then fail .byteOrderMark s
  else do
    let (value, after) ← readValue (s.length + 1) (skipSpace s)
    match skipSpace after with
    | [] => .ok value
    | rest => fail .extraText rest

def read (text : String) : Except SyntaxError Json := readChars text.toList

namespace SyntaxError

def wording : SyntaxCause → String
  | .valueExpected => "Expecting value"
  | .keyExpected => "Expecting property name enclosed in double quotes"
  | .colonExpected => "Expecting ':' delimiter"
  | .commaExpected => "Expecting ',' delimiter"
  | .unterminatedString => "Unterminated string starting at"
  | .controlCharacter => "Invalid control character at"
  | .badEscape => "Invalid \\escape"
  | .badUnicodeEscape => "Invalid \\uXXXX escape"
  | .extraText => "Extra data"
  | .byteOrderMark => "Unexpected UTF-8 BOM (decode using utf-8-sig)"
  | .tooManyDigits count =>
    s!"Exceeds the limit ({maxDigits} digits) for integer string conversion: value has " ++
      s!"{count} digits; use sys.set_int_max_str_digits() to increase the limit"

def message (text : String) (e : SyntaxError) : String :=
  match e.cause with
  | .tooManyDigits _ => wording e.cause
  | cause =>
    let offset := text.length - e.remaining
    let before := text.toList.take offset
    let line := before.count '\n' + 1
    let column := (before.reverse.takeWhile (· != '\n')).length + 1
    s!"{wording cause}: line {line} column {column} (char {offset})"

/-- Whether the text breaks the grammar, as against a limit on the size of numbers. -/
def isMalformed (e : SyntaxError) : Bool :=
  match e.cause with
  | .tooManyDigits _ => false
  | _ => true

end SyntaxError

end RelSchema.Json
