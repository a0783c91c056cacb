import RelSchema.Sql.Expr.Call
import RelSchema.Sql.TypeSpec.Reader

namespace RelSchema.Sql.Expr

open TokenReader

def charsets : List String :=
  ["_ARMSCII8", "_ASCII", "_BIG5", "_BINARY", "_CP1250", "_CP1251", "_CP1256", "_CP1257",
   "_CP850", "_CP852", "_CP866", "_CP932", "_DEC8", "_EUCJPMS", "_EUCKR", "_GB18030", "_GB2312",
   "_GBK", "_GEOSTD8", "_GREEK", "_HEBREW", "_HP8", "_KEYBCS2", "_KOI8R", "_KOI8U", "_LATIN1",
   "_LATIN2", "_LATIN5", "_LATIN7", "_MACCE", "_MACROMAN", "_SJIS", "_SWE7", "_TIS620", "_UCS2",
   "_UJIS", "_UTF8", "_UTF16", "_UTF16LE", "_UTF32", "_UTF8MB3", "_UTF8MB4"]

def string? : TokenReader (Option String) :=
  return (← takeIf (·.kind == .string)).map (·.text)

def simpleLiteral? (t : Token) : Option Expr :=
  match t.kind with
  | .number => some (.number t.text)
  | .national => some (.national t.text)
  | .bytes => some (.bytes t.text)
  | .bits => some (.bits t.text)
  | .hexadecimal => some (.hexadecimal t.text)
  | .unicode | .dollarString => some (.string t.text)
  | _ =>
    match t.key with
    | "NULL" => some .null
    | "TRUE" => some (.truth true)
    | "FALSE" => some (.truth false)
    | "*" => some .star
    | _ => none

/-- A literal by itself. Strings next to each other are one value. -/
def literal? : TokenReader (Option Expr) := do
  match ← string? with
  | some text =>
    let more ← extend (fun found => do
      return (← string?).map fun text => found ++ [Expr.string text]) ([] : List Expr)
    return some (if more.isEmpty then .string text else .call "CONCAT" (.string text :: more))
  | none =>
    match ← takeIf (fun t => (simpleLiteral? t).isSome) with
    | some t => return simpleLiteral? t
    | none =>
      match ← get with
      | point :: digits :: rest =>
        if point.is "." && digits.kind == .number then
          set rest
          return some (.number ("0." ++ digits.text))
        else return none
      | _ => return none

def introduced? (d : Dialect) : TokenReader (Option Expr) := do
  if d != .mysql then return none
  match ← takeIf (fun t => t.kind == .word && charsets.contains t.key) with
  | none => return none
  | some t =>
    match ← literal? with
    | some value => return some (.introduced t.text value)
    | none => return some (.column [nameOf t])

def parameterSigns : TokenReader Nat :=
  extend (fun count => do if ← take "@" then return some (count + 1) else return none) 0

def parameterRest (d : Dialect) : TokenReader Expr := do
  let more ← parameterSigns
  let inner ← either (return (← takeIf (·.kind == .quotedName)).map fun t => .label (nameOf t)) <|
    either literal? do
      return (← anyWord? d).map fun t => Expr.word t.text
  return (List.replicate more ()).foldl (fun e _ => .parameter e) (← required (pure inner))

def placeholder? (d : Dialect) : TokenReader (Option Expr) := do
  let before ← get
  if ← take "?" then return some (.placeholder "")
  if ← take "@" then return some (.parameter (← parameterRest d))
  if ← take ":" then
    match ← takeIf (fun t => isPlainName t || t.kind == .number) with
    | some t => return some (.placeholder t.text)
    | none =>
      set before
      return none
  if d = .mysql then
    if ← take "@@" then return some (.parameter (.parameter (← parameterRest d)))
  if d = .postgresql then
    if ← take "%" then
      if ← take "(" then
        let name ← required (anyName? d)
        expect ")"
        let _ ← take "S"
        return some (.placeholder name.text)
      let _ ← take "S"
      return some (.word "%s")
  return none

def namesByStrings : Dialect → Bool
  | .mysql | .sqlserver | .sqlite => true
  | .postgresql | .oracle => false

def stringName? (d : Dialect) : TokenReader (Option Name) := do
  if namesByStrings d then return (← string?).map fun text => ⟨text, true⟩ else return none

def renamed? (d : Dialect) (n : Nested) : TokenReader (Option Expr) := do
  match ← n.disjunction with
  | none => return none
  | some e =>
    let name ← if ← take "AS" then anyName? d else either plainName? (stringName? d)
    return some ((name.map (Expr.renamed e)).getD e)

def paren? (d : Dialect) (n : Nested) : TokenReader (Option Expr) := do
  if !(← take "(") then return none
  let items ← match ← n.query with
    | some inner => pure [inner]
    | none => separated (renamed? d n)
  expect ")"
  match items with
  | [e] => return some (.paren e)
  | items => return some (.tuple items)

def primary? (d : Dialect) (n : Nested) : TokenReader (Option Expr) :=
  either literal? (either (introduced? d) (paren? d n))

def sortKey? (d : Dialect) (n : Nested) : TokenReader (Option Expr) := do
  match ← n.disjunction with
  | none => return none
  | some e =>
    let descends ← if ← take "ASC" then pure (some false) else
      if ← take "DESC" then pure (some true) else pure none
    let nullsFirst ← if ← takeAll ["NULLS", "FIRST"] then pure true else
      if ← takeAll ["NULLS", "LAST"] then pure false else
        pure (descends.getD false == nullsAreLarge d)
    return some (.sortKey e descends nullsFirst)

def order (d : Dialect) (n : Nested) : TokenReader (List Expr) := do
  if ← take "ORDER BY" then separated (sortKey? d n) else return []

def parameters? (d : Dialect) : TokenReader (Option (List Name)) := do
  let before ← get
  if ← take "(" then
    let names ← separated (anyName? d)
    if ← take ")" then return some names
    set before
    return none
  else return (← anyName? d).map fun name => [name]

def lambda? (d : Dialect) (n : Nested) : TokenReader (Option Expr) := do
  let before ← get
  match ← parameters? d with
  | some names =>
    if ← take "->" then return some (.lambda names (← required n.disjunction))
    if ← take "=>" then
      return some (.keyword ((names.head?.map (·.text)).getD "") (← required n.disjunction))
    set before
    return none
  | none =>
    set before
    return none

/-- An argument of a function, with an order if it is given one. The arguments of functions that
are not known may be renamed. -/
def argument? (d : Dialect) (n : Nested) (renames : Bool) : TokenReader (Option Expr) :=
  either (lambda? d n) do
    let found ← if ← take "DISTINCT" then
        pure (some (Expr.distinct (← separated n.disjunction)))
      else either n.query (if renames then renamed? d n else n.disjunction)
    match found with
    | none => return none
    | some e =>
      let keys ← order d n
      return some (if keys.isEmpty then e else .sorted e keys)

end RelSchema.Sql.Expr
