import RelSchema.Sql.Header
import RelSchema.Sql.Item
import RelSchema.Sql.TypeSpec.Column

namespace RelSchema.Sql.Body

abbrev ItemReader := List Char → Option Item

abbrev Outcome := Remarked ReadError

/-- Types that are declared by listing their values, by name in lower case. -/
abbrev Enums := List (String × List String)

/-- The values of a declared type; the last declaration of a name counts. -/
def Enums.values? (enums : Enums) (name : String) : Option (List String) :=
  enums.reverse.lookup name

def declaredValues? (enums : Enums) (item : List Char) : Option (List String) := do
  let head ← Header.columnHead? item
  enums.values? (Text.lower (String.ofList (Header.lastName head.type)))

def Target.reference (t : Target) : Reference := ⟨t.table, t.columns.head?.getD ""⟩

def defaultConstraint (value : String) : ColumnConstraint :=
  { kind := .default, value := some value }

def checkConstraint (condition : String) : ColumnConstraint :=
  { kind := .check, expression := some condition }

def underRule (c : Column) : Rule → Except ReadError Column
  | .nullable allowed => .ok { c with nullable := allowed }
  | .primaryKey none => .ok { c with primaryKey := true }
  | .unique _ => .ok { c with unique := true }
  | .default value => .ok { c with constraints := c.constraints ++ [defaultConstraint value] }
  | .check condition _ =>
    .ok { c with constraints := c.constraints ++ [checkConstraint condition] }
  | .references t => .ok { c with references := some (Target.reference t) }
  | .nameOnly => .error .unfinishedRule
  | .incomplete => .error .missingArgument
  | .primaryKey (some _) | .foreignKey .. | .other => .ok c

def keyed (c : Column) : Column := if c.primaryKey then { c with nullable := false } else c

def underRules (c : Column) (rules : List Rule) : Except ReadError Column :=
  (rules.foldlM underRule c).map keyed

/-- A column from its name, its type and its rules. Declared values stand for a type. -/
def column (name : String) (type : Option TypeSpec) (rules : List Rule)
    (declared : Option (List String)) : Outcome Column := do
  let c : Column := { name }
  let typed ← match declared, type with
    | some values, _ => pure { c with type := .enum, values }
    | none, some type => type.applyTo c
    | none, none => pure c
  ⟨[], underRules typed rules⟩

def compact (text : List Char) : String :=
  Text.upper (String.ofList (text.filter fun c => !Text.isBlank c))

/-- A dialect without truth values spells them as numbers of one exact type. -/
def withTruthSpelling (d : Dialect) (item : List Char) (c : Column) : Column :=
  match c.type, Header.columnHead? item with
  | .decimal, some head =>
    if compact head.type = compact ((d.typeName? .boolean).getD "").toList then
      { c with type := .boolean, length := none, scale := none }
    else c
  | _, _ => c

def bareTypeName (type : List Char) : String :=
  let (before, _) := TypeSpec.cutAt '(' type
  let (before, _) := TypeSpec.cutAt '[' before
  Text.upper (" ".intercalate (Text.words before))

def endsInBracket (type : List Char) : Bool := (Text.trimRight type).getLast? == some ']'

/-- A column whose type the item reader does not know: the rest is read with a plain type, and the
type is taken from the text. -/
def unknownTypeColumn (read : ItemReader) (enums : Enums) (item : List Char) :
    Outcome (Option Column) :=
  match Header.columnHead? item with
  | none => pure none
  | some head =>
    match read (head.name ++ " TEXT".toList ++ head.rest) with
    | some (.column name type rules) => do
      let c ← column name type rules none
      match declaredValues? enums item with
      | some values => return some { c with type := .enum, values }
      | none =>
        let bare := bareTypeName head.type
        if endsInBracket head.type then
          return some { c with type := .array, elementType := TypeSpec.columnType? bare }
        else do
          let s ← TypeSpec.sized bare (TypeSpec.argumentsIn (TypeSpec.cutAt '(' head.type).2)
          return some { c with type := s.type, length := s.length, scale := s.scale }
    | _ => pure none

structure Contribution where
  columns : List Column := []
  rules : List Rule := []

def isPassedOver (item : List Char) : Bool := item.all Text.isBlank || Header.isIndexItem item

def contribution (d : Dialect) (read : ItemReader) (enums : Enums) (table : String)
    (item : List Char) : Outcome Contribution :=
  if isPassedOver item then pure {}
  else match read item with
    | some (.column name type rules) => do
      let c ← column name type rules (declaredValues? enums item)
      return { columns := [withTruthSpelling d item c] }
    | some (.rules rules) => return { rules }
    | none => do
      match ← unknownTypeColumn read enums item with
      | some c => return { columns := [withTruthSpelling d item c] }
      | none =>
        Remarked.note (.unreadItem table (String.ofList (Text.trimChars item)))
        return {}

def contributions (d : Dialect) (read : ItemReader) (enums : Enums) (table : String) :
    List (List Char) → Outcome Contribution
  | [] => pure {}
  | item :: rest => do
    let first ← contribution d read enums table item
    let more ← contributions d read enums table rest
    return { columns := first.columns ++ more.columns, rules := first.rules ++ more.rules }

def firstOfEachFrom (seen : List String) : List Column → List Column
  | [] => []
  | c :: rest =>
    let name := Text.lower c.name
    if seen.contains name then firstOfEachFrom seen rest
    else c :: firstOfEachFrom (name :: seen) rest

def firstOfEach (columns : List Column) : List Column := firstOfEachFrom [] columns

def repeatNotices (table : String) (seen : List String) : List Column → List Notice
  | [] => []
  | c :: rest =>
    let name := Text.lower c.name
    if seen.contains name then .repeatedColumn table c.name :: repeatNotices table seen rest
    else repeatNotices table (name :: seen) rest

def changeFirst (name : String) (f : Column → Column) : List Column → List Column
  | [] => []
  | c :: rest => if Text.sameName c.name name then f c :: rest else c :: changeFirst name f rest

def change (t : Table) (name : String) (f : Column → Column) : Table :=
  { t with columns := changeFirst name f t.columns }

def changeOr (missing : Notice) (t : Table) (name : String) (f : Column → Column) :
    Table × List Notice :=
  match t.column? name with
  | some _ => (change t name f, [])
  | none => (t, [missing])

def through {α : Type} (f : Table → α → Table × List Notice) (t : Table) :
    List α → Table × List Notice
  | [] => (t, [])
  | a :: rest =>
    let (next, notices) := f t a
    let (last, more) := through f next rest
    (last, notices ++ more)

def keyPairs (columns : List String) (target : Target) : List (String × Reference) :=
  columns.mapIdx fun i name => (name, ⟨target.table, target.columns[i]?.getD ""⟩)

def underTableRule (t : Table) : Rule → Table × List Notice
  | .primaryKey (some columns) =>
    through (fun t name =>
      changeOr (.primaryKeyUnknown t.name name) t name fun c =>
        { c with primaryKey := true, nullable := false }) t columns
  | .foreignKey columns (some target) =>
    through (fun t (name, r) =>
      changeOr (.foreignKeyUnknown t.name name) t name fun c => { c with references := some r })
      t (keyPairs columns target)
  | .unique [name] => (change t name fun c => { c with unique := true }, [])
  | .check condition mentions =>
    match mentions.find? fun name => (t.column? name).isSome with
    | some name =>
      (change t name fun c =>
        { c with constraints := c.constraints ++ [checkConstraint condition] },
        [])
    | none => (t, [.checkUnplaced t.name condition])
  | _ => (t, [])

def table (d : Dialect) (read : ItemReader) (enums : Enums) (name : String) (body : List Char) :
    Outcome Table := do
  let c ← contributions d read enums name (splitTopLevel body ',')
  let plain : Table := { name, columns := firstOfEach c.columns }
  let (t, notices) := through underTableRule plain (c.rules.takeWhile (!·.isIncomplete))
  let result := if c.rules.any (·.isIncomplete) then .error .missingArgument else .ok t
  ⟨repeatNotices name [] c.columns ++ notices, result⟩

end RelSchema.Sql.Body
