import RelSchema.Notice
import RelSchema.Review.Advice
import RelSchema.Review.Remedy
import RelSchema.Schema.Naming
import RelSchema.Text.Case

namespace RelSchema.Review

open Text (holdsAny)

def wideTableColumns : Nat := 20

def longVarcharLength : Int := 1000

def commonTables : List (String × String × List String) :=
  [("users", "user accounts", ["id", "username", "email", "password", "created_at"]),
   ("roles", "user roles for permission management", ["id", "name", "description"]),
   ("permissions", "permissions for access control", ["id", "name", "description"])]

def filterWords : List String := ["status", "type", "category", "active", "enabled", "deleted"]

def flagNames : List String := ["active", "enabled", "deleted"]

def optionalNames : List String :=
  ["description", "notes", "comments", "bio", "address", "middle_name"]

def creationNames : List String := ["created_at", "createdat", "creation_date"]

def updateNames : List String := ["updated_at", "updatedat", "last_updated"]

def passwordNames : List String := ["password", "user_password", "pass"]

def cardWords : List String := ["credit_card", "creditcard", "card_number", "cardnumber"]

def identityWords : List String := ["ssn", "social_security", "passport", "tax_id"]

def lowerName (c : Column) : String := Text.lower c.name

def finding (t : Table) (advice : Advice) (action : Option String) : Finding :=
  { table := t.name, advice, action }

def due (condition : Bool) (f : Finding) : List Finding := if condition then [f] else []

def onColumns (s : Schema) (check : Table → Column → List Finding) : List Finding :=
  s.tables.flatMap fun t => t.columns.flatMap (check t)

def commonTable? (s : Schema) (name : String) : Option Table :=
  s.tables.find? fun t => [name, name ++ "_table", singularize name].contains (Text.lower t.name)

def hasExpected (t : Table) (column : String) : Bool :=
  let names := [column, column ++ "_column", s!"{Text.lower t.name}_{column}"]
  t.columns.any fun c => names.contains (lowerName c)

def commonTableFindings (s : Schema) : List Finding :=
  commonTables.flatMap fun (name, purpose, expected) =>
    match commonTable? s name with
    | none => [{ table := name, advice := .addTable purpose }]
    | some t =>
      (expected.filter (!hasExpected t ·)).map fun column =>
        finding t (.addColumn column name) none

/-- What stands before the ending of a name that marks a key. The shortest beginning counts, and a
line break at the end of the name is passed over. -/
def keyStem? (name : String) : Option String :=
  let chars := name.toList
  let chars := if chars.getLast? = some '\n' then chars.dropLast else chars
  if chars.contains '\n' then none
  else match chars.reverse with
    | d :: i :: stem =>
      if Text.foldLetter d = 'd' ∧ Text.foldLetter i = 'i' ∧ !stem.isEmpty then
        match stem with
        | '_' :: c :: rest => some (Text.lower (String.ofList (c :: rest).reverse))
        | stem => some (Text.lower (String.ofList stem.reverse))
      else none
    | _ => none

def namedTable? (s : Schema) (stem : String) : Option (Table × Nat) :=
  s.tables.zipIdx.find? fun (t, _) =>
    [stem, stem ++ "s", stem ++ "_table"].contains (Text.lower t.name)

def firstKey? (t : Table) : Option (Column × Nat) := t.columns.zipIdx.find? (·.1.primaryKey)

/-- The foreign key that a column at some place looks like. A primary key is not its own. -/
def missingKey? (s : Schema) (d : Dialect) (t : Table) (place : Nat) (c : Column) (spot : Nat) :
    Option Finding := do
  if c.isForeignKey then none
  let stem ← keyStem? c.name
  let (referenced, i) ← namedTable? s stem
  let (key, j) ← firstKey? referenced
  if (i = place ∧ j = spot) ∨ key.type ≠ c.type then none
  return finding t (.addForeignKey c.name referenced.name)
    (Remedy.addForeignKey d t c referenced key)

def missingKeyFindings (s : Schema) (d : Dialect) : List Finding :=
  s.tables.zipIdx.flatMap fun (t, i) =>
    t.columns.zipIdx.filterMap fun (c, j) => missingKey? s d t i c j

def indexFindings (s : Schema) (d : Dialect) : List Finding :=
  onColumns s fun t c =>
    if c.primaryKey then []
    else if c.isForeignKey then
      [finding t (.indexForeignKey c.name) (Remedy.createIndex d t c false)]
    else if c.unique then [finding t (.indexUnique c.name) (Remedy.createIndex d t c true)]
    else due (holdsAny filterWords (lowerName c))
      (finding t (.indexFilter c.name) (Remedy.createIndex d t c false))

def isListName (name : String) : Bool :=
  ["list", "ids", "names"].any (fun ending => ending.toList.isSuffixOf name.toList) ||
    holdsAny ["_list_"] name

def normalizationFindings (s : Schema) : List Finding :=
  s.tables.flatMap fun t =>
    t.columns.flatMap (fun c =>
      due (c.type = .array || c.type = .json) (finding t (.separateValues c.name) none) ++
        due (isListName (lowerName c)) (finding t (.separateList c.name) none)) ++
      due (wideTableColumns < t.columns.length) (finding t (.splitTable t.columns.length) none)

def namingFinding (t : Table) (dominant : Option Convention) (name : String)
    (advice : Convention → Advice) : List Finding :=
  match dominant with
  | none => []
  | some v => due (Convention.of? name != some v) (finding t (advice v) none)

def namingFindings (s : Schema) : List Finding :=
  let tables := Convention.dominant (s.tables.map (·.name))
  let columns := Convention.dominant (s.tables.flatMap fun t => t.columns.map (·.name))
  s.tables.flatMap fun t =>
    namingFinding t tables t.name .renameTable ++
      t.columns.flatMap fun c => namingFinding t columns c.name (.renameColumn c.name)

def hasFlagName (c : Column) : Bool :=
  let name := lowerName c
  name.startsWith "is_" || name.startsWith "has_" || flagNames.contains name

def dataTypeFindings (s : Schema) : List Finding :=
  onColumns s fun t c =>
    let length := c.length.getD 0
    due (c.type = .varchar && longVarcharLength < length)
        (finding t (.useText c.name length) none) ++
      due (c.type = .int && hasFlagName c) (finding t (.useBoolean c.name) none) ++
      due (c.type = .decimal && holdsAny ["price"] (lowerName c))
        (finding t (.fixPrecision c.name) none)

def hasTimestamp (t : Table) (names : List String) : Bool :=
  t.columns.any fun c =>
    names.contains (lowerName c) && (c.type = .timestamp || c.type = .date)

def timestampFindings (s : Schema) (d : Dialect) : List Finding :=
  s.tables.flatMap fun t =>
    due (!hasTimestamp t creationNames)
        (finding t .addCreationTime (Remedy.addCreationTime d t)) ++
      due (!hasTimestamp t updateNames) (finding t .addUpdateTime (Remedy.addUpdateTime d t))

def emailFindings (d : Dialect) (t : Table) (c : Column) : List Finding :=
  if c.type = .varchar ∧ holdsAny ["email"] (lowerName c) then
    due (!c.unique) (finding t (.makeUnique c.name) (Remedy.makeUnique d t c)) ++
      due (!c.checks.any fun check => holdsAny ["email"] (Text.lower check))
        (finding t (.checkFormat c.name) (Remedy.checkFormat d t c))
  else []

def constraintFindings (s : Schema) (d : Dialect) : List Finding :=
  s.tables.flatMap fun t =>
    due t.primaryKey.isEmpty (finding t .addPrimaryKey none) ++
      t.columns.flatMap fun c =>
        due (!c.nullable && !c.primaryKey && optionalNames.contains (lowerName c))
            (finding t (.allowNull c.name) (Remedy.allowNull d t c)) ++
          emailFindings d t c

def securityFindings (s : Schema) : List Finding :=
  onColumns s fun t c =>
    let name := lowerName c
    if c.type ≠ .varchar then []
    else if passwordNames.contains name then [finding t (.storeHash c.name) none]
    else if holdsAny cardWords name then [finding t (.protectCard c.name) none]
    else due (holdsAny identityWords name) (finding t (.protectIdentity c.name) none)

def findings (d : Dialect) (s : Schema) : List Finding :=
  commonTableFindings s ++ missingKeyFindings s d ++ indexFindings s d ++
    normalizationFindings s ++ namingFindings s ++ dataTypeFindings s ++
    timestampFindings s d ++ constraintFindings s d ++ securityFindings s

def ofSchema (s : Schema) : Except UnknownDialect (List Finding) :=
  (Dialect.ofKey s.dialect).map fun d => findings d s

def findingId (place : Nat) : String := s!"suggestion-{place + 1}"

def notice (found : List Finding) : Notice := .reviewed found.length

end RelSchema.Review
