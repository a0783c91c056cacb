import RelSchema.Suggestion.Naming
import RelSchema.Text.Character

namespace RelSchema.Suggestion

def isPlural (name : String) : Bool := (Text.lower name).toList.getLast? == some 's'

def refersTo (a b : Table) : Bool :=
  a.columns.any fun c =>
    (c.references.map fun r => !r.table.isEmpty && Text.sameName r.table b.name).getD false

def connected (s : Schema) (a b : Table) : Bool :=
  !(s.edgesBetween a b).isEmpty || refersTo a b || refersTo b a

def withoutLast (name : String) : String := String.ofList name.toList.dropLast

def joinNames (a b : Table) : List String :=
  [withoutLast a.name ++ "_" ++ b.name, withoutLast b.name ++ "_" ++ a.name,
   a.name ++ "_" ++ b.name, b.name ++ "_" ++ a.name]

def isJoined (s : Schema) (a b : Table) : Bool :=
  s.tables.any fun t => (joinNames a b).contains t.name

def manyToMany (a b : Table) : Suggestion :=
  { id := "", source := a.name, target := b.name, cardinality := .manyToMany, confidence := 60,
    reason := s!"Tables with plural names '{a.name}' and '{b.name}' often have a many-to-many " ++
      "relationship. Consider creating a join table." }

def pairs {α : Type} : List α → List (α × α)
  | [] => []
  | a :: rest => rest.map (a, ·) ++ pairs rest

def ofPair? (s : Schema) (a b : Table) : Option Suggestion :=
  if isPlural a.name && isPlural b.name && !isJoined s a b && !connected s a b then
    some (manyToMany a b)
  else none

def piecesBetween (separates : Char → Bool) : List Char → List Char → List (List Char)
  | word, [] => [word.reverse]
  | word, c :: rest =>
    if separates c then
      match rest with
      | [] => [word.reverse, []]
      | e :: _ =>
        if separates e then piecesBetween separates word rest
        else word.reverse :: piecesBetween separates [] rest
    else piecesBetween separates (c :: word) rest

def singularWord (word : List Char) : List Char :=
  if word.getLast? = some 's' ∧ word.length > 1 then word.dropLast else word

def entityWords (name : String) : List (List Char) :=
  let pieces := piecesBetween (fun c => c == '_' || Text.isBlank c) [] (Text.lower name).toList
  (pieces.map singularWord).filter (·.length > 2)

def namesEntity (name word : List Char) : Bool :=
  name == word || name == word ++ ['s'] || name == word ++ "_table".toList ||
    (word ++ ['_']).isPrefixOf name || ('_' :: word).isSuffixOf name

def embeds (table other : Table) : Bool :=
  (entityWords table.name).any (namesEntity (Text.lower other.name).toList)

def lexical (table other : Table) : Suggestion :=
  { id := "", source := other.name, target := table.name, cardinality := .oneToMany,
    confidence := 50,
    reason := s!"Tables '{other.name}' and '{table.name}' appear to be related based on naming " ++
      "patterns. Consider adding a foreign key." }

/-- Suggestions from the names of tables: first the pairs of plurals, then names inside names. -/
def fromTableNames (s : Schema) : List Suggestion :=
  number <|
    (pairs s.tables).filterMap (fun (a, b) => ofPair? s a b) ++
    (placed s.tables).flatMap fun (table, i) =>
      (placed s.tables).filterMap fun (other, j) =>
        if i ≠ j ∧ embeds table other ∧ !connected s table other then some (lexical table other)
        else none

end RelSchema.Suggestion
