import RelSchema.Sql.Expr.Primary

namespace RelSchema.Sql.Expr

open TokenReader

/-- Words that are names elsewhere, but go on with a query after the name of a table. -/
def joinWords : List String :=
  ["ANTI", "ASOF", "FULL", "LEFT", "LIMIT", "NATURAL", "OFFSET", "RIGHT", "SEMI", "WINDOW"]

def tableAlias? (d : Dialect) : TokenReader (Option Name) := do
  if ← take "AS" then anyName? d
  else return (← takeIf fun t => isPlainName t && !joinWords.contains t.key).map nameOf

def table? (d : Dialect) : TokenReader (Option Expr) := do
  match ← plainName? with
  | none => return none
  | some first =>
    let parts ← extend (fun parts => do
      if ← take "." then return some (parts ++ [← required (anyName? d)]) else return none) [first]
    return some (.table parts (← tableAlias? d))

def joinKind? : TokenReader (Option String) := do
  let before ← get
  let side ← takeOneOf ["LEFT", "RIGHT", "FULL"]
  let kind ← takeOneOf ["OUTER", "INNER", "CROSS"]
  if ← take "JOIN" then return some (" ".intercalate (side.toList ++ kind.toList ++ ["JOIN"]))
  set before
  return none

def joined? (d : Dialect) (n : Nested) : TokenReader (Option Expr) := do
  match ← joinKind? with
  | none => return none
  | some kind =>
    let table ← required (table? d)
    let condition ← if ← take "ON" then n.disjunction else pure none
    return some (.join kind table condition)

def tables (d : Dialect) (n : Nested) : TokenReader (List Expr) := do
  let first ← required (table? d)
  extend (fun found => do
    if ← take "," then return some (found ++ [← required (table? d)])
    return (← joined? d n).map fun next => found ++ [next]) [first]

def query? (d : Dialect) (n : Nested) : TokenReader (Option Expr) := do
  if !(← take "SELECT") then return none
  let isDistinct ← take "DISTINCT"
  let items ← separated (renamed? d n)
  let sources ← if ← take "FROM" then tables d n else pure []
  let condition ← if ← take "WHERE" then n.disjunction else pure none
  let groups ← if ← take "GROUP BY" then separated n.disjunction else pure []
  let groupCondition ← if ← take "HAVING" then n.disjunction else pure none
  let keys ← order d n
  let limit ← if ← take "LIMIT" then n.term else pure none
  return some (.query isDistinct items sources condition groups groupCondition keys limit)

end RelSchema.Sql.Expr
