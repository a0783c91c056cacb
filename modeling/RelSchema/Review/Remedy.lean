import RelSchema.Sql.Quoting
import RelSchema.Sql.TypeText

namespace RelSchema.Review.Remedy

open Sql (quoteIdentifier renderType)

def alter (d : Dialect) (t : Table) : String := s!"ALTER TABLE {quoteIdentifier d t.name} "

def addColumn (d : Dialect) (t : Table) (definition : String) : String :=
  alter d t ++
    match d with
    | .sqlserver => s!"ADD {definition};"
    | .oracle => s!"ADD ({definition});"
    | _ => s!"ADD COLUMN {definition};"

def addConstraint (d : Dialect) (t : Table) (name body : String) : Option String :=
  match d with
  | .sqlite => none
  | _ => some (alter d t ++ s!"ADD CONSTRAINT {quoteIdentifier d name} {body};")

def createIndex (d : Dialect) (t : Table) (c : Column) (unique : Bool) : String :=
  let name := quoteIdentifier d s!"idx_{t.name}_{c.name}"
  (if unique then "CREATE UNIQUE INDEX" else "CREATE INDEX") ++
    s!" {name} ON {quoteIdentifier d t.name} ({quoteIdentifier d c.name});"

def allowNull (d : Dialect) (t : Table) (c : Column) : Option String :=
  let column := quoteIdentifier d c.name
  let type := renderType d (some t.name) c
  match d with
  | .postgresql => some (alter d t ++ s!"ALTER COLUMN {column} DROP NOT NULL;")
  | .sqlserver => some (alter d t ++ s!"ALTER COLUMN {column} {type} NULL;")
  | .sqlite => none
  | _ => some (alter d t ++ s!"MODIFY {column} {type} NULL;")

def timestampType (d : Dialect) : String :=
  renderType d none { name := "", type := .timestamp }

def addCreationTime (d : Dialect) (t : Table) : String :=
  let column := quoteIdentifier d "created_at"
  addColumn d t s!"{column} {timestampType d} NOT NULL DEFAULT CURRENT_TIMESTAMP"

def addUpdateTime (d : Dialect) (t : Table) : String :=
  let column := quoteIdentifier d "updated_at"
  addColumn d t s!"{column} {timestampType d} NULL"

def addForeignKey (d : Dialect) (t : Table) (c : Column) (referenced : Table) (key : Column) :
    Option String :=
  addConstraint d t s!"fk_{t.name}_{c.name}"
    (s!"FOREIGN KEY ({quoteIdentifier d c.name}) " ++
      s!"REFERENCES {quoteIdentifier d referenced.name} ({quoteIdentifier d key.name})")

def makeUnique (d : Dialect) (t : Table) (c : Column) : Option String :=
  addConstraint d t s!"uq_{t.name}_{c.name}" s!"UNIQUE ({quoteIdentifier d c.name})"

def checkFormat (d : Dialect) (t : Table) (c : Column) : Option String :=
  addConstraint d t s!"chk_{t.name}_{c.name}"
    (s!"CHECK ({quoteIdentifier d c.name} LIKE " ++ "'%_@_%._%')")

end RelSchema.Review.Remedy
