import RelSchema.Schema.Naming

namespace RelSchema.Review

inductive Area where
  | missingTable | missingForeignKey | index | normalization | naming | dataType | timestamp
  | constraint | security
  deriving DecidableEq, Repr

def Area.name : Area → String
  | missingTable => "missing_table"
  | missingForeignKey => "missing_fk"
  | index => "index_opportunity"
  | normalization => "normalization_issue"
  | naming => "naming_consistency"
  | dataType => "data_type_optimization"
  | timestamp => "missing_timestamp"
  | constraint => "missing_constraints"
  | security => "security_concern"

inductive Priority where
  | high | medium | low
  deriving DecidableEq, Repr

namespace Priority

def all : List Priority := [high, medium, low]

def name : Priority → String
  | high => "high"
  | medium => "medium"
  | low => "low"

def ofName? (s : String) : Option Priority := all.find? (·.name == s)

end Priority

inductive Advice where
  | addTable (purpose : String)
  | addColumn (column kind : String)
  | addForeignKey (column referenced : String)
  | indexForeignKey (column : String)
  | indexUnique (column : String)
  | indexFilter (column : String)
  | separateValues (column : String)
  | separateList (column : String)
  | splitTable (columns : Nat)
  | renameTable (convention : Convention)
  | renameColumn (column : String) (convention : Convention)
  | useText (column : String) (length : Int)
  | useBoolean (column : String)
  | fixPrecision (column : String)
  | addCreationTime
  | addUpdateTime
  | addPrimaryKey
  | allowNull (column : String)
  | makeUnique (column : String)
  | checkFormat (column : String)
  | storeHash (column : String)
  | protectCard (column : String)
  | protectIdentity (column : String)
  deriving DecidableEq, Repr

namespace Advice

def area : Advice → Area
  | addTable _ => .missingTable
  | addForeignKey .. => .missingForeignKey
  | indexForeignKey _ | indexUnique _ | indexFilter _ => .index
  | separateValues _ | separateList _ | splitTable _ => .normalization
  | renameTable _ | renameColumn .. => .naming
  | useText .. | useBoolean _ | fixPrecision _ => .dataType
  | addCreationTime | addUpdateTime => .timestamp
  | addColumn .. | addPrimaryKey | allowNull _ | makeUnique _ | checkFormat _ => .constraint
  | storeHash _ | protectCard _ | protectIdentity _ => .security

def priority : Advice → Priority
  | addForeignKey .. | addPrimaryKey | storeHash _ | protectCard _ | protectIdentity _ => .high
  | addTable _ | addColumn .. | indexForeignKey _ | indexUnique _ | separateValues _
  | separateList _ | useText .. | addCreationTime | makeUnique _ => .medium
  | indexFilter _ | splitTable _ | renameTable _ | renameColumn .. | useBoolean _
  | fixPrecision _ | addUpdateTime | allowNull _ | checkFormat _ => .low

def column? : Advice → Option String
  | addColumn c _ | addForeignKey c _ | indexForeignKey c | indexUnique c | indexFilter c
  | separateValues c | separateList c | renameColumn c _ | useText c _ | useBoolean c
  | fixPrecision c | allowNull c | makeUnique c | checkFormat c | storeHash c | protectCard c
  | protectIdentity c => some c
  | addTable _ | splitTable _ | renameTable _ | addCreationTime | addUpdateTime
  | addPrimaryKey => none

def description (table : String) : Advice → String
  | addTable purpose => s!"Consider adding a {table} table for {purpose}"
  | addColumn c _ => s!"Consider adding a {c} column to the {table} table"
  | addForeignKey c referenced => s!"Column {c} looks like a foreign key to {referenced}"
  | indexForeignKey c => s!"Consider adding an index on foreign key {c}"
  | indexUnique c => s!"Consider adding a unique index on {c}"
  | indexFilter c => s!"Consider adding an index on {c}"
  | separateValues c => s!"Consider normalizing {c} into a separate table"
  | separateList c => s!"Column {c} might contain multiple values that should be normalized"
  | splitTable n => s!"Table {table} has {n} columns and might need to be split"
  | renameTable v =>
    s!"Table name {table} doesn't follow the dominant {v.title} convention"
  | renameColumn c v => s!"Column name {c} doesn't follow the dominant {v.title} convention"
  | useText c length => s!"Consider using TEXT instead of VARCHAR({length}) for column {c}"
  | useBoolean c => s!"Consider using BOOLEAN instead of INT for column {c}"
  | fixPrecision c => s!"Ensure DECIMAL(10,2) precision for price column {c}"
  | addCreationTime => s!"Consider adding a created_at TIMESTAMP column to {table}"
  | addUpdateTime => s!"Consider adding an updated_at TIMESTAMP column to {table}"
  | addPrimaryKey => s!"Table {table} is missing a primary key"
  | allowNull c => s!"Consider making {c} nullable"
  | makeUnique c => s!"Consider adding a UNIQUE constraint to email column {c}"
  | checkFormat c => s!"Consider adding a CHECK constraint for email format on {c}"
  | storeHash c => s!"Rename {c} to password_hash to make clear it stores hashes"
  | protectCard _ => "Consider tokenizing credit card data or storing only the last 4 digits"
  | protectIdentity c => s!"Consider encrypting or hashing sensitive data in {c}"

def reason (table : String) : Advice → String
  | addTable purpose => s!"Most applications require a {table} table for {purpose}"
  | addColumn c kind => s!"The {c} column is typically expected in a {kind} table"
  | addForeignKey _ referenced =>
    s!"The column name and type match the primary key of the {referenced} table"
  | indexForeignKey _ => "Foreign keys are frequently used in JOINs and WHERE clauses"
  | indexUnique _ => "Columns with unique constraints benefit from unique indexes for lookups"
  | indexFilter c => s!"Columns like {c} are often used in WHERE clauses"
  | separateValues _ => "Arrays or JSON in a column may hide data that belongs in its own table"
  | separateList _ => "List-like column names often stand for a one-to-many relationship"
  | splitTable _ => "Very wide tables often mix several entities"
  | renameTable _ | renameColumn .. =>
    "Consistent naming improves readability and maintainability"
  | useText .. => "TEXT suits very long strings better than a large VARCHAR"
  | useBoolean _ => "The column name suggests a true/false value"
  | fixPrecision _ => "Currency amounts need a fixed precision and scale"
  | addCreationTime => "Tracking row creation time helps auditing and data analysis"
  | addUpdateTime => "Knowing when rows change helps troubleshooting and auditing"
  | addPrimaryKey => "Primary keys ensure row uniqueness and improve query performance"
  | allowNull _ => "Descriptions, notes and optional personal details are usually nullable"
  | makeUnique _ => "Email addresses are typically unique per user"
  | checkFormat _ => "Validating the format in the database keeps invalid addresses out"
  | storeHash _ => "Plain passwords are a security risk; the name should say it holds hashes"
  | protectCard _ => "Full card numbers are a security risk and may violate PCI requirements"
  | protectIdentity _ => "Personal identifiers should be encrypted or hashed"

end Advice

structure Finding where
  table : String
  advice : Advice
  action : Option String := none
  deriving DecidableEq, Repr

namespace Finding

def description (f : Finding) : String := f.advice.description f.table

def reason (f : Finding) : String := f.advice.reason f.table

end Finding

end RelSchema.Review
