import RelSchema.Layout.Options
import RelSchema.Orm.Target
import RelSchema.Sql.Statement

namespace RelSchema

structure UnlistedColumn where
  name : String
  type : String
  length : Option Int := none
  deriving DecidableEq, Repr

namespace UnlistedColumn

def standIn (c : UnlistedColumn) (type : ColumnType) : Column :=
  { name := c.name, type, length := c.length }

def schema (table : String) (column : Column) : Schema :=
  { tables := [{ name := table, columns := [column] }] }

/-- The statement that creates a table of the column. An enumeration without values has the string
type of every dialect, and so has the column. -/
def sql (c : UnlistedColumn) (table : String) (d : Dialect) : String :=
  Sql.generate d (schema table (c.standIn .enum))

def label (c : UnlistedColumn) : String := (c.standIn .text).labelAs c.type

def boxSize (c : UnlistedColumn) (table : String) (b : Layout.BoxStyle) : Layout.Size :=
  Layout.boxSize b table [Layout.columnLine c.type (c.standIn .text)]

/-- The model of a table of the column. Where the length of a text is a choice, it is left out. -/
def model (c : UnlistedColumn) (table : String) (t : Orm.Target) : String :=
  match t with
  | .typeorm =>
    Orm.TypeOrm.generateWith (fun _ => { type := "varchar", script := "string" })
      (schema table (c.standIn .text))
  | .mongoose => t.generate (schema table (c.standIn .text))
  | _ => t.generate (schema table (c.standIn .varchar))

end UnlistedColumn

end RelSchema
