import RelSchema.Layout.Diagram

namespace RelSchema.Drawio

structure Options where
  rowHeight : Measure := 26
  headerColor : String := "#1a365d"
  columnColor : String := "#ffffff"
  keyColor : String := "#fef3c7"
  referenceColor : String := "#dbeafe"
  deriving Repr

structure Row where
  number : Nat
  column : Column
  offset : Measure
  deriving Repr

structure Block where
  number : Nat
  box : TableBox
  rows : List Row
  deriving Repr

structure Connector where
  number : Nat
  source : Nat
  target : Nat
  edge : Edge
  deriving Repr

def Options.headerHeight (o : Options) : Measure := o.rowHeight + 4

def rows (o : Options) (first : Nat) (columns : List Column) : List Row :=
  columns.mapIdx fun i c =>
    { number := first + i, column := c, offset := o.headerHeight + (i : Measure) * o.rowHeight }

def blocks (o : Options) (first : Nat) : List TableBox → List Block
  | [] => []
  | box :: rest =>
    { number := first, box, rows := rows o (first + 1) box.table.columns } ::
      blocks o (first + 1 + box.table.columns.length) rest

namespace Block

/-- The name by which the container of a block is found among its cells, unless a column has it. -/
def containerName : String := "__table__"

/-- The cells of a block by name. Of two columns with one name the last counts. -/
def cellNamed? (b : Block) (name : String) : Option Nat :=
  match b.rows.reverse.find? (·.column.name == name) with
  | some row => some row.number
  | none => if name = containerName then some b.number else none

/-- The cell that an edge attaches to: that of the column it names, or else the container. -/
def anchor (b : Block) (column : Option String) : Nat :=
  ((b.cellNamed? (column.getD "")).or (b.cellNamed? containerName)).getD b.number

def numbers (b : Block) : List Nat := b.number :: b.rows.map (·.number)

end Block

def blockOf? (blocks : List Block) (id : String) : Option Block :=
  blocks.reverse.find? (·.box.table.id == id)

def joined? (blocks : List Block) (e : Edge) : Option (Nat × Nat × Edge) := do
  let source ← blockOf? blocks e.source
  let target ← blockOf? blocks e.target
  return (source.anchor e.sourceColumn, target.anchor e.targetColumn, e)

def connectors (blocks : List Block) (edges : List Edge) : List Connector :=
  let first := 1 + (blocks.flatMap Block.numbers).length
  (edges.filterMap (joined? blocks)).mapIdx fun i (source, target, edge) =>
    { number := first + i, source, target, edge }

end RelSchema.Drawio
