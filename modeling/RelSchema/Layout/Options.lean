import RelSchema.Measure
import RelSchema.Schema.Basic

namespace RelSchema

namespace Column

def isRequired (c : Column) : Bool := !c.nullable && !c.primaryKey

def typeLabel (type : String) (c : Column) : String :=
  match c.length, c.scale with
  | none, _ => type
  | some length, none => s!"{type}({length})"
  | some length, some scale => s!"{type}({length},{scale})"

def tags (c : Column) : List String :=
  (if c.primaryKey then ["PK"] else []) ++ (if c.isForeignKey then ["FK"] else []) ++
    (if c.isRequired then ["NN"] else []) ++ (if c.unique then ["UQ"] else [])

def labelAs (type : String) (c : Column) : String :=
  let tags := if c.tags.isEmpty then "" else " [" ++ ", ".intercalate c.tags ++ "]"
  s!"{c.name}: {c.typeLabel type}{tags}"

def label (c : Column) : String := c.labelAs c.type.name

end Column

namespace Layout

/-- The side on which the first level of a tree stands, and the side towards which levels go. -/
inductive Direction where
  | topToBottom | leftToRight | rightToLeft | bottomToTop
  deriving DecidableEq, Repr

namespace Direction

def all : List Direction := [topToBottom, leftToRight, rightToLeft, bottomToTop]

def name : Direction → String
  | topToBottom => "TB"
  | leftToRight => "LR"
  | rightToLeft => "RL"
  | bottomToTop => "BT"

def ofName? (s : String) : Option Direction := all.find? (·.name == s)

def isHorizontal : Direction → Bool
  | leftToRight | rightToLeft => true
  | _ => false

def isReversed : Direction → Bool
  | rightToLeft | bottomToTop => true
  | _ => false

end Direction

structure Circle where
  centerX : Measure := .real 500.0
  centerY : Measure := .real 400.0
  minRadius : Measure := .real 300.0
  radiusPerNode : Measure := .real 50.0
  deriving Repr

structure Physics where
  iterations : Int := 50
  repulsion : Measure := .real 1000.0
  stiffness : Measure := .real 0.7
  restLength : Measure := .real 200.0
  damping : Measure := .real 0.9
  step : Measure := .real 0.1
  deriving Repr

structure BoxStyle where
  charWidth : Measure := 8
  rowHeight : Measure := 26
  padding : Measure := 20
  minWidth : Measure := 150
  deriving Repr

/-- Spacing and padding have their own defaults in each layout. -/
structure Options where
  spacing : Option Measure := none
  padding : Option Measure := none
  direction : String := "TB"
  groupPadding : Measure := .real 50.0
  circle : Circle := {}
  physics : Physics := {}
  box : BoxStyle := {}
  deriving Repr

structure Size where
  width : Measure
  height : Measure
  deriving Repr

/-- The line that a column whose type goes by a name is taken to fill. -/
def columnLine (type : String) (c : Column) : String :=
  s!"{c.name}: {type}" ++ (if c.primaryKey then " PK" else "") ++
    (if c.isForeignKey then " FK" else "") ++ (if c.isRequired then " NN" else "")

def boxSize (b : BoxStyle) (title : String) (lines : List String) : Size :=
  let longest := lines.foldl (fun n line => max n line.length) title.length
  { width := b.minWidth.greater ((longest : Measure) * b.charWidth + b.padding * 2),
    height := b.rowHeight + 4 + (lines.length : Measure) * b.rowHeight + b.padding }

def tableSize (b : BoxStyle) (t : Table) : Size :=
  boxSize b t.name (t.columns.map fun c => columnLine c.type.name c)

end Layout

end RelSchema
