import RelSchema.Layout.Options
import RelSchema.Layout.Force
import RelSchema.Layout.Placement

namespace RelSchema

structure TableBox where
  table : Table
  position : Point := .origin
  size : Layout.Size := ⟨.real 0.0, .real 0.0⟩
  deriving Repr

structure Diagram where
  boxes : List TableBox
  edges : List Edge
  dialect : String
  deriving Repr

namespace Layout

inductive Algorithm where
  | grid | radial | tree | force
  deriving DecidableEq, Repr

structure UnknownAlgorithm where
  name : String
  deriving DecidableEq, Repr

namespace Algorithm

def all : List Algorithm := [grid, radial, tree, force]

def name : Algorithm → String
  | grid => "grid"
  | radial => "radial"
  | tree => "tree"
  | force => "force"

def ofName (name : String) : Except UnknownAlgorithm Algorithm :=
  match all.find? (·.name == name) with
  | some a => .ok a
  | none => .error ⟨name⟩

def move (a : Algorithm) (o : Options) (links : List (String × String))
    (nodes : List (String × Point)) : List (String × Point) :=
  let names := nodes.map (·.1)
  match a with
  | grid => names.zip (Layout.grid o nodes.length)
  | radial => names.zip (Layout.radial o nodes.length)
  | tree => treeMoveBy Graph.breadthFirst o links nodes
  | force => names.zip (Layout.force o nodes links)

def notices (a : Algorithm) (o : Options) (links : List (String × String)) (names : List String) :
    List Notice :=
  if a = tree then treeNotices o ⟨names, links⟩ else []

end Algorithm

def UnknownAlgorithm.message (e : UnknownAlgorithm) : String :=
  s!"Unknown layout algorithm '{e.name}'. Expected one of: " ++
    ", ".intercalate (Algorithm.all.map Algorithm.name)

def links (edges : List Edge) : List (String × String) := edges.map fun e => (e.source, e.target)

/-- The points that the tables of a schema start from. Forces cannot part what stands at one
point, so for them it is a grid. -/
def start (a : Algorithm) (o : Options) (tables : List Table) : List (String × Point) :=
  let nodes := tables.map fun t => (t.id, Point.origin)
  if a = .force then Algorithm.grid.move o [] nodes else nodes

end Layout

namespace Diagram

open Layout

def ofSchema (a : Algorithm) (o : Options) (s : Schema) : Diagram :=
  let points := a.move o (links s.edges) (start a o s.tables)
  { boxes := s.tables.zipWith (fun t (_, position) =>
      { table := t, position, size := tableSize o.box t }) points,
    edges := s.edges, dialect := s.dialect }

def notices (a : Algorithm) (o : Options) (s : Schema) : List Notice :=
  a.notices o (links s.edges) (s.tables.map (·.id))

end Diagram

end RelSchema
