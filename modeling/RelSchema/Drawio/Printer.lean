import RelSchema.Drawio.Cell
import RelSchema.Text.Quoted

namespace RelSchema.Drawio

def field (name value : String) : String := s!" {name}=\"{value}\""

def fields (list : List (String × String)) : String :=
  String.join (list.map fun (name, value) => field name value)

def style (settings : List String) : String := String.join (settings.map (· ++ ";"))

def cellId (number : Nat) : String := s!"cell-{number}"

def cell (attributes geometry : List (String × String)) (spaces : String) : String :=
  "\n    <mxCell" ++ fields attributes ++ ">\n      <mxGeometry" ++ fields geometry ++
    "/>\n    </mxCell>\n" ++ spaces

def containerStyle (o : Options) : String :=
  style
    ["swimlane", "fontStyle=1", "childLayout=stackLayout", "horizontal=1",
     s!"startSize={o.headerHeight.text}", "horizontalStack=0", "resizeParent=1",
     "resizeParentMax=0", "resizeLast=0", "collapsible=0", "marginBottom=0",
     s!"fillColor={o.headerColor}", "fontColor=#ffffff", "strokeColor=#1e3a5f", "rounded=1",
     "arcSize=8"]

def color (o : Options) (c : Column) : String :=
  if c.primaryKey then o.keyColor
  else if c.isForeignKey then o.referenceColor
  else o.columnColor

def rowStyle (o : Options) (c : Column) : String :=
  style
    ["text", "strokeColor=none", s!"fillColor={color o c}", "align=left", "verticalAlign=middle",
     "spacingLeft=8", "spacingRight=4", "overflow=hidden", "rotatable=0",
     "points=[[0,0.5],[1,0.5]]", "portConstraint=eastwest", "fontFamily=monospace", "fontSize=11"]

def arrows : Cardinality → String × String
  | .oneToOne => ("ERmandOne", "ERone")
  | .oneToMany => ("ERmandOne", "ERmany")
  | .manyToMany => ("ERmany", "ERmany")

def connectorStyle (c : Cardinality) : String :=
  let (start, finish) := arrows c
  style
    ["edgeStyle=orthogonalEdgeStyle", "rounded=1", "orthogonalLoop=1", "jettySize=auto", "html=1",
     s!"endArrow={finish}", "endFill=0", s!"startArrow={start}", "startFill=0", "strokeWidth=1",
     "strokeColor=#64748b"]

def Block.containerText (o : Options) (b : Block) : String :=
  cell
    [("id", cellId b.number), ("value", Text.escape b.box.table.name), ("style", containerStyle o),
     ("vertex", "1"), ("parent", "1")]
    [("x", b.box.position.x.hundredths), ("y", b.box.position.y.hundredths),
     ("width", b.box.size.width.text), ("height", b.box.size.height.text), ("as", "geometry")] "  "

/-- The row of a column in a block, given what the types of columns are called by the numbers of
their rows. -/
def Row.text (typeName : Nat → Column → String) (o : Options) (b : Block) (r : Row) : String :=
  let label := r.column.labelAs (typeName r.number r.column)
  cell
    [("id", cellId r.number), ("value", Text.escape label),
     ("style", rowStyle o r.column), ("vertex", "1"), ("parent", cellId b.number)]
    [("y", r.offset.text), ("width", b.box.size.width.text), ("height", o.rowHeight.text),
     ("as", "geometry")] "    "

def Connector.text (c : Connector) : String :=
  cell
    [("id", cellId c.number), ("value", Text.escape (c.edge.targetColumn.getD "")),
     ("style", connectorStyle c.edge.cardinality), ("edge", "1"), ("parent", "1"),
     ("source", cellId c.source), ("target", cellId c.target)]
    [("relative", "1"), ("as", "geometry")] "  "

def Block.texts (typeName : Nat → Column → String) (o : Options) (b : Block) : List String :=
  b.containerText o :: b.rows.map (Row.text typeName o b)

def cells (typeName : Nat → Column → String) (o : Options) (d : Diagram) : List String :=
  let blocks := blocks o 1 d.boxes
  blocks.flatMap (Block.texts typeName o) ++ (connectors blocks d.edges).map Connector.text

def opening (modified : String) : String :=
  "<?xml" ++ fields [("version", "1.0"), ("encoding", "UTF-8")] ++ "?>\n<mxfile" ++
    fields
      [("host", "app.diagrams.net"), ("modified", modified), ("agent", "erd-engine"),
       ("version", "1.0")] ++ ">\n  <diagram" ++
    fields [("name", "Database Schema"), ("id", "db-schema")] ++ ">\n    <mxGraphModel" ++
    fields
      [("dx", "1000"), ("dy", "600"), ("grid", "1"), ("gridSize", "10"), ("guides", "1"),
       ("tooltips", "1"), ("connect", "1"), ("arrows", "1"), ("fold", "1"), ("page", "1"),
       ("pageScale", "1"), ("pageWidth", "1600"), ("pageHeight", "1200"), ("math", "0"),
       ("shadow", "0")] ++ ">\n      <root>\n        <mxCell" ++
    fields [("id", "0")] ++ "/>\n        <mxCell" ++
    fields [("id", "1"), ("parent", "0")] ++ "/>\n"

def closing : String := "\n      </root>\n    </mxGraphModel>\n  </diagram>\n</mxfile>"

def generateWith (typeName : Nat → Column → String) (o : Options) (modified : String)
    (d : Diagram) : String :=
  opening modified ++ "\n".intercalate (cells typeName o d) ++ closing

def ownTypeName (_ : Nat) (c : Column) : String := c.type.name

def generate (o : Options) (modified : String) (d : Diagram) : String :=
  generateWith ownTypeName o modified d

end RelSchema.Drawio
