import RelSchema.Layout.Levels
import RelSchema.Layout.Options
import RelSchema.Notice

namespace RelSchema.Layout

def ceilSqrt (n : Nat) : Nat :=
  ((List.range (n + 1)).find? fun k => decide (n ≤ k * k)).getD n

def grid (o : Options) (count : Nat) : List Point :=
  let spacing := o.spacing.getD (.real 300.0)
  let padding := o.padding.getD (.real 50.0)
  let columns := ceilSqrt count
  (List.range count).map fun place =>
    ⟨padding + ((place % columns : Nat) : Measure) * spacing,
     padding + ((place / columns : Nat) : Measure) * spacing⟩

def pi : Float := 3.141592653589793

def radial (o : Options) (count : Nat) : List Point :=
  let radius := (o.circle.minRadius.greater ((count : Measure) * o.circle.radiusPerNode)).toFloat
  (List.range count).map fun place =>
    let angle := 2.0 * pi * place.toFloat / count.toFloat
    ⟨.real (o.circle.centerX.toFloat + radius * angle.cos),
     .real (o.circle.centerY.toFloat + radius * angle.sin)⟩

def treeSpacing (o : Options) : Measure := o.spacing.getD (.real 200.0)

def treePadding (o : Options) : Measure := o.padding.getD (.real 100.0)

/-- The direction asked for; one that is not known counts as from top to bottom. -/
def Options.treeDirection (o : Options) : Direction :=
  (Direction.ofName? o.direction).getD .topToBottom

def levelDepths (o : Options) (levels : List (List String × Nat)) : List Measure :=
  let depths := levels.mapIdx fun index (_, group) =>
    treePadding o + (index : Measure) * treeSpacing o + (group : Measure) * o.groupPadding
  match o.treeDirection.isReversed, depths.getLast? with
  | true, some last => depths.map fun depth => last + treePadding o - depth
  | _, _ => depths

def levelPoints (o : Options) (level : List String) (depth : Measure) : List (String × Point) :=
  level.mapIdx fun index node =>
    let across := treePadding o + (index : Measure) * treeSpacing o
    (node, if o.treeDirection.isHorizontal then ⟨depth, across⟩ else ⟨across, depth⟩)

/-- Where a walk has each node stand. A node that is listed twice stands where it was listed last. -/
def treePointsBy (walk : Walk) (o : Options) (g : Graph) : List (String × Point) :=
  let levels := g.levelsBy walk
  ((levels.zip (levelDepths o levels)).flatMap fun ((level, _), depth) =>
    levelPoints o level depth).reverse

def treeBy (walk : Walk) (o : Options) (g : Graph) : List (Option Point) :=
  let points := treePointsBy walk o g
  g.nodes.map fun node => points.lookup node

def treeMoveBy (walk : Walk) (o : Options) (links : List (String × String))
    (nodes : List (String × Point)) : List (String × Point) :=
  nodes.zipWith (fun (node, old) new => (node, new.getD old))
    (treeBy walk o ⟨nodes.map (·.1), links⟩)

def treeNotices (o : Options) (g : Graph) : List Notice :=
  if g.nodes.isEmpty then []
  else
    (if (Direction.ofName? o.direction).isSome then [] else [.unknownDirection o.direction]) ++
      (Graph.leftAfter g.nodes g.groups).map .unreachable

end RelSchema.Layout
