namespace RelSchema.Layout

/-- Nodes in order, and the links between them. Links with an unknown end count for nothing. -/
structure Graph where
  nodes : List String
  links : List (String × String)
  deriving DecidableEq, Repr

/-- A way through a graph: from the nodes of a first level to those of all levels in order. -/
abbrev Walk := Graph → List String → List (List String)

namespace Graph

def arcs (g : Graph) : List (String × String) :=
  g.links.filter fun (a, b) => g.nodes.contains a && g.nodes.contains b

def children (g : Graph) (node : String) : List String :=
  (g.arcs.filter (·.1 == node)).map (·.2)

def isRoot (g : Graph) (node : String) : Bool := g.arcs.all (·.2 != node)

def roots (g : Graph) : List String :=
  match g.nodes.filter g.isRoot with
  | [] => g.nodes.take 1
  | found => found

def next (g : Graph) (met level : List String) : List String :=
  ((level.flatMap g.children).filter fun node => !met.contains node).eraseDups

/-- A level and those after it. Each of them holds a new node, which bounds their number. -/
def levelsFrom (g : Graph) : Nat → List String → List String → List (List String)
  | 0, _, _ => []
  | _, _, [] => []
  | fuel + 1, met, level =>
    level :: levelsFrom g fuel (met ++ g.next met level) (g.next met level)

def breadthFirst : Walk := fun g start => g.levelsFrom (g.nodes.length + 1) start start

def groupFrom (walk : Walk) (g : Graph) (placed start : List String) : List (List String) :=
  ((walk g start).map fun level =>
    level.filter fun node => !placed.contains node).filter (!·.isEmpty)

def left (g : Graph) (placed : List String) : List String :=
  g.nodes.filter fun node => !placed.contains node

/-- Groups of levels until all nodes are placed. Each group places a node, which bounds their
number. -/
def groupsFrom (walk : Walk) (g : Graph) :
    Nat → List String → List String → List (List (List String))
  | 0, _, _ => []
  | fuel + 1, placed, start =>
    let group := g.groupFrom walk placed start
    let placed := placed ++ group.flatten
    match g.left placed with
    | [] => [group]
    | node :: _ => group :: groupsFrom walk g fuel placed [node]

def groupsBy (walk : Walk) (g : Graph) : List (List (List String)) :=
  match g.nodes with
  | [] => []
  | _ => g.groupsFrom walk g.nodes.length [] g.roots

/-- The levels that a walk finds in order, each with the number of its group. -/
def levelsBy (walk : Walk) (g : Graph) : List (List String × Nat) :=
  ((g.groupsBy walk).mapIdx fun number group => group.map (·, number)).flatten

def groups (g : Graph) : List (List (List String)) := g.groupsBy breadthFirst

def levels (g : Graph) : List (List String × Nat) := g.levelsBy breadthFirst

def leftAfter (nodes : List String) : List (List (List String)) → List Nat
  | [] | [_] => []
  | group :: rest =>
    let left := nodes.filter fun node => !group.flatten.contains node
    left.length :: leftAfter left rest

end Graph

end RelSchema.Layout
