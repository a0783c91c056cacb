import RelSchema.Layout.Options

namespace RelSchema.Layout

structure Vector where
  x : Float
  y : Float

namespace Vector

def add (v w : Vector) : Vector := ⟨v.x + w.x, v.y + w.y⟩

def sub (v w : Vector) : Vector := ⟨v.x - w.x, v.y - w.y⟩

def scale (v : Vector) (k : Float) : Vector := ⟨v.x * k, v.y * k⟩

/-- The distance that a vector spans, and one at least. -/
def span (v : Vector) : Float :=
  let distance := (v.x * v.x + v.y * v.y).sqrt
  if distance < 1.0 then 1.0 else distance

def along (v : Vector) (force : Float) : Vector := ⟨v.x / v.span * force, v.y / v.span * force⟩

end Vector

structure Body where
  position : Vector
  velocity : Vector

structure Pull where
  source : Nat
  target : Nat
  force : Vector

def repulsion (p : Physics) (a b : Body) : Vector :=
  let way := b.position.sub a.position
  way.along (p.repulsion.toFloat / (way.span * way.span))

def attraction (p : Physics) (a b : Body) : Vector :=
  let way := b.position.sub a.position
  way.along ((way.span - p.restLength.toFloat) * p.stiffness.toFloat)

/-- The velocity of the body at a place after all others have repelled it, those before it first. -/
def repelled (p : Physics) (bodies : List Body) (place : Nat) (body : Body) : Vector :=
  (bodies.zipIdx.foldl (fun v (other, i) =>
    if i < place then v.add (repulsion p other body)
    else if place < i then v.sub (repulsion p body other)
    else v) body.velocity)

def pulled (pulls : List Pull) (place : Nat) (velocity : Vector) : Vector :=
  pulls.foldl (fun v pull =>
    let v := if pull.source = place then v.add pull.force else v
    if pull.target = place then v.sub pull.force else v) velocity

def Body.step (p : Physics) (springs : List (Nat × Nat)) (bodies : List Body) : List Body :=
  let pulls := springs.filterMap fun (source, target) => do
    let a ← bodies[source]?
    let b ← bodies[target]?
    return { source, target, force := attraction p a b : Pull }
  bodies.mapIdx fun place body =>
    let velocity := pulled pulls place (repelled p bodies place body)
    { position := body.position.add (velocity.scale p.step.toFloat),
      velocity := velocity.scale p.damping.toFloat }

def Body.steps (p : Physics) (springs : List (Nat × Nat)) : Nat → List Body → List Body
  | 0, bodies => bodies
  | n + 1, bodies => Body.steps p springs n (Body.step p springs bodies)

def lastPlace? (nodes : List String) (node : String) : Option Nat :=
  (nodes.zipIdx.reverse.find? (·.1 == node)).map (·.2)

def springs (nodes : List String) (links : List (String × String)) : List (Nat × Nat) :=
  links.filterMap fun (source, target) => do
    return (← lastPlace? nodes source, ← lastPlace? nodes target)

def force (o : Options) (nodes : List (String × Point)) (links : List (String × String)) :
    List Point :=
  let start := nodes.map fun (_, p) =>
    { position := ⟨p.x.toFloat, p.y.toFloat⟩, velocity := ⟨0.0, 0.0⟩ : Body }
  let springs := springs (nodes.map (·.1)) links
  let ended := Body.steps o.physics springs o.physics.iterations.toNat start
  ended.map fun body => ⟨.real body.position.x, .real body.position.y⟩

end RelSchema.Layout
