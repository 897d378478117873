import CaseFlow.Workflow.Basic

/-!
# Connectors on the canvas

A node takes a square of 96 units whose corner is its position. An edge is drawn between the
outlines of its nodes, not between their centres: round nodes have one radius, and a gateway is a
diamond, whose outline at an angle θ is `L / (|cos θ| + |sin θ|)` away from its centre, `L` being
half the side of the square. The end of an edge leaves room for the head of an arrow.
-/

namespace CaseFlow

/-- A point of the canvas. -/
structure Point where
  /-- The horizontal coordinate. -/
  x : Float
  /-- The vertical coordinate. -/
  y : Float
  deriving Repr, Inhabited

/-- The line of an edge. -/
structure Segment where
  /-- Where it starts. -/
  start : Point
  /-- Where it ends. -/
  finish : Point
  deriving Repr, Inhabited

namespace Canvas

/-- Half the side of a node's square. -/
def halfSize : Float := 48

/-- The room for the head of an arrow. -/
def arrowPadding : Float := 5

/-- The ratio of half a circle to its radius. -/
def pi : Float := 3.141592653589793

/-- The length of a vector; large and small ones are scaled by a power of two on the way. -/
def distance (x y : Float) : Float :=
  let m := max x.abs y.abs
  if x.isInf || y.isInf then 1 / 0
  else if m < 1e150 && 1e-150 < m then (x * x + y * y).sqrt
  else if m == 0 || m.isNaN then x.abs + y.abs
  else
    let large : Float := Float.ofNat (Nat.pow 2 600)
    let scale : Float := if 1 < m then large else 1 / large
    (x / scale * (x / scale) + y / scale * (y / scale)).sqrt * scale

/-- The centre of a node. -/
def center (n : Node) (half : Float) : Point := ⟨n.position.x + half, n.position.y + half⟩

/-- The distance from a node's centre to its outline at an angle. -/
def radius (type : NodeType) (angle half : Float) : Float :=
  if type == .gateway then half / (angle.cos.abs + angle.sin.abs) else half

/-- The line from one node to another; there is none between nodes with one centre. -/
def endpoints (source target : Node) (padding : Float) : Option Segment :=
  let a := center source halfSize
  let b := center target halfSize
  let dx := b.x - a.x
  let dy := b.y - a.y
  if dx == 0 && dy == 0 then none
  else
    let angle := Float.atan2 dy dx
    let length := distance dx dy
    let ux := dx / length
    let uy := dy / length
    let near := radius source.type angle halfSize
    let far := radius target.type (angle + pi) halfSize
    some
      { start := ⟨a.x + ux * near, a.y + uy * near⟩,
        finish := ⟨b.x - ux * (far + padding), b.y - uy * (far + padding)⟩ }

/-- The line from a node to the pointer while an edge is being drawn. -/
def preview (source : Node) (pointer : Point) : Option Segment :=
  let c := center source halfSize
  let dx := pointer.x - c.x
  let dy := pointer.y - c.y
  let length := distance dx dy
  if length == 0 then none
  else
    let near := radius source.type (Float.atan2 dy dx) halfSize
    some { start := ⟨c.x + dx / length * near, c.y + dy / length * near⟩, finish := pointer }

end Canvas

/-- The lines of all edges that can be drawn, with the ids of the edges. -/
def Document.layout (d : Document) : List (String × Segment) :=
  d.edges.filterMap fun e => do
    let source ← d.node? e.source
    let target ← d.node? e.target
    let s ← Canvas.endpoints source target Canvas.arrowPadding
    return (e.id, s)

end CaseFlow
