import LevelPrep.Mesh.Basic

/-!
# Cleaning of geometry

Geometry from plain files may have vertices that are no places, and several vertices in one place.
`Geometry.cleaned` takes out the former and merges the latter, which it finds on a fine grid; vertices
that no face uses go as well.
-/

namespace LevelPrep

/-- Whether all coordinates of a point are finite. -/
def Point.isFinite (p : Point) : Bool :=
  p.x.isFinite && p.y.isFinite && p.z.isFinite

/-- The coordinates of the grid end here; what lies beyond is put to its lower end. -/
def gridEnd : Float :=
  9223372036854775808.0

/-- The point of the grid next to a point, in steps of `10 ^ -8`. -/
def Point.onGrid (p : Point) : Point :=
  let step (x : Float) : Float :=
    let steps := Number.roundToWhole (x * 1e8)
    if steps.abs < gridEnd then steps else -gridEnd
  ⟨step p.x, step p.y, step p.z⟩

/-- Whether two points are the same. -/
def Point.same (p q : Point) : Bool :=
  p.x == q.x && p.y == q.y && p.z == q.z

namespace Geometry

/-- The faces in other numbers; a number that stands for no vertex stays. -/
def renumber (g : Geometry) (f : Nat → Nat) : List Face :=
  let number (index : Int) : Int :=
    match place? g.vertices.length index with
    | some n => f n
    | none => index
  g.faces.map fun face => ⟨number face.a, number face.b, number face.c⟩

/-- Takes out the vertices that are no places; a corner at one of them moves to the first vertex that
stays. -/
def dropInfinite (g : Geometry) : Geometry :=
  if g.vertices.all Point.isFinite then g
  else
    { vertices := g.vertices.filter Point.isFinite
      faces := g.renumber fun n =>
        if (g.vertices.getD n default).isFinite then ((g.vertices.take n).filter Point.isFinite).length
        else 0 }

/-- The numbers of the vertices that faces use; without faces these are all vertices. -/
def used (g : Geometry) : List Nat :=
  let corners := (g.faces.flatMap fun face => [face.a, face.b, face.c]).filterMap
    (place? g.vertices.length)
  (List.range g.vertices.length).filter fun n => g.faces.isEmpty || corners.contains n

/-- Keeps the vertices that are used, the first one of those in one place, and moves every corner to the
vertex in its place. -/
def mergeVertices (g : Geometry) : Geometry :=
  let grid := g.vertices.map Point.onGrid
  let same (m n : Nat) : Bool := (grid.getD m default).same (grid.getD n default)
  let kept := g.used.foldl (fun kept n => if kept.any (same n) then kept else kept ++ [n]) []
  { vertices := kept.map fun n => g.vertices.getD n default
    faces := g.renumber fun n => (kept.findIdx? (same n)).getD 0 }

/-- The geometry without vertices that are no places, corners in one place sharing one vertex. -/
def cleaned (g : Geometry) : Geometry :=
  g.dropInfinite.mergeVertices

end Geometry

end LevelPrep
