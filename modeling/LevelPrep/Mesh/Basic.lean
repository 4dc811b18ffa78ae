import LevelPrep.Disk.Path

/-!
# Meshes

A mesh is a list of surfaces, each with triangle geometry and perhaps a material.  Geometry and
materials are resources: surfaces refer to them, several surfaces may refer to one, and what changes a
resource changes it for all of them.  `Mesh G M` is the mesh whose surfaces hold a `G` for their
geometry and an `M` for their material: references in a live scene (`LiveMesh`), the things themselves
in a scene document (`MeshValue`).
-/

namespace LevelPrep

/-- A place in space. -/
structure Point where
  x : Float
  y : Float
  z : Float
deriving Repr, Inhabited

/-- Whether a point comes before another: the first coordinate counts most. -/
def Point.before (p q : Point) : Bool :=
  p.x < q.x || (p.x == q.x && (p.y < q.y || (p.y == q.y && p.z < q.z)))

/-- A triangle: the numbers of its three vertices.  Negative numbers count from the end. -/
structure Face where
  a : Int
  b : Int
  c : Int
deriving DecidableEq, Repr

/-- Triangle geometry. -/
structure Geometry where
  vertices : List Point := []
  faces : List Face := []
deriving Repr, Inhabited

/-- A surface material, known by its resource name and, if it was loaded, by its file. -/
structure Material where
  name : Json := .str ""
  resourcePath : Option Path := none
deriving Inhabited

/-- Whether the material has neither a name nor a file. -/
def Material.isBlank (m : Material) : Bool :=
  !m.name.isSet && m.resourcePath.isNone

/-- One surface of a mesh, with lightmap coordinates for its vertices once it is unwrapped. -/
structure Surface (G M : Type) where
  geometry : G
  material : Option M := none
  lightmapUv : Option (List (Float × Float)) := none
deriving Repr

structure Mesh (G M : Type) where
  name : Json := .str ""
  surfaces : List (Surface G M) := []
  /-- The size of the lightmap that the coordinates were made for. -/
  sizeHint : Option (List Json) := none

/-- A collision shape. -/
inductive Shape where
  /-- Loose triangles, three corners each. -/
  | concave (corners : List Point)
  /-- The hull of points. -/
  | convex (points : List Point)
deriving Repr

/-- The title of the kind of shape, in reports. -/
def Shape.title : Shape → String
  | .concave _ => "ConcavePolygonShape"
  | .convex _ => "ConvexPolygonShape"

/-- The place that an index means in a list of the given size; negative indices count from the end. -/
def place? (size : Nat) (index : Int) : Option Nat :=
  if 0 ≤ index then
    if index.toNat < size then some index.toNat else none
  else if (-index).toNat ≤ size then some (size - (-index).toNat)
  else none

theorem lt_of_place? {size : Nat} {index : Int} {n : Nat} (h : place? size index = some n) :
    n < size := by
  unfold place? at h
  split at h <;> split at h <;> simp_all <;> omega

/-- The item at an index; negative indices count from the end. -/
def itemAt {α : Type} (items : List α) (index : Int) : Except Fault α :=
  match (place? items.length index).bind (items[·]?) with
  | some item => .ok item
  | none => .error .outOfRange

/-- The vertex of the given number. -/
def Geometry.vertex (g : Geometry) (index : Int) : Except Fault Point :=
  (itemAt g.vertices index).mapError fun _ => .noVertex index g.vertices.length

/-- The corners of the triangles, three to a triangle. -/
def Geometry.corners (g : Geometry) : Except Fault (List Point) := do
  let triples ← g.faces.mapM fun face => do
    let a ← g.vertex face.a
    let b ← g.vertex face.b
    let c ← g.vertex face.c
    return [a, b, c]
  return triples.flatten

/-- The surface with its geometry and its material replaced, in this order. -/
def Surface.mapM {m : Type → Type} [Monad m] {G M G' M' : Type} (geometry : G → m G')
    (material : M → m M') (s : Surface G M) : m (Surface G' M') := do
  let g ← geometry s.geometry
  match s.material with
  | none => return { geometry := g, material := none, lightmapUv := s.lightmapUv }
  | some x =>
    let x' ← material x
    return { geometry := g, material := some x', lightmapUv := s.lightmapUv }

/-- The surface with its geometry and its material replaced. -/
def Surface.map {G M G' M' : Type} (geometry : G → G') (material : M → M') (s : Surface G M) :
    Surface G' M' where
  geometry := geometry s.geometry
  material := s.material.map material
  lightmapUv := s.lightmapUv

/-- The mesh with its geometry and its materials replaced, surface by surface and in order. -/
def Mesh.mapM {m : Type → Type} [Monad m] {G M G' M' : Type} (geometry : G → m G')
    (material : M → m M') (mesh : Mesh G M) : m (Mesh G' M') := do
  let surfaces ← mesh.surfaces.mapM (Surface.mapM geometry material)
  return { name := mesh.name, surfaces := surfaces, sizeHint := mesh.sizeHint }

/-- The mesh with its geometry and its materials replaced. -/
def Mesh.map {G M G' M' : Type} (geometry : G → G') (material : M → M') (mesh : Mesh G M) :
    Mesh G' M' where
  name := mesh.name
  surfaces := mesh.surfaces.map (Surface.map geometry material)
  sizeHint := mesh.sizeHint

/-- A mesh with everything in it. -/
abbrev MeshValue := Mesh Geometry Material

end LevelPrep
