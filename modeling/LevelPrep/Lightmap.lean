import LevelPrep.Matrix
import LevelPrep.Mesh.Resources

/-!
# Lightmap coordinates

To bake light into textures, every vertex of a mesh needs a place in a lightmap.  All surfaces of a
mesh go into one atlas.  A packer may split vertices along seams, so it answers with charts: which old
vertex each new one stands for, the faces in new numbers, and the places of the new vertices.  The
triangles themselves do not change.
-/

namespace LevelPrep.Lightmap

/-- The part of an atlas that one surface gets. -/
structure Chart where
  /-- The old vertex that each new vertex stands for. -/
  mapping : List Nat
  faces : List Face
  uv : List (Float × Float)

structure Atlas where
  width : Nat
  height : Nat
  charts : List Chart

/-- What a packer is asked for. -/
structure PackOptions where
  padding : Int := 2
  /-- The largest side of the atlas; zero leaves it to the texel density. -/
  maxResolution : Int := 4096
  texelsPerUnit : Float := 1.0

/-- Packs the surfaces of a mesh, given by their positions and faces, into an atlas. -/
abbrev Packer := PackOptions → List Geometry → Atlas

/-- A point moved by a transform. -/
def movePoint (m : Matrix Float) (p : Point) : Point :=
  let moved (r : Row Float) := r.a * p.x + r.b * p.y + r.c * p.z + r.d
  ⟨moved m.r0, moved m.r1, moved m.r2⟩

/-- The geometry that a chart makes of the old one. -/
def Chart.geometry (chart : Chart) (old : Geometry) : Geometry :=
  { vertices := chart.mapping.map fun i => old.vertices.getD i default, faces := chart.faces }

/-- Gives one surface its chart: new geometry, the same material. -/
def applyChart (surface : Surface GeometryId MaterialId) (chart : Chart) :
    StateM Resources (Surface GeometryId MaterialId) := do
  let r ← get
  let id ← modifyGet (Resources.addGeometry (chart.geometry (r.geometry surface.geometry)))
  return { geometry := id, material := surface.material, lightmapUv := some chart.uv }

/-- Gives a mesh the charts of an atlas. -/
def applyAtlas (mesh : LiveMesh) (atlas : Atlas) : StateM Resources LiveMesh := do
  let surfaces ← (mesh.surfaces.zip atlas.charts).mapM fun (surface, chart) =>
    applyChart surface chart
  return { mesh with
    surfaces := surfaces
    sizeHint := some [.int atlas.width, .int atlas.height] }

/-- Refuses a texel that is a number but not larger than zero, or no number at all. -/
def checkTexel (texel : Json) : Except Fault Unit :=
  match texel.notPositive? with
  | none => .error .unsuitable
  | some true => .error (.texelSize texel.display)
  | some false => .ok ()

/-- Unwraps a mesh for texels of a given size, in the space that the transform takes it to.  A mesh
without surfaces stays as it is. -/
def unwrap (pack : Packer) (options : PackOptions) (mesh : LiveMesh) (transform : Matrix Float)
    (texel : Json) (r : Resources) : Except Fault LiveMesh × Resources :=
  match checkTexel texel with
  | .error fault => (.error fault, r)
  | .ok _ =>
    if mesh.surfaces.isEmpty then (.ok mesh, r)
    else
      match texel.asNumber with
      | .error fault => (.error fault, r)
      | .ok size =>
        let options := { options with texelsPerUnit := 1.0 / size }
        let moved := mesh.surfaces.map fun s =>
          let g := r.geometry s.geometry
          { g with vertices := g.vertices.map (movePoint transform) }
        let (unwrapped, r) := applyAtlas mesh (pack options moved) r
        (.ok unwrapped, r)

/-- The side of the smallest square grid of at least `n` cells. -/
def gridSide (n : Nat) : Nat :=
  ((List.range (n + 1)).find? fun side => n ≤ side * side).getD n

/-- A chart that splits no vertex and puts each at the centre of its own cell of a square grid. -/
def gridChart (g : Geometry) : Chart :=
  let n := g.vertices.length
  let side := max 1 (gridSide n)
  let place (k : Nat) : Float := (Number.ofInt (2 * k + 1)) / (Number.ofInt (2 * side))
  { mapping := List.range n
    faces := g.faces
    uv := (List.range n).map fun i => (place (i % side), place (i / side)) }

/-- The packer that puts every surface on a square grid of its own. -/
def gridPacker : Packer := fun _ surfaces =>
  let side := (surfaces.map fun g => gridSide g.vertices.length).foldl max 1
  { width := side, height := side, charts := surfaces.map gridChart }

/-- Marks a mesh as unwrapped without packing anything: all vertices share one place of a lightmap of
sixteen by sixteen texels. -/
def placeholder (mesh : LiveMesh) (r : Resources) : LiveMesh where
  name := mesh.name
  surfaces := mesh.surfaces.map fun s =>
    { s with lightmapUv := some ((r.geometry s.geometry).vertices.map fun _ => (0.0, 0.0)) }
  sizeHint := some [.int 16, .int 16]

end LevelPrep.Lightmap
