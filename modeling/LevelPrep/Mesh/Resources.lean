import LevelPrep.Mesh.Hull

/-!
# Shared geometry and materials

`Resources` holds the geometry and the materials that the meshes of live scenes refer to.  Resources
are only ever added; a reference stays good.  Copying a mesh (`LiveMesh.rebuild`) gives it geometry of
its own and keeps its materials.
-/

namespace LevelPrep

/-- A reference to geometry. -/
structure GeometryId where
  index : Nat
deriving DecidableEq, Repr

/-- A reference to a material. -/
structure MaterialId where
  index : Nat
deriving DecidableEq, Repr

structure Resources where
  geometries : Array Geometry := #[]
  materials : Array Material := #[]
deriving Inhabited

/-- A mesh whose surfaces refer to shared geometry and materials. -/
abbrev LiveMesh := Mesh GeometryId MaterialId

namespace Resources

/-- The geometry that a reference stands for. -/
def geometry (r : Resources) (id : GeometryId) : Geometry :=
  r.geometries.getD id.index {}

/-- The material that a reference stands for. -/
def material (r : Resources) (id : MaterialId) : Material :=
  r.materials.getD id.index {}

/-- Adds geometry. -/
def addGeometry (g : Geometry) (r : Resources) : GeometryId × Resources :=
  (⟨r.geometries.size⟩, { r with geometries := r.geometries.push g })

/-- Adds a material. -/
def addMaterial (m : Material) (r : Resources) : MaterialId × Resources :=
  (⟨r.materials.size⟩, { r with materials := r.materials.push m })

/-- Changes geometry, for every surface that refers to it. -/
def changeGeometry (id : GeometryId) (f : Geometry → Geometry) (r : Resources) : Resources :=
  { r with geometries := r.geometries.modify id.index f }

/-- Changes a material, for every surface that refers to it. -/
def changeMaterial (id : MaterialId) (f : Material → Material) (r : Resources) : Resources :=
  { r with materials := r.materials.modify id.index f }

@[simp] theorem geometry_addGeometry_self (g : Geometry) (r : Resources) :
    (r.addGeometry g).2.geometry (r.addGeometry g).1 = g := by
  simp [addGeometry, geometry]

@[simp] theorem material_addMaterial_self (m : Material) (r : Resources) :
    (r.addMaterial m).2.material (r.addMaterial m).1 = m := by
  simp [addMaterial, material]

/-- Adds all geometry and all materials of a mesh. -/
def addMesh (mesh : MeshValue) : StateM Resources LiveMesh :=
  mesh.mapM (m := StateM Resources) addGeometry addMaterial

/-- The mesh with everything that it refers to. -/
def meshValue (r : Resources) (mesh : LiveMesh) : MeshValue :=
  mesh.map r.geometry r.material

end Resources

namespace LiveMesh

/-- The mesh with one more surface. -/
def addSurface (mesh : LiveMesh) (surface : Surface GeometryId MaterialId) : LiveMesh :=
  { mesh with surfaces := mesh.surfaces ++ [surface] }

/-- The material of a surface. -/
def surfaceMaterial (mesh : LiveMesh) (index : Int) : Except Fault (Option MaterialId) :=
  (itemAt mesh.surfaces index).map (·.material)

/-- The mesh with another material on one surface. -/
def setSurfaceMaterial (mesh : LiveMesh) (index : Int) (material : Option MaterialId) :
    Except Fault LiveMesh :=
  match place? mesh.surfaces.length index with
  | some place =>
    .ok { mesh with surfaces := mesh.surfaces.modify place fun s => { s with material := material } }
  | none => .error .outOfRange

/-- The corners of all triangles, surface by surface. -/
def corners (mesh : LiveMesh) (r : Resources) : Except Fault (List Point) := do
  let perSurface ← mesh.surfaces.mapM fun s => (r.geometry s.geometry).corners
  return perSurface.flatten

/-- The convex shape around all vertices of the mesh, whether triangles use them or not. -/
def convexShape (mesh : LiveMesh) (r : Resources) : Except Fault Shape :=
  if mesh.surfaces.isEmpty then .error (.noSurfaces mesh.name.display)
  else
    (Hull.corners (mesh.surfaces.flatMap fun s => (r.geometry s.geometry).vertices)).map .convex

/-- A fresh surface with a copy of the geometry and with the same material. -/
def copySurface (s : Surface GeometryId MaterialId) :
    StateM Resources (Surface GeometryId MaterialId) := do
  let r ← get
  let copy ← modifyGet (Resources.addGeometry (r.geometry s.geometry))
  return { geometry := copy, material := s.material }

/-- A fresh mesh with copies of the geometry and with the same materials.  Lightmap coordinates and
the size they were made for are not carried over. -/
def rebuild (mesh : LiveMesh) : StateM Resources LiveMesh := do
  let surfaces ← mesh.surfaces.mapM copySurface
  return { name := mesh.name, surfaces := surfaces }

end LiveMesh

end LevelPrep
