import LevelPrep.Lightmap
import LevelPrep.Proofs.Scene.Planting
import LevelPrep.Scene.Copy
import LevelPrep.Proofs.Scene.Writable

/-!
# Resources that can be written

If all geometry and all materials that live nodes may refer to can be written, so can every tree that is read off
the nodes (`Shows.writable`).  Planting what can be written keeps it so (`writable_plant`), and so does copying a
tree (`writable_copyTree`) or a mesh (`writable_rebuild`).
-/

namespace LevelPrep

namespace Resources

structure Writable (r : Resources) : Prop where
  geometry : ∀ g ∈ r.geometries, g.Writable
  material : ∀ m ∈ r.materials, m.Writable

variable {r : Resources}

theorem Writable.empty : ({} : Resources).Writable where
  geometry := by simp
  material := by simp

theorem Writable.geometryOf (h : r.Writable) (id : GeometryId) : (r.geometry id).Writable := by
  unfold Resources.geometry
  rw [Array.getD_eq_getD_getElem?]
  cases hfound : r.geometries[id.index]? with
  | none =>
      intro face hface
      cases hface
  | some g => exact h.geometry g (Array.mem_of_getElem? hfound)

theorem Writable.materialOf (h : r.Writable) (id : MaterialId) : (r.material id).Writable := by
  unfold Resources.material
  rw [Array.getD_eq_getD_getElem?]
  cases hfound : r.materials[id.index]? with
  | none =>
      intro path hpath
      cases hpath
  | some m => exact h.material m (Array.mem_of_getElem? hfound)

theorem Writable.addGeometry (h : r.Writable) {g : Geometry} (hg : g.Writable) : (r.addGeometry g).2.Writable := by
  refine ⟨fun other hother => ?_, h.material⟩
  rcases Array.mem_push.1 hother with hold | rfl
  · exact h.geometry other hold
  · exact hg

theorem Writable.addMaterial (h : r.Writable) {m : Material} (hm : m.Writable) : (r.addMaterial m).2.Writable := by
  refine ⟨h.geometry, fun other hother => ?_⟩
  rcases Array.mem_push.1 hother with hold | rfl
  · exact h.material other hold
  · exact hm

/-- A loop that keeps the resources writable in every round keeps them so. -/
theorem Writable.mapM {α β : Type} {f : α → StateM Resources β} {items : List α} (h : r.Writable)
    (hstep : ∀ a ∈ items, ∀ t : Resources, t.Writable → (f a t).2.Writable) : (items.mapM f r).2.Writable := by
  induction items generalizing r with
  | nil => exact h
  | cons a rest ih =>
      rw [List.mapM_cons]
      exact ih (hstep a List.mem_cons_self r h) fun b hb => hstep b (List.mem_cons_of_mem a hb)

theorem writable_addSurface (h : r.Writable) {s : Surface Geometry Material} (hs : s.Writable) :
    (s.mapM (m := StateM Resources) Resources.addGeometry Resources.addMaterial r).2.Writable := by
  rcases s with ⟨geometry, _ | material, uv⟩
  · exact h.addGeometry hs.geometry
  · exact (h.addGeometry hs.geometry).addMaterial (hs.material material rfl)

theorem writable_addPayload (h : r.Writable) {payload : Payload Geometry Material} (hpayload : payload.Writable) :
    (payload.mapM (m := StateM Resources) Resources.addGeometry Resources.addMaterial r).2.Writable := by
  cases payload with
  | meshInstance i =>
      rcases i with ⟨_ | mesh, castShadow, giMode, layers, ignoreOcclusionCulling⟩
      · exact h
      · exact h.mapM fun s hs t ht => writable_addSurface ht (hpayload mesh rfl s hs)
  | plain => exact h
  | staticBody layer mask => exact h
  | collisionShape shape => exact h

theorem writable_rebuild (h : r.Writable) (mesh : LiveMesh) : (mesh.rebuild r).2.Writable :=
  h.mapM fun s _ _ ht => ht.addGeometry (ht.geometryOf s.geometry)

end Resources

namespace Stage

variable {R : Type} {stage : Stage R}

theorem writable_payloadValue (h : stage.resources.Writable) (n : Node R) : (stage.payloadValue n).Writable := by
  unfold payloadValue
  cases n.payload with
  | meshInstance i =>
      intro mesh hmesh s hs
      rcases Option.map_eq_some_iff.1 hmesh with ⟨live, -, rfl⟩
      rcases List.mem_map.1 hs with ⟨surface, -, rfl⟩
      refine ⟨h.geometryOf surface.geometry, ?_⟩
      intro m hm
      rcases Option.map_eq_some_iff.1 hm with ⟨id, -, rfl⟩
      exact h.materialOf id
  | plain => trivial
  | staticBody layer mask => trivial
  | collisionShape shape => trivial

mutual

/-- What is read off live nodes can be written. -/
theorem Shows.writable (h : stage.resources.Writable) : ∀ {branch : Branch R} {id : NodeId},
    stage.Shows branch id → branch.Writable
  | .node name transform payload children, id, hshows => by
      rcases hshows with ⟨n, -, -, -, rfl, hchildren⟩
      exact ⟨writable_payloadValue h n, AllShow.writable h hchildren⟩

theorem AllShow.writable (h : stage.resources.Writable) : ∀ {branches : List (Branch R)} {ids : List NodeId},
    stage.AllShow branches ids → Tree.AllWritable branches
  | [], _, _ => trivial
  | branch :: rest, _, hshow => by
      rcases hshow with ⟨id, later, -, hshows, hrest⟩
      exact ⟨Shows.writable h hshows, AllShow.writable h hrest⟩

end

mutual

/-- Planting what can be written leaves resources that can be written. -/
theorem writable_plant : ∀ {branch : Branch R} {stage : Stage R}, branch.Writable →
    stage.resources.Writable → (plant branch stage).2.resources.Writable
  | .node name transform payload children, stage, hbranch, h => by
      rw [plant_node]
      exact writable_plantBelow hbranch.2 (Resources.writable_addPayload h hbranch.1)

theorem writable_plantBelow : ∀ {branches : List (Branch R)} {parent : NodeId} {stage : Stage R},
    Tree.AllWritable branches → stage.resources.Writable →
      (plantBelow parent branches stage).2.resources.Writable
  | [], _, _, _, h => h
  | branch :: rest, parent, stage, hbranches, h => by
      rw [plantBelow_cons]
      exact writable_plantBelow hbranches.2 (writable_plant hbranches.1 h)

end

/-- Copies of what can be written can be written. -/
theorem writable_copyTree {stage : Stage R} (h : stage.resources.Writable) (root : NodeId) :
    (copyTree root stage).2.resources.Writable where
  geometry g hg := by
    rcases Array.mem_append.1 hg with hg | hg
    · exact h.geometry g hg
    · rcases List.mem_map.1 (List.mem_toArray.1 hg) with ⟨id, -, rfl⟩
      exact h.geometryOf id
  material m hm := by
    rcases Array.mem_append.1 hm with hm | hm
    · exact h.material m hm
    · rcases List.mem_map.1 (List.mem_toArray.1 hm) with ⟨id, -, rfl⟩
      exact h.materialOf id

end Stage

/-! ## Unwrapping -/

namespace Lightmap

/-- Whatever an unwrapper does, the resources that it leaves can be written. -/
def KeepsWritable {R : Type}
    (unwrap : LiveMesh → Matrix R → Float → Resources → Except Fault LiveMesh × Resources) : Prop :=
  ∀ mesh transform texel (r : Resources), r.Writable → (unwrap mesh transform texel r).2.Writable

/-- The packer numbers the vertices of every chart with 64 bits, if those of the geometry are. -/
def Packer.Numbers (pack : Packer) : Prop :=
  ∀ options geometries, (∀ g ∈ geometries, g.Writable) →
    ∀ chart ∈ (pack options geometries).charts, ∀ face ∈ chart.faces, face.Writable

/-- Unwrapping with such a packer. -/
theorem writable_unwrap {pack : Packer} (hpack : pack.Numbers) (options : PackOptions) (mesh : LiveMesh)
    (transform : Matrix Float) (texel : Json) {r : Resources} (h : r.Writable) :
    (unwrap pack options mesh transform texel r).2.Writable := by
  unfold unwrap
  split
  · exact h
  · -- only charts bring in faces of their own, and those are numbered by the packer
    split_ifs
    · exact h
    · split
      · exact h
      · next size _ =>
          refine h.mapM fun ⟨surface, chart⟩ hmem t ht => ht.addGeometry ?_
          refine hpack _ _ (fun g hg => ?_) chart (List.of_mem_zip hmem).2
          rcases List.mem_map.1 hg with ⟨s, -, rfl⟩
          exact h.geometryOf s.geometry

theorem numbers_gridPacker : gridPacker.Numbers := by
  intro options geometries hgeometries chart hchart face hface
  rcases List.mem_map.1 hchart with ⟨g, hg, rfl⟩
  exact hgeometries g hg face hface

end Lightmap

end LevelPrep
