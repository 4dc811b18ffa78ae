import LevelPrep.Pass.Context

/-!
# Rendering passes

These passes settle how the meshes of a static subtree are drawn: which are not drawn at all, which
lightmap they get, how they cast shadows, on which layers they are, and of which material.
-/

namespace LevelPrep.Rendering

variable {R : Type}

/-- Takes the mesh from a node that is only there for its collision body.  The node is left out of
occlusion culling. -/
def hide (id : NodeId) (g : SceneGraph R) : SceneGraph R :=
  g.modifyInstance id fun i => { i with mesh := none, ignoreOcclusionCulling := true }

/-- Whether the name of a node asks for its mesh to be hidden, in either of two ways. -/
def asksToHide (context : PassContext R) (id : NodeId) : Work R Bool := do
  if ← context.has id .noRender then return true else context.has id .collisionOnly

/-- Hides a mesh instance if its name asks for it. -/
def hideIfAsked (context : PassContext R) (id : NodeId) : Work R Unit := do
  if ← asksToHide context id then
    Work.onGraph (hide id)
    Work.debug "pipeline.render_removal"
      ("Removed mesh of collision-only node '" ++ ((← Work.graph).name id).display ++ "'.")

/-- Hides the mesh instances whose names ask for it. -/
def applyRemoval (context : PassContext R) (root : NodeId) : Work R Unit := do
  ((← Work.graph).instances root).forM (hideIfAsked context)

/-- The factor that a name asks texels to be multiplied by. -/
def texelFactor : Option AttributeValue → Float
  | some (.factor x) => x
  | _ => 1.0

/-- Unwraps a mesh for texels of the given size.  Geometry that is made is kept even on failure. -/
def unwrap (tools : Tools R) (mesh : LiveMesh) (transform : Matrix R) (texel : Float) :
    Work R LiveMesh := do
  modify fun s =>
    { s with
      unwrapCalls :=
        s.unwrapCalls.push { handed := mesh, resources := s.stage.resources, transform, texel } }
  Work.lift (← Work.onResources (tools.unwrap mesh transform texel))

/-- Rebuilds the mesh of a node with lightmap coordinates. -/
def bake (context : PassContext R) (id : NodeId) : Work R Unit := do
  let factor := texelFactor (← context.value id .texelMultiplier)
  let texel := (← Work.lift context.settings.texel) * factor
  let g ← Work.graph
  match g.node? id, g.mesh? id with
  | some n, some mesh =>
    let rebuilt ← Work.onResources mesh.rebuild
    let rebuilt ← unwrap context.tools rebuilt n.transform texel
    Work.onGraph (·.modifyInstance id fun i => { i with mesh := some rebuilt })
    Work.debug "pipeline.lightmap"
      ("Unwrapped lightmap UVs of '" ++ n.name.display ++ "' at texel size " ++
        Number.floatText texel ++ ".")
  | _, _ => return

/-- Lights a node dynamically if its name asks not to be baked. -/
def lightIfAsked (context : PassContext R) (id : NodeId) : Work R Unit := do
  if ← context.has id .noBake then
    Work.onGraph (·.modifyInstance id fun i => { i with giMode := .dynamic })

/-- Bakes every mesh of a subtree, also those of nodes that are lit dynamically. -/
def applyLightmap (context : PassContext R) (root : NodeId) : Work R Unit := do
  let meshNodes := (← Work.graph).meshNodes root
  meshNodes.forM (bake context)
  meshNodes.forM (lightIfAsked context)

/-- Lets a mesh instance cast shadows on both sides, or none if its name asks for none. -/
def setShadow (context : PassContext R) (id : NodeId) : Work R Unit := do
  let mode := if ← context.has id .noShadow then ShadowCasting.off else .doubleSided
  Work.onGraph (·.modifyInstance id fun i => { i with castShadow := mode })

/-- Settles the shadows of every mesh instance of a subtree. -/
def applyShadow (context : PassContext R) (root : NodeId) : Work R Unit := do
  ((← Work.graph).instances root).forM (setShadow context)

/-- Puts a mesh instance on other layers if its name asks for it. -/
def setLayer (context : PassContext R) (id : NodeId) : Work R Unit := do
  match ← context.value id .renderLayer with
  | some (.mask n) => Work.onGraph (·.modifyInstance id fun i => { i with layers := n })
  | _ => return

/-- Settles the layers of every mesh instance of a subtree. -/
def applyLayer (context : PassContext R) (root : NodeId) : Work R Unit := do
  ((← Work.graph).instances root).forM (setLayer context)

/-- Gives one surface of a node the material that takes the place of its own. -/
def replaceMaterial (id : NodeId) (surface : Nat) : Work R Unit := do
  let g ← Work.graph
  match g.mesh? id with
  | none => return
  | some mesh =>
    let r ← Work.resources
    let name :=
      match (mesh.surfaces[surface]?).bind (·.material) with
      | some material => (r.material material).name
      | none => .str ""
    let replacement ← Work.materialReplacement name
    let replaced ← Work.lift (mesh.setSurfaceMaterial surface (some replacement))
    Work.onGraph (·.modifyInstance id fun i => { i with mesh := some replaced })
    Work.debug "pipeline.material"
      ("Surface " ++ toString surface ++ " of '" ++ (g.name id).display ++ "': '" ++ name.display ++
        "' -> '" ++ ((← Work.resources).material replacement).name.display ++ "'.")

/-- Replaces the materials of the mesh of a node, surface by surface. -/
def replaceMaterials (id : NodeId) : Work R Unit := do
  match (← Work.graph).mesh? id with
  | none => return
  | some mesh => (List.range mesh.surfaces.length).forM (replaceMaterial id)

/-- Replaces the materials of every mesh of a subtree. -/
def applyMaterial (_ : PassContext R) (root : NodeId) : Work R Unit := do
  ((← Work.graph).meshNodes root).forM replaceMaterials

end LevelPrep.Rendering
