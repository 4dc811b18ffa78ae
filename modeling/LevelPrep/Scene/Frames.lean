import LevelPrep.Scene.Branch
import LevelPrep.Scene.Rigid

/-!
# Frame graphs

For exchange with other programs a scene is a graph of named frames: each frame is linked to its parent
frame by a matrix and may carry geometry, and everything hangs from a base frame.  Attaching a frame
again (`FrameGraph.attach`) gives it another parent and matrix but keeps its place among the frames.  A
link that was made before stays known, and making it once more changes nothing.

Exporting a tree gives every node a frame and every surface a frame below that of its node.  All issued
names differ: a name that is taken gets the least number from two on that makes it new.
-/

namespace LevelPrep

/-- A link of a frame to its parent. -/
structure FrameLink (R : Type) where
  frame : Json
  parent : Json
  transform : Matrix R
  /-- What the frame is said to carry, if the link says anything. -/
  geometry : Option Json := none

structure FrameGraph (R : Type) where
  base : Json
  /-- The frames in the order in which they were first attached, each with its parent. -/
  parents : List (Json × Json) := []
  /-- The last link between each two frames that were ever linked. -/
  links : List (FrameLink R) := []
  /-- What the frames carry. -/
  carried : List (Json × Json) := []

/-- The name of the base frame, unless a scene says otherwise. -/
def baseFrame : String :=
  "world"

namespace FrameGraph

variable {R : Type}

/-- The last link between a parent and a frame. -/
def link? (g : FrameGraph R) (parent frame : Json) : Option (FrameLink R) :=
  g.links.find? fun link => link.parent == parent && link.frame == frame

/-- Puts a frame below another. -/
def relink (g : FrameGraph R) (link : FrameLink R) : FrameGraph R :=
  { g with
    parents := Json.setEntry link.frame link.parent g.parents
    links := link :: g.links.filter fun other =>
      !(other.parent == link.parent && other.frame == link.frame) }

/-- Whether a link says what an older one between the same frames says, as far as `same` tells. -/
def repeats (same : Matrix R → Matrix R → Bool) (link old : FrameLink R) : Bool :=
  same link.transform old.transform && link.geometry.getD .null == old.geometry.getD .null

/-- Attaches a frame.  A link that repeats an older one leaves the frame where it is. -/
def attach (same : Matrix R → Matrix R → Bool) (g : FrameGraph R) (link : FrameLink R) :
    FrameGraph R :=
  let g :=
    match link.geometry with
    | some geometry => { g with carried := Json.setEntry link.frame geometry g.carried }
    | none => g
  match g.link? link.parent link.frame with
  | some old => if repeats same link old then g else g.relink link
  | none => g.relink link

/-- The links of the frames below a frame; a frame is never below itself. -/
def below (g : FrameGraph R) (frame : Json) : List (FrameLink R) :=
  g.parents.filterMap fun (child, parent) =>
    if parent == frame && !(child == frame) then
      (g.link? parent child).map fun link => { link with frame := child }
    else none

/-- The frames in order, each with its current link. -/
def current (g : FrameGraph R) : List (FrameLink R) :=
  g.parents.filterMap fun (child, parent) =>
    (g.link? parent child).map fun link => { link with frame := child }

/-- Attaches a frame by a matrix of doubles, after the drift was taken from it.  A link without a parent
leads to the base. -/
def update (g : FrameGraph Float) (link : FrameLink Float) : Except Fault (FrameGraph Float) := do
  let parent := match link.parent with | .null => g.base | frame => frame
  let transform ← Rigid.settle link.transform
  parent.checkKey
  link.frame.checkKey
  return g.attach Rigid.sameMatrix { link with parent, transform }

/-- Changes the transforms of the frames right below the base. -/
def transformBase (g : FrameGraph Float) (f : Matrix Float → Matrix Float) :
    Except Fault (FrameGraph Float) := do
  let links := g.below g.base
  if links.isEmpty then throw (.nothingBelowBase g.base.display)
  links.foldlM (fun g link => g.update { link with transform := f link.transform, geometry := none }) g

end FrameGraph

/-! ## Export -/

/-- What an export has issued so far. -/
structure Export (R : Type) where
  /-- The frames in the order in which they were issued, each under a name of its own. -/
  issued : List (FrameLink R) := []
  geometries : List (String × Geometry) := []

namespace Export

variable {R : Type}

/-- A name that is not taken: the name itself, or the name with the least number from two on. -/
def freshName (taken : List Json) (name : Json) : Json :=
  if taken.contains name then
    let numbered := (List.range (taken.length + 1)).map fun k =>
      Json.str (name.display ++ "_" ++ toString (k + 2))
    (numbered.find? fun candidate => !taken.contains candidate).getD name
  else name

/-- The names issued so far. -/
def names (e : Export R) : List Json :=
  e.issued.map (·.frame)

/-- Issues a frame under a fresh name, which is returned. -/
def issue (name parent : Json) (transform : Matrix R) : StateM (Export R) Json := fun e =>
  let frame := freshName e.names name
  (frame, { e with issued := e.issued ++ [{ frame, parent, transform }] })

variable [Zero R] [One R]

/-- Issues the frame of a surface, which carries geometry of the same name. -/
def issueSurface (parent : Json) (index : Nat) (geometry : Geometry) : StateM (Export R) Unit :=
  fun e =>
    let frame := freshName e.names (.str (parent.display ++ "_surface" ++ toString index))
    ((), {
      issued := e.issued ++ [{
        frame, parent, transform := Matrix.identity, geometry := some frame }]
      geometries := e.geometries ++ [(frame.display, geometry)] })

/-- Issues the frame of a node and those of its surfaces. -/
def issueNode (stage : Stage R) (parent : Json) (id : NodeId) (n : Node R) :
    StateM (Export R) (NodeId × Json) := do
  let frame ← issue n.name parent n.transform
  match stage.graph.mesh? id with
  | none => return (id, frame)
  | some mesh =>
    mesh.surfaces.zipIdx.forM fun (surface, index) =>
      issueSurface frame index (stage.resources.geometry surface.geometry)
    return (id, frame)

/-- Issues the frames of the children of a node. -/
def issueChildren (stage : Stage R) (node : NodeId × Json) :
    StateM (Export R) (List (NodeId × Json)) :=
  ((stage.graph.children node.1).filterMap fun id => (stage.graph.node? id).map fun n => (id, n)).mapM
    fun (id, n) => issueNode stage node.2 id n

/-- Issues the frames below a level, level by level. -/
def issueLevels (stage : Stage R) : (fuel : Nat) → List (NodeId × Json) → StateM (Export R) Unit
  | 0, _ => return
  | _ + 1, [] => return
  | fuel + 1, level => do
    let next ← level.mapM (issueChildren stage)
    issueLevels stage fuel next.flatten

/-- Exports the tree below a node; the node itself becomes the base frame. -/
def ofTree (stage : Stage R) (root : NodeId) : Export R :=
  (issueLevels stage (stage.graph.size + 1) [(root, .str baseFrame)] {}).2

/-- Exports the tree below a node if all names in it can name frames, which lists and objects cannot. -/
def ofNamedTree (stage : Stage R) (root : NodeId) : Except Fault (Export R) := do
  (stage.graph.descendants root).forM fun id => (stage.graph.name id).checkKey
  return ofTree stage root

/-- The frame graph that an export makes. -/
def frames (e : Export Float) : Except Fault (FrameGraph Float) :=
  e.issued.foldlM FrameGraph.update { base := .str baseFrame }

end Export

/-- The cosine of a quarter turn as it comes out in doubles. -/
def quarterCosine : Float :=
  Float.ofBits 0x3C91A62633145C07

/-- A quarter turn about the first axis, which turns the third axis upright. -/
def quarterTurn : Matrix Float :=
  ⟨⟨1, 0, 0, 0⟩, ⟨0, quarterCosine, -1, 0⟩, ⟨0, 1, quarterCosine, 0⟩, ⟨0, 0, 0, 1⟩⟩

/-- The frame graph of a tree, turned upright if asked for. -/
def exportFrames (stage : Stage Float) (root : NodeId) (upright : Bool) :
    Except Fault (FrameGraph Float × List (String × Geometry)) := do
  let e ← Export.ofNamedTree stage root
  let frames ← e.frames
  let frames ← if upright then frames.transformBase (quarterTurn * ·) else pure frames
  return (frames, e.geometries)

/-! ## Import -/

/-- What a frame can carry; triangles are made of a `G`. -/
inductive FrameGeometry (G : Type) where
  | triangles (geometry : G) (material : Option Material)
  /-- Loose points, which no mesh is made of. -/
  | points

/-- A scene of frames. -/
structure FrameScene (G R : Type) where
  graph : FrameGraph R
  geometries : List (String × FrameGeometry G) := []

namespace FrameScene

variable {G R : Type}

/-- What a frame carries, by its name. -/
def geometryOf (scene : FrameScene G R) (frame : Json) : Option (String × FrameGeometry G) :=
  match scene.graph.carried.lookup frame with
  | some (.str name) => (scene.geometries.lookup name).map fun geometry => (name, geometry)
  | _ => none

/-- What the node of a frame is for: triangles make it a mesh instance with one surface. -/
def payload (scene : FrameScene G R) (frame : Json) : Payload G Material :=
  match scene.geometryOf frame with
  | some (name, .triangles geometry material) =>
    .meshInstance { mesh := some { name := .str name, surfaces := [{ geometry, material }] } }
  | _ => .plain

/-- The trees of the frames below a frame, to the depth of the fuel. -/
def treesBelow (scene : FrameScene G R) : (fuel : Nat) → (frame : Json) → List (Tree G R)
  | 0, _ => []
  | fuel + 1, frame =>
    (scene.graph.below frame).map fun link =>
      .node (.str link.frame.display) link.transform (scene.payload link.frame)
        (scene.treesBelow fuel link.frame)

/-- The tree of all frames that hang from the base, below a root of the given name. -/
def tree [Zero R] [One R] (scene : FrameScene G R) (name : Json) : Tree G R :=
  .node name Matrix.identity .plain
    (scene.treesBelow (scene.graph.parents.length + 1) scene.graph.base)

/-- Whether all geometry is named by texts. -/
def namesGeometry (scene : FrameScene G R) : Bool :=
  let isName : Json → Bool := fun | .str _ => true | _ => false
  scene.graph.links.all (fun link => link.geometry.all isName) &&
    scene.graph.carried.all fun entry => isName entry.2

/-- The tree of all frames that hang from the base.  Where there are such frames, all geometry that is
spoken of anywhere has to be named by texts. -/
def tree? [Zero R] [One R] (scene : FrameScene G R) (name : Json) : Except Fault (Tree G R) :=
  if (scene.graph.below scene.graph.base).isEmpty || scene.namesGeometry then .ok (scene.tree name)
  else .error .unsuitable

end FrameScene

/-- The scene of frames that an export makes; surfaces lose their materials. -/
def Export.scene (e : Export Float) : Except Fault (FrameScene Geometry Float) := do
  return {
    graph := ← e.frames
    geometries := e.geometries.map fun (name, geometry) => (name, .triangles geometry none) }

end LevelPrep
