import LevelPrep.Level.Conversion
import LevelPrep.Proofs.Pass.Looks
import LevelPrep.Proofs.Pass.Outcomes
import LevelPrep.Proofs.Scene.Snapshots

/-!
# Passes as functions of trees

What a pass makes of a static subtree, told without live nodes.  A pass goes by `Rules`: what names ask for, how
meshes get lightmap coordinates, and which materials take the place of others.  All passes but one draw every
mesh instance anew by its name, its transform and what it looks like (`Rules.drawer`); the collision pass adds
bodies behind the children of the root, one for each mesh instance that is met level by level
(`Rules.bodies`).  `PassKind.image` puts these together, and `Rules.work` one pass after another; both are
`none` for a tree that a pass fails on.
-/

namespace LevelPrep

variable {R : Type}

/-! ## Drawing anew -/

/-- What is made of a mesh instance of the given name and transform, if anything can be. -/
abbrev Drawer (R : Type) :=
  Json → Matrix R → MeshInstance Geometry Material → Option (MeshInstance Geometry Material)

/-- Mesh instances are drawn anew, and other payloads stay as they are. -/
def Drawer.maker (f : Drawer R) : Snapshot.Maker R := fun name transform payload =>
  match payload with
  | .meshInstance i => (f name transform i).map .meshInstance
  | payload => some payload

/-- What is known once a question has been answered. -/
def onAnswer {α β : Type} (question : Except Fault β) (a : α) : Option α :=
  question.toOption.map fun _ => a

theorem onAnswer_eq_some_iff {α β : Type} {question : Except Fault β} {a a' : α} :
    onAnswer question a = some a' ↔ (∃ b, question = .ok b) ∧ a' = a := by
  cases question with
  | error fault => simp [onAnswer, Except.toOption]
  | ok b => simp [onAnswer, Except.toOption, eq_comm]

/-- The mesh with the materials that take the place of its own, if all of them can be had. -/
def Mesh.redress {G : Type} (material : Json → Option Material) (mesh : Mesh G Material) :
    Option (Mesh G Material) :=
  (mesh.surfaces.mapM fun s => (material s.materialName).map fun m => { s with material := some m }).map
    fun surfaces => { mesh with surfaces := surfaces }

/-- What passes go by. -/
structure Rules (R : Type) where
  grammar : Grammar
  /-- The size of a texel where a name asks for no other. -/
  texel : Except Fault Float
  /-- The mesh with lightmap coordinates, for a transform and the size of a texel. -/
  bake : MeshValue → Matrix R → Float → Option MeshValue
  /-- The material that takes the place of one of the given name. -/
  material : Json → Option Material

namespace Rules

variable (rules : Rules R)

def hide : Drawer R := fun name _ i =>
  onAnswer (rules.grammar.asksToHide name) (i.asHidden rules.grammar name)

/-- A mesh is copied, which loses its lightmap coordinates, and gets new ones. -/
def bakeMesh : Drawer R := fun name transform i =>
  match i.mesh with
  | none => some i
  | some mesh =>
    (onAnswer (rules.grammar.nameValue name .texelMultiplier) ()).bind fun _ =>
      rules.texel.toOption.bind fun base =>
        (rules.bake mesh.bare transform (base * rules.grammar.texelFactor name)).map fun baked =>
          { i with mesh := some baked }

def light : Drawer R := fun name _ i =>
  if i.mesh.isSome then onAnswer (rules.grammar.nameHas name .noBake) (i.asLit rules.grammar name)
  else some i

def shade : Drawer R := fun name _ i =>
  onAnswer (rules.grammar.nameHas name .noShadow) (i.asShadowing rules.grammar name)

def layer : Drawer R := fun name _ i =>
  onAnswer (rules.grammar.nameValue name .renderLayer) (i.asLayered rules.grammar name)

def dress : Drawer R := fun _ _ i =>
  match i.mesh with
  | none => some i
  | some mesh => (mesh.redress rules.material).map fun dressed => { i with mesh := some dressed }

/-- What a pass makes of a mesh instance. -/
def drawer : PassKind → Drawer R
  | .collision => fun _ _ i => some i
  | .renderRemoval => rules.hide
  | .lightmap => fun name transform i =>
    (rules.bakeMesh name transform i).bind (rules.light name transform)
  | .shadow => rules.shade
  | .renderLayer => rules.layer
  | .material => rules.dress

end Rules

theorem Drawer.maker_bind (f g : Drawer R) :
    Drawer.maker (fun name transform i => (f name transform i).bind (g name transform)) =
      f.maker.andThen g.maker := by
  funext name transform payload
  cases payload with
  | meshInstance i =>
      show ((f name transform i).bind (g name transform)).map Payload.meshInstance =
        ((f name transform i).map Payload.meshInstance).bind (g.maker name transform)
      cases f name transform i <;> rfl
  | plain | staticBody | collisionShape => rfl

/-! ## Bodies -/

namespace Snapshot

/-- A tree somewhere below a root, with the transforms of the nodes on the way down to it. -/
abbrev Placed (R : Type) :=
  List (Matrix R) × Snapshot Geometry R

/-- The trees right below a tree. -/
def placedBelow (p : Placed R) : List (Placed R) :=
  p.2.children.map fun child => (p.1 ++ [child.head.transform], child)

/-- The trees of a level and of all levels below it. -/
def levelsFrom : (fuel : Nat) → (level : List (Placed R)) → List (Placed R)
  | 0, _ => []
  | fuel + 1, level => level ++ levelsFrom fuel (level.flatMap placedBelow)

mutual

/-- The number of levels of a tree. -/
def height : Snapshot Geometry R → Nat
  | .node _ _ _ _ _ children => heights children + 1

/-- The number of levels of the highest of some trees. -/
def heights : List (Snapshot Geometry R) → Nat
  | [] => 0
  | d :: rest => max (height d) (heights rest)

end

/-- A tree and all trees below it, level by level. -/
def levelOrder (d : Snapshot Geometry R) : List (Placed R) :=
  levelsFrom d.height [([], d)]

end Snapshot

/-- The collision shape for a mesh of the given geometry, if it has one. -/
def shapeFor (convex : Bool) (parts : List Geometry) : Option Shape :=
  if convex then
    if parts.isEmpty then none
    else (Hull.corners (parts.flatMap (·.vertices))).toOption.map .convex
  else (parts.mapM Geometry.corners).toOption.map fun corners => .concave corners.flatten

/-- The collision shape for a mesh instance whose name has the given attributes. -/
def MeshInstance.shape? (attributes : NodeAttributes) (i : MeshInstance Geometry Material) : Option Shape :=
  i.mesh.bind fun mesh =>
    shapeFor (attributes.contains .convexCollision) (mesh.surfaces.map (·.geometry))

variable [Zero R] [One R] [Add R] [Mul R]

/-- A static body that belongs to the level, with its collision shape. -/
def bodyTree (level name : Json) (transform : Matrix R) (layer mask : Int) (shape : Shape) :
    Snapshot Geometry R :=
  .node (.str (name.display ++ "_StaticBody")) transform (.staticBody layer mask) (some level) false [
    .node (.str "CollisionShape") Matrix.identity (.collisionShape (some shape)) (some level) false []]

namespace Rules

/-- The body for a mesh instance, given the transforms on the way down to it. -/
def body (rules : Rules R) (level : Json) (path : List (Matrix R)) (name : Json)
    (i : MeshInstance Geometry Material) : Option (Snapshot Geometry R) :=
  (rules.grammar.nameAttributes name).toOption.bind fun attributes =>
    (i.shape? attributes).map fun shape =>
      bodyTree level name (path.foldr (· * ·) Matrix.identity)
        (Collision.bits attributes .collisionLayer) (Collision.bits attributes .collisionMask) shape

/-- The bodies for a node: one for a mesh instance, unless its name asks for none. -/
def bodies (rules : Rules R) (level : Json) (p : Snapshot.Placed R) : Option (List (Snapshot Geometry R)) :=
  match p.2.head.payload.meshInstance? with
  | none => some []
  | some i =>
    (rules.grammar.nameHas p.2.head.name .noCollision).toOption.bind fun skipped =>
      if skipped then some [] else (rules.body level p.1 p.2.head.name i).map fun body => [body]

/-- The tree with a body for each mesh instance in it. -/
def embody (rules : Rules R) (level : Json) (d : Snapshot Geometry R) : Option (Snapshot Geometry R) :=
  (d.levelOrder.mapM (rules.bodies level)).map fun bodies => d.head.node (d.children ++ bodies.flatten)

end Rules

/-- What a pass makes of a static tree of the level of the given name, if it succeeds. -/
def PassKind.image (rules : Rules R) (level : Json) (kind : PassKind) (d : Snapshot Geometry R) :
    Option (Snapshot Geometry R) :=
  match kind with
  | .collision => rules.embody level d
  | kind => d.remake (rules.drawer kind).maker

/-- What passes make of a static tree, one after another. -/
def Rules.work (rules : Rules R) (level : Json) (passes : List PassKind) (d : Snapshot Geometry R) :
    Option (Snapshot Geometry R) :=
  passes.foldlM (fun d kind => kind.image rules level d) d

/-! ## The root of a tree -/

variable {rules : Rules R} {level : Json} {d d' : Snapshot Geometry R}

/-- A pass that adds no bodies draws every mesh instance anew. -/
theorem PassKind.image_eq_remake {kind : PassKind} (hkind : kind ≠ .collision) :
    kind.image rules level d = d.remake (rules.drawer kind).maker := by
  cases kind with
  | collision => exact absurd rfl hkind
  | renderRemoval | lightmap | shadow | renderLayer | material => rfl

/-- A pass leaves everything at the root of a tree alone but the payload. -/
theorem PassKind.head_of_image {kind : PassKind} (h : kind.image rules level d = some d') :
    ∃ payload, d'.head = { d.head with payload := payload } := by
  by_cases hkind : kind = .collision
  · subst hkind
    rcases Option.map_eq_some_iff.1 h with ⟨bodies, -, rfl⟩
    exact ⟨d.head.payload, rfl⟩
  · rw [PassKind.image_eq_remake hkind] at h
    rcases Option.map_eq_some_iff.1 (Snapshot.head_of_remake h) with ⟨payload, -, hhead⟩
    exact ⟨payload, hhead.symm⟩

/-- Passes leave everything at the root of a tree alone but the payload. -/
theorem Rules.head_of_work {passes : List PassKind} (h : rules.work level passes d = some d') :
    ∃ payload, d'.head = { d.head with payload := payload } := by
  induction passes generalizing d with
  | nil =>
      cases h
      exact ⟨_, rfl⟩
  | cons kind rest ih =>
      rcases Option.bind_eq_some_iff.1 h with ⟨between, hfirst, hrest⟩
      rcases PassKind.head_of_image hfirst with ⟨payload, hhead⟩
      rcases ih hrest with ⟨payload', hhead'⟩
      exact ⟨payload', by rw [hhead', hhead]⟩

end LevelPrep
