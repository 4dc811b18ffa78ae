import LevelPrep.Pass.Rendering
import LevelPrep.Proofs.Pass.Reworking
import LevelPrep.Proofs.Session

/-!
# Rounds of passes

A pass goes through nodes and does the same to each.  This module says what one round leaves behind when
it succeeds: `Redrawn` where only the way a node is drawn changes, and the whole session where geometry or
materials are made as well.  What becomes of a mesh instance is told by functions of its name that do not
depend on the session (`asHidden`, `asLit`, `asShadowing`, `asLayered`).
-/

namespace LevelPrep

variable {R : Type}

/-! ## What a name asks for -/

namespace Grammar

/-- Whether a name carries an attribute. -/
def carries (g : Grammar) (name : Json) (kind : AttributeKind) : Bool :=
  match g.nameHas name kind with
  | .ok found => found
  | .error _ => false

/-- Whether a name asks for its mesh not to be drawn. -/
def hides (g : Grammar) (name : Json) : Bool :=
  g.carries name .noRender || g.carries name .collisionOnly

/-- The layers that a name asks for. -/
def layers? (g : Grammar) (name : Json) : Option Int :=
  match g.nameValue name .renderLayer with
  | .ok (some (.mask n)) => some n
  | _ => none

/-- The factor that a name asks texels to be multiplied by, one if it asks for none. -/
def texelFactor (g : Grammar) (name : Json) : Float :=
  match g.nameValue name .texelMultiplier with
  | .ok (some (.factor x)) => x
  | _ => 1.0

end Grammar

namespace MeshInstance

variable {G M : Type}

/-- Without its mesh and without occlusion culling if its name hides it. -/
def asHidden (g : Grammar) (name : Json) (i : MeshInstance G M) : MeshInstance G M :=
  if g.hides name then { i with mesh := none, ignoreOcclusionCulling := true } else i

/-- Lit dynamically if its name asks not to be baked. -/
def asLit (g : Grammar) (name : Json) (i : MeshInstance G M) : MeshInstance G M :=
  if g.carries name .noBake then { i with giMode := .dynamic } else i

/-- With shadows on both sides, or without any if its name asks for that. -/
def asShadowing (g : Grammar) (name : Json) (i : MeshInstance G M) : MeshInstance G M :=
  { i with castShadow := if g.carries name .noShadow then .off else .doubleSided }

/-- On the layers that its name asks for, if it does. -/
def asLayered (g : Grammar) (name : Json) (i : MeshInstance G M) : MeshInstance G M :=
  match g.layers? name with
  | some n => { i with layers := n }
  | none => i

theorem mesh_asHidden (g : Grammar) (name : Json) (i : MeshInstance G M) :
    (i.asHidden g name).mesh = if g.hides name then none else i.mesh := by
  unfold asHidden
  split_ifs <;> rfl

@[simp] theorem mesh_asLit (g : Grammar) (name : Json) (i : MeshInstance G M) :
    (i.asLit g name).mesh = i.mesh := by
  unfold asLit
  split_ifs <;> rfl

@[simp] theorem mesh_asShadowing (g : Grammar) (name : Json) (i : MeshInstance G M) :
    (i.asShadowing g name).mesh = i.mesh :=
  rfl

theorem asLayered_eq (g : Grammar) (name : Json) (i : MeshInstance G M) :
    i.asLayered g name = { i with layers := (g.layers? name).getD i.layers } := by
  unfold asLayered
  cases g.layers? name <;> rfl

@[simp] theorem mesh_asLayered (g : Grammar) (name : Json) (i : MeshInstance G M) :
    (i.asLayered g name).mesh = i.mesh := by
  rw [asLayered_eq]

end MeshInstance

/-! ## Rounds that redraw a node -/

/-- The session after a change of how one node is drawn, and of nothing else but the journal. -/
def Redrawn (id : NodeId)
    (change : MeshInstance GeometryId MaterialId → MeshInstance GeometryId MaterialId)
    (s s' : Session R) : Prop :=
  ∃ journal, s' =
    { s with
      stage := { s.stage with graph := s.stage.graph.modifyInstance id change }
      journal := journal }

theorem SceneGraph.modifyInstance_id (g : SceneGraph R) (id : NodeId) :
    g.modifyInstance id (fun i => i) = g := by
  have hsame : ∀ n : Node R, { n with payload := n.payload.mapInstance fun i => i } = n := by
    intro n
    rw [Payload.mapInstance_id]
  unfold modifyInstance modify
  simp only [hsame]
  congr 1
  ext i h₁ h₂ <;> simp [Array.getElem_modify]

/-- A change of nothing but the journal. -/
theorem Redrawn.of_journal (id : NodeId) (s : Session R) (journal : Array LogRecord) :
    Redrawn id (fun i => i) s { s with journal := journal } :=
  ⟨journal, by rw [SceneGraph.modifyInstance_id]⟩

open Work

variable {context : PassContext R} {id : NodeId} {s s' : Session R}

theorem eq_carries_of_has {kind : AttributeKind} {found : Bool}
    (h : (context.has id kind).runIn s = (.ok found, s')) :
    s' = s ∧ found = context.grammar.carries (s.stage.graph.name id) kind := by
  rcases runIn_bind_eq_ok_iff.1 h with ⟨g, t, hgraph, hlift⟩
  cases hgraph
  rcases runIn_lift_eq_ok_iff.1 hlift with ⟨hfound, rfl⟩
  simp [Grammar.carries, hfound]

theorem nameValue_of_value {kind : AttributeKind} {found : Option AttributeValue}
    (h : (context.value id kind).runIn s = (.ok found, s')) :
    s' = s ∧ context.grammar.nameValue (s.stage.graph.name id) kind = .ok found := by
  rcases runIn_bind_eq_ok_iff.1 h with ⟨g, t, hgraph, hlift⟩
  cases hgraph
  rcases runIn_lift_eq_ok_iff.1 hlift with ⟨hfound, rfl⟩
  exact ⟨rfl, hfound⟩

theorem eq_hides_of_asksToHide {asked : Bool}
    (h : (Rendering.asksToHide context id).runIn s = (.ok asked, s')) :
    s' = s ∧ asked = context.grammar.hides (s.stage.graph.name id) := by
  rcases runIn_bind_eq_ok_iff.1 h with ⟨noRender, t, hnoRender, hrest₁⟩
  rcases eq_carries_of_has hnoRender with ⟨rfl, rfl⟩
  unfold Grammar.hides
  split_ifs at hrest₁ with hcarries
  · cases hrest₁
    simp [hcarries]
  · rcases eq_carries_of_has hrest₁ with ⟨rfl, rfl⟩
    simp [hcarries]

theorem redrawn_of_hideIfAsked (h : (Rendering.hideIfAsked context id).runIn s = (.ok (), s')) :
    Redrawn id (MeshInstance.asHidden context.grammar (s.stage.graph.name id)) s s' := by
  rcases runIn_bind_eq_ok_iff.1 h with ⟨asked, t, hasked, hrest₁⟩
  rcases eq_hides_of_asksToHide hasked with ⟨rfl, rfl⟩
  unfold MeshInstance.asHidden
  split_ifs at hrest₁ ⊢
  · cases hrest₁
    exact ⟨_, rfl⟩
  · cases hrest₁
    exact Redrawn.of_journal id _ _

theorem redrawn_of_lightIfAsked (h : (Rendering.lightIfAsked context id).runIn s = (.ok (), s')) :
    Redrawn id (MeshInstance.asLit context.grammar (s.stage.graph.name id)) s s' := by
  rcases runIn_bind_eq_ok_iff.1 h with ⟨asked, t, hasked, hrest₁⟩
  rcases eq_carries_of_has hasked with ⟨rfl, rfl⟩
  unfold MeshInstance.asLit
  split_ifs at hrest₁ ⊢
  · cases hrest₁
    exact ⟨_, rfl⟩
  · cases hrest₁
    exact Redrawn.of_journal id _ _

theorem redrawn_of_setShadow (h : (Rendering.setShadow context id).runIn s = (.ok (), s')) :
    Redrawn id (MeshInstance.asShadowing context.grammar (s.stage.graph.name id)) s s' := by
  rcases runIn_bind_eq_ok_iff.1 h with ⟨asked, t, hasked, hrest₁⟩
  rcases eq_carries_of_has hasked with ⟨rfl, rfl⟩
  cases hrest₁
  exact ⟨_, rfl⟩

theorem redrawn_of_setLayer (h : (Rendering.setLayer context id).runIn s = (.ok (), s')) :
    Redrawn id (MeshInstance.asLayered context.grammar (s.stage.graph.name id)) s s' := by
  rcases runIn_bind_eq_ok_iff.1 h with ⟨found, t, hrun, hrest₁⟩
  rcases nameValue_of_value hrun with ⟨rfl, hfound⟩
  unfold MeshInstance.asLayered Grammar.layers?
  rw [hfound]
  rcases found with _ | ⟨n⟩ | x
  · cases hrest₁
    exact Redrawn.of_journal id _ _
  · cases hrest₁
    exact ⟨_, rfl⟩
  · cases hrest₁
    exact Redrawn.of_journal id _ _

/-! ## Rounds that make geometry -/

/-- The session after a node was baked: if it has a mesh, the mesh was copied and unwrapped. -/
inductive Baked (context : PassContext R) (id : NodeId) (s : Session R) : Session R → Prop
  | noMesh (hmesh : s.stage.graph.mesh? id = none) : Baked context id s s
  | unwrapped {n : Node R} {mesh unwrapped : LiveMesh} {base texel : Float} {made : Resources}
      (hnode : s.stage.graph.node? id = some n) (hmesh : s.stage.graph.mesh? id = some mesh)
      (hbase : context.settings.texel = .ok base)
      (htexel : texel = base * context.grammar.texelFactor (s.stage.graph.name id))
      (hunwrap : context.tools.unwrap (mesh.rebuild s.stage.resources).1 n.transform texel
        (mesh.rebuild s.stage.resources).2 = (.ok unwrapped, made)) (journal : Array LogRecord) :
      Baked context id s
        { s with
          stage :=
            { graph := s.stage.graph.modifyInstance id fun i => { i with mesh := some unwrapped }
              resources := made }
          unwrapCalls := s.unwrapCalls.push
            { handed := (mesh.rebuild s.stage.resources).1, resources := (mesh.rebuild s.stage.resources).2
              transform := n.transform, texel }
          journal := journal }

theorem of_unwrap {tools : Tools R} {mesh unwrapped : LiveMesh} {transform : Matrix R} {texel : Float}
    (h : (Rendering.unwrap tools mesh transform texel).runIn s = (.ok unwrapped, s')) :
    ∃ made, tools.unwrap mesh transform texel s.stage.resources = (.ok unwrapped, made) ∧
      s' =
        { s with
          stage := { s.stage with resources := made }
          unwrapCalls :=
            s.unwrapCalls.push { handed := mesh, resources := s.stage.resources, transform, texel } } := by
  rcases runIn_bind_eq_ok_iff.1 h with ⟨⟨⟩, s₁, hcall, hrest₁⟩
  cases hcall
  rcases runIn_bind_eq_ok_iff.1 hrest₁ with ⟨outcome, s₂, hmade, hlift⟩
  rw [runIn_onResources] at hmade
  cases hmade
  rcases runIn_lift_eq_ok_iff.1 hlift with ⟨houtcome, rfl⟩
  exact ⟨_, Prod.ext houtcome rfl, rfl⟩

theorem baked_of_bake (h : (Rendering.bake context id).runIn s = (.ok (), s')) :
    Baked context id s s' := by
  rcases runIn_bind_eq_ok_iff.1 h with ⟨found, s₁, hrun, hrest₁⟩
  rcases nameValue_of_value hrun with ⟨rfl, hfound⟩
  have hfactor : Rendering.texelFactor found =
      context.grammar.texelFactor (s₁.stage.graph.name id) := by
    unfold Grammar.texelFactor
    rw [hfound]
    rcases found with _ | ⟨n⟩ | x <;> rfl
  rcases runIn_bind_eq_ok_iff.1 hrest₁ with ⟨base, s₂, hlift, hrest₂⟩
  rcases runIn_lift_eq_ok_iff.1 hlift with ⟨hbase, rfl⟩
  rcases runIn_bind_eq_ok_iff.1 hrest₂ with ⟨g, s₃, hgraph, hrest₃⟩
  cases hgraph
  -- up to here the round has only read; without a node, or without a mesh, it ends here
  cases hnode : s₂.stage.graph.node? id with
  | none =>
      simp only [hnode] at hrest₃
      cases hrest₃
      exact .noMesh (by simp [SceneGraph.mesh?, SceneGraph.meshInstance?, hnode])
  | some n =>
      cases hmesh : s₂.stage.graph.mesh? id with
      | none =>
          simp only [hnode, hmesh] at hrest₃
          cases hrest₃
          exact .noMesh hmesh
      | some mesh =>
          simp only [hnode, hmesh] at hrest₃
          rcases runIn_bind_eq_ok_iff.1 hrest₃ with ⟨rebuilt, s₄, hrebuilt, hrest₄⟩
          rw [runIn_onResources] at hrebuilt
          rcases Prod.mk.inj hrebuilt with ⟨hmade, rfl⟩
          rcases runIn_bind_eq_ok_iff.1 hrest₄ with ⟨unwrapped, s₅, hunwrapped, hrest₅⟩
          rcases of_unwrap hunwrapped with ⟨made, hunwrap, rfl⟩
          rw [← Except.ok.inj hmade] at hunwrap hrest₅
          cases hrest₅
          exact .unwrapped hnode hmesh hbase (by rw [hfactor]) hunwrap _

/-- The lightmap pass goes twice over the nodes that show a mesh at the start. -/
theorem exists_between_of_applyLightmap {root : NodeId}
    (h : (Rendering.applyLightmap context root).runIn s = (.ok (), s')) :
    ∃ t, ((s.stage.graph.meshNodes root).forM (Rendering.bake context)).runIn s = (.ok (), t) ∧
      ((s.stage.graph.meshNodes root).forM (Rendering.lightIfAsked context)).runIn t = (.ok (), s') := by
  rcases runIn_bind_eq_ok_iff.1 h with ⟨g, s₁, hgraph, hrest⟩
  cases hgraph
  rcases runIn_bind_eq_ok_iff.1 hrest with ⟨⟨⟩, t, hbake, hlight⟩
  exact ⟨t, hbake, hlight⟩

/-! ## Rounds that make materials -/

/-- The session after a material was found for a name, and the material. -/
inductive TakesMaterial (name : Json) (s : Session R) : MaterialId → Session R → Prop
  | blank (hnone : s.shelf.materialFor name = .ok none) (journal : Array LogRecord) :
      TakesMaterial name s (s.stage.resources.addMaterial {}).1
        { s with
          stage := { s.stage with resources := (s.stage.resources.addMaterial {}).2 }
          journal := journal }
  | kept {entry : CatalogEntry} {id : MaterialId}
      (hentry : s.shelf.materialFor name = .ok (some entry))
      (hkept : s.shelf.materials.lookup entry.assetId = some id) : TakesMaterial name s id s
  | loaded {entry : CatalogEntry} {material : Material}
      (hentry : s.shelf.materialFor name = .ok (some entry))
      (hnew : s.shelf.materials.lookup entry.assetId = none)
      (hmaterial : material = { name := .str entry.shortName, resourcePath := some entry.path }) :
      TakesMaterial name s (s.stage.resources.addMaterial material).1
        { s with
          stage := { s.stage with resources := (s.stage.resources.addMaterial material).2 }
          shelf :=
            { s.shelf with
              materials :=
                (entry.assetId, (s.stage.resources.addMaterial material).1) :: s.shelf.materials } }

theorem takesMaterial_of_materialReplacement {name : Json} {material : MaterialId}
    (h : (materialReplacement name).runIn s = (.ok material, s')) :
    TakesMaterial name s material s' := by
  rcases runIn_bind_eq_ok_iff.1 h with ⟨s₀, s₁, hsession, hrest₁⟩
  cases hsession
  rcases runIn_bind_eq_ok_iff.1 hrest₁ with ⟨found, s₂, hlift, hrest₂⟩
  rcases runIn_lift_eq_ok_iff.1 hlift with ⟨hfound, rfl⟩
  cases found with
  | none =>
      cases hrest₂
      exact .blank hfound _
  | some entry =>
      rcases runIn_bind_eq_ok_iff.1 hrest₂ with ⟨s₃, s₄, hsession, hrest₃⟩
      cases hsession
      -- what is kept is handed out as it is, and what is not is loaded from its file
      cases hkept : s₂.shelf.materials.lookup entry.assetId with
      | some id =>
          simp only [hkept] at hrest₃
          cases hrest₃
          exact .kept hfound hkept
      | none =>
          simp only [hkept] at hrest₃
          rcases runIn_bind_eq_ok_iff.1 hrest₃ with ⟨id, s₅, hload, hrest₄⟩
          rcases runIn_bind_eq_ok_iff.1 hload with ⟨s₆, s₇, hsession, hload⟩
          cases hsession
          rcases runIn_bind_eq_ok_iff.1 hload with ⟨isFile, s₈, hlift, hload⟩
          rcases runIn_lift_eq_ok_iff.1 hlift with ⟨-, rfl⟩
          cases isFile with
          | false => cases hload
          | true =>
              cases hload
              cases hrest₄
              exact .loaded hfound hkept rfl

/-- The name that the replacement for the material of a surface is looked up under. -/
def surfaceMaterialName (r : Resources) (mesh : LiveMesh) (surface : Nat) : Json :=
  match (mesh.surfaces[surface]?).bind (·.material) with
  | some material => (r.material material).name
  | none => .str ""

/-- The session after the material of a surface was replaced. -/
inductive Rematerialed (id : NodeId) (surface : Nat) (s : Session R) : Session R → Prop
  | noMesh (hmesh : s.stage.graph.mesh? id = none) : Rematerialed id surface s s
  | replaced {mesh replaced : LiveMesh} {material : MaterialId} {t : Session R}
      (hmesh : s.stage.graph.mesh? id = some mesh)
      (hmaterial : TakesMaterial (surfaceMaterialName s.stage.resources mesh surface) s material t)
      (hreplaced : mesh.setSurfaceMaterial surface (some material) = .ok replaced)
      (journal : Array LogRecord) :
      Rematerialed id surface s
        { t with
          stage :=
            { t.stage with
              graph := t.stage.graph.modifyInstance id fun i => { i with mesh := some replaced } }
          journal := journal }

theorem rematerialed_of_replaceMaterial {surface : Nat}
    (h : (Rendering.replaceMaterial id surface).runIn s = (.ok (), s')) :
    Rematerialed id surface s s' := by
  rcases runIn_bind_eq_ok_iff.1 h with ⟨g, s₁, hgraph, hrest₁⟩
  cases hgraph
  cases hmesh : s.stage.graph.mesh? id with
  | none =>
      simp only [hmesh] at hrest₁
      cases hrest₁
      exact .noMesh hmesh
  | some mesh =>
      simp only [hmesh] at hrest₁
      rcases runIn_bind_eq_ok_iff.1 hrest₁ with ⟨r, s₂, hresources, hrest₂⟩
      cases hresources
      rcases runIn_bind_eq_ok_iff.1 hrest₂ with ⟨material, s₃, hmaterial, hrest₃⟩
      rcases runIn_bind_eq_ok_iff.1 hrest₃ with ⟨replaced, s₄, hlift, hrest₄⟩
      rcases runIn_lift_eq_ok_iff.1 hlift with ⟨hreplaced, rfl⟩
      cases hrest₄
      exact .replaced hmesh (takesMaterial_of_materialReplacement hmaterial) hreplaced _

/-- The materials of a node are replaced surface by surface: what every round keeps is kept. -/
theorem replaceMaterials_invariant {I : Session R → Prop} (hs : I s)
    (hround : ∀ surface t t', I t → Rematerialed id surface t t' → I t')
    (hrun : (Rendering.replaceMaterials id).runIn s = (.ok (), s')) : I s' := by
  rcases runIn_bind_eq_ok_iff.1 hrun with ⟨g, s₁, hgraph, hsurfaces⟩
  cases hgraph
  cases hmesh : s.stage.graph.mesh? id with
  | none =>
      simp only [hmesh] at hsurfaces
      cases hsurfaces
      exact hs
  | some mesh =>
      simp only [hmesh] at hsurfaces
      refine forM_invariant hs ?_ hsurfaces
      intro surface _ t t' ht hstep
      exact hround surface t t' ht (rematerialed_of_replaceMaterial hstep)

/-! ## Rounds that make bodies -/

/-- The session after a mesh instance was given a body. -/
inductive Embodied [Zero R] [One R] [Add R] [Mul R] (context : PassContext R) (root id : NodeId)
    (s : Session R) : Session R → Prop
  | added {attributes : NodeAttributes} {shape : Shape} {transform : Matrix R}
      (hattributes : context.grammar.nameAttributes (s.stage.graph.name id) = .ok attributes)
      (hshape : Collision.shapeOf s.stage.graph s.stage.resources attributes id = .ok shape)
      (htransform : s.stage.graph.relativeTransform id root = .ok transform)
      (journal : Array LogRecord) :
      Embodied context root id s
        { s with
          stage :=
            { s.stage with
              graph := Collision.addBody context.scene root (s.stage.graph.name id) transform
                (Collision.bits attributes .collisionLayer)
                (Collision.bits attributes .collisionMask) shape s.stage.graph }
          journal := journal }

theorem embodied_of_makeBody [Zero R] [One R] [Add R] [Mul R] {root : NodeId}
    (h : (Collision.makeBody context root id).runIn s = (.ok (), s')) :
    Embodied context root id s s' := by
  rcases runIn_bind_eq_ok_iff.1 h with ⟨g, s₁, hgraph, hrest₁⟩
  cases hgraph
  rcases runIn_bind_eq_ok_iff.1 hrest₁ with ⟨attributes, s₂, hlift, hrest₂⟩
  rcases runIn_lift_eq_ok_iff.1 hlift with ⟨hattributes, rfl⟩
  rcases runIn_bind_eq_ok_iff.1 hrest₂ with ⟨r, s₃, hresources, hrest₃⟩
  cases hresources
  rcases runIn_bind_eq_ok_iff.1 hrest₃ with ⟨shape, s₄, hlift, hrest₄⟩
  rcases runIn_lift_eq_ok_iff.1 hlift with ⟨hshape, rfl⟩
  rcases runIn_bind_eq_ok_iff.1 hrest₄ with ⟨transform, s₅, hlift, hrest₅⟩
  rcases runIn_lift_eq_ok_iff.1 hlift with ⟨htransform, rfl⟩
  rcases runIn_bind_eq_ok_iff.1 hrest₅ with ⟨⟨⟩, s₆, hbody, hdebug⟩
  rcases eq_of_debug hdebug with ⟨journal, rfl⟩
  rw [eq_of_onGraph hbody]
  exact .added hattributes hshape htransform journal

/-- The mesh instances of a subtree whose names do not ask for no body. -/
def collidable (context : PassContext R) (root : NodeId) (g : SceneGraph R) : List NodeId :=
  (g.instances root).filter fun id => !context.grammar.carries (g.name id) .noCollision

/-- Bodies are made for the collidable mesh instances, as they were at the start. -/
theorem makeBody_of_apply [Zero R] [One R] [Add R] [Mul R] {root : NodeId}
    (h : (Collision.apply context root).runIn s = (.ok (), s')) :
    ((collidable context root s.stage.graph).forM (Collision.makeBody context root)).runIn s =
      (.ok (), s') := by
  rcases runIn_bind_eq_ok_iff.1 h with ⟨g, s₁, hgraph, hrest⟩
  rcases eq_of_graph hgraph with ⟨rfl, rfl⟩
  rcases runIn_bind_eq_ok_iff.1 hrest with ⟨ids, s₂, hfilter, hloop⟩
  obtain ⟨rfl, rfl⟩ := filterM_results
    (p := fun id => !context.grammar.carries (s₁.stage.graph.name id) .noCollision) (by
      intro id _ found t htest
      rcases runIn_bind_eq_ok_iff.1 htest with ⟨carried, t', hhas, hpure⟩
      rcases eq_carries_of_has hhas with ⟨rfl, rfl⟩
      rcases eq_of_pure hpure with ⟨rfl, rfl⟩
      exact ⟨rfl, rfl⟩) hfilter
  exact hloop

end LevelPrep
