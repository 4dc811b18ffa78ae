import LevelPrep.Proofs.Pass.Rounds
import LevelPrep.Proofs.Settling

/-!
# Rounds of passes that may fail

`Rounds` says what a round leaves behind when it succeeds; here the runs that fail are added, so that one can
tell beforehand which of the two a round will do.  Most rounds ask something of the name of their node and
then redraw the node (`Questioned`); they fail exactly if the question is refused, and then nothing has changed.
A round that makes materials or bodies has changed nothing either when it fails, and one that bakes nothing
but resources and requests.
-/

namespace LevelPrep

variable {R : Type}

/-- Whether a name asks for its mesh not to be drawn, in either of two ways. -/
def Grammar.asksToHide (g : Grammar) (name : Json) : Except Fault Bool := do
  if ← g.nameHas name .noRender then return true else g.nameHas name .collisionOnly

/-- The session with one node drawn in another way. -/
def Session.redraw (s : Session R) (id : NodeId)
    (change : MeshInstance GeometryId MaterialId → MeshInstance GeometryId MaterialId)
    (journal : Array LogRecord) : Session R :=
  { s with
    stage := { s.stage with graph := s.stage.graph.modifyInstance id change }
    journal := journal }

/-- A session in which a node is drawn as before has nothing changed but its journal. -/
theorem Session.redraw_id (s : Session R) (id : NodeId) (journal : Array LogRecord) :
    s.redraw id (fun i => i) journal = { s with journal := journal } := by
  unfold redraw
  rw [SceneGraph.modifyInstance_id]

open Work

variable {context : PassContext R} {id : NodeId} {s s' : Session R}

@[simp] theorem runIn_has (context : PassContext R) (id : NodeId) (kind : AttributeKind) (s : Session R) :
    (context.has id kind).runIn s = (context.grammar.nameHas (s.stage.graph.name id) kind, s) := by
  rw [PassContext.has, runIn_bind, runIn_graph]
  exact runIn_lift _ _

@[simp] theorem runIn_value (context : PassContext R) (id : NodeId) (kind : AttributeKind) (s : Session R) :
    (context.value id kind).runIn s = (context.grammar.nameValue (s.stage.graph.name id) kind, s) := by
  rw [PassContext.value, runIn_bind, runIn_graph]
  exact runIn_lift _ _

@[simp] theorem runIn_asksToHide (context : PassContext R) (id : NodeId) (s : Session R) :
    (Rendering.asksToHide context id).runIn s =
      (context.grammar.asksToHide (s.stage.graph.name id), s) := by
  rw [Rendering.asksToHide, runIn_bind, runIn_has]
  unfold Grammar.asksToHide
  cases h : context.grammar.nameHas (s.stage.graph.name id) .noRender with
  | error fault => rfl
  | ok found =>
      cases found with
      | true => rfl
      | false => exact runIn_has context id .collisionOnly s

/-- Whether a mesh instance is left without a body depends on nothing but its name. -/
theorem runIn_noCollision (context : PassContext R) (s : Session R) (x : NodeId) :
    (do return !(← context.has x .noCollision) : Work R Bool).runIn s =
      ((context.grammar.nameHas (s.stage.graph.name x) .noCollision).map not, s) := by
  rw [runIn_bind, runIn_has]
  cases context.grammar.nameHas (s.stage.graph.name x) .noCollision <;> rfl

/-! ## Rounds that redraw a node -/

/-- A round that asks a question and redraws a node if it is answered.  Nothing has changed if it is not. -/
def Questioned {β : Type} (question : Except Fault β) (id : NodeId)
    (change : MeshInstance GeometryId MaterialId → MeshInstance GeometryId MaterialId)
    (round : Work R Unit) (s : Session R) : Prop :=
  ∃ journal, round.runIn s = answered question (s.redraw id change journal) s

theorem runIn_setShadow (context : PassContext R) (id : NodeId) (s : Session R) :
    (Rendering.setShadow context id).runIn s =
      answered (context.grammar.nameHas (s.stage.graph.name id) .noShadow)
        (s.redraw id (MeshInstance.asShadowing context.grammar (s.stage.graph.name id)) s.journal) s := by
  rw [Rendering.setShadow, runIn_bind, runIn_has]
  cases h : context.grammar.nameHas (s.stage.graph.name id) .noShadow with
  | error fault => rfl
  | ok found =>
      unfold MeshInstance.asShadowing Grammar.carries
      simp only [h]
      rfl

theorem runIn_setLayer (context : PassContext R) (id : NodeId) (s : Session R) :
    (Rendering.setLayer context id).runIn s =
      answered (context.grammar.nameValue (s.stage.graph.name id) .renderLayer)
        (s.redraw id (MeshInstance.asLayered context.grammar (s.stage.graph.name id)) s.journal) s := by
  rw [Rendering.setLayer, runIn_bind, runIn_value]
  cases h : context.grammar.nameValue (s.stage.graph.name id) .renderLayer with
  | error fault => rfl
  | ok found =>
      unfold MeshInstance.asLayered Grammar.layers?
      simp only [h]
      -- a name that asks for no layers leaves its node as it is
      rcases found with _ | ⟨n⟩ | x
      · exact congrArg _ (s.redraw_id id s.journal).symm
      · rfl
      · exact congrArg _ (s.redraw_id id s.journal).symm

theorem questioned_setShadow (context : PassContext R) (id : NodeId) (s : Session R) :
    Questioned (context.grammar.nameHas (s.stage.graph.name id) .noShadow) id
      (MeshInstance.asShadowing context.grammar (s.stage.graph.name id))
      (Rendering.setShadow context id) s :=
  ⟨_, runIn_setShadow context id s⟩

theorem questioned_setLayer (context : PassContext R) (id : NodeId) (s : Session R) :
    Questioned (context.grammar.nameValue (s.stage.graph.name id) .renderLayer) id
      (MeshInstance.asLayered context.grammar (s.stage.graph.name id))
      (Rendering.setLayer context id) s :=
  ⟨_, runIn_setLayer context id s⟩

theorem questioned_lightIfAsked (context : PassContext R) (id : NodeId) (s : Session R) :
    Questioned (context.grammar.nameHas (s.stage.graph.name id) .noBake) id
      (MeshInstance.asLit context.grammar (s.stage.graph.name id))
      (Rendering.lightIfAsked context id) s := by
  unfold Questioned
  rw [Rendering.lightIfAsked, runIn_bind, runIn_has]
  cases h : context.grammar.nameHas (s.stage.graph.name id) .noBake with
  | error fault => exact ⟨s.journal, rfl⟩
  | ok found =>
      refine ⟨s.journal, ?_⟩
      unfold MeshInstance.asLit Grammar.carries
      simp only [h]
      cases found with
      | true => rfl
      | false => exact congrArg _ (s.redraw_id id s.journal).symm

theorem questioned_hideIfAsked (context : PassContext R) (id : NodeId) (s : Session R) :
    Questioned (context.grammar.asksToHide (s.stage.graph.name id)) id
      (MeshInstance.asHidden context.grammar (s.stage.graph.name id))
      (Rendering.hideIfAsked context id) s := by
  unfold Questioned
  cases h : context.grammar.asksToHide (s.stage.graph.name id) with
  | error fault =>
      refine ⟨s.journal, ?_⟩
      rw [Rendering.hideIfAsked, runIn_bind, runIn_asksToHide, h]
      rfl
  | ok asked =>
      rcases hrun : (Rendering.hideIfAsked context id).runIn s with ⟨fault | ⟨⟩, t⟩
      · rw [Rendering.hideIfAsked, runIn_bind, runIn_asksToHide, h] at hrun
        cases asked <;> cases hrun
      · rcases redrawn_of_hideIfAsked hrun with ⟨journal, rfl⟩
        exact ⟨journal, rfl⟩

namespace Questioned

variable {β : Type} {question : Except Fault β} {round : Work R Unit}
  {change : MeshInstance GeometryId MaterialId → MeshInstance GeometryId MaterialId}

/-- A round that is refused has changed nothing. -/
theorem eq_of_error (h : Questioned question id change round s) {fault : Fault}
    (hrun : round.runIn s = (.error fault, s')) : s' = s := by
  rcases h with ⟨journal, hround⟩
  rw [hround] at hrun
  cases question with
  | ok b => cases hrun
  | error fault' =>
      cases hrun
      rfl

/-- A round succeeds if its question is answered. -/
theorem settles (h : Questioned question id change round s) :
    Settles round s (∃ b, question = .ok b) (Redrawn id change s) := by
  rcases h with ⟨journal, hround⟩
  exact .of_answered hround ⟨journal, rfl⟩

end Questioned

/-! ## Rounds that make geometry -/

/-- A mesh can be baked if the questions about its texels are answered and the unwrapper makes something of a
copy of it. -/
structure Bakeable (context : PassContext R) (name : Json) (transform : Matrix R) (mesh : LiveMesh)
    (r : Resources) : Prop where
  factor : ∃ found, context.grammar.nameValue name .texelMultiplier = .ok found
  unwrapped : ∃ base unwrapped, context.settings.texel = .ok base ∧
    (context.tools.unwrap (mesh.rebuild r).1 transform (base * context.grammar.texelFactor name)
      (mesh.rebuild r).2).1 = .ok unwrapped

theorem texelFactor_of_nameValue {g : Grammar} {name : Json} {found : Option AttributeValue}
    (h : g.nameValue name .texelMultiplier = .ok found) :
    Rendering.texelFactor found = g.texelFactor name := by
  unfold Grammar.texelFactor
  rw [h]
  rcases found with _ | ⟨n⟩ | x <;> rfl

theorem runIn_unwrap (tools : Tools R) (mesh : LiveMesh) (transform : Matrix R) (texel : Float) (s : Session R) :
    (Rendering.unwrap tools mesh transform texel).runIn s =
      ((tools.unwrap mesh transform texel s.stage.resources).1,
        { s with
          stage := { s.stage with
            resources := (tools.unwrap mesh transform texel s.stage.resources).2 }
          unwrapCalls :=
            s.unwrapCalls.push { handed := mesh, resources := s.stage.resources, transform, texel } }) := by
  rw [Rendering.unwrap, runIn_bind, runIn_modify]
  show (onResources (tools.unwrap mesh transform texel) >>= lift).runIn _ = _
  rw [runIn_bind, runIn_onResources]
  exact runIn_lift _ _

/-- A node that shows a mesh is baked if the mesh can be. -/
theorem settles_bake {n : Node R} {mesh : LiveMesh} (hn : s.stage.graph.node? id = some n)
    (hmesh : s.stage.graph.mesh? id = some mesh) :
    Settles (Rendering.bake context id) s (Bakeable context n.name n.transform mesh s.stage.resources)
      (Baked context id s) where
  leaves s' hrun := by
    have hname : s.stage.graph.name id = n.name := by simp [SceneGraph.name, hn]
    refine ⟨⟨?_, ?_⟩, baked_of_bake hrun⟩
    · rcases runIn_bind_eq_ok_iff.1 hrun with ⟨found, t, hfound, -⟩
      exact ⟨found, hname ▸ (nameValue_of_value hfound).2⟩
    · cases baked_of_bake hrun with
      | noMesh hnone => cases hnone.symm.trans hmesh
      | unwrapped hnode hmesh' hbase htexel hunwrap journal =>
          cases hnode.symm.trans hn
          cases hmesh'.symm.trans hmesh
          subst htexel
          exact ⟨_, _, hbase, by rw [← hname, hunwrap]⟩
  runs := by
    rintro ⟨⟨found, hfound⟩, base, unwrapped, hbase, hunwrap⟩
    have hname : s.stage.graph.name id = n.name := by simp [SceneGraph.name, hn]
    have hfactor := texelFactor_of_nameValue hfound
    rw [Rendering.bake, runIn_bind, runIn_value, hname, hfound]
    simp only [hbase, hn, hmesh, runIn_bind, runIn_lift, runIn_graph, runIn_onResources, runIn_unwrap,
      hfactor, hunwrap, runIn_onGraph, runIn_debug]
    exact ⟨_, rfl⟩

/-- A round that could not bake a mesh has left the nodes, the files and the shelf as they were, and has
done no more to the resources than to copy a mesh and let the unwrapper have it. -/
theorem of_bake_error {fault : Fault} (hrun : (Rendering.bake context id).runIn s = (.error fault, s')) :
    s'.stage.graph = s.stage.graph ∧ s'.disk = s.disk ∧ s'.shelf = s.shelf ∧
      (s'.stage.resources = s.stage.resources ∨ ∃ (mesh : LiveMesh) (transform : Matrix R) (texel : Float),
        s'.stage.resources = (context.tools.unwrap (mesh.rebuild s.stage.resources).1 transform texel
          (mesh.rebuild s.stage.resources).2).2) := by
  rw [Rendering.bake, runIn_bind, runIn_value] at hrun
  cases hfound : context.grammar.nameValue (s.stage.graph.name id) .texelMultiplier with
  | error fault' =>
      rw [hfound] at hrun
      cases hrun
      exact ⟨rfl, rfl, rfl, Or.inl rfl⟩
  | ok found =>
      simp only [hfound, runIn_bind, runIn_lift, runIn_graph] at hrun
      cases hbase : context.settings.texel with
      | error fault' =>
          simp only [hbase] at hrun
          cases hrun
          exact ⟨rfl, rfl, rfl, Or.inl rfl⟩
      | ok base =>
          simp only [hbase] at hrun
          cases hn : s.stage.graph.node? id with
          | none =>
              simp only [hn] at hrun
              cases hrun
          | some n =>
              cases hmesh : s.stage.graph.mesh? id with
              | none =>
                  simp only [hn, hmesh] at hrun
                  cases hrun
              | some mesh =>
                  simp only [hn, hmesh, runIn_bind, runIn_onResources, runIn_unwrap] at hrun
                  -- all failures before this one have changed nothing
                  cases hunwrap : (context.tools.unwrap (mesh.rebuild s.stage.resources).1 n.transform
                      (base * Rendering.texelFactor found) (mesh.rebuild s.stage.resources).2).1 with
                  | error fault' =>
                      simp only [hunwrap] at hrun
                      cases hrun
                      exact ⟨rfl, rfl, rfl, Or.inr ⟨mesh, n.transform, _, rfl⟩⟩
                  | ok unwrapped =>
                      simp only [hunwrap, runIn_onGraph, runIn_debug] at hrun
                      cases hrun

/-! ## Rounds that make materials -/

/-- There is a material to take the place of one of the given name: if the name has a match, it was loaded
before or can be loaded now. -/
def Suppliable (s : Session R) (name : Json) : Prop :=
  ∃ found, s.shelf.materialFor name = .ok found ∧ ∀ entry, found = some entry →
    s.shelf.materials.lookup entry.assetId = none → s.disk.isFile entry.path = .ok true

/-- A material is found if there is one to find, and nothing has changed if there is none. -/
theorem cases_of_materialReplacement (name : Json) (s : Session R) :
    (Suppliable s name ∧ ∃ material s', (materialReplacement name).runIn s = (.ok material, s')) ∨
      (¬ Suppliable s name ∧ ∃ fault, (materialReplacement name).runIn s = (.error fault, s)) := by
  rw [materialReplacement, runIn_bind, runIn_session]
  simp only [runIn_bind, runIn_lift]
  cases hfound : s.shelf.materialFor name with
  | error fault =>
      refine Or.inr ⟨?_, fault, rfl⟩
      rintro ⟨found, hok, -⟩
      cases hfound.symm.trans hok
  | ok found =>
      cases found with
      | none =>
          refine Or.inl ⟨⟨none, hfound, fun entry h => by cases h⟩, ?_⟩
          simp only [runIn_bind, runIn_debug, runIn_onResources]
          exact ⟨_, _, rfl⟩
      | some entry =>
          simp only [runIn_bind, runIn_session]
          -- a material that is kept is handed out again without a look at its file
          cases hkept : s.shelf.materials.lookup entry.assetId with
          | some id =>
              refine Or.inl ⟨⟨some entry, hfound, ?_⟩, id, s, rfl⟩
              rintro _ ⟨⟩ hnone
              cases hkept.symm.trans hnone
          | none =>
              simp only [runIn_bind, loadMaterial, runIn_session, runIn_lift]
              cases hfile : s.disk.isFile entry.path with
              | error fault =>
                  refine Or.inr ⟨?_, fault, rfl⟩
                  rintro ⟨found, hok, hload⟩
                  cases hfound.symm.trans hok
                  cases hfile.symm.trans (hload entry rfl hkept)
              | ok isFile =>
                  cases isFile with
                  | false =>
                      refine Or.inr ⟨?_, _, rfl⟩
                      rintro ⟨found, hok, hload⟩
                      cases hfound.symm.trans hok
                      cases hfile.symm.trans (hload entry rfl hkept)
                  | true =>
                      refine Or.inl ⟨⟨some entry, hfound, ?_⟩, _, _, rfl⟩
                      rintro _ ⟨⟩ -
                      exact hfile

/-- Replacing the material of a surface, where there is a mesh. -/
theorem runIn_replaceMaterial {mesh : LiveMesh} (surface : Nat) (hmesh : s.stage.graph.mesh? id = some mesh) :
    ∃ message : MaterialId → Resources → String, (Rendering.replaceMaterial id surface).runIn s =
      (do
        let replacement ← materialReplacement (surfaceMaterialName s.stage.resources mesh surface)
        let replaced ← lift (mesh.setSurfaceMaterial surface (some replacement))
        onGraph (·.modifyInstance id fun i => { i with mesh := some replaced })
        debug "pipeline.material" (message replacement (← resources)) : Work R Unit).runIn s := by
  refine ⟨fun replacement r => "Surface " ++ toString surface ++ " of '" ++
    (s.stage.graph.name id).display ++ "': '" ++
    (surfaceMaterialName s.stage.resources mesh surface).display ++ "' -> '" ++
    (r.material replacement).name.display ++ "'.", ?_⟩
  rw [Rendering.replaceMaterial, runIn_bind, runIn_graph]
  simp only [hmesh]
  rw [runIn_bind, runIn_resources]
  rfl

/-- The material of a surface is replaced if there is a material to take its place. -/
theorem settles_replaceMaterial {mesh : LiveMesh} {surface : Nat}
    (hmesh : s.stage.graph.mesh? id = some mesh) (hsurface : surface < mesh.surfaces.length) :
    Settles (Rendering.replaceMaterial id surface) s
      (Suppliable s (surfaceMaterialName s.stage.resources mesh surface)) (Rematerialed id surface s) where
  leaves s' hrun := by
    refine ⟨?_, rematerialed_of_replaceMaterial hrun⟩
    rcases cases_of_materialReplacement (surfaceMaterialName s.stage.resources mesh surface) s with
      ⟨hable, -⟩ | ⟨-, fault, hfault⟩
    · exact hable
    · rcases runIn_replaceMaterial surface hmesh with ⟨message, hround⟩
      rw [hround, runIn_bind, hfault] at hrun
      cases hrun
  runs hable := by
    rcases cases_of_materialReplacement (surfaceMaterialName s.stage.resources mesh surface) s with
      ⟨-, material, t, ht⟩ | ⟨hnot, -⟩
    · -- the loop goes through the surfaces there are, so the place of the surface is there
      have hplace : place? mesh.surfaces.length surface = some surface := by simp [place?, hsurface]
      rcases runIn_replaceMaterial surface hmesh with ⟨message, hround⟩
      rw [hround, runIn_bind, ht]
      simp only [LiveMesh.setSurfaceMaterial, hplace, runIn_bind, runIn_lift, runIn_onGraph, runIn_resources,
        runIn_debug]
      exact ⟨_, rfl⟩
    · exact absurd hable hnot

/-- A round that could not replace a material has done nothing at all, or no more than to find one. -/
theorem of_replaceMaterial_error {surface : Nat} {fault : Fault}
    (hrun : (Rendering.replaceMaterial id surface).runIn s = (.error fault, s')) :
    s' = s ∨ ∃ name material, Suppliable s name ∧ TakesMaterial name s material s' := by
  cases hmesh : s.stage.graph.mesh? id with
  | none =>
      rw [Rendering.replaceMaterial, runIn_bind, runIn_graph] at hrun
      simp only [hmesh] at hrun
      cases hrun
  | some mesh =>
      rcases runIn_replaceMaterial surface hmesh with ⟨message, hround⟩
      rw [hround, runIn_bind] at hrun
      rcases cases_of_materialReplacement (surfaceMaterialName s.stage.resources mesh surface) s with
        ⟨hable, material, t, ht⟩ | ⟨-, fault', hfault⟩
      · rw [ht] at hrun
        simp only [runIn_bind, runIn_lift] at hrun
        -- the material was found, so it was the surface that was not there
        cases hset : mesh.setSurfaceMaterial surface (some material) with
        | error fault' =>
            simp only [hset] at hrun
            cases hrun
            exact Or.inr ⟨_, material, hable, takesMaterial_of_materialReplacement ht⟩
        | ok replaced =>
            simp only [hset, runIn_onGraph, runIn_resources, runIn_debug] at hrun
            cases hrun
      · rw [hfault] at hrun
        cases hrun
        exact Or.inl rfl

/-! ## Rounds that make bodies -/

section

variable [Zero R] [One R] [Add R] [Mul R] {root : NodeId}

/-- A mesh instance can be given a body if its name can be read, its mesh has a shape and it stands somewhere
below the root. -/
structure Embodiable (context : PassContext R) (root id : NodeId) (s : Session R) : Prop where
  shape : ∃ attributes shape, context.grammar.nameAttributes (s.stage.graph.name id) = .ok attributes ∧
    Collision.shapeOf s.stage.graph s.stage.resources attributes id = .ok shape
  transform : ∃ transform, s.stage.graph.relativeTransform id root = .ok transform

/-- A mesh instance is given a body if it can be, and nothing has changed if it cannot. -/
theorem cases_of_makeBody (context : PassContext R) (root id : NodeId) (s : Session R) :
    (Embodiable context root id s ∧ ∃ s', (Collision.makeBody context root id).runIn s = (.ok (), s')) ∨
      (¬ Embodiable context root id s ∧
        ∃ fault, (Collision.makeBody context root id).runIn s = (.error fault, s)) := by
  rw [Collision.makeBody, runIn_bind, runIn_graph]
  simp only [runIn_bind, runIn_lift, runIn_resources]
  -- all that can fail is read before anything is changed
  cases hattributes : context.grammar.nameAttributes (s.stage.graph.name id) with
  | error fault =>
      refine Or.inr ⟨?_, fault, rfl⟩
      rintro ⟨⟨attributes, shape, hok, -⟩, -⟩
      cases hattributes.symm.trans hok
  | ok attributes =>
      cases hshape : Collision.shapeOf s.stage.graph s.stage.resources attributes id with
      | error fault =>
          refine Or.inr ⟨?_, fault, by simp only [hshape]⟩
          rintro ⟨⟨attributes', shape, hok, hok'⟩, -⟩
          cases hattributes.symm.trans hok
          cases hshape.symm.trans hok'
      | ok shape =>
          cases htransform : s.stage.graph.relativeTransform id root with
          | error fault =>
              refine Or.inr ⟨?_, fault, by simp only [hshape]⟩
              rintro ⟨-, transform, hok⟩
              cases htransform.symm.trans hok
          | ok transform =>
              refine Or.inl ⟨⟨⟨attributes, shape, hattributes, hshape⟩, transform, htransform⟩, ?_⟩
              simp only [hshape, runIn_onGraph, runIn_debug]
              exact ⟨_, rfl⟩

theorem settles_makeBody (context : PassContext R) (root id : NodeId) (s : Session R) :
    Settles (Collision.makeBody context root id) s (Embodiable context root id s)
      (Embodied context root id s) where
  leaves s' hrun := by
    rcases cases_of_makeBody context root id s with ⟨hable, -⟩ | ⟨-, fault, hfault⟩
    · exact ⟨hable, embodied_of_makeBody hrun⟩
    · cases hfault.symm.trans hrun
  runs hable := by
    rcases cases_of_makeBody context root id s with ⟨-, hrun⟩ | ⟨hnot, -⟩
    · exact hrun
    · exact absurd hable hnot

end

end LevelPrep
