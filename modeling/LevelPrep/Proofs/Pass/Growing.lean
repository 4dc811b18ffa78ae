import LevelPrep.Level.Conversion
import LevelPrep.Proofs.Mesh.Unwrapping
import LevelPrep.Proofs.Pass.Outcomes

/-!
# Resources during passes

Passes add geometry and materials and take none back, whether they succeed or fail (`grows_apply`), as long as the
unwrapper does so (`Tools.OnlyAdds`).  Both unwrappers of this library do.
-/

namespace LevelPrep

variable {R : Type}

/-- An unwrapper that leaves all resources as they are and at most adds some, also when it fails. -/
def Tools.OnlyAdds (tools : Tools R) : Prop :=
  ∀ mesh transform texel (r : Resources), r.Extends (tools.unwrap mesh transform texel r).2

namespace Lightmap

theorem extends_applyAtlas (mesh : LiveMesh) (atlas : Atlas) (r : Resources) :
    r.Extends (applyAtlas mesh atlas r).2 := by
  refine (Resources.mapM_spec (P := fun _ _ _ => True) (fun _ _ _ _ _ _ => trivial) ?_).1
  intro placed _ t _
  exact ⟨.addGeometry t _, trivial⟩

/-- Packing an atlas adds the geometry of the charts. -/
theorem extends_unwrap (pack : Packer) (options : PackOptions) (mesh : LiveMesh) (transform : Matrix Float)
    (texel : Json) (r : Resources) : r.Extends (unwrap pack options mesh transform texel r).2 := by
  unfold unwrap
  cases checkTexel texel with
  | error fault => exact .refl r
  | ok _ =>
      by_cases hempty : mesh.surfaces.isEmpty = true
      · simp only [hempty, if_true]
        exact .refl r
      · simp only [hempty]
        cases texel.asNumber with
        | error fault => exact .refl r
        | ok size => exact extends_applyAtlas mesh _ r

end Lightmap

theorem LiveMesh.extends_rebuild (mesh : LiveMesh) (r : Resources) : r.Extends (mesh.rebuild r).2 := by
  refine (Resources.mapM_spec (P := fun _ _ _ => True) (fun _ _ _ _ _ _ => trivial) ?_).1
  intro surface _ t _
  exact ⟨.addGeometry t _, trivial⟩

/-! ## Steps that only add resources -/

namespace Work

variable {α β : Type}

/-- A step that leaves all resources as they are and at most adds some, whether it succeeds or fails. -/
def Grows (step : Work R α) : Prop :=
  Always (fun s s' => s.stage.resources.Extends s'.stage.resources) step

namespace Grows

variable {step : Work R α} {next : α → Work R β}

theorem bind (h : Grows step) (hnext : ∀ a, Grows (next a)) : Grows (step >>= next) :=
  Always.bind (fun hst htu => hst.trans htu) h hnext

theorem forM {f : α → Work R Unit} (items : List α) (hround : ∀ a, Grows (f a)) : Grows (items.forM f) :=
  Always.forM (fun s => .refl s.stage.resources) (fun hst htu => hst.trans htu) items hround

/-- A step that leaves the resources as they are adds none. -/
theorem of_keeps (h : Keeps (·.stage.resources) step) : Grows step := by
  intro s
  have hsame : (step.runIn s).2.stage.resources = s.stage.resources := h s
  rw [hsame]
  exact .refl s.stage.resources

theorem lift (outcome : Except Fault α) : Grows (Work.lift (R := R) outcome) :=
  of_keeps (.lift outcome)

theorem graph : Grows (Work.graph : Work R (SceneGraph R)) :=
  of_keeps fun _ => rfl

theorem session : Grows (Work.session : Work R (Session R)) :=
  of_keeps fun _ => rfl

theorem onGraph (f : SceneGraph R → SceneGraph R) : Grows (Work.onGraph f) :=
  of_keeps fun _ => rfl

theorem debug (logger message : String) : Grows (Work.debug logger message : Work R Unit) :=
  of_keeps fun _ => rfl

theorem onResources {f : StateM Resources α} (h : ∀ r : Resources, r.Extends (f r).2) :
    Grows (Work.onResources f : Work R α) :=
  fun s => h s.stage.resources

end Grows

end Work

open Work

/-! ## Rounds -/

theorem grows_questioned {β : Type} {question : Session R → Except Fault β} {round : Work R Unit} {id : NodeId}
    {change : Session R → MeshInstance GeometryId MaterialId → MeshInstance GeometryId MaterialId}
    (h : ∀ s, Questioned (question s) id (change s) round s) : Grows round := by
  refine .of_keeps fun s => ?_
  rcases h s with ⟨journal, hrun⟩
  rw [hrun]
  cases question s <;> rfl

theorem grows_materialReplacement (name : Json) : Grows (materialReplacement name : Work R MaterialId) := by
  refine .bind .session fun s => .bind (.lift _) fun found => ?_
  cases found with
  | none => exact .bind (.debug _ _) fun _ => .onResources fun r => .addMaterial r _
  | some entry =>
      refine .bind .session fun s => ?_
      cases s.shelf.materials.lookup entry.assetId with
      | some id => exact .of_keeps fun _ => rfl
      | none =>
          have hload : Grows (loadMaterial entry : Work R MaterialId) := by
            refine .bind .session fun s => .bind (.lift _) fun isFile => ?_
            cases isFile with
            | false => exact .of_keeps fun _ => rfl
            | true => exact .onResources fun r => .addMaterial r _
          exact .bind hload fun id => .bind (.of_keeps fun _ => rfl) fun _ => .of_keeps fun _ => rfl

theorem grows_replaceMaterial (id : NodeId) (surface : Nat) :
    Grows (Rendering.replaceMaterial id surface : Work R Unit) := by
  refine .bind .graph fun g => ?_
  cases g.mesh? id with
  | none => exact .of_keeps fun _ => rfl
  | some mesh =>
      refine .bind (.of_keeps fun _ => rfl) fun r => .bind (grows_materialReplacement _) fun replacement => ?_
      exact .bind (.lift _) fun replaced => .bind (.onGraph _) fun _ => .bind (.of_keeps fun _ => rfl) fun _ =>
        .debug _ _

theorem grows_replaceMaterials (id : NodeId) : Grows (Rendering.replaceMaterials id : Work R Unit) := by
  refine .bind .graph fun g => ?_
  cases g.mesh? id with
  | none => exact .of_keeps fun _ => rfl
  | some mesh => exact .forM _ (grows_replaceMaterial id)

section

variable {context : PassContext R}

/-- Baking copies a mesh and lets the unwrapper have the copy. -/
theorem grows_bake (hadds : context.tools.OnlyAdds) (id : NodeId) : Grows (Rendering.bake context id) := by
  have hunwrap : ∀ mesh transform texel, Grows (Rendering.unwrap context.tools mesh transform texel) :=
    fun mesh transform texel => .bind (.of_keeps fun _ => rfl) fun _ =>
      .bind (.onResources (hadds mesh transform texel)) fun _ => .lift _
  refine .bind (.bind .graph fun _ => .lift _) fun found => .bind (.lift _) fun base => .bind .graph fun g => ?_
  cases g.node? id with
  | none => exact .of_keeps fun _ => rfl
  | some n =>
      cases g.mesh? id with
      | none => exact .of_keeps fun _ => rfl
      | some mesh =>
          refine .bind (.onResources mesh.extends_rebuild) fun rebuilt => .bind (hunwrap _ _ _) fun unwrapped => ?_
          exact .bind (.onGraph _) fun _ => .debug _ _

variable [Zero R] [One R] [Add R] [Mul R]

theorem grows_makeBody (root id : NodeId) : Grows (Collision.makeBody context root id) := by
  refine .bind .graph fun g => .bind (.lift _) fun attributes => .bind (.of_keeps fun _ => rfl) fun r => ?_
  exact .bind (.lift _) fun shape => .bind (.lift _) fun transform => .bind (.onGraph _) fun _ => .debug _ _

/-! ## Passes -/

/-- A pass takes no resources back. -/
theorem grows_apply (hadds : context.tools.OnlyAdds) (kind : PassKind) (root : NodeId) :
    Grows (kind.apply context root) := by
  cases kind with
  | collision =>
      refine .bind .graph fun g => .bind (.of_keeps fun s => ?_) fun kept => .forM kept (grows_makeBody root)
      rw [runIn_filterM _ fun x _ => runIn_noCollision context s x]
  | renderRemoval =>
      exact .bind .graph fun g => .forM _ fun id => grows_questioned (questioned_hideIfAsked context id)
  | lightmap =>
      refine .bind .graph fun g => .bind (.forM _ (grows_bake hadds)) fun _ => .forM _ fun id => ?_
      exact grows_questioned (questioned_lightIfAsked context id)
  | shadow =>
      exact .bind .graph fun g => .forM _ fun id => grows_questioned (questioned_setShadow context id)
  | renderLayer =>
      exact .bind .graph fun g => .forM _ fun id => grows_questioned (questioned_setLayer context id)
  | material => exact .bind .graph fun g => .forM _ grows_replaceMaterials

/-- Passes over one subtree after another take no resources back. -/
theorem grows_static (hadds : context.tools.OnlyAdds) (passes : List PassKind) (nodes : List NodeId) :
    Grows (nodes.forM fun node => passes.forM fun pass => pass.apply context node) :=
  .forM nodes fun node => .forM passes fun pass => grows_apply hadds pass node

end

end LevelPrep
