import LevelPrep.Proofs.Pass.Steady
import LevelPrep.Proofs.Pass.Walks
import LevelPrep.Proofs.Reordering

/-!
# Passes that may change places

Passes other than the lightmap pass commute unless one requires the other (`Rules.commutes_image`).  Passes that
draw mesh instances commute because they commute at every single one, and the collision pass commutes with all of
them that leave the geometry of meshes.  So the order of passes matters to a tree only as far as passes require each
other (`Rules.work_eq_of_perm`).
-/

namespace LevelPrep

variable {R : Type}

/-! ## Trees -/

namespace Snapshot

/-- Ways of making payloads that commute for every node commute for trees. -/
theorem commutes_remake {f g : Maker R} (h : ∀ name transform, Commutes (f name transform) (g name transform)) :
    Commutes (remake f) (remake g) := by
  intro d
  induction d using induction with
  | step hd cs ih =>
      intro d₁ d₂ h₁ h₂
      rcases remake_eq_some_iff.1 h₁ with ⟨hd₁, cs₁, hhead₁, hcs₁, rfl⟩
      rcases remake_eq_some_iff.1 h₂ with ⟨hd₂, cs₂, hhead₂, hcs₂, rfl⟩
      rcases Option.map_eq_some_iff.1 hhead₁ with ⟨p₁, hp₁, rfl⟩
      rcases Option.map_eq_some_iff.1 hhead₂ with ⟨p₂, hp₂, rfl⟩
      rcases h hd.name hd.transform hd.payload p₁ p₂ hp₁ hp₂ with ⟨p, hp, hp'⟩
      rcases CommutesAt.mapM ih cs₁ cs₂ (mapM_eq_some_iff.2 hcs₁) (mapM_eq_some_iff.2 hcs₂) with
        ⟨cs', hcs', hcs''⟩
      refine ⟨Head.node { hd with payload := p } cs', ?_, ?_⟩
      · exact remake_eq_some_iff.2 ⟨_, cs', Option.map_eq_some_iff.2 ⟨p, hp, rfl⟩, mapM_eq_some_iff.1 hcs', rfl⟩
      · exact remake_eq_some_iff.2 ⟨_, cs', Option.map_eq_some_iff.2 ⟨p, hp', rfl⟩, mapM_eq_some_iff.1 hcs'', rfl⟩

/-- A tree with new payloads, in the same place. -/
def RemadeAt (f : Maker R) (p p' : Placed R) : Prop :=
  p'.1 = p.1 ∧ p.2.remake f = some p'.2

theorem height_of_remake {f : Maker R} {d d' : Snapshot Geometry R} (h : d.remake f = some d') :
    d'.height = d.height := by
  induction d using induction generalizing d' with
  | step hd cs ih =>
      rcases remake_eq_some_iff.1 h with ⟨hd', cs', -, hcs', rfl⟩
      have hheights : heights cs' = heights cs := by
        clear h
        induction hcs' with
        | nil => rfl
        | @cons c c' rest rest' hc _ ihrest =>
            rw [heights, heights, ih c List.mem_cons_self hc,
              ihrest fun other hother => ih other (List.mem_cons_of_mem c hother)]
      rw [height_node, height_node, hheights]

theorem forall₂_placedBelow {f : Maker R} {p p' : Placed R} (h : RemadeAt f p p') :
    List.Forall₂ (RemadeAt f) (placedBelow p) (placedBelow p') := by
  rcases h with ⟨hpath, hremake⟩
  rw [← node_head p.2] at hremake
  rcases remake_eq_some_iff.1 hremake with ⟨hd', cs', -, hcs', hp'⟩
  unfold placedBelow
  rw [hp', children_node, List.forall₂_map_left_iff, List.forall₂_map_right_iff]
  refine hcs'.imp fun c c' hc => ⟨?_, hc⟩
  rcases Option.map_eq_some_iff.1 (head_of_remake hc) with ⟨payload, -, hhead⟩
  rw [hpath, ← hhead]

/-- New payloads leave the trees of a tree where they are, level by level. -/
theorem forall₂_levelOrder_of_remake {f : Maker R} {d d' : Snapshot Geometry R} (h : d.remake f = some d') :
    List.Forall₂ (RemadeAt f) d.levelOrder d'.levelOrder := by
  have hlevels : ∀ fuel level level', List.Forall₂ (RemadeAt f) level level' →
      List.Forall₂ (RemadeAt f) (levelsFrom fuel level) (levelsFrom fuel level') := by
    intro fuel
    induction fuel with
    | zero => exact fun _ _ _ => .nil
    | succ fuel ih =>
        intro level level' hlevel
        refine List.rel_append hlevel (ih _ _ ?_)
        exact List.rel_flatMap hlevel fun _ _ hp => forall₂_placedBelow hp
  unfold levelOrder
  rw [height_of_remake h]
  exact hlevels _ _ _ (.cons ⟨rfl, h⟩ .nil)

end Snapshot

/-! ## Bodies -/

/-- Drawing that leaves the collision shapes of meshes. -/
def Drawer.KeepsShapes (f : Drawer R) : Prop :=
  ∀ {name transform i i'}, f name transform i = some i' → ∀ attributes, i'.shape? attributes = i.shape? attributes

namespace Rules

variable [Zero R] [One R] [Add R] [Mul R] {rules : Rules R} {f : Drawer R} {level : Json}

/-- Bodies are left by drawing. -/
theorem remake_of_mem_bodies {p : Snapshot.Placed R} {made : List (Snapshot Geometry R)}
    (h : rules.bodies level p = some made) : ∀ body ∈ made, body.remake f.maker = some body := by
  unfold bodies at h
  cases hi : p.2.head.payload.meshInstance? with
  | none =>
      rw [hi] at h
      cases h
      exact nofun
  | some i =>
      rw [hi] at h
      rcases Option.bind_eq_some_iff.1 h with ⟨skipped, -, h⟩
      cases skipped with
      | true =>
          cases h
          exact nofun
      | false =>
          rcases Option.map_eq_some_iff.1 h with ⟨body, hbody, rfl⟩
          rcases Option.bind_eq_some_iff.1 hbody with ⟨attributes, -, hbody⟩
          rcases Option.map_eq_some_iff.1 hbody with ⟨shape, -, rfl⟩
          intro body hmem
          -- a body and its shape are no mesh instances
          rw [List.mem_singleton.1 hmem]
          rfl

/-- Where collision shapes are left, so are the bodies that are made. -/
theorem bodies_of_remadeAt (hf : f.KeepsShapes) {p p' : Snapshot.Placed R} (h : Snapshot.RemadeAt f.maker p p') :
    rules.bodies level p' = rules.bodies level p := by
  rcases h with ⟨hpath, hremake⟩
  rcases Option.map_eq_some_iff.1 (Snapshot.head_of_remake hremake) with ⟨payload, hpayload, hhead⟩
  unfold bodies
  rw [← hhead, hpath]
  cases hold : p.2.head.payload with
  | meshInstance i =>
      rw [hold] at hpayload
      rcases Option.map_eq_some_iff.1 hpayload with ⟨i', hi', rfl⟩
      -- a body is told by the name, the place and the shape of the node, and drawing changes none of them
      have hbody : rules.body level p.1 p.2.head.name i' = rules.body level p.1 p.2.head.name i := by
        unfold body
        simp only [hf hi']
      show (rules.grammar.nameHas p.2.head.name .noCollision).toOption.bind _ = _
      rw [hbody]
      rfl
  | plain | staticBody | collisionShape =>
      rw [hold] at hpayload
      cases hpayload
      rfl

/-- Drawing that leaves collision shapes commutes with adding bodies. -/
theorem commutes_embody (hf : f.KeepsShapes) : Commutes (rules.embody level) (Snapshot.remake f.maker) := by
  intro d d₁ d₂ h₁ h₂
  rcases Option.map_eq_some_iff.1 h₁ with ⟨bodies, hbodies, rfl⟩
  -- the same bodies are made of the tree that was drawn first
  have hsame : d₂.levelOrder.mapM (rules.bodies level) = some bodies := by
    have hall := mapM_eq_some_iff.1 hbodies
    refine mapM_eq_some_iff.2 ?_
    have hlevels := Snapshot.forall₂_levelOrder_of_remake h₂
    clear hbodies h₁
    generalize d.levelOrder = ps at hall hlevels
    generalize d₂.levelOrder = ps' at hlevels ⊢
    induction hlevels generalizing bodies with
    | nil => exact hall
    | cons hp _ ih =>
        cases hall with
        | cons hfirst hrest => exact .cons ((bodies_of_remadeAt hf hp).trans hfirst) (ih _ hrest)
  -- and drawing leaves the bodies of the tree that was given them first
  have hkept : ∀ body ∈ bodies.flatten, body.remake f.maker = some body := by
    intro body hbody
    rcases List.mem_flatten.1 hbody with ⟨made, hmade, hin⟩
    rcases exists_of_mem_results (mapM_eq_some_iff.1 hbodies) hmade with ⟨p, -, hp⟩
    exact remake_of_mem_bodies hp body hin
  rw [← Snapshot.node_head d] at h₂
  rcases Snapshot.remake_eq_some_iff.1 h₂ with ⟨hd', cs', hhead', hcs', rfl⟩
  refine ⟨hd'.node (cs' ++ bodies.flatten), ?_, ?_⟩
  · exact Snapshot.remake_eq_some_iff.2
      ⟨hd', _, hhead', List.rel_append hcs' (List.forall₂_same.2 hkept), rfl⟩
  · exact Option.map_eq_some_iff.2 ⟨bodies, hsame, rfl⟩

end Rules

/-! ## Mesh instances -/

/-- Two changes of mesh instances that commute, each after a question. -/
theorem commutes_onAnswer {α ε : Type} {question : Except Fault α} {other : Except Fault ε}
    {f g : MeshInstance Geometry Material → MeshInstance Geometry Material} (h : ∀ i, g (f i) = f (g i)) :
    Commutes (fun i => onAnswer question (f i)) fun i => onAnswer other (g i) := by
  intro i i₁ i₂ h₁ h₂
  rcases onAnswer_eq_some_iff.1 h₁ with ⟨hquestion, rfl⟩
  rcases onAnswer_eq_some_iff.1 h₂ with ⟨hother, rfl⟩
  exact ⟨g (f i), onAnswer_eq_some_iff.2 ⟨hother, rfl⟩, onAnswer_eq_some_iff.2 ⟨hquestion, h i⟩⟩

namespace Rules

variable {rules : Rules R} {name : Json} {transform : Matrix R}

/-- A change of how a mesh is drawn, after a question, commutes with new materials. -/
theorem commutes_dress {α : Type} {question : Except Fault α}
    {f : MeshInstance Geometry Material → MeshInstance Geometry Material} (hmesh : ∀ i, (f i).mesh = i.mesh)
    (hset : ∀ i mesh, f { i with mesh := some mesh } = { f i with mesh := some mesh }) :
    Commutes (fun i => onAnswer question (f i)) (rules.dress name transform) := by
  intro i i₁ i₂ h₁ h₂
  rcases onAnswer_eq_some_iff.1 h₁ with ⟨hquestion, rfl⟩
  refine ⟨f i₂, ?_, onAnswer_eq_some_iff.2 ⟨hquestion, rfl⟩⟩
  rcases dress_eq_some_iff.1 h₂ with ⟨hnone, rfl⟩ | ⟨mesh, dressed, hi, hdressed, rfl⟩
  · exact dress_eq_some_iff.2 (Or.inl ⟨(hmesh i₂).trans hnone, rfl⟩)
  · exact dress_eq_some_iff.2 (Or.inr ⟨mesh, dressed, (hmesh i).trans hi, hdressed, hset i dressed⟩)

/-- A mesh that is taken away needs no materials. -/
theorem commutes_hide_dress (name : Json) (transform : Matrix R) :
    Commutes (rules.hide name transform) (rules.dress name transform) := by
  cases hhides : rules.grammar.hides name with
  | false =>
      have hsame : ∀ i : MeshInstance Geometry Material, i.asHidden rules.grammar name = i := by
        intro i
        rw [MeshInstance.asHidden, hhides, if_neg Bool.false_ne_true]
      exact commutes_dress (fun i => by rw [hsame]) fun i mesh => by rw [hsame, hsame]
  | true =>
      intro i i₁ i₂ h₁ h₂
      have hhidden : ∀ j : MeshInstance Geometry Material,
          j.asHidden rules.grammar name = { j with mesh := none, ignoreOcclusionCulling := true } := by
        intro j
        rw [MeshInstance.asHidden, hhides, if_pos rfl]
      rcases onAnswer_eq_some_iff.1 h₁ with ⟨hquestion, rfl⟩
      -- whatever materials the mesh was given, it is taken away
      have hsame : i₂.asHidden rules.grammar name = i.asHidden rules.grammar name := by
        rw [hhidden, hhidden]
        rcases dress_eq_some_iff.1 h₂ with ⟨-, rfl⟩ | ⟨mesh, dressed, -, -, rfl⟩ <;> rfl
      refine ⟨i.asHidden rules.grammar name, ?_, onAnswer_eq_some_iff.2 ⟨hquestion, hsame.symm⟩⟩
      exact dress_eq_some_iff.2 (Or.inl ⟨by rw [hhidden], rfl⟩)

theorem commutes_hide_shade (name : Json) (transform : Matrix R) :
    Commutes (rules.hide name transform) (rules.shade name transform) := by
  refine commutes_onAnswer fun i => ?_
  unfold MeshInstance.asHidden
  split_ifs <;> rfl

theorem commutes_hide_layer (name : Json) (transform : Matrix R) :
    Commutes (rules.hide name transform) (rules.layer name transform) := by
  refine commutes_onAnswer fun i => ?_
  rw [MeshInstance.asLayered_eq, MeshInstance.asLayered_eq]
  unfold MeshInstance.asHidden
  split_ifs <;> rfl

theorem commutes_shade_layer (name : Json) (transform : Matrix R) :
    Commutes (rules.shade name transform) (rules.layer name transform) := by
  refine commutes_onAnswer fun i => ?_
  rw [MeshInstance.asLayered_eq, MeshInstance.asLayered_eq]
  rfl

theorem commutes_shade_dress (name : Json) (transform : Matrix R) :
    Commutes (rules.shade name transform) (rules.dress name transform) :=
  commutes_dress (fun _ => rfl) fun _ _ => rfl

theorem commutes_layer_dress (name : Json) (transform : Matrix R) :
    Commutes (rules.layer name transform) (rules.dress name transform) := by
  refine commutes_dress (fun i => MeshInstance.mesh_asLayered rules.grammar name i) fun i mesh => ?_
  rw [MeshInstance.asLayered_eq, MeshInstance.asLayered_eq]

/-- Passes that draw mesh instances commute, but for the lightmap pass. -/
theorem commutes_drawer {kind other : PassKind} (hkind : kind ≠ .lightmap) (hother : other ≠ .lightmap)
    (hne : kind ≠ other) : Commutes (rules.drawer kind name transform) (rules.drawer other name transform) := by
  have hnothing : ∀ f : MeshInstance Geometry Material → Option (MeshInstance Geometry Material),
      Commutes some f := by
    rintro f i _ i₂ ⟨⟩ h₂
    exact ⟨i₂, h₂, rfl⟩
  match kind, other with
  | .lightmap, _ => exact absurd rfl hkind
  | _, .lightmap => exact absurd rfl hother
  | .collision, _ => exact hnothing _
  | _, .collision => exact (hnothing _).symm
  | .renderRemoval, .shadow => exact commutes_hide_shade name transform
  | .renderRemoval, .renderLayer => exact commutes_hide_layer name transform
  | .renderRemoval, .material => exact commutes_hide_dress name transform
  | .shadow, .renderRemoval => exact (commutes_hide_shade name transform).symm
  | .shadow, .renderLayer => exact commutes_shade_layer name transform
  | .shadow, .material => exact commutes_shade_dress name transform
  | .renderLayer, .renderRemoval => exact (commutes_hide_layer name transform).symm
  | .renderLayer, .shadow => exact (commutes_shade_layer name transform).symm
  | .renderLayer, .material => exact commutes_layer_dress name transform
  | .material, .renderRemoval => exact (commutes_hide_dress name transform).symm
  | .material, .shadow => exact (commutes_shade_dress name transform).symm
  | .material, .renderLayer => exact (commutes_layer_dress name transform).symm
  | .renderRemoval, .renderRemoval | .shadow, .shadow | .renderLayer, .renderLayer | .material, .material =>
    exact absurd rfl hne

/-- Passes that require neither the collision pass nor make lightmaps leave collision shapes. -/
theorem keepsShapes_drawer {kind : PassKind} (hlightmap : kind ≠ .lightmap)
    (hrequires : .collision ∉ kind.requires) : (rules.drawer kind).KeepsShapes := by
  intro name transform i i' h attributes
  -- a collision shape is read off the mesh
  have hsame : i'.mesh = i.mesh → i'.shape? attributes = i.shape? attributes := by
    intro hmesh
    rw [MeshInstance.shape?, hmesh]
    rfl
  cases kind with
  | lightmap => exact absurd rfl hlightmap
  | renderRemoval => exact absurd List.mem_cons_self hrequires
  | collision =>
      cases h
      rfl
  | shadow =>
      rcases onAnswer_eq_some_iff.1 h with ⟨-, rfl⟩
      exact hsame rfl
  | renderLayer =>
      rcases onAnswer_eq_some_iff.1 h with ⟨-, rfl⟩
      exact hsame (MeshInstance.mesh_asLayered rules.grammar name i)
  | material =>
      have hdress : rules.dress name transform i = some i' := h
      rcases dress_eq_some_iff.1 hdress with ⟨-, rfl⟩ | ⟨mesh, dressed, hmesh, hdressed, rfl⟩
      · rfl
      · unfold MeshInstance.shape?
        rw [hmesh, Option.bind_some, Option.bind_some, (form_of_redress hdressed).1.2]

/-! ## Passes -/

variable [Zero R] [One R] [Add R] [Mul R] {level : Json}

/-- Passes other than the lightmap pass commute unless one requires the other. -/
theorem commutes_image {kind other : PassKind} (hkind : kind ≠ .lightmap) (hother : other ≠ .lightmap)
    (hne : kind ≠ other) (hrequires : other ∉ kind.requires) (hrequires' : kind ∉ other.requires) :
    Commutes (kind.image rules level) (other.image rules level) := by
  -- bodies are added to the tree as a whole; all other passes draw node by node
  by_cases hcollision : kind = .collision
  · subst hcollision
    rw [show other.image rules level = Snapshot.remake (rules.drawer other).maker from
      funext fun d => PassKind.image_eq_remake hne.symm]
    exact commutes_embody (keepsShapes_drawer hother hrequires')
  rw [show kind.image rules level = Snapshot.remake (rules.drawer kind).maker from
    funext fun d => PassKind.image_eq_remake hcollision]
  by_cases hcollision' : other = .collision
  · subst hcollision'
    exact (commutes_embody (keepsShapes_drawer hkind hrequires)).symm
  rw [show other.image rules level = Snapshot.remake (rules.drawer other).maker from
    funext fun d => PassKind.image_eq_remake hcollision']
  refine Snapshot.commutes_remake fun name transform => ?_
  intro payload p₁ p₂ h₁ h₂
  cases payload with
  | meshInstance i =>
      rcases Option.map_eq_some_iff.1 h₁ with ⟨i₁, hi₁, rfl⟩
      rcases Option.map_eq_some_iff.1 h₂ with ⟨i₂, hi₂, rfl⟩
      rcases commutes_drawer hkind hother hne i i₁ i₂ hi₁ hi₂ with ⟨i', hi', hi''⟩
      exact ⟨.meshInstance i', Option.map_eq_some_iff.2 ⟨i', hi', rfl⟩, Option.map_eq_some_iff.2 ⟨i', hi'', rfl⟩⟩
  | plain | staticBody | collisionShape =>
      cases h₁
      cases h₂
      exact ⟨_, rfl, rfl⟩

/-- Without the lightmap pass, all orders of passes in which none stands before one that it requires make the same
of a tree, where they make something. -/
theorem work_eq_of_perm {passes passes' : List PassKind} (hperm : passes.Perm passes') (hnodup : passes.Nodup)
    (hordered : passes.Pairwise fun kind later => later ∉ kind.requires)
    (hordered' : passes'.Pairwise fun kind later => later ∉ kind.requires) (hlightmap : .lightmap ∉ passes)
    {d d₁ d₂ : Snapshot Geometry R} (h₁ : rules.work level passes d = some d₁)
    (h₂ : rules.work level passes' d = some d₂) : d₁ = d₂ := by
  refine foldlM_eq_of_perm (fun kind other => other ∈ kind.requires) hperm hnodup hordered hordered' ?_ h₁ h₂
  intro kind hkind other hother hne hrequires hrequires'
  exact commutes_image (fun h => hlightmap (h ▸ hkind)) (fun h => hlightmap (h ▸ hother)) hne hrequires hrequires'

end Rules

end LevelPrep
