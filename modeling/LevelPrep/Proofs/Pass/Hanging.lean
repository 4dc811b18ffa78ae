import LevelPrep.Proofs.Pass.Placing

/-!
# Bodies where their meshes are

The collision pass hangs one body under the root of a subtree for each mesh instance to collide with, in their order,
and gives it the transform that the mesh instance has relative to the root (`hung_of_apply`).  As transforms are
multiplied on the way down, the body and its shape then have the transform of the mesh instance relative to every node
above the root as well (`Hung.standing`).
-/

namespace LevelPrep

variable {R : Type}

open Work SceneGraph

/-! ## What the passes leave to collide with -/

/-- Passes add no mesh instances and take none away. -/
theorem SceneGraph.Reshaped.instances_eq [Zero R] [One R] {scene root : NodeId} {roots : NodeId → Prop}
    {g g' : SceneGraph R} (h : Reshaped scene roots g g') (hg : g.Linked) (hroot : root.index < g.size) :
    g'.instances root = g.instances root := by
  -- only nodes that were there are mesh instances
  have hold : ∀ x ∈ g'.levelOrder root, (g'.meshInstance? x).isSome = true →
      decide (x.index < g.size) = true := by
    intro x _ hinstance
    by_contra hnew
    rw [decide_eq_true_eq, Nat.not_lt] at hnew
    rcases Option.isSome_iff_exists.1 hinstance with ⟨i, hi⟩
    rcases Option.bind_eq_some_iff.1 hi with ⟨n, hn, hpayload⟩
    rw [(h.new x n hnew hn).2] at hpayload
    cases hpayload
  have hsame : ∀ x ∈ g.levelOrder root, (g'.meshInstance? x).isSome = (g.meshInstance? x).isSome := by
    intro x hx
    have hlt := hg.index_lt_of_within ((mem_levelOrder_iff hg).1 hx) hroot
    rcases exists_node?_iff.2 hlt with ⟨n, hn⟩
    rcases h.old x n hn with ⟨change, bodies, hn', -⟩
    rw [meshInstance?_of_node? hn, meshInstance?_of_node? hn', Payload.meshInstance?_mapInstance, Option.isSome_map]
  unfold instances
  rw [← List.filter_congr hsame, ← h.filter_levelOrder hg hroot, List.filter_filter]
  refine List.filter_congr fun x hx => ?_
  cases hinstance : (g'.meshInstance? x).isSome with
  | false => rfl
  | true => simpa using hold x hx hinstance

theorem SceneGraph.Reshaped.collidable_eq [Zero R] [One R] {scene root : NodeId} {roots : NodeId → Prop}
    {g g' : SceneGraph R} (h : Reshaped scene roots g g') (hg : g.Linked) (hroot : root.index < g.size)
    (context : PassContext R) : collidable context root g' = collidable context root g := by
  unfold collidable
  rw [h.instances_eq hg hroot]
  refine List.filter_congr fun x hx => ?_
  rw [h.name_eq (hg.index_lt_of_within (within_of_mem_instances hg hx) hroot)]

theorem within_of_mem_collidable {context : PassContext R} {g : SceneGraph R} {root x : NodeId} (hg : g.Linked)
    (h : x ∈ collidable context root g) : g.Within root x :=
  within_of_mem_instances hg (List.mem_filter.1 h).1

/-! ## Passes that hang up nothing -/

/-- Where no node is new, no children are. -/
theorem SceneGraph.Reshaped.children_eq_of_size [Zero R] [One R] {scene x : NodeId} {roots : NodeId → Prop}
    {g g' : SceneGraph R} (h : Reshaped scene roots g g') (hsize : g'.size = g.size) (hx : x.index < g.size) :
    g'.children x = g.children x := by
  rcases exists_node?_iff.2 hx with ⟨n, hn⟩
  rcases h.old x n hn with ⟨change, bodies, hn', hbodies, -⟩
  have hnone : bodies = [] := by
    rw [List.eq_nil_iff_forall_not_mem]
    intro body hbody
    rcases hbodies body hbody with ⟨-, hnew, _, _, _, _, _, hb, -⟩
    have hlt := index_lt_of_node? hb
    omega
  rw [children_of_node? hn, children_of_node? hn', hnone, List.append_nil]

section

variable {context : PassContext R} {root id : NodeId} {s s' : Session R}

theorem size_of_redrawn {change : MeshInstance GeometryId MaterialId → MeshInstance GeometryId MaterialId}
    (h : Redrawn id change s s') : s'.stage.graph.size = s.stage.graph.size := by
  rcases h with ⟨journal, rfl⟩
  exact size_modifyInstance _ _ _

theorem size_of_baked (h : Baked context id s s') : s'.stage.graph.size = s.stage.graph.size := by
  cases h with
  | noMesh => rfl
  | unwrapped => exact size_modifyInstance _ _ _

theorem size_of_rematerialed {surface : Nat} (h : Rematerialed id surface s s') :
    s'.stage.graph.size = s.stage.graph.size := by
  cases h with
  | noMesh => rfl
  | replaced _ hmaterial =>
      cases hmaterial with
      | blank | kept | loaded => exact size_modifyInstance _ _ _

/-- A loop whose rounds make no nodes makes none. -/
theorem size_of_forM {ids : List NodeId} {f : NodeId → Work R Unit}
    (hround : ∀ id t t', (f id).runIn t = (.ok (), t') → t'.stage.graph.size = t.stage.graph.size)
    (hrun : (ids.forM f).runIn s = (.ok (), s')) : s'.stage.graph.size = s.stage.graph.size := by
  refine forM_invariant (I := fun t => t.stage.graph.size = s.stage.graph.size) rfl ?_ hrun
  intro id _ t t' ht hstep
  exact (hround id t t' hstep).trans ht

variable [Zero R] [One R] [Add R] [Mul R]

/-- Only the collision pass makes nodes. -/
theorem size_of_apply {kind : PassKind} (hkind : kind ≠ .collision)
    (hrun : (kind.apply context root).runIn s = (.ok (), s')) : s'.stage.graph.size = s.stage.graph.size := by
  cases kind with
  | collision => exact absurd rfl hkind
  | renderRemoval =>
      exact size_of_forM (fun _ _ _ h => size_of_redrawn (redrawn_of_hideIfAsked h)) (forM_of_graph hrun)
  | lightmap =>
      rcases exists_between_of_applyLightmap hrun with ⟨t, hbake, hlight⟩
      have hbaked := size_of_forM (fun _ _ _ h => size_of_baked (baked_of_bake h)) hbake
      have hlit := size_of_forM (fun _ _ _ h => size_of_redrawn (redrawn_of_lightIfAsked h)) hlight
      exact hlit.trans hbaked
  | shadow =>
      exact size_of_forM (fun _ _ _ h => size_of_redrawn (redrawn_of_setShadow h)) (forM_of_graph hrun)
  | renderLayer =>
      exact size_of_forM (fun _ _ _ h => size_of_redrawn (redrawn_of_setLayer h)) (forM_of_graph hrun)
  | material =>
      refine size_of_forM (fun _ t _ h => ?_) (forM_of_graph hrun)
      refine replaceMaterials_invariant (I := fun u => u.stage.graph.size = t.stage.graph.size) rfl ?_ h
      intro surface u u' hu hstep
      exact (size_of_rematerialed hstep).trans hu

/-- Passes without the collision pass leave the children of their root as they are. -/
theorem children_of_passes {passes : List PassKind} (hpasses : .collision ∉ passes) (hs : s.stage.graph.Linked)
    (hroot : root.index < s.stage.graph.size)
    (hrun : (passes.forM fun pass => pass.apply context root).runIn s = (.ok (), s')) :
    s'.stage.graph.children root = s.stage.graph.children root := by
  refine (reshaped_of_passes hs hroot hrun).children_eq_of_size ?_ hroot
  refine forM_invariant (I := fun t => t.stage.graph.size = s.stage.graph.size) rfl ?_ hrun
  intro kind hkind t t' ht hstep
  exact (size_of_apply (fun heq => hpasses (heq ▸ hkind)) hstep).trans ht

end

/-! ## One more body -/

section

variable [Zero R] [One R] {scene root : NodeId} {name : Json} {transform : Matrix R} {layer mask : Int}
  {shape : Shape} {g : SceneGraph R}

theorem children_addBody (hroot : root.index < g.size) :
    (Collision.addBody scene root name transform layer mask shape g).children root =
      g.children root ++ [⟨g.size⟩] := by
  rcases exists_node?_iff.2 hroot with ⟨n, hn⟩
  have hnode : (Collision.addBody scene root name transform layer mask shape g).node? root = _ :=
    node?_addBody hroot root
  rw [if_neg (by omega), if_neg (by omega), if_pos rfl, hn] at hnode
  rw [children_of_node? hnode, children_of_node? hn]

theorem pose?_addBody (hroot : root.index < g.size) :
    (Collision.addBody scene root name transform layer mask shape g).pose? ⟨g.size⟩ =
      some (.str (name.display ++ "_StaticBody"), transform) := by
  rw [pose?, node?_addBody hroot, if_pos rfl]
  rfl

end

/-! ## Bodies under a root -/

section

variable [Semiring R] {scene root : NodeId} {roots : NodeId → Prop} {xs : List NodeId} {g g' g'' : SceneGraph R}

/-- A body has the name and the transform that are meant for the body of a mesh instance. -/
def Posed (root : NodeId) (g g' : SceneGraph R) (x body : NodeId) : Prop :=
  ∃ transform, g.relativeTransform x root = .ok transform ∧
    g'.pose? body = some (.str ((g.name x).display ++ "_StaticBody"), transform)

/-- Behind the children that a root had it has a body for each of some mesh instances. -/
def Hung (root : NodeId) (xs : List NodeId) (g g' : SceneGraph R) : Prop :=
  ∃ bodies, g'.children root = g.children root ++ bodies ∧ List.Forall₂ (Posed root g g') xs bodies

theorem Posed.later {x body : NodeId} (h : Posed root g g' x body)
    (hkept : ∀ y pose, g'.pose? y = some pose → g''.pose? y = some pose) : Posed root g g'' x body := by
  rcases h with ⟨transform, htransform, hpose⟩
  exact ⟨transform, htransform, hkept body _ hpose⟩

/-- Bodies stay where they are while no node is moved and the root keeps its children. -/
theorem Hung.later (h : Hung root xs g g') (hchildren : g''.children root = g'.children root)
    (hkept : ∀ y pose, g'.pose? y = some pose → g''.pose? y = some pose) : Hung root xs g g'' := by
  rcases h with ⟨bodies, hbodies, hall⟩
  exact ⟨bodies, hchildren.trans hbodies, hall.imp fun _ _ hposed => hposed.later hkept⟩

/-- Bodies that were made after other passes are made as if there had been no other passes. -/
theorem Hung.earlier (h : Hung root xs g' g'') (hbefore : Reshaped scene roots g g') (hg : g.Linked)
    (hroot : root.index < g.size) (hchildren : g'.children root = g.children root)
    (hxs : ∀ x ∈ xs, g.Within root x) : Hung root xs g g'' := by
  rcases h with ⟨bodies, hbodies, hall⟩
  refine ⟨bodies, by rw [hbodies, hchildren], forall₂_imp_of_mem hall ?_⟩
  rintro x hx body - ⟨transform, htransform, hpose⟩
  have hwithin := hxs x hx
  rw [hbefore.relativeTransform_eq hg hroot hwithin] at htransform
  rw [hbefore.name_eq (hg.index_lt_of_within hwithin hroot)] at hpose
  exact ⟨transform, htransform, hpose⟩

/-- It makes no difference to the bodies what else passes do before and after they are made, as long as these hang up
nothing under the root. -/
theorem Hung.between {context : PassContext R} {scene' : NodeId} {roots' : NodeId → Prop} {g₀ g₁ g₂ g₃ : SceneGraph R}
    (h : Hung root (collidable context root g₁) g₁ g₂) (hg : g₀.Linked) (hroot : root.index < g₀.size)
    (hbefore : Reshaped scene roots g₀ g₁) (hsame : g₁.children root = g₀.children root)
    (hafter : Reshaped scene' roots' g₂ g₃) (hsame' : g₃.children root = g₂.children root) :
    Hung root (collidable context root g₀) g₀ g₃ := by
  rw [hbefore.collidable_eq hg hroot] at h
  have hlater := h.later hsame' fun _ _ => hafter.pose?_kept
  exact hlater.earlier hbefore hg hroot hsame fun x hx => within_of_mem_collidable hg hx

/-- One more mesh instance is given its body. -/
theorem Hung.snoc {context : PassContext R} {done : List NodeId} {id : NodeId} {t t' : Session R}
    (h : Hung root done g t.stage.graph) (hpassed : Reshaped scene (· = root) g t.stage.graph) (hg : g.Linked)
    (hroot : root.index < g.size) (hid : g.Within root id) (hstep : Embodied context root id t t') :
    Hung root (done ++ [id]) g t'.stage.graph := by
  have hlt : root.index < t.stage.graph.size := hroot.trans_le hpassed.size_le
  have hworked : Worked context.scene (· = root) t t' := worked_of_embodied rfl hstep
  have hkept := hworked.reshaped (.single hpassed.linked hlt)
  rcases h with ⟨bodies, hchildren, hall⟩
  cases hstep with
  | added _ _ htransform journal =>
      refine ⟨bodies ++ [⟨t.stage.graph.size⟩], ?_, ?_⟩
      · rw [← List.append_assoc, ← hchildren]
        exact children_addBody hlt
      · refine List.rel_append (hall.imp fun _ _ hposed => hposed.later fun _ _ => hkept.pose?_kept) ?_
        rw [hpassed.relativeTransform_eq hg hroot hid] at htransform
        refine .cons ⟨_, htransform, ?_⟩ .nil
        rw [← hpassed.name_eq (hg.index_lt_of_within hid hroot)]
        exact pose?_addBody hlt

/-- The collision pass makes a body for each mesh instance to collide with. -/
theorem hung_of_apply {context : PassContext R} {s s' : Session R} (hs : s.stage.graph.Linked)
    (hroot : root.index < s.stage.graph.size) (hrun : (Collision.apply context root).runIn s = (.ok (), s')) :
    Hung root (collidable context root s.stage.graph) s.stage.graph s'.stage.graph := by
  have hworkable := Workable.single hs hroot
  have hstart : Hung root [] s.stage.graph s.stage.graph := ⟨[], by simp, .nil⟩
  have hend : Worked context.scene (· = root) s s' ∧
      Hung root (collidable context root s.stage.graph) s.stage.graph s'.stage.graph := by
    refine forM_prefix (I := fun done t => Worked context.scene (· = root) s t ∧
      Hung root done s.stage.graph t.stage.graph) ⟨.refl _ _ s, hstart⟩ ?_ (makeBody_of_apply hrun)
    rintro before id after t t' hsplit ⟨hworked, hhung⟩ hstep
    have hembodied := embodied_of_makeBody hstep
    have hid : id ∈ collidable context root s.stage.graph := by simp [hsplit]
    exact ⟨hworked.trans (worked_of_embodied rfl hembodied), hhung.snoc (hworked.reshaped hworkable) hs hroot
      (within_of_mem_collidable hs hid) hembodied⟩
  exact hend.2

/-- So do any passes of which the collision pass is one: those before it and those after it hang up nothing and move
nothing. -/
theorem hung_of_passes {context : PassContext R} {passes : List PassKind} {s s' : Session R}
    (hcollision : .collision ∈ passes) (hnodup : passes.Nodup) (hs : s.stage.graph.Linked)
    (hroot : root.index < s.stage.graph.size)
    (hrun : (passes.forM fun pass => pass.apply context root).runIn s = (.ok (), s')) :
    Hung root (collidable context root s.stage.graph) s.stage.graph s'.stage.graph := by
  rcases List.append_of_mem hcollision with ⟨before, after, rfl⟩
  have honce := (List.nodup_cons.1 (List.nodup_middle.1 hnodup)).1
  rw [List.mem_append, not_or] at honce
  rcases exists_between_of_forM_append hrun with ⟨t, hfirst, hrest⟩
  rcases runIn_bind_eq_ok_iff.1 hrest with ⟨⟨⟩, u, hpass, hlast⟩
  have hbefore := reshaped_of_passes hs hroot hfirst
  have hroot₁ : root.index < t.stage.graph.size := hroot.trans_le hbefore.size_le
  have hcollided : Reshaped context.scene (· = root) t.stage.graph u.stage.graph :=
    reshaped_of_apply hbefore.linked hroot₁ hpass
  have hroot₂ : root.index < u.stage.graph.size := hroot₁.trans_le hcollided.size_le
  have hafter := reshaped_of_passes hcollided.linked hroot₂ hlast
  exact (hung_of_apply hbefore.linked hroot₁ hpass).between hs hroot
    hbefore (children_of_passes honce.1 hs hroot hfirst)
    hafter (children_of_passes honce.2 hcollided.linked hroot₂ hlast)

/-! ## Seen from above -/

/-- A body for a mesh instance that stands where the mesh instance stands, with its shape: seen from the root and from
every node above it, all three have the same transform. -/
structure StandsFor (scene root : NodeId) (g g' : SceneGraph R) (x body : NodeId) : Prop where
  isBody : g'.IsBody scene root body
  posed : Posed root g g' x body
  aligned : ∀ a, g'.Within a root → ∃ transform, g'.relativeTransform x a = .ok transform ∧
    g'.relativeTransform body a = .ok transform ∧ g'.relativeTransform ⟨body.index + 1⟩ a = .ok transform

/-- Behind the children that a root had it has a body for each of some mesh instances, which stands where the mesh
instance stands. -/
def Standing (scene root : NodeId) (xs : List NodeId) (g g' : SceneGraph R) : Prop :=
  ∃ bodies, g'.children root = g.children root ++ bodies ∧ List.Forall₂ (StandsFor scene root g g') xs bodies

/-- A body has the transform of its mesh instance relative to the root, and so relative to every node above. -/
theorem Posed.standsFor {x body : NodeId} (h : Posed root g g' x body) (hg' : g'.Linked)
    (hbody : g'.IsBody scene root body) (hx : g'.Within root x)
    (hkept : g'.relativeTransform x root = g.relativeTransform x root) : StandsFor scene root g g' x body := by
  refine ⟨hbody, h, fun a ha => ?_⟩
  rcases h with ⟨transform, htransform, hpose⟩
  rcases hbody with ⟨name, transform', layer, mask, shape, hb, hh⟩
  obtain ⟨-, rfl⟩ : _ ∧ transform' = transform := by
    rw [pose?_of_node? hb] at hpose
    exact Prod.mk.inj (Option.some.inj hpose)
  have hbodyChild : body ∈ g'.children root := (hg'.mem_children_iff root body).2 (parent?_of_node? hb)
  have hhullChild : ⟨body.index + 1⟩ ∈ g'.children body := (hg'.mem_children_iff body _).2 (parent?_of_node? hh)
  have hroot : root.index < g'.size := (hg'.index_lt_of_mem_children hbodyChild).1
  have hlt : x.index < g'.size := hg'.index_lt_of_within hx hroot
  rcases ha.exists_descends hg' with ⟨above, habove⟩
  rcases hx.exists_descends hg' with ⟨below, hbelow⟩
  -- the way down to the mesh instance below the root is one step for the body
  have hprod : below.prod = transform' := by
    rw [hbelow.relativeTransform_eq_prod hg' hlt, htransform] at hkept
    exact Except.ok.inj hkept
  have hmesh := (habove.trans hbelow).relativeTransform_eq_prod hg' hlt
  have hself := (habove.child hbodyChild hb).relativeTransform_eq_prod hg' (index_lt_of_node? hb)
  have hhull := ((habove.child hbodyChild hb).child hhullChild hh).relativeTransform_eq_prod hg'
    (index_lt_of_node? hh)
  refine ⟨above.prod * transform', ?_, ?_, ?_⟩
  · rw [hmesh, List.prod_append, hprod]
  · rw [hself, List.prod_append, List.prod_singleton]
  · rw [hhull, List.prod_append, List.prod_append, List.prod_singleton, List.prod_singleton]
    exact congrArg Except.ok (mul_one _)

theorem Hung.standing (h : Hung root xs g g') (hg' : g'.Linked)
    (hbodies : ∀ bodies, g'.children root = g.children root ++ bodies →
      ∀ body ∈ bodies, g'.IsBody scene root body)
    (hxs : ∀ x ∈ xs, g'.Within root x ∧ g'.relativeTransform x root = g.relativeTransform x root) :
    Standing scene root xs g g' := by
  rcases h with ⟨bodies, hchildren, hall⟩
  refine ⟨bodies, hchildren, forall₂_imp_of_mem hall fun x hx body hbody hposed => ?_⟩
  exact hposed.standsFor hg' (hbodies bodies hchildren body hbody) (hxs x hx).1 (hxs x hx).2

/-- After the collision pass, the bodies stand where their mesh instances stand. -/
theorem standing_of_apply {context : PassContext R} {s s' : Session R} (hs : s.stage.graph.Linked)
    (hroot : root.index < s.stage.graph.size) (hrun : (Collision.apply context root).runIn s = (.ok (), s')) :
    Standing context.scene root (collidable context root s.stage.graph) s.stage.graph s'.stage.graph := by
  have hpass : (PassKind.collision.apply context root).runIn s = (.ok (), s') := hrun
  have hreshaped := reshaped_of_apply hs hroot hpass
  refine (hung_of_apply hs hroot hrun).standing hreshaped.linked ?_ fun x hx => ?_
  · intro bodies hchildren
    rcases exists_node?_iff.2 hroot with ⟨n, hn⟩
    rcases hreshaped.old root n hn with ⟨change, bodies', hn', hbodies, -⟩
    rw [children_of_node? hn, children_of_node? hn'] at hchildren
    rw [← List.append_cancel_left hchildren]
    exact fun body hbody => (hbodies body hbody).2.2
  · have hwithin := within_of_mem_collidable hs hx
    exact ⟨hreshaped.within hwithin, hreshaped.relativeTransform_eq hs hroot hwithin⟩

end

end LevelPrep
