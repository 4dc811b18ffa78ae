import LevelPrep.Proofs.Mesh.Corners
import LevelPrep.Proofs.Pass.Images
import LevelPrep.Proofs.Pass.Walks

/-!
# Bodies for mesh instances

What body a live mesh instance is given (`PassContext.bodyOf`) is told by its dump (`bodyOf_eq`).  A body that is
hung under a root is dumped as such and changes nothing else (`GainsBody`), so nodes are given their bodies one
after another, each as if it were the only one (`settles_makeBodies`).
-/

namespace LevelPrep

variable {R : Type}

open Work SceneGraph

/-! ## Shapes -/

theorem toOption_map {ε α β : Type} (f : α → β) (outcome : Except ε α) :
    (outcome.map f).toOption = outcome.toOption.map f := by
  cases outcome <;> rfl

theorem toOption_convexShape (r : Resources) (mesh : LiveMesh) :
    (mesh.convexShape r).toOption = shapeFor true ((r.meshValue mesh).surfaces.map (·.geometry)) := by
  unfold LiveMesh.convexShape shapeFor
  rw [r.map_geometry_meshValue, if_pos rfl, List.isEmpty_map, List.flatMap_map]
  split_ifs
  · rfl
  · exact toOption_map _ _

theorem toOption_corners (r : Resources) (mesh : LiveMesh) :
    ((mesh.corners r).map Shape.concave).toOption =
      shapeFor false ((r.meshValue mesh).surfaces.map (·.geometry)) := by
  unfold shapeFor
  rw [LiveMesh.corners_eq, if_neg Bool.false_ne_true]
  cases ((r.meshValue mesh).surfaces.map (·.geometry)).mapM Geometry.corners <;> rfl

/-- The shape for a live mesh instance is that for its value. -/
theorem toOption_shapeOf (s : Session R) (attributes : NodeAttributes) (x : NodeId) :
    (Collision.shapeOf s.stage.graph s.stage.resources attributes x).toOption =
      (s.stage.figure? x).bind (·.shape? attributes) := by
  unfold Collision.shapeOf Stage.figure? SceneGraph.mesh?
  cases hi : s.stage.graph.meshInstance? x with
  | none => rfl
  | some i =>
      simp only [Option.bind_some, Option.map_some]
      unfold MeshInstance.shape? Resources.figure
      cases hmesh : i.mesh with
      | none => rfl
      | some mesh =>
          simp only [Option.map_some, Option.bind_some]
          cases attributes.contains .convexCollision with
          | true => exact toOption_convexShape s.stage.resources mesh
          | false => exact toOption_corners s.stage.resources mesh

/-! ## Trees with bodies -/

/-- Every node that was there is there, with at most more children. -/
def SceneGraph.Sprouted (g g' : SceneGraph R) : Prop :=
  ∀ y m, g.node? y = some m → ∃ ids, g'.node? y = some { m with children := m.children ++ ids }

namespace SceneGraph.Sprouted

variable {g g' : SceneGraph R} {root x y : NodeId}

theorem name_eq (h : g.Sprouted g') (hy : y.index < g.size) : g'.name y = g.name y := by
  rcases exists_node?_iff.2 hy with ⟨m, hm⟩
  rcases h y m hm with ⟨ids, hm'⟩
  rw [name_of_node? hm, name_of_node? hm']

theorem parent?_eq (h : g.Sprouted g') (hy : y.index < g.size) : g'.parent? y = g.parent? y := by
  rcases exists_node?_iff.2 hy with ⟨m, hm⟩
  rcases h y m hm with ⟨ids, hm'⟩
  rw [parent?_of_node? hm, parent?_of_node? hm']

theorem mesh?_eq (h : g.Sprouted g') (hy : y.index < g.size) : g'.mesh? y = g.mesh? y := by
  rcases exists_node?_iff.2 hy with ⟨m, hm⟩
  rcases h y m hm with ⟨ids, hm'⟩
  rw [mesh?, mesh?, meshInstance?_of_node? hm, meshInstance?_of_node? hm']

theorem descends (h : g.Sprouted g') {path : List (Matrix R)} (hx : g.Descends root x path) :
    g'.Descends root x path := by
  refine hx.of_kept fun y m _ hm => ?_
  rcases h y m hm with ⟨ids, hm'⟩
  exact ⟨_, hm', rfl, List.subset_append_left m.children ids⟩

end SceneGraph.Sprouted

section

variable {root x : NodeId} {s t : Session R}

/-- A session in which bodies for some nodes hang under the root of a tree, and nothing else has changed. -/
structure Bodied (root : NodeId) (made : NodeId → Option (Snapshot Geometry R)) (n : Node R)
    (done : List NodeId) (s t : Session R) : Prop where
  fit : Fit t
  resources : t.stage.resources = s.stage.resources
  disk : t.disk = s.disk
  catalogs : t.shelf.catalogs = s.shelf.catalogs
  packedScenes : t.shelf.packedScenes = s.shelf.packedScenes
  size_le : s.stage.graph.size ≤ t.stage.graph.size
  old : ∀ y m, y ≠ root → s.stage.graph.node? y = some m → t.stage.graph.node? y = some m
  below : ∃ ids bodies, t.stage.graph.node? root = some { n with children := n.children ++ ids } ∧
    (∀ id ∈ ids, s.stage.graph.size ≤ id.index) ∧ ids.mapM t.stage.snapshot? = some bodies ∧
    List.Forall₂ (fun y body => made y = some body) done bodies

namespace Bodied

variable {made : NodeId → Option (Snapshot Geometry R)} {n : Node R} {done : List NodeId}

theorem start (hs : Fit s) (hn : s.stage.graph.node? root = some n) : Bodied root made n [] s s :=
  ⟨hs, rfl, rfl, rfl, rfl, Nat.le_refl _, fun _ _ _ hm => hm, [], [], by simpa using hn, by simp, rfl, .nil⟩

theorem sprouted (h : Bodied root made n done s t) (hn : s.stage.graph.node? root = some n) :
    s.stage.graph.Sprouted t.stage.graph := by
  intro y m hm
  by_cases hy : y = root
  · subst hy
    cases hm.symm.trans hn
    rcases h.below with ⟨ids, bodies, hroot, -⟩
    exact ⟨ids, hroot⟩
  · exact ⟨[], by simpa using h.old y m hy hm⟩

end Bodied

end

/-! ## One more body -/

/-- A session has gained one more body, and nothing else has changed but its journal. -/
structure GainsBody [Zero R] [One R] (scene root : NodeId) (name : Json) (transform : Matrix R)
    (layer mask : Int) (shape : Shape) (t t' : Session R) : Prop where
  graph : t'.stage.graph = Collision.addBody scene root name transform layer mask shape t.stage.graph
  resources : t'.stage.resources = t.stage.resources
  disk : t'.disk = t.disk
  shelf : t'.shelf = t.shelf

namespace GainsBody

variable [Zero R] [One R] {scene root : NodeId} {name : Json} {transform : Matrix R} {layer mask : Int}
  {shape : Shape} {t t' : Session R}

theorem node?_of_old (h : GainsBody scene root name transform layer mask shape t t')
    (hroot : root.index < t.stage.graph.size) {y : NodeId} (hy : y ≠ root)
    (hlt : y.index < t.stage.graph.size) : t'.stage.graph.node? y = t.stage.graph.node? y := by
  rw [h.graph, node?_addBody hroot, if_neg (by omega), if_neg (by omega), if_neg hy]

theorem node?_root (h : GainsBody scene root name transform layer mask shape t t')
    {n : Node R} (hn : t.stage.graph.node? root = some n) : t'.stage.graph.node? root =
      some { n with children := n.children ++ [⟨t.stage.graph.size⟩] } := by
  have hroot := index_lt_of_node? hn
  rw [h.graph, node?_addBody hroot, if_neg (by omega), if_neg (by omega), if_pos rfl, hn]
  rfl

theorem node?_body (h : GainsBody scene root name transform layer mask shape t t')
    (hroot : root.index < t.stage.graph.size) : t'.stage.graph.node? ⟨t.stage.graph.size⟩ = some
      { name := .str (name.display ++ "_StaticBody"), transform, payload := .staticBody layer mask
        parent := some root, owner := some scene, children := [⟨t.stage.graph.size + 1⟩] } := by
  rw [h.graph, node?_addBody hroot, if_pos rfl]

theorem node?_hull (h : GainsBody scene root name transform layer mask shape t t')
    (hroot : root.index < t.stage.graph.size) : t'.stage.graph.node? ⟨t.stage.graph.size + 1⟩ = some
      { name := .str "CollisionShape", transform := Matrix.identity
        payload := .collisionShape (some shape), parent := some ⟨t.stage.graph.size⟩, owner := some scene } := by
  rw [h.graph, node?_addBody hroot, if_neg (by simp), if_pos rfl]

theorem size_eq (h : GainsBody scene root name transform layer mask shape t t') :
    t'.stage.graph.size = t.stage.graph.size + 2 := by
  rw [h.graph, size_addBody]

theorem name_eq (h : GainsBody scene root name transform layer mask shape t t')
    (hroot : root.index < t.stage.graph.size) {y : NodeId} (hlt : y.index < t.stage.graph.size) :
    t'.stage.graph.name y = t.stage.graph.name y := by
  rcases exists_node?_iff.2 hlt with ⟨m, hm⟩
  by_cases hy : y = root
  · subst hy
    rw [name_of_node? hm, name_of_node? (h.node?_root hm)]
  · rw [name_of_node? hm, name_of_node? ((h.node?_of_old hroot hy hlt).trans hm)]

/-- A node with an owner or a mesh was there before, or it is part of the body. -/
theorem cases_of_node? (h : GainsBody scene root name transform layer mask shape t t')
    (hroot : root.index < t.stage.graph.size) {y : NodeId} {m : Node R}
    (hm : t'.stage.graph.node? y = some m) :
    (∃ k, t.stage.graph.node? y = some k ∧ m.owner = k.owner ∧ m.payload = k.payload) ∨
      (m.owner = some scene ∧ m.payload.meshInstance? = none) := by
  rw [h.graph, node?_addBody hroot] at hm
  split_ifs at hm
  · cases hm
    exact Or.inr ⟨rfl, rfl⟩
  · cases hm
    exact Or.inr ⟨rfl, rfl⟩
  · rcases Option.map_eq_some_iff.1 hm with ⟨k, hk, rfl⟩
    exact Or.inl ⟨k, hk, rfl, rfl⟩
  · exact Or.inl ⟨m, hm, rfl, rfl⟩

theorem fit (h : GainsBody scene root name transform layer mask shape t t') (ht : Fit t)
    (hroot : root.index < t.stage.graph.size) (hscene : scene.index < t.stage.graph.size) : Fit t' where
  linked := by
    rw [h.graph]
    exact ht.linked.addBody hroot
  owned := by
    intro y m owner hm howner
    rw [h.size_eq]
    rcases h.cases_of_node? hroot hm with ⟨k, hk, hsame, -⟩ | ⟨hbody, -⟩
    · have hlt := ht.owned y k owner hk (hsame ▸ howner)
      omega
    · cases howner.symm.trans hbody
      omega
  orderly := by
    refine ⟨fun y mesh hmesh => ?_, h.shelf ▸ ht.orderly.listed, h.shelf ▸ h.resources ▸ ht.orderly.holds⟩
    rcases Option.bind_eq_some_iff.1 hmesh with ⟨i, hi, himesh⟩
    rcases Option.bind_eq_some_iff.1 hi with ⟨m, hm, hpayload⟩
    rw [h.resources]
    -- bodies have no meshes
    rcases h.cases_of_node? hroot hm with ⟨k, hk, -, hsame⟩ | ⟨-, hnone⟩
    · exact ht.orderly.sound.payload hk i mesh (hsame ▸ hpayload) himesh
    · cases hnone.symm.trans hpayload
  onDisk := by
    rw [h.shelf, h.disk]
    exact ht.onDisk

/-- The body is dumped as such. -/
theorem dump (h : GainsBody scene root name transform layer mask shape t t') (hlinked : t'.stage.graph.Linked)
    (hroot : root.index < t.stage.graph.size) (hscene : scene.index < t.stage.graph.size) :
    t'.stage.snapshot? ⟨t.stage.graph.size⟩ =
      some (bodyTree (t.stage.graph.name scene) name transform layer mask shape) := by
  have hbody := h.node?_body hroot
  have hhull := h.node?_hull hroot
  have hname := h.name_eq hroot hscene
  have hhullDump : t'.stage.snapshot? ⟨t.stage.graph.size + 1⟩ = some
      (.node (.str "CollisionShape") Matrix.identity (.collisionShape (some shape))
        (some (t.stage.graph.name scene)) false []) := by
    rw [Stage.snapshot?_eq hlinked, Stage.head?_of_node? hhull, children_of_node? hhull]
    simp [Stage.headOf, Snapshot.Head.node, Stage.payloadValue, Payload.map, hname]
  rw [Stage.snapshot?_eq hlinked, Stage.head?_of_node? hbody, children_of_node? hbody]
  simp [Stage.headOf, Snapshot.Head.node, Stage.payloadValue, Payload.map, hname, hhullDump, bodyTree]

/-- A tree that was there and does not hold the root is dumped as before. -/
theorem snapshot?_of_old (h : GainsBody scene root name transform layer mask shape t t') (ht : Fit t)
    (hlinked : t'.stage.graph.Linked) (hroot : root.index < t.stage.graph.size) {y : NodeId}
    (hy : y.index < t.stage.graph.size) (hout : ¬ t.stage.graph.Within y root) :
    t'.stage.snapshot? y = t.stage.snapshot? y := by
  refine Stage.snapshot?_congr ht.linked hlinked fun x hx => ?_
  have hlt := ht.linked.index_lt_of_within hx hy
  have hne : x ≠ root := by
    rintro rfl
    exact hout hx
  have hnode := h.node?_of_old hroot hne hlt
  refine ⟨Stage.head?_of_same ht.orderly.sound (h.resources ▸ .refl _) hnode fun owner howner => ?_, ?_⟩
  · rcases Option.bind_eq_some_iff.1 howner with ⟨m, hm, howner⟩
    exact h.name_eq hroot (ht.owned x m owner hm howner)
  · rw [SceneGraph.children, hnode, SceneGraph.children]

end GainsBody

/-! ## Bodies for mesh instances -/

variable [Zero R] [One R] [Add R] [Mul R] {context : PassContext R}
  {bake : MeshValue → Matrix R → Float → Option MeshValue} {root x : NodeId} {s s' t t' : Session R}
  {d : Snapshot Geometry R}

/-- The body for a live mesh instance, if it can be given one. -/
def PassContext.bodyOf (context : PassContext R) (root : NodeId) (s : Session R) (x : NodeId) :
    Option (Snapshot Geometry R) :=
  (context.grammar.nameAttributes (s.stage.graph.name x)).toOption.bind fun attributes =>
    (Collision.shapeOf s.stage.graph s.stage.resources attributes x).toOption.bind fun shape =>
      (s.stage.graph.relativeTransform x root).toOption.map fun transform =>
        bodyTree (s.stage.graph.name context.scene) (s.stage.graph.name x) transform
          (Collision.bits attributes .collisionLayer) (Collision.bits attributes .collisionMask) shape

theorem embodiable_iff : Embodiable context root x s ↔ ∃ body, context.bodyOf root s x = some body := by
  unfold PassContext.bodyOf
  simp only [Option.bind_eq_some_iff, Option.map_eq_some_iff, toOption_eq_some_iff]
  constructor
  · rintro ⟨⟨attributes, shape, hattributes, hshape⟩, transform, htransform⟩
    exact ⟨_, attributes, hattributes, shape, hshape, transform, htransform, rfl⟩
  · rintro ⟨_, attributes, hattributes, shape, hshape, transform, htransform, -⟩
    exact ⟨⟨attributes, shape, hattributes, hshape⟩, transform, htransform⟩

/-- The body for a live mesh instance is that for its dump. -/
theorem bodyOf_eq (bake : MeshValue → Matrix R → Float → Option MeshValue) {p : Snapshot.Placed R}
    {i : MeshInstance Geometry Material} (hg : s.stage.graph.Linked) (hp : s.stage.Meets root x p)
    (hi : p.2.head.payload.meshInstance? = some i) :
    context.bodyOf root s x =
      (context.rules bake s).body (s.stage.graph.name context.scene) p.1 p.2.head.name i := by
  rcases (Stage.snapshot?_eq_some_iff hg).1 hp.dump with ⟨v, ds, hv, -, hd⟩
  rw [hd, Snapshot.head_node] at hi ⊢
  have hx : x.index < s.stage.graph.size := Stage.exists_head?_iff.1 ⟨v, hv⟩
  have hfigure : s.stage.figure? x = some i := by rw [Stage.figure?_eq, hv, Option.bind_some, hi]
  unfold PassContext.bodyOf Rules.body
  rw [Stage.name_of_head? hv, hp.descends.relativeTransform_eq hg hx]
  show (context.grammar.nameAttributes v.name).toOption.bind _ =
    (context.grammar.nameAttributes v.name).toOption.bind _
  congr 1
  funext attributes
  rw [toOption_shapeOf, hfigure]
  show (i.shape? attributes).bind _ = (i.shape? attributes).map _
  cases i.shape? attributes <;> rfl

/-! ## Going through the collidable nodes -/

/-- The bodies that are there do not change what body a node is given. -/
theorem Bodied.bodyOf_eq {made : NodeId → Option (Snapshot Geometry R)} {n : Node R} {done : List NodeId}
    (h : Bodied root made n done s t) (hs : s.stage.graph.Linked)
    (hn : s.stage.graph.node? root = some n) (hscene : context.scene.index < s.stage.graph.size)
    {path : List (Matrix R)} (hx : s.stage.graph.Descends root x path) :
    context.bodyOf root t x = context.bodyOf root s x := by
  have hroot := index_lt_of_node? hn
  have hlt := hs.index_lt_of_within hx.within hroot
  have hsprouted := h.sprouted hn
  unfold PassContext.bodyOf Collision.shapeOf
  rw [hsprouted.name_eq hlt, hsprouted.name_eq hscene, h.resources, hsprouted.mesh?_eq hlt,
    hx.relativeTransform_eq hs hlt, (hsprouted.descends hx).relativeTransform_eq h.fit.linked (hlt.trans_le h.size_le)]

theorem gainsBody_of_embodied {id : NodeId} (h : Embodied context root id t t') :
    ∃ attributes shape transform, context.grammar.nameAttributes (t.stage.graph.name id) = .ok attributes ∧
      Collision.shapeOf t.stage.graph t.stage.resources attributes id = .ok shape ∧
      t.stage.graph.relativeTransform id root = .ok transform ∧
      GainsBody context.scene root (t.stage.graph.name id) transform
        (Collision.bits attributes .collisionLayer) (Collision.bits attributes .collisionMask) shape t t' := by
  cases h with
  | added hattributes hshape htransform journal =>
      exact ⟨_, _, _, hattributes, hshape, htransform, rfl, rfl, rfl, rfl⟩

section

variable {n : Node R} {done : List NodeId} {path : List (Matrix R)}

/-- One more node is given its body. -/
theorem Bodied.snoc (h : Bodied root (context.bodyOf root s) n done s t) (hs : s.stage.graph.Linked)
    (hn : s.stage.graph.node? root = some n) (hscene : context.scene.index < s.stage.graph.size)
    (hx : s.stage.graph.Descends root x path) (hround : Embodied context root x t t') :
    Bodied root (context.bodyOf root s) n (done ++ [x]) s t' := by
  obtain ⟨attributes, shape, transform, hattributes, hshape, htransform, hgains⟩ :=
    gainsBody_of_embodied hround
  have hroot := (index_lt_of_node? hn).trans_le h.size_le
  have hscene' := hscene.trans_le h.size_le
  have hfit := hgains.fit h.fit hroot hscene'
  rcases h.below with ⟨ids, bodies, hbelow, hnew, hdumps, hall⟩
  have hmade : context.bodyOf root s x = some (bodyTree (t.stage.graph.name context.scene)
      (t.stage.graph.name x) transform (Collision.bits attributes .collisionLayer)
      (Collision.bits attributes .collisionMask) shape) := by
    rw [← h.bodyOf_eq hs hn hscene hx]
    unfold PassContext.bodyOf
    rw [hattributes, htransform]
    simp only [Except.toOption, Option.bind_some, hshape, Option.map_some]
  -- the bodies that were there lie below the root and do not hold it
  have hkept : ids.mapM t'.stage.snapshot? = some bodies := by
    rw [← hdumps]
    refine mapM_congr fun id hid => ?_
    have hchild : id ∈ t.stage.graph.children root := by
      rw [children_of_node? hbelow]
      exact List.mem_append_right n.children hid
    exact hgains.snapshot?_of_old h.fit hfit.linked hroot (h.fit.linked.index_lt_of_mem_children hchild).2
      (h.fit.linked.not_within_parent hchild)
  refine ⟨hfit, hgains.resources.trans h.resources, hgains.disk.trans h.disk,
    (congrArg Shelf.catalogs hgains.shelf).trans h.catalogs,
    (congrArg Shelf.packedScenes hgains.shelf).trans h.packedScenes, ?_, ?_, ids ++ [⟨t.stage.graph.size⟩],
    bodies ++ [_], ?_, ?_, ?_, List.rel_append hall (.cons hmade .nil)⟩
  · rw [hgains.size_eq]
    exact h.size_le.trans (Nat.le_add_right _ 2)
  · intro y m hy hm
    have ht := h.old y m hy hm
    rw [hgains.node?_of_old hroot hy (index_lt_of_node? ht), ht]
  · rw [hgains.node?_root hbelow, List.append_assoc]
  · intro id hid
    rcases List.mem_append.1 hid with hold | hlast
    · exact hnew id hold
    · rw [List.mem_singleton.1 hlast]
      exact h.size_le
  · rw [List.mapM_append, hkept]
    have hlast := hgains.dump hfit.linked hroot hscene'
    rw [List.mapM_cons, hlast]
    rfl

/-- Nodes are given bodies one after another if all of them can be. -/
theorem settles_makeBodies (hs : Fit s) (hn : s.stage.graph.node? root = some n)
    (hscene : context.scene.index < s.stage.graph.size) (ids : List NodeId)
    (hids : ∀ x ∈ ids, ∃ path, s.stage.graph.Descends root x path) :
    Settles (ids.forM (Collision.makeBody context root)) s
      (∀ x ∈ ids, ∃ body, context.bodyOf root s x = some body)
      (Bodied root (context.bodyOf root s) n ids s) := by
  refine forM_settles_prefix (I := fun done t => Bodied root (context.bodyOf root s) n done s t) _
    (.start hs hn) ?_
  intro before x after t hsplit ht
  rcases hids x (by simp [hsplit]) with ⟨path, hx⟩
  refine (settles_makeBody context root x t).congr ?_ fun t' _ hround =>
    ht.snoc hs.linked hn hscene hx hround
  rw [embodiable_iff, ht.bodyOf_eq hs.linked hn hscene hx]

end

end LevelPrep
