import LevelPrep.Proofs.Scene.Exporting
import LevelPrep.Proofs.Scene.Views

/-!
# Exports of trees that look the same

The same tree can stand at other nodes of another stage.  What is exported of it is the same (`exportFrames_eq`):
the two exports go through nodes that mirror each other, level by level, and so they issue the same names for them.
The stages may be of different sizes, as more fuel than enough makes no difference (`Export.framesBelow_add`).
-/

namespace LevelPrep

variable {R : Type} {stage stage' : Stage R}

open SceneGraph

/-! ## Nodes that show the same -/

/-- Two nodes show the same tree, each on its stage. -/
def Stage.Mirrors (stage stage' : Stage R) (x x' : NodeId) : Prop :=
  ∃ branch, stage.Shows branch x ∧ stage'.Shows branch x'

/-- What the surfaces of a payload carry. -/
def Payload.shownGeometry {G M : Type} (payload : Payload G M) : List G :=
  ((payload.meshInstance?.bind (·.mesh)).map fun mesh => mesh.surfaces.map (·.geometry)).getD []

theorem Stage.shownGeometry_of_node? {x : NodeId} {n : Node R} (hn : stage.graph.node? x = some n) :
    stage.shownGeometry x = (stage.payloadValue n).shownGeometry := by
  have hmesh : stage.graph.mesh? x = n.payload.meshInstance?.bind (·.mesh) := by
    simp [SceneGraph.mesh?, SceneGraph.meshInstance?, hn]
  unfold shownGeometry payloadValue Payload.shownGeometry
  rw [hmesh]
  cases n.payload with
  | meshInstance i =>
      rcases i with ⟨_ | mesh, _⟩
      · rfl
      · simp [Payload.meshInstance?, Payload.map, Mesh.map, Surface.map]
  | plain | staticBody | collisionShape => rfl

theorem Stage.mirrors_of_allShow : ∀ {branches : List (Branch R)} {ids ids' : List NodeId},
    stage.AllShow branches ids → stage'.AllShow branches ids' → List.Forall₂ (stage.Mirrors stage') ids ids'
  | [], _, _, h, h' => by
      subst h
      subst h'
      exact .nil
  | branch :: rest, _, _, h, h' => by
      rcases h with ⟨id, later, rfl, hshows, hrest⟩
      rcases h' with ⟨id', later', rfl, hshows', hrest'⟩
      exact .cons ⟨branch, hshows, hshows'⟩ (mirrors_of_allShow hrest hrest')

/-- Nodes that show the same tree agree in all that an export looks at, and so do their children. -/
theorem Stage.Mirrors.exists_nodes {x x' : NodeId} (h : stage.Mirrors stage' x x') :
    ∃ n n', stage.graph.node? x = some n ∧ stage'.graph.node? x' = some n' ∧ n'.name = n.name ∧
      n'.transform = n.transform ∧ stage'.shownGeometry x' = stage.shownGeometry x ∧
      List.Forall₂ (stage.Mirrors stage') (stage.graph.children x) (stage'.graph.children x') := by
  rcases h with ⟨⟨name, transform, payload, children⟩, ⟨n, hn, rfl, rfl, rfl, hchildren⟩,
    ⟨n', hn', hname, htransform, hpayload, hchildren'⟩⟩
  refine ⟨n, n', hn, hn', hname, htransform, ?_, ?_⟩
  · rw [shownGeometry_of_node? hn, shownGeometry_of_node? hn', hpayload]
  · rw [children_of_node? hn, children_of_node? hn']
    exact mirrors_of_allShow hchildren hchildren'

namespace Export

/-! ## Frames that are issued for mirrored nodes -/

/-- Places in two trees: nodes that show the same, each with the frame of the same name. -/
def SamePlace (stage stage' : Stage R) (place place' : NodeId × Json) : Prop :=
  stage.Mirrors stage' place.1 place'.1 ∧ place'.2 = place.2

/-- The same frames, issued for nodes that show the same. -/
structure SameFrames (stage stage' : Stage R) (p p' : NodeFrames R) : Prop where
  node : stage.Mirrors stage' p.node p'.node
  parent : p'.parent = p.parent
  frame : p'.frame = p.frame
  transform : p'.transform = p.transform
  surfaces : p'.surfaces = p.surfaces

/-- What is read off the same frames is the same. -/
theorem map_eq_of_sameFrames {β : Type} {ps ps' : List (NodeFrames R)} {f f' : NodeFrames R → β}
    (hf : ∀ p p', SameFrames stage stage' p p' → f' p' = f p) (h : List.Forall₂ (SameFrames stage stage') ps ps') :
    ps'.map f' = ps.map f := by
  induction h with
  | nil => rfl
  | cons hp _ ih => rw [List.map_cons, List.map_cons, hf _ _ hp, ih]

theorem flatMap_eq_of_sameFrames {β : Type} {ps ps' : List (NodeFrames R)} {f : NodeFrames R → List β}
    (hf : ∀ p p', SameFrames stage stage' p p' → f p' = f p) (h : List.Forall₂ (SameFrames stage stage') ps ps') :
    ps'.flatMap f = ps.flatMap f := by
  rw [List.flatMap_def, List.flatMap_def, map_eq_of_sameFrames hf h]

theorem SameFrames.names_eq {p p' : NodeFrames R} (h : SameFrames stage stage' p p') : p'.names = p.names := by
  rw [NodeFrames.names, NodeFrames.names, h.frame, h.surfaces]

theorem SameFrames.geometries_eq {p p' : NodeFrames R} (h : SameFrames stage stage' p p') :
    p'.geometries = p.geometries := by
  rw [NodeFrames.geometries, NodeFrames.geometries, h.surfaces]

theorem SameFrames.links_eq [Zero R] [One R] {p p' : NodeFrames R} (h : SameFrames stage stage' p p') :
    p'.links = p.links := by
  rw [NodeFrames.links, NodeFrames.links, h.frame, h.parent, h.transform, h.surfaces]

theorem sameFrames_framesOf {level level' : List (NodeId × Json)} (taken : List Json)
    (h : List.Forall₂ (SamePlace stage stage') level level') :
    List.Forall₂ (SameFrames stage stage') (framesOf stage taken level) (framesOf stage' taken level') := by
  induction h generalizing taken with
  | nil => exact .nil
  | @cons place place' rest rest' hplace _ ih =>
      obtain ⟨x, parent⟩ := place
      obtain ⟨x', parent'⟩ := place'
      rcases hplace with ⟨hmirrors, hparent⟩
      rcases hmirrors.exists_nodes with ⟨n, n', hn, hn', hname, htransform, hshown, -⟩
      have hframes : SameFrames stage stage' (nodeFrames stage taken parent x n)
          (nodeFrames stage' taken parent' x' n') := by
        refine ⟨hmirrors, hparent, ?_, htransform, ?_⟩
        · simp only [nodeFrames, hname]
        · simp only [nodeFrames, hname, hshown]
      rw [framesOf, framesOf, hn, hn']
      dsimp only
      -- the same names are taken for the nodes that follow
      rw [hframes.names_eq]
      exact .cons hframes (ih _)

theorem samePlace_nextLevel {level level' : List (NodeId × Json)}
    (h : List.Forall₂ (SamePlace stage stage') level level') :
    List.Forall₂ (SamePlace stage stage') (nextLevel stage level) (nextLevel stage' level') := by
  induction h with
  | nil => exact .nil
  | @cons place place' rest rest' hplace _ ih =>
      rcases hplace.1.exists_nodes with ⟨-, -, -, -, -, -, -, hchildren⟩
      refine List.rel_append ?_ ih
      rw [List.forall₂_map_left_iff, List.forall₂_map_right_iff]
      exact hchildren.imp fun child child' hchild => ⟨hchild, hplace.2⟩

theorem sameFrames_framesBelow {level level' : List (NodeId × Json)} (fuel : Nat) (taken : List Json)
    (h : List.Forall₂ (SamePlace stage stage') level level') :
    List.Forall₂ (SameFrames stage stage') (framesBelow stage fuel taken level)
      (framesBelow stage' fuel taken level') := by
  induction fuel generalizing taken level level' with
  | zero => exact .nil
  | succ fuel ih =>
      have hnext := sameFrames_framesOf taken (samePlace_nextLevel h)
      rw [framesBelow, framesBelow, flatMap_eq_of_sameFrames (fun p p' hp => hp.names_eq) hnext]
      refine List.rel_append hnext (ih _ ?_)
      rw [List.forall₂_map_left_iff, List.forall₂_map_right_iff]
      exact hnext.imp fun p p' hp => ⟨hp.node, hp.frame⟩

/-! ## Fuel -/

theorem framesBelow_add (hg : stage.graph.Linked) {rank : NodeId → Nat} {fuel : Nat} {taken : List Json}
    {level : List (NodeId × Json)}
    (hcov : stage.graph.Covered rank fuel ((level.map (·.1)).flatMap stage.graph.children)) (more : Nat) :
    framesBelow stage (fuel + more) taken level = framesBelow stage fuel taken level := by
  induction fuel generalizing taken level with
  | zero =>
      -- without fuel the level is covered only if there is nothing below it
      have hempty : nextLevel stage level = [] := by
        have hnone := hcov.eq_nil
        rw [← map_fst_nextLevel] at hnone
        exact List.map_eq_nil_iff.1 hnone
      cases more with
      | zero => rfl
      | succ more => simp [framesBelow, hempty, framesOf]
  | succ fuel ih =>
      rw [Nat.add_right_comm, framesBelow, framesBelow, ih]
      rw [List.map_map]
      show stage.graph.Covered rank fuel
        (((framesOf stage taken (nextLevel stage level)).map (·.node)).flatMap stage.graph.children)
      rw [map_node_nextLevel hg]
      exact hcov.next hg

/-! ## Whole exports -/

variable {root root' : NodeId}

/-- The same tree is issued the same frames wherever it stands. -/
theorem sameFrames_framesOfTree (hg : stage.graph.Linked) (hg' : stage'.graph.Linked)
    (h : stage.Mirrors stage' root root') :
    List.Forall₂ (SameFrames stage stage') (framesOfTree stage root) (framesOfTree stage' root') := by
  -- both exports are given as much fuel as the two together have
  have hfuel : ∀ {other : Stage R}, other.graph.Linked → ∀ (x : NodeId) (more : Nat),
      framesOfTree other x = framesBelow other (other.graph.size + 1 + more) [] [(x, .str baseFrame)] := by
    intro other hother x more
    rcases hother.exists_covered x with ⟨rank, hcov⟩
    have hcovered : other.graph.Covered rank (other.graph.size + 1)
        (([(x, Json.str baseFrame)].map (·.1)).flatMap other.graph.children) := by
      refine ⟨hcov.grows, hcov.bounded, fun y hy => hcov.inside y (by simpa using hy), fun y hy => ?_⟩
      have hle := hcov.enough y (by simpa using hy)
      omega
    exact (framesBelow_add hother hcovered more).symm
  rw [hfuel hg root stage'.graph.size, hfuel hg' root' stage.graph.size,
    show stage'.graph.size + 1 + stage.graph.size = stage.graph.size + 1 + stage'.graph.size by omega]
  exact sameFrames_framesBelow _ _ (.cons ⟨h, rfl⟩ .nil)

theorem ofTree_eq_of_mirrors [Zero R] [One R] (hg : stage.graph.Linked) (hg' : stage'.graph.Linked)
    (h : stage.Mirrors stage' root root') : ofTree stage' root' = ofTree stage root := by
  have hframes := sameFrames_framesOfTree hg hg' h
  rw [ofTree_eq, ofTree_eq, flatMap_eq_of_sameFrames (fun p p' hp => hp.links_eq) hframes,
    flatMap_eq_of_sameFrames (fun p p' hp => hp.geometries_eq) hframes]

/-- The names of the nodes that are gone through are the same. -/
theorem map_name_descendants (hg : stage.graph.Linked) (hg' : stage'.graph.Linked)
    (h : stage.Mirrors stage' root root') :
    (stage'.graph.descendants root').map stage'.graph.name = (stage.graph.descendants root).map stage.graph.name := by
  have hframes := sameFrames_framesOfTree hg hg' h
  rw [← map_node_framesOfTree hg, ← map_node_framesOfTree hg', List.map_map, List.map_map]
  refine map_eq_of_sameFrames (fun p p' hp => ?_) hframes
  rcases hp.node.exists_nodes with ⟨n, n', hn, hn', hname, -⟩
  show stage'.graph.name p'.node = stage.graph.name p.node
  rw [name_of_node? hn, name_of_node? hn', hname]

theorem ofNamedTree_eq_of_mirrors [Zero R] [One R] (hg : stage.graph.Linked) (hg' : stage'.graph.Linked)
    (h : stage.Mirrors stage' root root') : ofNamedTree stage' root' = ofNamedTree stage root := by
  have hcheck : ∀ (other : Stage R) (ids : List NodeId),
      (ids.forM fun id => (other.graph.name id).checkKey) = (ids.map other.graph.name).forM Json.checkKey := by
    intro other ids
    induction ids with
    | nil => rfl
    | cons id rest ih => exact congrArg (fun later => (other.graph.name id).checkKey >>= fun _ => later) ih
  unfold ofNamedTree
  rw [hcheck, hcheck, map_name_descendants hg hg' h, ofTree_eq_of_mirrors hg hg' h]

end Export

/-- What is exported of a tree depends on nothing but what the tree looks like. -/
theorem exportFrames_eq {stage stage' : Stage Float} {root root' : NodeId} (hg : stage.graph.Linked)
    (hg' : stage'.graph.Linked) (h : stage.Mirrors stage' root root') (upright : Bool) :
    exportFrames stage' root' upright = exportFrames stage root upright := by
  unfold exportFrames
  rw [Export.ofNamedTree_eq_of_mirrors hg hg' h]

end LevelPrep
