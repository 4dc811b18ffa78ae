import LevelPrep.Proofs.Pass.Placing
import LevelPrep.Proofs.Scene.Depths
import LevelPrep.Proofs.Scene.Planting

/-!
# Climbing

A climb goes from parent to parent until it comes to the ancestor it looks for, or past the root (`Climbs`).  In a tree
whose nodes know their parents it ends, and it finds exactly the nodes on the way up (`climbs_of_descends`,
`climbs_none`).  What it has multiplied is the product of the transforms on the way down from the ancestor, so the
transforms relative to the nodes on one way compose (`relativeTransform_composes`).
-/

namespace LevelPrep.SceneGraph

variable {R : Type} {g : SceneGraph R} {root node ancestor x : NodeId}

/-! ## Rooted trees -/

/-- What lies below a node is a tree, the root has no parent, and every other node of the tree knows its parent. -/
structure RootedTree (g : SceneGraph R) (root : NodeId) : Prop extends g.TreeBelow root where
  known : root.index < g.size
  parent?_root : g.parent? root = none
  parent?_child : ∀ parent child, g.Within root parent → child ∈ g.children parent → g.parent? child = some parent

/-- In a tree no node is the child of one that lies below it. -/
theorem TreeBelow.notMem_children (h : g.TreeBelow root) (hancestor : g.Within root ancestor)
    (hx : g.Within ancestor x) : ancestor ∉ g.children x := by
  intro hchild
  rcases hancestor.exists_lies with ⟨depth, hdepth⟩
  rcases hx.exists_lies with ⟨more, hmore⟩
  have heq := h.depth_unique hdepth ((hdepth.trans hmore).child hchild)
  omega

/-- A tree of a linked graph that does not hang under another node is one. -/
theorem Linked.rootedTree (hg : g.Linked) (hknown : root.index < g.size) (hroot : g.parent? root = none) :
    g.RootedTree root where
  toTreeBelow := hg.treeBelow root
  known := hknown
  parent?_root := hroot
  parent?_child parent child _ hchild := (hg.mem_children_iff parent child).1 hchild

namespace RootedTree

theorem exists_node? (h : g.RootedTree root) (hx : g.Within root x) : ∃ n, g.node? x = some n := by
  rcases hx.eq_or_exists_parent with rfl | ⟨parent, hparent, hchild⟩
  · exact exists_node?_iff.2 h.known
  · rcases exists_node?_of_parent? (h.parent?_child parent x hparent hchild) with ⟨n, hn, -⟩
    exact ⟨n, hn⟩

theorem parent_of_root (h : g.RootedTree root) {n : Node R} (hn : g.node? root = some n) : n.parent = none := by
  rw [← parent?_of_node? hn]
  exact h.parent?_root

theorem parent_of_child (h : g.RootedTree root) {parent child : NodeId} (hparent : g.Within root parent)
    (hchild : child ∈ g.children parent) {n : Node R} (hn : g.node? child = some n) : n.parent = some parent := by
  rw [← parent?_of_node? hn]
  exact h.parent?_child parent child hparent hchild

theorem exists_descends (h : g.RootedTree root) (hancestor : g.Within root ancestor) (hx : g.Within ancestor x) :
    ∃ path, g.Descends ancestor x path := by
  induction hx with
  | refl => exact ⟨[], .root⟩
  | tail hparent hchild ih =>
      rcases ih with ⟨path, hpath⟩
      rcases h.exists_node? ((hancestor.trans hparent).child hchild) with ⟨n, hn⟩
      exact ⟨path ++ [n.transform], hpath.child hchild hn⟩

end RootedTree

/-! ## Climbs -/

section

variable [Add R] [Mul R]

/-- A climb from a node, if there is one, to an ancestor; `below` is the product of the transforms so far.  It has found
the ancestor, or there is no node left to go on from. -/
inductive Climbs (g : SceneGraph R) (ancestor : NodeId) :
    (current : Option NodeId) → (below : Matrix R) → (outcome : Option (Matrix R)) → Prop
  | arrived (below : Matrix R) : Climbs g ancestor (some ancestor) below (some below)
  | lost (below : Matrix R) : Climbs g ancestor none below none
  | up {current : NodeId} {n : Node R} {below : Matrix R} {outcome : Option (Matrix R)} (hne : current ≠ ancestor)
      (hn : g.node? current = some n) (h : Climbs g ancestor n.parent (n.transform * below) outcome) :
      Climbs g ancestor (some current) below outcome

/-- The climb from a node to one above it multiplies the transforms on the way. -/
theorem climbs_of_descends (hg : g.RootedTree root) (hancestor : g.Within root ancestor) {path : List (Matrix R)}
    (h : g.Descends ancestor node path) (below : Matrix R) :
    g.Climbs ancestor (some node) below (some (path.foldr (· * ·) below)) := by
  induction h generalizing below with
  | root => exact .arrived below
  | @child x child n path hx hchild hn ih =>
      have hne : child ≠ ancestor := by
        rintro rfl
        exact hg.notMem_children hancestor hx.within hchild
      rw [List.foldr_append]
      refine .up hne hn ?_
      rw [hg.parent_of_child (hancestor.trans hx.within) hchild hn]
      exact ih (n.transform * below)

/-- The climb to a node that is not above leads past the root. -/
theorem climbs_none (hg : g.RootedTree root) (hnode : g.Within root node) (hother : ¬ g.Within ancestor node)
    (below : Matrix R) : g.Climbs ancestor (some node) below none := by
  have hne : ∀ {y}, ¬ g.Within ancestor y → y ≠ ancestor := by
    rintro y hy rfl
    exact hy (Within.refl g y)
  induction hnode generalizing below with
  | refl =>
      rcases exists_node?_iff.2 hg.known with ⟨n, hn⟩
      refine .up (hne hother) hn ?_
      rw [hg.parent_of_root hn]
      exact .lost _
  | @tail parent child hparent hchild ih =>
      rcases hg.exists_node? (Within.child hparent hchild) with ⟨n, hn⟩
      refine .up (hne hother) hn ?_
      rw [hg.parent_of_child hparent hchild hn]
      exact ih (fun hwithin => hother (hwithin.child hchild)) _

/-- As many steps as the node lies below the root are enough for a climb. -/
theorem climb_eq_of_climbs (hg : g.RootedTree root) {depth : Nat} (hnode : g.Lies root node depth) {below : Matrix R}
    {outcome : Option (Matrix R)} (h : g.Climbs ancestor (some node) below outcome) {fuel : Nat}
    (hfuel : depth ≤ fuel) : g.climb ancestor fuel (some node) below = outcome := by
  induction hnode generalizing below fuel with
  | root =>
      cases h with
      | arrived => exact climb_self fuel below
      | @up _ n _ _ hne hn h =>
          -- there is nothing above the root, so a climb that comes by it has failed
          rw [hg.parent_of_root hn] at h
          cases h
          cases fuel with
          | zero => rw [climb, if_neg hne]
          | succ fuel => rw [climb_up hne hn, hg.parent_of_root hn, climb_none]
  | @child parent child depth hparent hchild ih =>
      cases h with
      | arrived => exact climb_self fuel below
      | @up _ n _ _ hne hn h =>
          have hup := hg.parent_of_child hparent.within hchild hn
          rw [hup] at h
          -- a child lies at least one step down, so there is a step of the fuel to take
          obtain ⟨fuel, rfl⟩ : ∃ less, fuel = less + 1 := ⟨fuel - 1, by omega⟩
          rw [climb_up hne hn, hup]
          exact ih h (by omega)

/-! ## Relative transforms -/

/-- What a climb comes to as the outcome of looking for a transform. -/
def outcomeOf (g : SceneGraph R) (node ancestor : NodeId) : Option (Matrix R) → Except Fault (Matrix R)
  | some transform => .ok transform
  | none => .error (.notAncestor (g.name ancestor).display (g.name node).display)

theorem relativeTransform_of_climbs [Zero R] [One R] (hg : g.RootedTree root) (hnode : g.Within root node)
    {outcome : Option (Matrix R)} (h : g.Climbs ancestor (some node) Matrix.identity outcome) :
    g.relativeTransform node ancestor = g.outcomeOf node ancestor outcome := by
  rcases hnode.exists_lies with ⟨depth, hdepth⟩
  unfold relativeTransform
  rw [climb_eq_of_climbs hg hdepth h (hg.depth_le hdepth)]
  cases outcome <;> rfl

end

section

variable {R : Type} [Semiring R] {g : SceneGraph R} {root node ancestor : NodeId}

theorem relativeTransform_of_descends (hg : g.RootedTree root) (hancestor : g.Within root ancestor)
    {path : List (Matrix R)} (h : g.Descends ancestor node path) : g.relativeTransform node ancestor = .ok path.prod :=
  relativeTransform_of_climbs hg (hancestor.trans h.within) (climbs_of_descends hg hancestor h Matrix.identity)

/-- In a session with a tree whose nodes know their parents, let two nodes of the tree be given.  The climb from the first
to the second one ends, and it tells the transform.  There is one exactly if the second node is the first or lies above
it.  It is the product of the transforms on the way down from the second node, and the product of the transforms from and
to any node on this way.  Asking for it changes nothing. -/
theorem relativeTransform_composes {s : Session R} (hg : s.stage.graph.RootedTree root)
    (hnode : s.stage.graph.Within root node) (hancestor : s.stage.graph.Within root ancestor) :
    (∃ outcome, s.stage.graph.Climbs ancestor (some node) Matrix.identity outcome) ∧
    (∀ outcome, s.stage.graph.Climbs ancestor (some node) Matrix.identity outcome →
      s.stage.graph.relativeTransform node ancestor = s.stage.graph.outcomeOf node ancestor outcome) ∧
    ((∃ transform, s.stage.graph.relativeTransform node ancestor = .ok transform) ↔
      s.stage.graph.Within ancestor node) ∧
    (¬ s.stage.graph.Within ancestor node → s.stage.graph.relativeTransform node ancestor =
      .error (.notAncestor (s.stage.graph.name ancestor).display (s.stage.graph.name node).display)) ∧
    (s.stage.graph.Within ancestor node → ∃ path, s.stage.graph.Descends ancestor node path ∧
      s.stage.graph.relativeTransform node ancestor = .ok path.prod) ∧
    (∀ middle, s.stage.graph.Within ancestor middle → s.stage.graph.Within middle node →
      ∃ upper lower, s.stage.graph.relativeTransform middle ancestor = .ok upper ∧
        s.stage.graph.relativeTransform node middle = .ok lower ∧
        s.stage.graph.relativeTransform node ancestor = .ok (upper * lower)) ∧
    (Work.graph >>= fun g => Work.lift (g.relativeTransform node ancestor)).runIn s =
      (s.stage.graph.relativeTransform node ancestor, s) := by
  have hfound : s.stage.graph.Within ancestor node → ∃ path, s.stage.graph.Descends ancestor node path ∧
      s.stage.graph.relativeTransform node ancestor = .ok path.prod := by
    intro hwithin
    rcases hg.exists_descends hancestor hwithin with ⟨path, hpath⟩
    exact ⟨path, hpath, relativeTransform_of_descends hg hancestor hpath⟩
  have hmissed : ¬ s.stage.graph.Within ancestor node → s.stage.graph.relativeTransform node ancestor =
      .error (.notAncestor (s.stage.graph.name ancestor).display (s.stage.graph.name node).display) :=
    fun hother => relativeTransform_of_climbs hg hnode (climbs_none hg hnode hother Matrix.identity)
  refine ⟨?_, fun outcome h => relativeTransform_of_climbs hg hnode h, ⟨?_, ?_⟩, hmissed, hfound, ?_, ?_⟩
  · by_cases hwithin : s.stage.graph.Within ancestor node
    · rcases hg.exists_descends hancestor hwithin with ⟨path, hpath⟩
      exact ⟨_, climbs_of_descends hg hancestor hpath Matrix.identity⟩
    · exact ⟨none, climbs_none hg hnode hwithin Matrix.identity⟩
  · rintro ⟨transform, htransform⟩
    by_contra hother
    rw [hmissed hother] at htransform
    cases htransform
  · intro hwithin
    rcases hfound hwithin with ⟨path, -, hpath⟩
    exact ⟨path.prod, hpath⟩
  · intro middle hupper hlower
    rcases hg.exists_descends hancestor hupper with ⟨upper, hup⟩
    rcases hg.exists_descends (hancestor.trans hupper) hlower with ⟨lower, hlow⟩
    refine ⟨upper.prod, lower.prod, relativeTransform_of_descends hg hancestor hup,
      relativeTransform_of_descends hg (hancestor.trans hupper) hlow, ?_⟩
    rw [relativeTransform_of_descends hg hancestor (hup.trans hlow), List.prod_append]
  · rw [Work.runIn_bind]
    exact Work.runIn_lift _ s

end

/-! ## A crane -/

/-- A crane with a mast, on it an arm of twice the scale, on the arm a hook, and a cabin beside the mast. -/
def craneBranch : Branch Nat :=
  .node (.str "Crane") .identity .plain [
    .node (.str "Mast") ⟨⟨1, 0, 0, 0⟩, ⟨0, 1, 0, 0⟩, ⟨0, 0, 1, 3⟩, ⟨0, 0, 0, 1⟩⟩ .plain [
      .node (.str "Arm") ⟨⟨2, 0, 0, 0⟩, ⟨0, 2, 0, 0⟩, ⟨0, 0, 2, 0⟩, ⟨0, 0, 0, 1⟩⟩ .plain [
        .node (.str "Hook") ⟨⟨1, 0, 0, 4⟩, ⟨0, 1, 0, 0⟩, ⟨0, 0, 1, 0⟩, ⟨0, 0, 0, 1⟩⟩ .plain []]],
    .node (.str "Cabin") .identity .plain []]

def craneSession : Session Nat where
  stage := (Stage.plant craneBranch {}).2
  disk := { home := { anchor := .root false, parts := ["home"] } }

theorem rootedTree_crane : craneSession.stage.graph.RootedTree ⟨0⟩ :=
  (Stage.plant_spec craneBranch Linked.empty).linked.rootedTree (by decide +kernel) (by decide +kernel)

/-- The hook stands in the space of the crane as it stands on the arm and the arm in the crane; the cabin is not above
it. -/
theorem relativeTransform_composes_crane :
    craneSession.stage.graph.RootedTree ⟨0⟩ ∧ craneSession.stage.graph.Within ⟨0⟩ ⟨3⟩ ∧
      (∃ upper lower, craneSession.stage.graph.relativeTransform ⟨2⟩ ⟨0⟩ = .ok upper ∧
        craneSession.stage.graph.relativeTransform ⟨3⟩ ⟨2⟩ = .ok lower ∧
        craneSession.stage.graph.relativeTransform ⟨3⟩ ⟨0⟩ = .ok (upper * lower)) ∧
      craneSession.stage.graph.relativeTransform ⟨3⟩ ⟨0⟩ =
        .ok ⟨⟨2, 0, 0, 8⟩, ⟨0, 2, 0, 0⟩, ⟨0, 0, 2, 3⟩, ⟨0, 0, 0, 1⟩⟩ ∧
      craneSession.stage.graph.relativeTransform ⟨3⟩ ⟨4⟩ = .error (.notAncestor "Cabin" "Hook") := by
  have harm : craneSession.stage.graph.Within ⟨0⟩ ⟨2⟩ :=
    ((Within.refl _ ⟨0⟩).child (show ⟨1⟩ ∈ _ by decide +kernel)).child (by decide +kernel)
  have hbelow : craneSession.stage.graph.Within ⟨2⟩ ⟨3⟩ := (Within.refl _ ⟨2⟩).child (by decide +kernel)
  have hcabin : craneSession.stage.graph.Within ⟨0⟩ ⟨4⟩ := (Within.refl _ ⟨0⟩).child (by decide +kernel)
  have hother : ¬ craneSession.stage.graph.Within ⟨4⟩ ⟨3⟩ := by
    intro hwithin
    rcases hwithin.eq_or_exists_child with heq | ⟨child, hchild, -⟩
    · cases heq
    · rw [show craneSession.stage.graph.children ⟨4⟩ = [] by decide +kernel] at hchild
      cases hchild
  have hhook := harm.trans hbelow
  obtain ⟨-, -, -, -, -, hcompose, -⟩ := relativeTransform_composes rootedTree_crane hhook (Within.refl _ ⟨0⟩)
  obtain ⟨-, -, -, hmissed, -⟩ := relativeTransform_composes rootedTree_crane hhook hcabin
  refine ⟨rootedTree_crane, hhook, hcompose ⟨2⟩ harm hbelow, by rfl, ?_⟩
  rw [hmissed hother]
  rfl

end LevelPrep.SceneGraph
