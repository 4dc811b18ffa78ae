import LevelPrep.Proofs.Scene.Levels

/-!
# Changes that keep all links

Many operations change nodes and leave their links alone: names, owners, marks and payloads.  A graph
`Relabelled` by such changes has the same trees (`Relabelled.within_iff`).
-/

namespace LevelPrep.SceneGraph

variable {R : Type} {g g' g'' : SceneGraph R}

/-- The graph after a change of every node that leaves the links alone. -/
structure Relabelled (change : NodeId → Node R → Node R) (g g' : SceneGraph R) : Prop where
  size_eq : g'.size = g.size
  node?_eq : ∀ x, g'.node? x = (g.node? x).map (change x)
  parent_eq : ∀ x n, (change x n).parent = n.parent
  children_eq : ∀ x n, (change x n).children = n.children

namespace Relabelled

variable {change change' : NodeId → Node R → Node R}

theorem refl (g : SceneGraph R) : g.Relabelled (fun _ n => n) g where
  size_eq := rfl
  node?_eq x := by simp
  parent_eq _ _ := rfl
  children_eq _ _ := rfl

theorem trans (h : Relabelled change g g') (h' : Relabelled change' g' g'') :
    Relabelled (fun x n => change' x (change x n)) g g'' where
  size_eq := h'.size_eq.trans h.size_eq
  node?_eq x := by
    rw [h'.node?_eq, h.node?_eq, Option.map_map]
    rfl
  parent_eq x n := by rw [h'.parent_eq, h.parent_eq]
  children_eq x n := by rw [h'.children_eq, h.children_eq]

theorem congr (h : Relabelled change g g') (hsame : ∀ x n, change x n = change' x n) :
    Relabelled change' g g' := by
  have heq : change = change' := funext fun x => funext (hsame x)
  exact heq ▸ h

theorem children_same (h : Relabelled change g g') (x : NodeId) : g'.children x = g.children x := by
  unfold children
  rw [h.node?_eq]
  cases g.node? x with
  | none => rfl
  | some n => simp [h.children_eq]

theorem parent?_same (h : Relabelled change g g') (x : NodeId) : g'.parent? x = g.parent? x := by
  unfold parent?
  rw [h.node?_eq]
  cases g.node? x with
  | none => rfl
  | some n => simp [h.parent_eq]

theorem linked (h : Relabelled change g g') (hg : g.Linked) : g'.Linked :=
  hg.of_same_links h.children_same h.parent?_same

/-- What may be hung up in a graph may be hung up after the change. -/
theorem linked_link (h : Relabelled change g g') {parent child : NodeId} (hparent : parent.index < g.size)
    (hchild : child.index < g.size) (hlinked : (g.link parent child).Linked) :
    (g'.link parent child).Linked := by
  refine hlinked.of_same_links ?_ ?_
  · intro x
    rw [children_link g' child (h.size_eq ▸ hparent), h.children_same,
      children_link g child hparent]
  · intro x
    rw [parent?_link g' parent (h.size_eq ▸ hchild), h.parent?_same,
      parent?_link g parent hchild]

theorem within_iff (h : Relabelled change g g') {root x : NodeId} :
    g'.Within root x ↔ g.Within root x := by
  unfold Within
  simp only [h.children_same]

end Relabelled

theorem relabelled_modify (g : SceneGraph R) (id : NodeId) {f : Node R → Node R}
    (hparent : ∀ n, (f n).parent = n.parent) (hchildren : ∀ n, (f n).children = n.children) :
    g.Relabelled (fun x n => if x = id then f n else n) (g.modify id f) where
  size_eq := size_modify g id f
  node?_eq x := by
    rw [node?_modify]
    split_ifs with hx
    · rfl
    · simp
  parent_eq x n := by split_ifs <;> simp [hparent]
  children_eq x n := by split_ifs <;> simp [hchildren]

/-- One and the same change made to every node of a list, and to no node twice with another effect. -/
theorem relabelled_foldl_modify (g : SceneGraph R) (ids : List NodeId) {f : Node R → Node R}
    (hparent : ∀ n, (f n).parent = n.parent) (hchildren : ∀ n, (f n).children = n.children)
    (htwice : ∀ n, f (f n) = f n) :
    g.Relabelled (fun x n => if x ∈ ids then f n else n)
      (ids.foldl (fun g id => g.modify id f) g) := by
  induction ids generalizing g with
  | nil => simpa using Relabelled.refl g
  | cons id ids ih =>
      refine ((relabelled_modify g id hparent hchildren).trans (ih (g.modify id f))).congr ?_
      -- a node that is in the list twice is changed twice, which is changing it once
      intro x n
      by_cases hx : x = id <;> by_cases hmem : x ∈ ids <;> simp [hx, hmem, htwice]

theorem relabelled_setOwner (g : SceneGraph R) (id : NodeId) (owner : Option NodeId) :
    g.Relabelled
      (fun x n => { n with owner := if x ∈ g.levelOrder id then owner else n.owner })
      (g.setOwner id owner) := by
  refine (relabelled_foldl_modify g (g.levelOrder id) (f := fun n => { n with owner := owner })
    (fun _ => rfl) (fun _ => rfl) (fun _ => rfl)).congr ?_
  intro x n
  split_ifs <;> rfl

theorem relabelled_ownTree (g : SceneGraph R) (id : NodeId) :
    g.Relabelled
      (fun x n => { n with
        owner := if x = id then none else if x ∈ g.levelOrder id then some id else n.owner })
      (g.ownTree id) := by
  refine ((relabelled_setOwner g id (some id)).trans (relabelled_modify _ id
    (f := fun n => { n with owner := none }) (fun _ => rfl) (fun _ => rfl))).congr ?_
  intro x n
  split_ifs <;> rfl

theorem node?_ownTree {id x : NodeId} {n : Node R} (hn : g.node? x = some n) : (g.ownTree id).node? x = some
    { n with owner := if x = id then none else if x ∈ g.levelOrder id then some id else n.owner } := by
  rw [(relabelled_ownTree g id).node?_eq, hn, Option.map_some]

/-- Nodes outside of the tree keep their owners. -/
theorem node?_ownTree_of_notMem {id x : NodeId} (hx : x ∉ g.levelOrder id) : (g.ownTree id).node? x = g.node? x := by
  have hne : x ≠ id := by
    rintro rfl
    exact hx List.mem_cons_self
  rw [(relabelled_ownTree g id).node?_eq]
  cases g.node? x <;> simp [hne, hx]

theorem relabelled_rename (g : SceneGraph R) (id : NodeId) (name : Json) :
    g.Relabelled (fun x n => { n with name := if x = id then name else n.name })
      (g.modify id fun n => { n with name := name }) := by
  refine (relabelled_modify g id (f := fun n => { n with name := name })
    (fun _ => rfl) (fun _ => rfl)).congr ?_
  intro x n
  split_ifs <;> rfl

theorem relabelled_queueFree (g : SceneGraph R) (ids : List NodeId) :
    g.Relabelled (fun x n => { n with queued := n.queued || decide (x ∈ ids) })
      (ids.foldl queueFree g) := by
  refine (relabelled_foldl_modify g ids (f := fun n => { n with queued := true })
    (fun _ => rfl) (fun _ => rfl) (fun _ => rfl)).congr ?_
  intro x n
  by_cases hx : x ∈ ids <;> simp [hx]

theorem relabelled_modifyInstance (g : SceneGraph R) (id : NodeId)
    (change : MeshInstance GeometryId MaterialId → MeshInstance GeometryId MaterialId) :
    g.Relabelled
      (fun x n => { n with payload := if x = id then n.payload.mapInstance change else n.payload })
      (g.modifyInstance id change) := by
  refine (relabelled_modify g id (f := fun n => { n with payload := n.payload.mapInstance change })
    (fun _ => rfl) (fun _ => rfl)).congr ?_
  intro x n
  split_ifs <;> rfl

end LevelPrep.SceneGraph
