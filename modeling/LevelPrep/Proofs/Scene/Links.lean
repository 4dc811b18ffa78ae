import LevelPrep.Scene.Graph
import Mathlib.Data.Finset.Card
import Mathlib.Logic.Relation

/-!
# Links of a scene graph

In a graph that is `Linked` every node knows its parent exactly if the parent knows it, no node is a
child twice, and no node lies above itself: the graph is a collection of trees.  `Within` says that a
node belongs to the tree below another.

* `Linked.insert`, `Linked.link`, `Linked.of_same_links`: what keeps a graph linked;
* `Linked.exists_rank`: no tree is deeper than the graph is large;
* `Linked.within_total`: the nodes above a node form a chain.
-/

namespace LevelPrep.SceneGraph

variable {R : Type}

/-! ## Nodes after a change -/

theorem node?_modify (g : SceneGraph R) (id : NodeId) (f : Node R → Node R) (x : NodeId) :
    (g.modify id f).node? x = if x = id then (g.node? x).map f else g.node? x := by
  by_cases h : x = id
  · subst h
    simp
  · simp [h]

theorem node?_insert (g : SceneGraph R) (n : Node R) (x : NodeId) :
    (g.insert n).2.node? x = if x.index = g.size then some n else g.node? x :=
  Array.getElem?_push

@[simp] theorem insert_fst (g : SceneGraph R) (n : Node R) : (g.insert n).1 = ⟨g.size⟩ :=
  rfl

@[simp] theorem size_insert (g : SceneGraph R) (n : Node R) : (g.insert n).2.size = g.size + 1 := by
  simp [size, insert]

theorem node?_link (g : SceneGraph R) (parent child x : NodeId) :
    (g.link parent child).node? x = (g.node? x).map fun n =>
      { n with
        parent := if x = child then some parent else n.parent
        children := if x = parent then n.children ++ [child] else n.children } := by
  unfold link
  rw [node?_modify, node?_modify]
  cases g.node? x <;> split_ifs <;> rfl

@[simp] theorem size_link (g : SceneGraph R) (parent child : NodeId) :
    (g.link parent child).size = g.size := by
  simp [link]

theorem node?_unlink (g : SceneGraph R) (parent child x : NodeId) :
    (g.unlink parent child).node? x = (g.node? x).map fun n =>
      { n with
        children := if x = parent then n.children.erase child else n.children
        parent := if x = child then none else n.parent } := by
  unfold unlink
  rw [node?_modify, node?_modify]
  cases g.node? x <;> split_ifs <;> rfl

@[simp] theorem size_unlink (g : SceneGraph R) (parent child : NodeId) :
    (g.unlink parent child).size = g.size := by
  simp [unlink]

theorem node?_modifyInstance (g : SceneGraph R) (id : NodeId)
    (f : MeshInstance GeometryId MaterialId → MeshInstance GeometryId MaterialId) (x : NodeId) :
    (g.modifyInstance id f).node? x = if x = id then
      (g.node? x).map fun n => { n with payload := n.payload.mapInstance f } else g.node? x :=
  node?_modify g id _ x

@[simp] theorem size_modifyInstance (g : SceneGraph R) (id : NodeId)
    (f : MeshInstance GeometryId MaterialId → MeshInstance GeometryId MaterialId) :
    (g.modifyInstance id f).size = g.size := by
  simp [modifyInstance]

/-- There is a node under a reference exactly if the reference lies in the graph. -/
theorem exists_node?_iff {g : SceneGraph R} {x : NodeId} :
    (∃ n, g.node? x = some n) ↔ x.index < g.size := by
  constructor
  · rintro ⟨n, hn⟩
    exact (Array.getElem?_eq_some_iff.1 hn).1
  · intro h
    exact ⟨_, Array.getElem?_eq_getElem h⟩

theorem index_lt_of_node? {g : SceneGraph R} {x : NodeId} {n : Node R} (h : g.node? x = some n) :
    x.index < g.size :=
  exists_node?_iff.1 ⟨n, h⟩

theorem children_of_node? {g : SceneGraph R} {x : NodeId} {n : Node R} (h : g.node? x = some n) :
    g.children x = n.children := by
  simp [children, h]

theorem parent?_of_node? {g : SceneGraph R} {x : NodeId} {n : Node R} (h : g.node? x = some n) :
    g.parent? x = n.parent := by
  simp [parent?, h]

theorem exists_node?_of_mem_children {g : SceneGraph R} {parent child : NodeId}
    (h : child ∈ g.children parent) : ∃ n, g.node? parent = some n ∧ child ∈ n.children := by
  unfold children at h
  cases hn : g.node? parent with
  | none => simp [hn] at h
  | some n => exact ⟨n, rfl, by simpa [hn] using h⟩

theorem exists_node?_of_parent? {g : SceneGraph R} {parent child : NodeId}
    (h : g.parent? child = some parent) : ∃ n, g.node? child = some n ∧ n.parent = some parent :=
  Option.bind_eq_some_iff.1 h

/-! ## Links after a change -/

theorem children_insert (g : SceneGraph R) {n : Node R} (hchildren : n.children = []) (x : NodeId) :
    (g.insert n).2.children x = g.children x := by
  unfold children
  rw [node?_insert]
  split_ifs with hx
  · have hout : g.node? x = none := Array.getElem?_eq_none (Nat.le_of_eq hx.symm)
    simp [hchildren, hout]
  · rfl

theorem parent?_insert (g : SceneGraph R) {n : Node R} (hparent : n.parent = none) (x : NodeId) :
    (g.insert n).2.parent? x = g.parent? x := by
  unfold parent?
  rw [node?_insert]
  split_ifs with hx
  · have hout : g.node? x = none := Array.getElem?_eq_none (Nat.le_of_eq hx.symm)
    simp [hparent, hout]
  · rfl

theorem children_link (g : SceneGraph R) {parent : NodeId} (child : NodeId)
    (hparent : parent.index < g.size) (x : NodeId) :
    (g.link parent child).children x =
      if x = parent then g.children x ++ [child] else g.children x := by
  rcases exists_node?_iff.2 hparent with ⟨n, hn⟩
  by_cases h : x = parent
  · subst h
    simp [children, node?_link, hn]
  · simp only [children, node?_link, h, if_false, Option.map_map]
    rfl

theorem parent?_link (g : SceneGraph R) (parent : NodeId) {child : NodeId}
    (hchild : child.index < g.size) (x : NodeId) :
    (g.link parent child).parent? x = if x = child then some parent else g.parent? x := by
  rcases exists_node?_iff.2 hchild with ⟨n, hn⟩
  by_cases h : x = child
  · subst h
    simp [parent?, node?_link, hn]
  · simp only [parent?, node?_link, h, if_false, Option.bind_map]
    rfl

/-! ## Linked graphs -/

/-- The links of parents and children agree, no child is listed twice, and the links have no cycle:
going down, the rank grows. -/
structure Linked (g : SceneGraph R) : Prop where
  mem_children_iff : ∀ parent child, child ∈ g.children parent ↔ g.parent? child = some parent
  nodup_children : ∀ parent, (g.children parent).Nodup
  ranked : ∃ rank : NodeId → Nat, ∀ parent child,
    g.parent? child = some parent → rank parent < rank child

/-- A node belongs to the tree below another: it is that node or lies somewhere below it. -/
def Within (g : SceneGraph R) : (root x : NodeId) → Prop :=
  Relation.ReflTransGen fun parent child => child ∈ g.children parent

theorem Within.refl (g : SceneGraph R) (root : NodeId) : g.Within root root :=
  Relation.ReflTransGen.refl

theorem Within.child {g : SceneGraph R} {root x child : NodeId} (h : g.Within root x)
    (hchild : child ∈ g.children x) : g.Within root child :=
  Relation.ReflTransGen.tail h hchild

theorem Within.trans {g : SceneGraph R} {a b c : NodeId} (hab : g.Within a b) (hbc : g.Within b c) :
    g.Within a c :=
  Relation.ReflTransGen.trans hab hbc

/-- A node in the tree of another is that node or lies in the tree of one of its children. -/
theorem Within.eq_or_exists_child {g : SceneGraph R} {root x : NodeId} (h : g.Within root x) :
    x = root ∨ ∃ child ∈ g.children root, g.Within child x := by
  rcases Relation.ReflTransGen.cases_head h with rfl | ⟨child, hchild, hx⟩
  · exact Or.inl rfl
  · exact Or.inr ⟨child, hchild, hx⟩

theorem Within.eq_or_exists_parent {g : SceneGraph R} {root x : NodeId} (h : g.Within root x) :
    x = root ∨ ∃ parent, g.Within root parent ∧ x ∈ g.children parent := by
  rcases Relation.ReflTransGen.cases_tail h with rfl | ⟨parent, hparent, hx⟩
  · exact Or.inl rfl
  · exact Or.inr ⟨parent, hparent, hx⟩

/-- What is handed up from children to parents is handed up to the root. -/
theorem Within.up {g : SceneGraph R} {P : NodeId → Prop}
    (hup : ∀ parent child, child ∈ g.children parent → P child → P parent) {root x : NodeId}
    (h : g.Within root x) (hx : P x) : P root := by
  induction h with
  | refl => exact hx
  | tail _ hchild ih => exact ih (hup _ _ hchild hx)

/-- Trees look alike in graphs whose children agree inside the tree. -/
theorem Within.of_same_children {g g' : SceneGraph R} {root x : NodeId}
    (hsame : ∀ y, g.Within root y → ∀ child ∈ g.children y, child ∈ g'.children y)
    (h : g.Within root x) : g'.Within root x := by
  induction h with
  | refl => exact Within.refl g' root
  | tail hy hchild ih => exact ih.child (hsame _ hy _ hchild)

/-- A tree whose nodes are the same has the same nodes. -/
theorem within_congr {g g' : SceneGraph R} {root x : NodeId}
    (hsame : ∀ y, g.Within root y → g'.node? y = g.node? y) : g'.Within root x ↔ g.Within root x := by
  constructor
  · intro h
    induction h with
    | refl => exact Within.refl g root
    | @tail parent child _ hchild ih =>
        refine ih.child ?_
        unfold children at hchild ⊢
        rwa [hsame parent ih] at hchild
  · intro h
    refine h.of_same_children fun y hy child hchild => ?_
    unfold children at hchild ⊢
    rwa [hsame y hy]

namespace Linked

variable {g : SceneGraph R}

theorem index_lt_of_mem_children (hg : g.Linked) {parent child : NodeId}
    (h : child ∈ g.children parent) : parent.index < g.size ∧ child.index < g.size := by
  rcases exists_node?_of_mem_children h with ⟨n, hn, -⟩
  rcases exists_node?_of_parent? ((hg.mem_children_iff parent child).1 h) with ⟨m, hm, -⟩
  exact ⟨index_lt_of_node? hn, index_lt_of_node? hm⟩

/-- A node has one parent. -/
theorem parent_unique (hg : g.Linked) {parent other child : NodeId} (h : child ∈ g.children parent)
    (h' : child ∈ g.children other) : parent = other := by
  rw [hg.mem_children_iff] at h h'
  rw [h] at h'
  exact Option.some.inj h'

/-- Nodes in the tree of a node that is there are there as well. -/
theorem index_lt_of_within (hg : g.Linked) {root x : NodeId} (h : g.Within root x)
    (hroot : root.index < g.size) : x.index < g.size := by
  rcases h.eq_or_exists_parent with rfl | ⟨parent, -, hx⟩
  · exact hroot
  · exact (hg.index_lt_of_mem_children hx).2

/-- Ranks do not fall on the way down. -/
theorem rank_le_of_within (hg : g.Linked) {rank : NodeId → Nat}
    (hrank : ∀ parent child, g.parent? child = some parent → rank parent < rank child)
    {root x : NodeId} (h : g.Within root x) : rank root ≤ rank x := by
  induction h with
  | refl => exact Nat.le_refl _
  | tail _ hchild ih =>
      have hlt := hrank _ _ ((hg.mem_children_iff _ _).1 hchild)
      omega

/-- A node does not lie below its own child. -/
theorem not_within_parent (hg : g.Linked) {parent child : NodeId} (h : child ∈ g.children parent) :
    ¬ g.Within child parent := by
  intro hwithin
  rcases hg.ranked with ⟨rank, hrank⟩
  have hle := hg.rank_le_of_within hrank hwithin
  have hlt := hrank _ _ ((hg.mem_children_iff parent child).1 h)
  omega

/-- Two nodes above one and the same node lie above each other in one of the two ways. -/
theorem within_total (hg : g.Linked) {a b x : NodeId} (ha : g.Within a x) (hb : g.Within b x) :
    g.Within a b ∨ g.Within b a := by
  induction ha with
  | refl => exact Or.inr hb
  | tail hp hchild ih =>
      rcases hb.eq_or_exists_parent with rfl | ⟨parent, hparent, hx⟩
      · exact Or.inl (Within.child hp hchild)
      · exact ih (hg.parent_unique hx hchild ▸ hparent)

/-- The trees of two children of one node have nothing in common. -/
theorem child_unique (hg : g.Linked) {parent a b x : NodeId} (ha : a ∈ g.children parent)
    (hb : b ∈ g.children parent) (hax : g.Within a x) (hbx : g.Within b x) : a = b := by
  -- were one below the other, their parent would lie below its own child
  have hcases : ∀ {c d : NodeId}, c ∈ g.children parent → d ∈ g.children parent →
      g.Within c d → c = d := by
    intro c d hc hd hcd
    rcases hcd.eq_or_exists_parent with rfl | ⟨q, hq, hdq⟩
    · rfl
    · rw [hg.parent_unique hdq hd] at hq
      exact absurd hq (hg.not_within_parent hc)
  rcases hg.within_total hax hbx with h | h
  · exact hcases ha hb h
  · exact (hcases hb ha h).symm

/-- Ranks can be chosen below the size of the graph: count the nodes of smaller rank. -/
theorem exists_rank (hg : g.Linked) : ∃ rank : NodeId → Nat,
    (∀ parent child, g.parent? child = some parent → rank parent < rank child) ∧
      ∀ x, x.index < g.size → rank x < g.size := by
  rcases hg.ranked with ⟨rank, hrank⟩
  let below (x : NodeId) : Finset Nat := (Finset.range g.size).filter fun i => rank ⟨i⟩ < rank x
  refine ⟨fun x => (below x).card, ?_, ?_⟩
  · intro parent child h
    have hlt := hrank parent child h
    have hmem := (hg.mem_children_iff parent child).2 h
    -- the parent is counted for the child, and not for itself
    have hparent : parent.index ∈ below child := by
      simp only [below, Finset.mem_filter, Finset.mem_range]
      exact ⟨(hg.index_lt_of_mem_children hmem).1, hlt⟩
    apply Finset.card_lt_card
    refine ⟨?_, fun hsub => ?_⟩
    · intro i hi
      simp only [below, Finset.mem_filter] at hi ⊢
      exact ⟨hi.1, hi.2.trans hlt⟩
    · have hself := hsub hparent
      simp [below] at hself
  · intro x hx
    -- a node is never counted for itself, so one of the places is left over
    have hsub : below x ⊆ (Finset.range g.size).erase x.index := by
      intro i hi
      simp only [below, Finset.mem_filter] at hi
      rw [Finset.mem_erase]
      refine ⟨?_, hi.1⟩
      rintro rfl
      exact absurd hi.2 (Nat.lt_irrefl _)
    have hcard := Finset.card_le_card hsub
    rw [Finset.card_erase_of_mem (Finset.mem_range.2 hx), Finset.card_range] at hcard
    show (below x).card < g.size
    omega

/-! ## What keeps a graph linked -/

/-- A graph without nodes is linked. -/
theorem empty : ({} : SceneGraph R).Linked where
  mem_children_iff parent child := by simp [children, parent?, node?]
  nodup_children parent := by simp [children, node?]
  ranked := ⟨fun _ => 0, fun parent child h => by simp [parent?, node?] at h⟩

/-- Changes that leave the links alone keep a graph linked. -/
theorem of_same_links (hg : g.Linked) {g' : SceneGraph R} (hchildren : ∀ x, g'.children x = g.children x)
    (hparent : ∀ x, g'.parent? x = g.parent? x) : g'.Linked where
  mem_children_iff parent child := by
    rw [hchildren, hparent]
    exact hg.mem_children_iff parent child
  nodup_children parent := by
    rw [hchildren]
    exact hg.nodup_children parent
  ranked := by
    rcases hg.ranked with ⟨rank, hrank⟩
    exact ⟨rank, fun parent child h => hrank parent child (hparent child ▸ h)⟩

/-- A new node without links keeps a graph linked. -/
theorem insert (hg : g.Linked) {n : Node R} (hparent : n.parent = none) (hchildren : n.children = []) :
    (g.insert n).2.Linked :=
  hg.of_same_links (children_insert g hchildren) (parent?_insert g hparent)

/-- Hanging a tree under a node outside of it keeps a graph linked. -/
theorem link (hg : g.Linked) {parent child : NodeId} (hparent : parent.index < g.size)
    (hchild : child.index < g.size) (hroot : g.parent? child = none)
    (hout : ¬ g.Within child parent) : (g.link parent child).Linked := by
  have hnew : child ∉ g.children parent := by
    rw [hg.mem_children_iff, hroot]
    simp
  refine ⟨?_, ?_, ?_⟩
  · intro p c
    rw [children_link g child hparent, parent?_link g parent hchild]
    by_cases hp : p = parent <;> by_cases hc : c = child
    · simp [hp, hc]
    · simp [hp, hc, hg.mem_children_iff]
    · subst hc
      simp [hp, hg.mem_children_iff, hroot, Ne.symm hp]
    · simp [hp, hc, hg.mem_children_iff]
  · intro p
    rw [children_link g child hparent]
    by_cases hp : p = parent
    · subst hp
      simp only [if_true]
      exact List.nodup_append.2 ⟨hg.nodup_children p, by simp, by
        intro a ha b hb hab
        rw [List.mem_singleton.1 hb] at hab
        exact hnew (hab ▸ ha)⟩
    · simpa [hp] using hg.nodup_children p
  · -- the tree that is hung up moves below its new parent, the rest stays where it is
    classical
    rcases hg.ranked with ⟨rank, hrank⟩
    refine ⟨fun x => if g.Within child x then rank x + rank parent + 1 else rank x, ?_⟩
    intro p c h
    rw [parent?_link g parent hchild] at h
    by_cases hc : c = child
    · subst hc
      rw [if_pos rfl] at h
      cases h
      simp only [if_neg hout, if_pos (Within.refl g c)]
      omega
    · rw [if_neg hc] at h
      have hmem := (hg.mem_children_iff p c).2 h
      have hlt := hrank p c h
      by_cases hp : g.Within child p
      · simp only [if_pos hp, if_pos (hp.child hmem)]
        omega
      · have hcn : ¬ g.Within child c := by
          intro hw
          rcases hw.eq_or_exists_parent with rfl | ⟨q, hq, hcq⟩
          · exact hc rfl
          · exact hp (hg.parent_unique hcq hmem ▸ hq)
        simpa only [if_neg hp, if_neg hcn] using hlt

end Linked

end LevelPrep.SceneGraph
