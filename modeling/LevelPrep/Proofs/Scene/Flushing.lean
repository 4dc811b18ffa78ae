import LevelPrep.Proofs.Scene.Links
import Mathlib.Data.Set.Card

/-!
# Taking nodes out of a tree

A flush cuts queued nodes from their parents (`Cut`).  Which nodes these are is told without the recursion:
a node is `Doomed` if it is queued and its parent is reached from the root without going through a queued
node.  In a linked graph a flush cuts exactly the doomed nodes (`flush_spec`) and returns their number
(`flush_count`).
-/

namespace LevelPrep.SceneGraph

variable {R : Type} {g g' g'' : SceneGraph R}

open Classical in
/-- The graph after some nodes were cut from their parents; nothing else is changed. -/
structure Cut (doomed : NodeId → Prop) (g g' : SceneGraph R) : Prop where
  size_eq : g'.size = g.size
  node?_eq : ∀ x, g'.node? x = (g.node? x).map fun n =>
    { n with
      parent := if doomed x then none else n.parent
      children := n.children.filter fun child => ¬ doomed child }

namespace Cut

variable {doomed doomed' : NodeId → Prop}

theorem refl (h : ∀ x, ¬ doomed x) (g : SceneGraph R) : g.Cut doomed g where
  size_eq := rfl
  node?_eq x := by
    cases g.node? x <;> simp [h]

/-- Cutting some nodes and then some others cuts them all. -/
theorem trans (h : Cut doomed g g') (h' : Cut doomed' g' g'') :
    Cut (fun x => doomed x ∨ doomed' x) g g'' where
  size_eq := h'.size_eq.trans h.size_eq
  node?_eq x := by
    classical
    rw [h'.node?_eq, h.node?_eq, Option.map_map]
    congr 1
    funext n
    by_cases h₁ : doomed x <;> by_cases h₂ : doomed' x <;>
      simp [h₁, h₂, List.filter_filter, Bool.and_comm]

theorem children_eq (h : Cut doomed g g') (x : NodeId) :
    ∀ child, child ∈ g'.children x ↔ child ∈ g.children x ∧ ¬ doomed child := by
  intro child
  unfold children
  rw [h.node?_eq]
  cases g.node? x <;> simp

theorem parent?_eq (h : Cut doomed g g') (x parent : NodeId) :
    g'.parent? x = some parent ↔ g.parent? x = some parent ∧ ¬ doomed x := by
  unfold parent?
  rw [h.node?_eq]
  by_cases hx : doomed x <;> cases g.node? x <;> simp [hx]

theorem isQueued_eq (h : Cut doomed g g') (x : NodeId) : g'.isQueued x = g.isQueued x := by
  unfold isQueued
  rw [h.node?_eq]
  cases g.node? x <;> rfl

/-- Cutting keeps a graph linked. -/
theorem linked (h : Cut doomed g g') (hg : g.Linked) : g'.Linked where
  mem_children_iff parent child := by
    rw [h.children_eq, h.parent?_eq, hg.mem_children_iff]
  nodup_children parent := by
    have hnodup := hg.nodup_children parent
    unfold children at hnodup ⊢
    rw [h.node?_eq]
    cases hn : g.node? parent with
    | none => simp
    | some n => simpa [hn] using (by simpa [hn] using hnodup : n.children.Nodup).filter _
  ranked := by
    rcases hg.ranked with ⟨rank, hrank⟩
    exact ⟨rank, fun parent child hp => hrank parent child ((h.parent?_eq child parent).1 hp).1⟩

end Cut

/-- Taking a child from its parent cuts it and nothing else. -/
theorem cut_unlink (hg : g.Linked) {parent child : NodeId}
    (hchild : g.parent? child = some parent ∨ g.parent? child = none) :
    Cut (fun x => x = child) g (g.unlink parent child) where
  size_eq := size_unlink g parent child
  node?_eq x := by
    rw [node?_unlink]
    cases hn : g.node? x with
    | none => rfl
    | some n =>
        have hnodup := hg.nodup_children x
        rw [children_of_node? hn] at hnodup
        -- children are listed once, so taking out the first is taking out all
        have herase : n.children.erase child = n.children.filter fun c => ¬ c = child := by
          rw [hnodup.erase_eq_filter]
          exact List.filter_congr fun c _ => by by_cases hc : c = child <;> simp [bne, hc]
        -- no node but the parent has the child
        have hother : x ≠ parent → child ∉ n.children := by
          intro hx hmem
          rw [← children_of_node? hn, hg.mem_children_iff] at hmem
          rcases hchild with h | h <;> rw [h] at hmem
          · exact hx (Option.some.inj hmem).symm
          · cases hmem
        have hchildren : (if x = parent then n.children.erase child else n.children) =
            n.children.filter fun c => ¬ c = child := by
          split_ifs with hx
          · exact herase
          · rw [← herase, List.erase_of_not_mem (hother hx)]
        simp only [Option.map_some, hchildren]
        congr
        funext c
        by_cases hc : c = child <;> simp [hc]

/-! ## The nodes that a flush takes out -/

/-- A node is reached from another by going down without meeting a queued node. -/
def Reaches (g : SceneGraph R) : (root x : NodeId) → Prop :=
  Relation.ReflTransGen fun parent child => child ∈ g.children parent ∧ g.isQueued child = false

/-- A queued node whose parent is reached. -/
def Doomed (g : SceneGraph R) (root x : NodeId) : Prop :=
  g.isQueued x = true ∧ ∃ parent, g.Reaches root parent ∧ x ∈ g.children parent

/-- A doomed node is a queued child of the root, or doomed below a child that is not queued. -/
theorem doomed_iff {root x : NodeId} : g.Doomed root x ↔ ∃ child ∈ g.children root,
    if g.isQueued child then x = child else g.Doomed child x := by
  constructor
  · rintro ⟨hx, parent, hreaches, hmem⟩
    rcases Relation.ReflTransGen.cases_head hreaches with rfl | ⟨child, ⟨hchild, hkept⟩, hbelow⟩
    · exact ⟨x, hmem, by simp [hx]⟩
    · exact ⟨child, hchild, by simpa [hkept] using ⟨hx, parent, hbelow, hmem⟩⟩
  · rintro ⟨child, hchild, hx⟩
    split_ifs at hx with hqueued
    · subst hx
      exact ⟨hqueued, root, .refl, hchild⟩
    · rcases hx with ⟨hx, parent, hreaches, hmem⟩
      exact ⟨hx, parent, .head ⟨hchild, by simpa using hqueued⟩ hreaches, hmem⟩

theorem Reaches.within {root x : NodeId} (h : g.Reaches root x) : g.Within root x := by
  induction h with
  | refl => exact Within.refl g root
  | tail _ hedge ih => exact ih.child hedge.1

theorem Doomed.within {root x : NodeId} (h : g.Doomed root x) : g.Within root x := by
  rcases h with ⟨-, parent, hreaches, hmem⟩
  exact hreaches.within.child hmem

theorem Cut.within {doomed : NodeId → Prop} (h : Cut doomed g g') {a x : NodeId} (hx : g'.Within a x) :
    g.Within a x :=
  hx.of_same_children fun y _ child hchild => ((h.children_eq y child).1 hchild).1

/-- What is left after a flush is reached without meeting a queued node: such a node would be doomed, as the node
above it is reached. -/
theorem Cut.reaches_of_within {root x : NodeId} (h : Cut (g.Doomed root) g g') (hx : g'.Within root x) :
    g.Reaches root x := by
  induction hx with
  | refl => exact .refl
  | @tail parent child _ hchild ih =>
      rcases (h.children_eq parent child).1 hchild with ⟨hmem, hspared⟩
      have hunqueued : g.isQueued child = false := by
        rw [← Bool.not_eq_true]
        intro hqueued
        exact hspared ⟨hqueued, parent, ih, hmem⟩
      exact ih.tail ⟨hmem, hunqueued⟩

/-- Cutting queued nodes does not change what is reached. -/
theorem Cut.reaches_iff {doomed : NodeId → Prop} (h : Cut doomed g g')
    (hqueued : ∀ x, doomed x → g.isQueued x = true) {root x : NodeId} :
    g'.Reaches root x ↔ g.Reaches root x := by
  have hedge : ∀ parent child, (child ∈ g'.children parent ∧ g'.isQueued child = false) ↔
      (child ∈ g.children parent ∧ g.isQueued child = false) := by
    intro parent child
    rw [h.children_eq, h.isQueued_eq]
    constructor
    · exact fun hc => ⟨hc.1.1, hc.2⟩
    · intro hc
      refine ⟨⟨hc.1, fun hd => ?_⟩, hc.2⟩
      rw [hqueued child hd] at hc
      cases hc.2
  unfold Reaches
  simp only [hedge]

/-- Where some queued nodes have been cut, what is doomed still is what was doomed and has not been cut. -/
theorem Cut.doomed_iff {doomed : NodeId → Prop} (h : Cut doomed g g')
    (hqueued : ∀ x, doomed x → g.isQueued x = true) {root x : NodeId} :
    g'.Doomed root x ↔ g.Doomed root x ∧ ¬ doomed x := by
  unfold Doomed
  simp only [h.reaches_iff hqueued, h.isQueued_eq, h.children_eq]
  constructor
  · rintro ⟨hx, parent, hreaches, hmem, hnot⟩
    exact ⟨⟨hx, parent, hreaches, hmem⟩, hnot⟩
  · rintro ⟨⟨hx, parent, hreaches, hmem⟩, hnot⟩
    exact ⟨hx, parent, hreaches, hmem, hnot⟩

/-- A node that is not cut, with children that are not cut, is left alone. -/
theorem Cut.node?_of_spared {doomed : NodeId → Prop} (h : Cut doomed g g') {x : NodeId} {n : Node R}
    (hn : g.node? x = some n) (hx : ¬ doomed x) (hchildren : ∀ child ∈ n.children, ¬ doomed child) :
    g'.node? x = some n := by
  classical
  have hfilter : n.children.filter (fun child => decide (¬ doomed child)) = n.children :=
    List.filter_eq_self.2 fun child hchild => by simp [hchildren child hchild]
  rw [h.node?_eq, hn, Option.map_some, if_neg hx, hfilter]

/-- A node that is not queued, with children that are not queued, is left alone where only queued nodes are
cut. -/
theorem Cut.node?_eq_of_unqueued {doomed : NodeId → Prop} (h : Cut doomed g g')
    (hqueued : ∀ x, doomed x → g.isQueued x = true) {x : NodeId} {n : Node R} (hn : g.node? x = some n)
    (hx : g.isQueued x = false) (hchildren : ∀ child ∈ n.children, g.isQueued child = false) :
    g'.node? x = some n := by
  have hkept : ∀ y, g.isQueued y = false → ¬ doomed y := by
    intro y hy hd
    rw [hqueued y hd] at hy
    cases hy
  exact h.node?_of_spared hn (hkept x hx) fun child hchild => hkept child (hchildren child hchild)

open Classical in
/-- Among the children of a reached node exactly the queued ones are doomed. -/
theorem filter_doomed_of_reaches {root x : NodeId} {n : Node R} (hx : g.Reaches root x) (hn : g.node? x = some n) :
    (n.children.filter fun child => ¬ g.Doomed root child) = n.children.filter fun child => !g.isQueued child := by
  refine List.filter_congr fun child hchild => ?_
  have hmem : child ∈ g.children x := by rwa [children_of_node? hn]
  have hdoomed : g.Doomed root child ↔ g.isQueued child = true :=
    ⟨fun h => h.1, fun h => ⟨h, x, hx, hmem⟩⟩
  cases hqueued : g.isQueued child <;> simp [hdoomed, hqueued]

/-! ## Flushing -/

/-- The graph after some nodes were cut from their parents, and the number of these nodes. -/
structure Counted (doomed : NodeId → Prop) (g : SceneGraph R) (flushed : Nat × SceneGraph R) : Prop where
  cut : Cut doomed g flushed.2
  count : {x | doomed x}.encard = flushed.1

namespace Counted

variable {doomed doomed' : NodeId → Prop} {flushed : Nat × SceneGraph R}

theorem none (h : ∀ x, ¬ doomed x) (g : SceneGraph R) : g.Counted doomed (0, g) where
  cut := .refl h g
  count := by simp [Set.eq_empty_of_forall_notMem (s := {x | doomed x}) h]

theorem congr (h : Counted doomed g flushed) (hsame : ∀ x, doomed x ↔ doomed' x) : Counted doomed' g flushed := by
  have heq : doomed = doomed' := funext fun x => propext (hsame x)
  exact heq ▸ h

/-- Nodes that have not been cut so far are counted beside those that have. -/
theorem add {flushed' : Nat × SceneGraph R} (h : Counted doomed g flushed)
    (h' : Counted doomed' flushed.2 flushed') (happart : ∀ x, doomed' x → ¬ doomed x) :
    Counted (fun x => doomed x ∨ doomed' x) g (flushed.1 + flushed'.1, flushed'.2) where
  cut := h.cut.trans h'.cut
  count := by
    have hdisjoint : Disjoint {x | doomed x} {x | doomed' x} :=
      Set.disjoint_left.2 fun x hx hx' => happart x hx' hx
    have hunion : {x | doomed x ∨ doomed' x} = {x | doomed x} ∪ {x | doomed' x} := rfl
    rw [hunion, Set.encard_union_eq hdisjoint, h.count, h'.count]
    push_cast
    rfl

end Counted

/-- The nodes that one child of a flushed node accounts for. -/
def DoomedBy (g : SceneGraph R) (child x : NodeId) : Prop :=
  if g.isQueued child then x = child else g.Doomed child x

theorem DoomedBy.isQueued {child x : NodeId} (h : g.DoomedBy child x) : g.isQueued x = true := by
  unfold DoomedBy at h
  split_ifs at h with hqueued
  · exact h ▸ hqueued
  · exact h.1

/-- A child accounts for nodes of its own tree. -/
theorem DoomedBy.within {child x : NodeId} (h : g.DoomedBy child x) : g.Within child x := by
  unfold DoomedBy at h
  split_ifs at h
  · exact h ▸ Within.refl g child
  · exact h.within

/-- Enough fuel for a node: the ranks below it run out before the fuel does. -/
structure Fueled (g : SceneGraph R) (rank : NodeId → Nat) (fuel : Nat) (id : NodeId) : Prop where
  grows : ∀ parent child, g.parent? child = some parent → rank parent < rank child
  bounded : ∀ x, x.index < g.size → rank x < g.size
  enough : g.size ≤ rank id + fuel

/-- What a flush makes of the count and the graph at one child of a node. -/
def flushChild (fuel : Nat) (id : NodeId) (flushed : Nat × SceneGraph R) (child : NodeId) :
    Nat × SceneGraph R :=
  if flushed.2.isQueued child then (flushed.1 + 1, flushed.2.unlink id child)
  else (flushed.1 + (flushed.2.flushBelow fuel child).1, (flushed.2.flushBelow fuel child).2)

theorem flushBelow_succ (g : SceneGraph R) (fuel : Nat) (id : NodeId) :
    g.flushBelow (fuel + 1) id = (g.children id).foldl (flushChild fuel id) (0, g) := by
  rw [flushBelow]
  rfl

/-- One child of a flushed node, which has been left alone so far: it is cut if it is queued, and flushed itself if it
is not. -/
theorem counted_child {rank : NodeId → Nat} {fuel : Nat} {id child : NodeId} {done : NodeId → Prop}
    {flushed : Nat × SceneGraph R}
    (hg : g.Linked) (hfuel : g.Fueled rank (fuel + 1) id) (hchild : child ∈ g.children id)
    (hdone : Counted done g flushed) (hqueued : ∀ x, done x → g.isQueued x = true)
    (happart : ∀ x, g.Within child x → ¬ done x)
    (hbelow : flushed.2.Linked → child.index < flushed.2.size → flushed.2.Fueled rank fuel child →
      Counted (flushed.2.Doomed child) flushed.2 (flushed.2.flushBelow fuel child)) :
    Counted (fun x => done x ∨ g.DoomedBy child x) g (flushChild fuel id flushed child) := by
  have hcut := hdone.cut
  have hlinked := hcut.linked hg
  have hparent := (hg.mem_children_iff id child).1 hchild
  unfold DoomedBy flushChild
  simp only [hcut.isQueued_eq]
  split_ifs
  · have hstill : flushed.2.parent? child = some id :=
      (hcut.parent?_eq child id).2 ⟨hparent, happart child (Within.refl g child)⟩
    have hone : Counted (fun x => x = child) flushed.2 (1, flushed.2.unlink id child) :=
      ⟨cut_unlink hlinked (Or.inl hstill), Set.encard_singleton child⟩
    refine hdone.add hone ?_
    rintro x rfl
    exact happart x (Within.refl g x)
  · -- what was cut before has changed neither ranks nor size, so the fuel is still enough
    have hstillFueled : flushed.2.Fueled rank fuel child := by
      refine ⟨fun p c h => hfuel.grows p c ((hcut.parent?_eq c p).1 h).1, ?_, ?_⟩
      · rw [hcut.size_eq]
        exact hfuel.bounded
      · have hgrows := hfuel.grows id child hparent
        have henough := hfuel.enough
        rw [hcut.size_eq]
        omega
    have hflushed := hbelow hlinked (hcut.size_eq ▸ (hg.index_lt_of_mem_children hchild).2) hstillFueled
    refine hdone.add (hflushed.congr fun x => ?_) fun x hx => happart x hx.within
    rw [hcut.doomed_iff hqueued]
    exact ⟨fun hx => hx.1, fun hx => ⟨hx, happart x hx.within⟩⟩

/-- Going through the children, those that are done account for all that has been cut. -/
theorem counted_foldl_flushChild {rank : NodeId → Nat} {fuel : Nat} {id : NodeId} (hg : g.Linked)
    (hfuel : g.Fueled rank (fuel + 1) id)
    (hbelow : ∀ {g' : SceneGraph R} {child : NodeId}, g'.Linked → child.index < g'.size →
      g'.Fueled rank fuel child → Counted (g'.Doomed child) g' (g'.flushBelow fuel child)) :
    ∀ (rest done : List NodeId) (flushed : Nat × SceneGraph R), g.children id = done ++ rest →
      Counted (fun x => ∃ child ∈ done, g.DoomedBy child x) g flushed →
      Counted (fun x => ∃ child ∈ g.children id, g.DoomedBy child x) g
        (rest.foldl (flushChild fuel id) flushed) := by
  intro rest
  induction rest with
  | nil =>
      intro done flushed hsplit hdone
      rw [hsplit, List.append_nil]
      exact hdone
  | cons child rest ih =>
      intro done flushed hsplit hdone
      have hmem : child ∈ g.children id := by
        rw [hsplit]
        simp
      have hqueued : ∀ x, (∃ c ∈ done, g.DoomedBy c x) → g.isQueued x = true := by
        rintro x ⟨c, -, hx⟩
        exact hx.isQueued
      -- the children that are done are others, and their trees have nothing in common with this one
      have happart : ∀ x, g.Within child x → ¬ ∃ c ∈ done, g.DoomedBy c x := by
        rintro x hx ⟨c, hc, hcx⟩
        have hdoneMem : c ∈ g.children id := by
          rw [hsplit]
          exact List.mem_append_left _ hc
        have hsame : c = child := hg.child_unique hdoneMem hmem hcx.within hx
        have hnodup := hg.nodup_children id
        rw [hsplit, List.nodup_append] at hnodup
        exact hnodup.2.2 c hc child List.mem_cons_self hsame
      have hround := counted_child hg hfuel hmem hdone hqueued happart hbelow
      have hmore : Counted (fun x => ∃ c ∈ done ++ [child], g.DoomedBy c x) g
          (flushChild fuel id flushed child) := by
        refine hround.congr fun x => ?_
        simp only [List.mem_append, List.mem_singleton, or_and_right, exists_or, exists_eq_left]
      rw [List.foldl_cons]
      exact ih (done ++ [child]) _ (by simpa using hsplit) hmore

/-- In a linked graph a flush cuts the doomed nodes, counts them and does nothing else. -/
theorem flushBelow_spec {rank : NodeId → Nat} {fuel : Nat} {id : NodeId} (hg : g.Linked)
    (hid : id.index < g.size) (hfuel : g.Fueled rank fuel id) :
    Counted (g.Doomed id) g (g.flushBelow fuel id) := by
  induction fuel generalizing g id with
  | zero =>
      have hlt := hfuel.bounded id hid
      have hle := hfuel.enough
      omega
  | succ fuel ih =>
      rw [flushBelow_succ]
      have hall := counted_foldl_flushChild hg hfuel ih (g.children id) [] (0, g) rfl (.none (by simp) g)
      exact hall.congr fun x => doomed_iff.symm

theorem counted_flush (hg : g.Linked) {root : NodeId} (hroot : root.index < g.size) :
    Counted (g.Doomed root) g (g.flush root) := by
  rcases hg.exists_rank with ⟨rank, hgrows, hbounded⟩
  exact flushBelow_spec hg hroot ⟨hgrows, hbounded, Nat.le_add_left _ _⟩

/-- A flush takes out the doomed nodes. -/
theorem flush_spec (hg : g.Linked) {root : NodeId} (hroot : root.index < g.size) :
    Cut (g.Doomed root) g (g.flush root).2 :=
  (counted_flush hg hroot).cut

/-- A flush returns the number of the doomed nodes. -/
theorem flush_count (hg : g.Linked) {root : NodeId} (hroot : root.index < g.size) :
    {x | g.Doomed root x}.encard = (g.flush root).1 :=
  (counted_flush hg hroot).count

end LevelPrep.SceneGraph
