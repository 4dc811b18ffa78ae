import LevelPrep.Pass.Collision
import LevelPrep.Proofs.Scene.Relabelling

/-!
# What passes do to a tree

Whatever passes there are and in whatever order they run, a pass does two things to the live nodes: it
changes how a mesh instance of a static subtree is drawn, and it hangs a collision body under the root of
such a subtree (`PassStep`).  A graph is `Reworked` by any number of these steps.

* `Reshaped.step`: what one step preserves of the shape of a tree;
* `Reworked.reshaped`: what any number of them leave of it.
-/

namespace LevelPrep

namespace Payload

variable {G M : Type}

@[simp] theorem mapInstance_id (payload : Payload G M) : payload.mapInstance (fun i => i) = payload := by
  cases payload <;> rfl

@[simp] theorem mapInstance_mapInstance (f f' : MeshInstance G M → MeshInstance G M)
    (payload : Payload G M) :
    (payload.mapInstance f).mapInstance f' = payload.mapInstance fun i => f' (f i) := by
  cases payload <;> rfl

@[simp] theorem meshInstance?_mapInstance (f : MeshInstance G M → MeshInstance G M)
    (payload : Payload G M) : (payload.mapInstance f).meshInstance? = payload.meshInstance?.map f := by
  cases payload <;> rfl

end Payload

namespace SceneGraph

variable {R : Type}

theorem meshInstance?_of_node? {g : SceneGraph R} {x : NodeId} {n : Node R} (h : g.node? x = some n) :
    g.meshInstance? x = n.payload.meshInstance? := by
  simp [meshInstance?, h]

/-- How a node is drawn has nothing to do with its links. -/
theorem Linked.modifyInstance {g : SceneGraph R} (hg : g.Linked) (id : NodeId)
    (change : MeshInstance GeometryId MaterialId → MeshInstance GeometryId MaterialId) :
    (g.modifyInstance id change).Linked :=
  (relabelled_modifyInstance g id change).linked hg

/-! ## Collision bodies -/

variable [Zero R] [One R]

/-- A static body under a node, with one collision shape under it and nothing else. -/
def IsBody (g : SceneGraph R) (scene root body : NodeId) : Prop :=
  ∃ (name : Json) (transform : Matrix R) (layer mask : Int) (shape : Shape),
    g.node? body = some
      { name := .str (name.display ++ "_StaticBody"), transform, payload := .staticBody layer mask
        parent := some root, owner := some scene, children := [⟨body.index + 1⟩] } ∧
    g.node? ⟨body.index + 1⟩ = some
      { name := .str "CollisionShape", transform := Matrix.identity
        payload := .collisionShape (some shape), parent := some body, owner := some scene }

/-- A body is a body wherever its two nodes are the same. -/
theorem IsBody.of_same {g g' : SceneGraph R} {scene root body : NodeId} (h : g.IsBody scene root body)
    (hbody : g'.node? body = g.node? body)
    (hhull : g'.node? ⟨body.index + 1⟩ = g.node? ⟨body.index + 1⟩) : g'.IsBody scene root body := by
  rcases h with ⟨name, transform, layer, mask, shape, hb, hh⟩
  exact ⟨name, transform, layer, mask, shape, hbody.trans hb, hhull.trans hh⟩

/-- A body is not drawn. -/
theorem IsBody.modifyInstance {g : SceneGraph R} {scene root body : NodeId}
    (h : g.IsBody scene root body) (id : NodeId)
    (change : MeshInstance GeometryId MaterialId → MeshInstance GeometryId MaterialId) :
    (g.modifyInstance id change).IsBody scene root body := by
  rcases h with ⟨name, transform, layer, mask, shape, hb, hh⟩
  refine ⟨name, transform, layer, mask, shape, ?_, ?_⟩
  · rw [node?_modifyInstance, hb]
    split_ifs <;> rfl
  · rw [node?_modifyInstance, hh]
    split_ifs <;> rfl

section Body

variable {scene root : NodeId} {name : Json} {transform : Matrix R} {layer mask : Int} {shape : Shape}
  {g : SceneGraph R}

/-- The nodes after a body has been added: two new ones, and a root with one more child. -/
theorem node?_addBody (hroot : root.index < g.size) (x : NodeId) :
    (Collision.addBody scene root name transform layer mask shape g).node? x =
      if x.index = g.size then some
        { name := .str (name.display ++ "_StaticBody"), transform, payload := .staticBody layer mask
          parent := some root, owner := some scene, children := [⟨g.size + 1⟩] }
      else if x.index = g.size + 1 then some
        { name := .str "CollisionShape", transform := Matrix.identity
          payload := .collisionShape (some shape), parent := some ⟨g.size⟩, owner := some scene }
      else if x = root then
        (g.node? x).map fun n => { n with children := n.children ++ [⟨g.size⟩] }
      else g.node? x := by
  have hne : ∀ i, x.index ≠ i → x ≠ ⟨i⟩ := by
    rintro i hx rfl
    exact hx rfl
  unfold Collision.addBody
  simp only [insert_fst, size_insert, node?_link, node?_insert]
  -- the body is the first new node and its shape the second, and the root is neither
  by_cases hbody : x.index = g.size
  · have hx : x = ⟨g.size⟩ := by cases x; simpa using hbody
    have hxroot : ¬ (⟨g.size⟩ : NodeId) = root := by
      rintro rfl
      exact absurd hroot (Nat.lt_irrefl _)
    subst hx
    simp [hxroot]
  · by_cases hhull : x.index = g.size + 1
    · have hx : x = ⟨g.size + 1⟩ := by cases x; simpa using hhull
      have hxroot : ¬ (⟨g.size + 1⟩ : NodeId) = root := by
        rintro rfl
        exact absurd hroot (by simp)
      subst hx
      simp [hxroot]
    · by_cases hx : x = root
      · subst hx
        cases g.node? x <;> simp [hbody, hhull, hne _ hbody, hne _ hhull]
      · cases g.node? x <;> simp [hbody, hhull, hne _ hbody, hne _ hhull, hx]

theorem size_addBody :
    (Collision.addBody scene root name transform layer mask shape g).size = g.size + 2 := by
  simp [Collision.addBody]

/-- A new body keeps a graph linked: the body and its shape are two new nodes, and the nodes that were
there have their parents among themselves. -/
theorem Linked.addBody (hg : g.Linked) (hroot : root.index < g.size) :
    (Collision.addBody scene root name transform layer mask shape g).Linked := by
  let body : Node R :=
    { name := .str (name.display ++ "_StaticBody"), transform, payload := .staticBody layer mask
      owner := some scene }
  let hull : Node R :=
    { name := .str "CollisionShape", transform := Matrix.identity
      payload := .collisionShape (some shape), owner := some scene }
  let gNew : SceneGraph R := ((g.insert body).2.insert hull).2
  -- the two nodes are put down without links, then the shape is hung up, and then the body
  have hbuilt : Collision.addBody scene root name transform layer mask shape g =
      (gNew.link ⟨g.size⟩ ⟨g.size + 1⟩).link root ⟨g.size⟩ := by
    simp only [Collision.addBody, insert_fst, size_insert, gNew, body, hull]
  have hsize : gNew.size = g.size + 2 := by simp [gNew]
  have hparent : ∀ x, gNew.parent? x = g.parent? x := by
    intro x
    rw [parent?_insert _ rfl, parent?_insert _ rfl]
  have hchildren : ∀ x, gNew.children x = g.children x := by
    intro x
    rw [children_insert _ rfl, children_insert _ rfl]
  have hnew : gNew.Linked := hg.of_same_links hchildren hparent
  have hout : ∀ i, g.size ≤ i → g.parent? ⟨i⟩ = none := by
    intro i hi
    simp [parent?, node?, Array.getElem?_eq_none hi]
  have hbody : (gNew.link ⟨g.size⟩ ⟨g.size + 1⟩).Linked := by
    refine hnew.link (by simp [hsize]) (by simp [hsize]) ?_ ?_
    · rw [hparent, hout _ (Nat.le_succ _)]
    · intro hwithin
      rcases hwithin.eq_or_exists_parent with h | ⟨p, -, hp⟩
      · exact absurd (congrArg NodeId.index h) (Nat.ne_of_lt (Nat.lt_succ_self _))
      · rw [hchildren] at hp
        exact absurd (hg.index_lt_of_mem_children hp).2 (Nat.lt_irrefl _)
  rw [hbuilt]
  refine hbody.link ?_ ?_ ?_ ?_
  · rw [size_link, hsize]
    omega
  · simp [hsize]
  · rw [parent?_link _ _ (by simp [hsize]), if_neg (by simp), hparent, hout _ (Nat.le_refl _)]
  · intro hwithin
    -- what lies above an old node is old, and the body is new
    have hup := hwithin.up (P := fun x => x.index < g.size) ?_ hroot
    · exact absurd hup (Nat.lt_irrefl _)
    · intro p c hc hlt
      rw [hbody.mem_children_iff, parent?_link _ _ (by simp [hsize]),
        if_neg (by rintro rfl; exact absurd hlt (by simp)), hparent, ← hg.mem_children_iff] at hc
      exact (hg.index_lt_of_mem_children hc).1

end Body

/-! ## Steps of passes -/

/-- A change that passes make to the static subtrees, given by their roots. -/
inductive PassStep (scene : NodeId) (roots : NodeId → Prop) : SceneGraph R → SceneGraph R → Prop
  | redraw {g : SceneGraph R} {root id : NodeId} (hroot : roots root) (hid : g.Within root id)
      (change : MeshInstance GeometryId MaterialId → MeshInstance GeometryId MaterialId) :
      PassStep scene roots g (g.modifyInstance id change)
  | addBody {g : SceneGraph R} {root : NodeId} (hroot : roots root) (name : Json)
      (transform : Matrix R) (layer mask : Int) (shape : Shape) :
      PassStep scene roots g (Collision.addBody scene root name transform layer mask shape g)

/-- The graph after any number of steps of passes. -/
abbrev Reworked (scene : NodeId) (roots : NodeId → Prop) : SceneGraph R → SceneGraph R → Prop :=
  Relation.ReflTransGen (PassStep scene roots)

/-- What is left of a tree after passes.  A node that was there has its name, its place, its transform and
its children, and behind these a static root has bodies; nothing is changed outside of the static
subtrees. -/
structure Reshaped (scene : NodeId) (roots : NodeId → Prop) (g g' : SceneGraph R) : Prop where
  linked : g'.Linked
  size_le : g.size ≤ g'.size
  old : ∀ x n, g.node? x = some n → ∃ change bodies,
    g'.node? x = some
      { n with payload := n.payload.mapInstance change, children := n.children ++ bodies } ∧
    (∀ body ∈ bodies, roots x ∧ g.size ≤ body.index ∧ g'.IsBody scene x body) ∧
    ((∀ root, roots root → ¬ g.Within root x) → n.payload.mapInstance change = n.payload)
  new : ∀ x n, g.size ≤ x.index → g'.node? x = some n →
    n.queued = false ∧ n.payload.meshInstance? = none

namespace Reshaped

variable {scene : NodeId} {roots : NodeId → Prop} {g g' : SceneGraph R}

theorem refl (hg : g.Linked) : g.Reshaped scene roots g where
  linked := hg
  size_le := Nat.le_refl _
  old x n hn := ⟨fun i => i, [], by simpa using hn, by simp, fun _ => by simp⟩
  new x n hx hn := absurd (index_lt_of_node? hn) (Nat.not_lt.2 hx)

theorem parent?_eq (h : g.Reshaped scene roots g') {x : NodeId} (hx : x.index < g.size) :
    g'.parent? x = g.parent? x := by
  rcases exists_node?_iff.2 hx with ⟨n, hn⟩
  rcases h.old x n hn with ⟨change, bodies, hn', -⟩
  rw [parent?_of_node? hn, parent?_of_node? hn']

theorem name_eq (h : g.Reshaped scene roots g') {x : NodeId} (hx : x.index < g.size) :
    g'.name x = g.name x := by
  rcases exists_node?_iff.2 hx with ⟨n, hn⟩
  rcases h.old x n hn with ⟨change, bodies, hn', -⟩
  simp [name, hn, hn']

/-- Nothing is changed outside of the static subtrees. -/
theorem node?_of_outside (h : g.Reshaped scene roots g') {x : NodeId} {n : Node R} (hn : g.node? x = some n)
    (hx : ∀ root, roots root → ¬ g.Within root x) : g'.node? x = some n := by
  rcases h.old x n hn with ⟨change, bodies, hn', hbodies, hsame⟩
  -- bodies are hung under static roots only
  have hnone : bodies = [] := by
    rw [List.eq_nil_iff_forall_not_mem]
    intro body hbody
    exact hx x (hbodies body hbody).1 (Within.refl _ x)
  rw [hn', hsame hx, hnone, List.append_nil]

/-- Trees only grow. -/
theorem within (h : g.Reshaped scene roots g') {a x : NodeId} (hx : g.Within a x) : g'.Within a x := by
  refine hx.of_same_children fun y _ child hchild => ?_
  rcases exists_node?_of_mem_children hchild with ⟨n, hn, hmem⟩
  rcases h.old y n hn with ⟨change, bodies, hn', -⟩
  rw [children_of_node? hn']
  exact List.mem_append_left bodies hmem

/-- The nodes that were there lie in the trees that they lay in. -/
theorem within_of_old (h : g.Reshaped scene roots g') (hg : g.Linked) {a x : NodeId}
    (hx : x.index < g.size) (hwithin : g'.Within a x) : g.Within a x := by
  induction hwithin with
  | refl => exact Within.refl g _
  | tail _ hchild ih =>
      rw [h.linked.mem_children_iff, h.parent?_eq hx, ← hg.mem_children_iff] at hchild
      exact (ih (hg.index_lt_of_mem_children hchild).1).child hchild

/-- A mesh instance of a static subtree is drawn in another way. -/
theorem redraw (h : g.Reshaped scene roots g') (hg : g.Linked) {root id : NodeId} (hroot : roots root)
    (hid : g'.Within root id)
    (change' : MeshInstance GeometryId MaterialId → MeshInstance GeometryId MaterialId) :
    g.Reshaped scene roots (g'.modifyInstance id change') := by
  refine ⟨h.linked.modifyInstance _ _, by simpa using h.size_le, ?_, ?_⟩
  · intro x n hn
    rcases h.old x n hn with ⟨change, bodies, hn', hbodies, hsame⟩
    rw [node?_modifyInstance, hn']
    have hkept : ∀ body ∈ bodies, roots x ∧ g.size ≤ body.index ∧
        (g'.modifyInstance id change').IsBody scene x body := by
      intro body hbody
      rcases hbodies body hbody with ⟨hx, hindex, hisBody⟩
      exact ⟨hx, hindex, hisBody.modifyInstance id change'⟩
    by_cases hx : x = id
    · subst hx
      refine ⟨fun i => change' (change i), bodies, by simp, hkept, ?_⟩
      -- the node lies in a static subtree, so nothing is promised of how it is drawn
      intro hout
      exact absurd (h.within_of_old hg (index_lt_of_node? hn) hid) (hout root hroot)
    · exact ⟨change, bodies, by simp [hx], hkept, hsame⟩
  · intro x n hx hn
    rw [node?_modifyInstance] at hn
    split_ifs at hn
    · rcases Option.map_eq_some_iff.1 hn with ⟨m, hm, rfl⟩
      rcases h.new x m hx hm with ⟨hqueued, hpayload⟩
      exact ⟨hqueued, by simp [hpayload]⟩
    · exact h.new x n hx hn

section

variable {root : NodeId} {name : Json} {transform : Matrix R} {layer mask : Int} {shape : Shape}

/-- Another body leaves those alone that are there: they are older than it, and newer than any root. -/
theorem isBody_addBody (hroot : root.index < g.size) (hsize : g.size ≤ g'.size) {x body : NodeId}
    (hnew : g.size ≤ body.index) (hbody : g'.IsBody scene x body) :
    (Collision.addBody scene root name transform layer mask shape g').IsBody scene x body := by
  have hkept : ∀ y : NodeId, y.index < g'.size → g.size ≤ y.index →
      (Collision.addBody scene root name transform layer mask shape g').node? y = g'.node? y := by
    intro y hy hlate
    have hne : y ≠ root := by
      rintro rfl
      exact absurd hroot (Nat.not_lt.2 hlate)
    rw [node?_addBody (hroot.trans_le hsize), if_neg (by omega), if_neg (by omega), if_neg hne]
  rcases id hbody with ⟨_, _, _, _, _, hb, hh⟩
  exact hbody.of_same (hkept body (index_lt_of_node? hb) hnew)
    (hkept _ (index_lt_of_node? hh) (Nat.le_succ_of_le hnew))

/-- A body is hung under the root of a static subtree. -/
theorem addBody (h : g.Reshaped scene roots g') (hroot : roots root) (hlt : root.index < g.size) :
    g.Reshaped scene roots (Collision.addBody scene root name transform layer mask shape g') := by
  have hsize := h.size_le
  have hlt' : root.index < g'.size := hlt.trans_le hsize
  refine ⟨h.linked.addBody hlt', by rw [size_addBody]; omega, ?_, ?_⟩
  · intro x n hn
    have hx := index_lt_of_node? hn
    rcases h.old x n hn with ⟨change, bodies, hn', hbodies, hsame⟩
    rw [node?_addBody hlt', if_neg (by omega), if_neg (by omega), hn']
    have hkept : ∀ body ∈ bodies, roots x ∧ g.size ≤ body.index ∧
        (Collision.addBody scene root name transform layer mask shape g').IsBody scene x body := by
      intro body hbody
      rcases hbodies body hbody with ⟨hrootx, hindex, hisBody⟩
      exact ⟨hrootx, hindex, isBody_addBody hlt hsize hindex hisBody⟩
    by_cases hxroot : x = root
    · subst hxroot
      refine ⟨change, bodies ++ [⟨g'.size⟩], by simp, ?_, hsame⟩
      intro body hbody
      rcases List.mem_append.1 hbody with hbody | hbody
      · exact hkept body hbody
      · rw [List.mem_singleton.1 hbody]
        refine ⟨hroot, hsize, name, transform, layer, mask, shape, ?_, ?_⟩
        · rw [node?_addBody hlt', if_pos rfl]
        · rw [node?_addBody hlt', if_neg (by simp), if_pos rfl]
    · exact ⟨change, bodies, by simp [hxroot], hkept, hsame⟩
  · -- the body and its shape are the only nodes that were not there before
    intro x n hx hn
    rw [node?_addBody hlt'] at hn
    split_ifs at hn with hbody hhull hxroot
    · cases hn
      exact ⟨rfl, rfl⟩
    · cases hn
      exact ⟨rfl, rfl⟩
    · subst hxroot
      exact absurd hlt (Nat.not_lt.2 hx)
    · exact h.new x n hx hn

end

/-- A step of a pass preserves what is left of the tree it started from. -/
theorem step (h : g.Reshaped scene roots g') (hg : g.Linked)
    (hroots : ∀ root, roots root → root.index < g.size) {g'' : SceneGraph R}
    (hstep : PassStep scene roots g' g'') : g.Reshaped scene roots g'' := by
  cases hstep with
  | redraw hroot hid change' => exact h.redraw hg hroot hid change'
  | addBody hroot name transform layer mask shape => exact h.addBody hroot (hroots _ hroot)

end Reshaped

/-- Passes leave this much of a tree, whatever they are. -/
theorem Reworked.reshaped {scene : NodeId} {roots : NodeId → Prop} {g g' : SceneGraph R}
    (h : Reworked scene roots g g') (hg : g.Linked)
    (hroots : ∀ root, roots root → root.index < g.size) : g.Reshaped scene roots g' := by
  induction h with
  | refl => exact Reshaped.refl hg
  | tail _ hstep ih => exact ih.step hg hroots hstep

end SceneGraph

end LevelPrep
