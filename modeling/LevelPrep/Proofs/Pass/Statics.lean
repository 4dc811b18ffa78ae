import LevelPrep.Proofs.Pass.UnwrapCalls

/-!
# Passes over static nodes

Static nodes go through the passes one after another.  Their trees have nothing in common, so each is
restyled as if it were alone (`rendered_of_static`), and the calls of the unwrapper follow one another in the order
of the static nodes (`asked_of_static`).
-/

namespace LevelPrep

variable {R : Type}

open Work SceneGraph

/-- The session after some static nodes have gone through passes: their trees are restyled, and the mesh
instances outside of them look as before. -/
structure Rendered [Zero R] [One R] (scene : NodeId) (roots : NodeId → Prop) (passes : List PassKind)
    (g : Grammar) (done : List NodeId) (s t : Session R) : Prop where
  worked : Worked scene roots s t
  orderly : Orderly t
  catalogs : t.shelf.catalogs = s.shelf.catalogs
  inside : ∀ node ∈ done, ∀ x, s.stage.graph.Within node x →
    Option.Rel (fun i i' => restyleAll passes g s.shelf.materialFor (s.stage.graph.name x) i = .ok i')
      (s.stage.look x) (t.stage.look x)
  outside : ∀ x, x.index < s.stage.graph.size → (∀ node ∈ done, ¬ s.stage.graph.Within node x) →
    t.stage.look x = s.stage.look x

/-- Static nodes of different trees. -/
structure Apart (g : SceneGraph R) (nodes : List NodeId) : Prop where
  nodup : nodes.Nodup
  unique : ∀ a ∈ nodes, ∀ b ∈ nodes, ∀ x, g.Within a x → g.Within b x → a = b

/-- The trees of nodes that come earlier have nothing in common with that of a later one. -/
theorem Apart.not_within {g : SceneGraph R} {before after : List NodeId} {node x : NodeId}
    (h : Apart g (before ++ node :: after)) (hx : g.Within node x) :
    ∀ other ∈ before, ¬ g.Within other x := by
  intro other hother hx'
  have heq := h.unique other (by simp [hother]) node (by simp) x hx' hx
  exact List.disjoint_of_nodup_append h.nodup hother (heq ▸ List.mem_cons_self)

section

variable [Zero R] [One R] {scene : NodeId} {roots : NodeId → Prop} {passes : List PassKind} {g : Grammar}
  {done later : List NodeId} {node x : NodeId} {s t t' : Session R}

theorem Rendered.start (hs : Orderly s) : Rendered scene roots passes g [] s s where
  worked := .refl _ _ _
  orderly := hs
  catalogs := rfl
  inside _ h := by cases h
  outside _ _ _ := rfl

/-- A node that is still to come is seen as it was at the start. -/
theorem Rendered.look_eq (h : Rendered scene roots passes g done s t) (hworkable : Workable roots s)
    (hnode : roots node) (hapart : Apart s.stage.graph (done ++ node :: later))
    (hx : s.stage.graph.Within node x) : t.stage.look x = s.stage.look x :=
  h.outside x (hworkable.linked.index_lt_of_within hx (hworkable.inside node hnode))
    (hapart.not_within hx)

/-- The tree of one more node is restyled. -/
theorem Rendered.snoc (h : Rendered scene roots passes g done s t) (hworkable : Workable roots s)
    (hnodes : ∀ n ∈ done ++ node :: later, roots n)
    (hapart : Apart s.stage.graph (done ++ node :: later)) (hworked : Worked scene roots t t')
    (hstyled : Styled node (fun name i i' => restyleAll passes g s.shelf.materialFor name i = .ok i') t t') :
    Rendered scene roots passes g (done ++ [node]) s t' := by
  have hlinked := hworkable.linked
  have hreshaped := h.worked.reshaped hworkable
  have hnode : roots node := hnodes node (by simp)
  refine ⟨h.worked.trans hworked, hstyled.orderly, hstyled.catalogs.trans h.catalogs, ?_, ?_⟩
  · intro other hother x hx
    rcases List.mem_append.1 hother with hdone | hlast
    · -- the tree of a node that is done has nothing in common with the one that is worked on
      have hlt := hlinked.index_lt_of_within hx (hworkable.inside other (hnodes other (by simp [hdone])))
      have hnot : ¬ t.stage.graph.Within node x := fun hx' =>
        hapart.not_within (hreshaped.within_of_old hlinked hlt hx') other hdone hx
      rw [hstyled.outside x hnot]
      exact h.inside other hdone x hx
    · rw [List.mem_singleton.1 hlast] at hx
      have hlt := hlinked.index_lt_of_within hx (hworkable.inside node hnode)
      have hself := hstyled.inside x (hreshaped.within hx)
      rwa [hreshaped.name_eq hlt, h.look_eq hworkable hnode hapart hx] at hself
  · intro x hlt hx
    rw [← h.outside x hlt fun other hother => hx other (List.mem_append_left _ hother)]
    refine hstyled.outside x fun hx' => ?_
    exact hx node (by simp) (hreshaped.within_of_old hlinked hlt hx')

/-- The nodes of static trees that keep a mesh through some passes: tree by tree and level by level. -/
def keepers (passes : List PassKind) (g : Grammar) (s : Session R) (nodes : List NodeId) : List NodeId :=
  nodes.flatMap fun node => (s.stage.graph.levelOrder node).filter (keepsMesh passes g s)

/-- What keeps its mesh in the tree of a node that is still to come is what would have kept it at the
start. -/
theorem Rendered.filter_keepsMesh {before : List PassKind}
    (h : Rendered scene roots passes g done s t) (hworkable : Workable roots s)
    (hnode : roots node) (hapart : Apart s.stage.graph (done ++ node :: later)) :
    (t.stage.graph.levelOrder node).filter (keepsMesh before g t) =
      (s.stage.graph.levelOrder node).filter (keepsMesh before g s) := by
  have hlinked := hworkable.linked
  have hreshaped := h.worked.reshaped hworkable
  have hinside := hworkable.inside node hnode
  rw [← hreshaped.filter_levelOrder hlinked hinside, List.filter_filter]
  -- old nodes of the tree look as they did, and new ones show no mesh
  refine List.filter_congr fun x hx => ?_
  rw [mem_levelOrder_iff hreshaped.linked] at hx
  by_cases hlt : x.index < s.stage.graph.size
  · have hlook := h.look_eq hworkable hnode hapart (hreshaped.within_of_old hlinked hlt hx)
    simp [keepsMesh, hlook, hreshaped.name_eq hlt, Shelf.materialFor_eq h.catalogs, hlt]
  · have hnone := look_eq_none_of_new hreshaped (Nat.not_lt.1 hlt)
    simp [keepsMesh, hnone, hlt]

variable [Add R] [Mul R] {context : PassContext R} {nodes : List NodeId}

/-- One more static node goes through the passes. -/
theorem Rendered.round (h : Rendered context.scene roots passes context.grammar done s t)
    (hworkable : Workable roots s) (hnodes : ∀ n ∈ done ++ node :: later, roots n)
    (hapart : Apart s.stage.graph (done ++ node :: later))
    (hunwrap : Lightmap.SetsCoordinates context.tools.unwrap)
    (hrun : (passes.forM fun pass => pass.apply context node).runIn t = (.ok (), t')) :
    Rendered context.scene roots passes context.grammar (done ++ [node]) s t' := by
  have hworkable' := h.worked.workable hworkable
  have hnode : roots node := hnodes node (by simp)
  have hstyled := styled_of_passes hworkable' hnode h.orderly hunwrap hrun
  rw [Shelf.materialFor_eq h.catalogs] at hstyled
  exact h.snoc hworkable hnodes hapart (worked_of_passes hworkable' hnode hrun) hstyled

/-- Passes over one static node after another restyle each of their trees. -/
theorem rendered_of_static (hworkable : Workable roots s) (hnodes : ∀ node ∈ nodes, roots node)
    (hapart : Apart s.stage.graph nodes) (hs : Orderly s)
    (hunwrap : Lightmap.SetsCoordinates context.tools.unwrap)
    (hrun : (nodes.forM fun node => passes.forM fun pass => pass.apply context node).runIn s =
      (.ok (), t)) : Rendered context.scene roots passes context.grammar nodes s t := by
  refine forM_prefix (I := fun done t => Rendered context.scene roots passes context.grammar done s t)
    (.start hs) ?_ hrun
  rintro done node later u u' rfl h hpasses
  exact h.round hworkable hnodes hapart hunwrap hpasses

/-- The calls of passes with one lightmap pass among them, over one static node after another. -/
theorem asked_of_static (before after : List PassKind) (hworkable : Workable roots s)
    (hnodes : ∀ node ∈ nodes, roots node) (hapart : Apart s.stage.graph nodes) (hs : Orderly s)
    (hunwrap : Lightmap.SetsCoordinates context.tools.unwrap)
    (hlightmap : PassKind.lightmap ∉ before) (hmaterial : PassKind.material ∉ before)
    (hafter : ∀ kind ∈ after, kind.keepsLayouts = true)
    (hrun : (nodes.forM fun node =>
      (before ++ .lightmap :: after).forM fun pass => pass.apply context node).runIn s = (.ok (), t)) :
    Asked context.tools.unwrap context.settings context.grammar (keepers before context.grammar s nodes) s t := by
  suffices hboth : Rendered context.scene roots (before ++ .lightmap :: after) context.grammar nodes s t ∧
      Asked context.tools.unwrap context.settings context.grammar (keepers before context.grammar s nodes) s t from
    hboth.2
  refine forM_prefix (I := fun done t =>
    Rendered context.scene roots (before ++ .lightmap :: after) context.grammar done s t ∧
      Asked context.tools.unwrap context.settings context.grammar (keepers before context.grammar s done) s t)
    ⟨.start hs, .of_silent rfl⟩ ?_ hrun
  rintro done node later u u' rfl ⟨h, hasked⟩ hpasses
  have hnode : roots node := hnodes node (by simp)
  have hlinked := hworkable.linked
  have hreshaped := h.worked.reshaped hworkable
  have hworkable' := h.worked.workable hworkable
  have hmore := asked_of_passes hworkable' hnode h.orderly hunwrap hlightmap hmaterial hafter hpasses
  rw [h.filter_keepsMesh hworkable hnode hapart] at hmore
  refine ⟨h.round hworkable hnodes hapart hunwrap hpasses, ?_⟩
  unfold keepers at hasked ⊢
  rw [List.flatMap_append, List.flatMap_singleton]
  refine hasked.trans hmore (fun x hx => ?_) fun x hx call hcall => ?_
  · -- a node that was asked for is in a tree that the passes do not reach
    rcases List.mem_flatMap.1 hx with ⟨other, hother, hmem⟩
    have hwithin := (mem_levelOrder_iff hlinked).1 (List.mem_filter.1 hmem).1
    have hlt := hlinked.index_lt_of_within hwithin (hworkable.inside other (hnodes other (by simp [hother])))
    refine layout_of_passes hworkable' hnode h.orderly hunwrap (hlt.trans_le hreshaped.size_le) (Or.inr ?_) hpasses
    exact fun hx' => hapart.not_within (hreshaped.within_of_old hlinked hlt hx') other hother hwithin
  · have hwithin := (mem_levelOrder_iff hlinked).1 (List.mem_filter.1 hx).1
    have hlt := hlinked.index_lt_of_within hwithin (hworkable.inside node hnode)
    -- the tree looks as it did at the start, as all trees before it are apart from it
    refine hcall.of_later hreshaped hlt fun i mesh hi hmesh => ⟨i, ?_, hmesh⟩
    rw [← h.look_eq hworkable hnode hapart hwithin, hi]

end

end LevelPrep
