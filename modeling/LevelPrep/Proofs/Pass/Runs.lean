import LevelPrep.Level.Conversion
import LevelPrep.Proofs.Pass.Outcomes
import LevelPrep.Proofs.Scene.Levels

/-!
# Runs of passes

A pass reworks the nodes of its subtree and leaves the files, the catalogs and the packaged scenes alone, whether
it succeeds or fails: the rounds before the failing one have worked on their nodes, and the failing one changes no
node (`worked_apply`).  So does any list of passes over any list of subtrees (`worked_static`).
-/

namespace LevelPrep

variable {R : Type}

open Work SceneGraph

/-- The session after passes over static subtrees. -/
structure Worked [Zero R] [One R] (scene : NodeId) (roots : NodeId → Prop) (s s' : Session R) :
    Prop where
  reworked : Reworked scene roots s.stage.graph s'.stage.graph
  disk : s'.disk = s.disk
  catalogs : s'.shelf.catalogs = s.shelf.catalogs
  packedScenes : s'.shelf.packedScenes = s.shelf.packedScenes

/-- What passes start from: a linked graph with all roots in it. -/
structure Workable (roots : NodeId → Prop) (s : Session R) : Prop where
  linked : s.stage.graph.Linked
  inside : ∀ root, roots root → root.index < s.stage.graph.size

theorem Workable.mono {roots roots' : NodeId → Prop} {s : Session R} (h : Workable roots s)
    (hroots : ∀ root, roots' root → roots root) : Workable roots' s :=
  ⟨h.linked, fun root hroot => h.inside root (hroots root hroot)⟩

theorem Workable.single {root : NodeId} {s : Session R} (hs : s.stage.graph.Linked)
    (hroot : root.index < s.stage.graph.size) : Workable (· = root) s := by
  refine ⟨hs, ?_⟩
  intro other hother
  rwa [hother]

theorem within_of_mem_instances {g : SceneGraph R} {root id : NodeId} (hg : g.Linked) (h : id ∈ g.instances root) :
    g.Within root id :=
  (mem_levelOrder_iff hg).1 (List.mem_filter.1 h).1

theorem within_of_mem_meshNodes {g : SceneGraph R} {root id : NodeId} (hg : g.Linked) (h : id ∈ g.meshNodes root) :
    g.Within root id :=
  (mem_levelOrder_iff hg).1 (List.mem_filter.1 h).1

/-- The walk through a tree after passes meets the nodes that were there in their old order. -/
theorem SceneGraph.Reshaped.filter_levelOrder [Zero R] [One R] {scene root : NodeId} {roots : NodeId → Prop}
    {g g' : SceneGraph R} (h : Reshaped scene roots g g') (hg : g.Linked) (hroot : root.index < g.size) :
    (g'.levelOrder root).filter (fun x => decide (x.index < g.size)) = g.levelOrder root := by
  refine filter_levelOrder_of_grown hg ⟨?_, ?_⟩ h.size_le (decide_eq_true hroot)
  · intro x hx
    rcases exists_node?_iff.2 (of_decide_eq_true hx) with ⟨n, hn⟩
    rcases h.old x n hn with ⟨change, bodies, hn', hbodies, -⟩
    rw [children_of_node? hn, children_of_node? hn', List.filter_append, List.filter_eq_self.2,
      List.filter_eq_nil_iff.2, List.append_nil]
    · intro body hbody
      simpa using (hbodies body hbody).2.1
    · intro child hchild
      exact decide_eq_true (hg.index_lt_of_mem_children (by rwa [children_of_node? hn])).2
  · intro x hx
    refine List.filter_eq_nil_iff.2 fun child hchild hold => ?_
    -- the parent of a node that was there was there as well
    have hparent := (h.linked.mem_children_iff x child).1 hchild
    rw [h.parent?_eq (of_decide_eq_true hold), ← hg.mem_children_iff] at hparent
    exact absurd (hg.index_lt_of_mem_children hparent).1 (of_decide_eq_false hx)

section

variable [Zero R] [One R] {scene : NodeId} {roots : NodeId → Prop} {s t s' : Session R}

namespace Worked

theorem refl (scene : NodeId) (roots : NodeId → Prop) (s : Session R) : Worked scene roots s s :=
  ⟨.refl, rfl, rfl, rfl⟩

theorem trans (h : Worked scene roots s t) (h' : Worked scene roots t s') : Worked scene roots s s' :=
  ⟨h.reworked.trans h'.reworked, h'.disk.trans h.disk, h'.catalogs.trans h.catalogs,
    h'.packedScenes.trans h.packedScenes⟩

theorem reshaped (h : Worked scene roots s s') (hs : Workable roots s) :
    Reshaped scene roots s.stage.graph s'.stage.graph :=
  h.reworked.reshaped hs.linked hs.inside

theorem workable (h : Worked scene roots s s') (hs : Workable roots s) : Workable roots s' where
  linked := (h.reshaped hs).linked
  inside root hroot := (hs.inside root hroot).trans_le (h.reshaped hs).size_le

end Worked

section

variable {context : PassContext R} {root id : NodeId}

theorem worked_of_redrawn {change : MeshInstance GeometryId MaterialId → MeshInstance GeometryId MaterialId}
    (hroot : roots root) (hid : s.stage.graph.Within root id) (h : Redrawn id change s s') :
    Worked scene roots s s' := by
  rcases h with ⟨journal, rfl⟩
  exact ⟨.single (.redraw hroot hid change), rfl, rfl, rfl⟩

theorem worked_of_baked (hroot : roots root) (hid : s.stage.graph.Within root id)
    (h : Baked context id s s') : Worked scene roots s s' := by
  cases h with
  | noMesh => exact .refl scene roots s
  | unwrapped => exact ⟨.single (.redraw hroot hid _), rfl, rfl, rfl⟩

theorem worked_of_rematerialed {surface : Nat} (hroot : roots root)
    (hid : s.stage.graph.Within root id) (h : Rematerialed id surface s s') :
    Worked scene roots s s' := by
  cases h with
  | noMesh => exact .refl scene roots s
  | replaced _ hmaterial =>
      cases hmaterial with
      | blank | kept | loaded => exact ⟨.single (.redraw hroot hid _), rfl, rfl, rfl⟩

theorem worked_of_embodied [Add R] [Mul R] (hroot : roots root) (h : Embodied context root id s s') :
    Worked context.scene roots s s' := by
  cases h with
  | added => exact ⟨.single (.addBody hroot _ _ _ _ _), rfl, rfl, rfl⟩

/-! ## Rounds that may fail -/

/-- The session after a step that failed without a trace: no node has changed, and no file, catalog or packaged
scene. -/
structure Stalled (s s' : Session R) : Prop where
  graph : s'.stage.graph = s.stage.graph
  disk : s'.disk = s.disk
  catalogs : s'.shelf.catalogs = s.shelf.catalogs
  packedScenes : s'.shelf.packedScenes = s.shelf.packedScenes

theorem Stalled.worked (h : Stalled s s') : Worked scene roots s s' :=
  ⟨h.graph ▸ .refl, h.disk, h.catalogs, h.packedScenes⟩

/-- A step that does its work when it succeeds, and nothing when it fails. -/
theorem worked_of_outcomes {step : Work R Unit} (hok : ∀ s', step.runIn s = (.ok (), s') → Worked scene roots s s')
    (herror : ∀ fault s', step.runIn s = (.error fault, s') → Stalled s s') :
    Worked scene roots s (step.runIn s).2 := by
  rcases hrun : step.runIn s with ⟨fault | ⟨⟩, s'⟩
  · exact (herror fault s' hrun).worked
  · exact hok s' hrun

theorem worked_questioned {β : Type} {question : Except Fault β} {round : Work R Unit}
    {change : MeshInstance GeometryId MaterialId → MeshInstance GeometryId MaterialId} (hroot : roots root)
    (hid : s.stage.graph.Within root id) (h : Questioned question id change round s) :
    Worked scene roots s (round.runIn s).2 := by
  refine worked_of_outcomes (fun s' hrun => ?_) fun fault s' hrun => ?_
  · exact worked_of_redrawn hroot hid (h.settles.leaves s' hrun).2
  · cases h.eq_of_error hrun
    exact ⟨rfl, rfl, rfl, rfl⟩

theorem worked_bake (hroot : roots root) (hid : s.stage.graph.Within root id) :
    Worked scene roots s ((Rendering.bake context id).runIn s).2 := by
  refine worked_of_outcomes (fun s' hrun => worked_of_baked hroot hid (baked_of_bake hrun)) fun fault s' hrun => ?_
  rcases of_bake_error hrun with ⟨hgraph, hdisk, hshelf, -⟩
  exact ⟨hgraph, hdisk, by rw [hshelf], by rw [hshelf]⟩

theorem worked_replaceMaterial {surface : Nat} (hroot : roots root) (hid : s.stage.graph.Within root id) :
    Worked scene roots s ((Rendering.replaceMaterial id surface).runIn s).2 := by
  refine worked_of_outcomes (fun s' hrun => ?_) fun fault s' hrun => ?_
  · exact worked_of_rematerialed hroot hid (rematerialed_of_replaceMaterial hrun)
  · rcases of_replaceMaterial_error hrun with rfl | ⟨name, material, -, hmaterial⟩
    · exact ⟨rfl, rfl, rfl, rfl⟩
    · cases hmaterial with
      | blank | kept | loaded => exact ⟨rfl, rfl, rfl, rfl⟩

theorem worked_makeBody [Add R] [Mul R] (hroot : roots root) :
    Worked context.scene roots s ((Collision.makeBody context root id).runIn s).2 := by
  refine worked_of_outcomes (fun s' hrun => worked_of_embodied hroot (embodied_of_makeBody hrun))
    fun fault s' hrun => ?_
  rcases cases_of_makeBody context root id s with ⟨-, t, ht⟩ | ⟨-, fault', ht⟩
  · cases ht.symm.trans hrun
  · cases ht.symm.trans hrun
    exact ⟨rfl, rfl, rfl, rfl⟩

/-! ## Loops -/

/-- A loop over nodes of a static subtree, each round of which works on its node. -/
theorem worked_forM (root : NodeId) {f : NodeId → Work R Unit} {ids : List NodeId} (hs : Workable roots s)
    (hids : ∀ id ∈ ids, s.stage.graph.Within root id)
    (hround : ∀ id t, Workable roots t → t.stage.graph.Within root id →
      Worked scene roots t ((f id).runIn t).2) :
    Worked scene roots s ((ids.forM f).runIn s).2 := by
  refine forM_always (.refl scene roots s) ?_
  intro id hid t ht
  exact ht.trans (hround id t (ht.workable hs) ((ht.reshaped hs).within (hids id hid)))

/-- The materials of a node are replaced surface by surface. -/
theorem worked_replaceMaterials {scene id : NodeId} (hs : Workable roots s) (hroot : roots root)
    (hid : s.stage.graph.Within root id) :
    Worked scene roots s ((Rendering.replaceMaterials id).runIn s).2 := by
  rw [Rendering.replaceMaterials, runIn_bind, runIn_graph]
  cases hmesh : s.stage.graph.mesh? id with
  | none =>
      simp only [hmesh]
      exact .refl scene roots s
  | some mesh =>
      simp only [hmesh]
      refine forM_always (.refl scene roots s) ?_
      intro surface _ t ht
      exact ht.trans (worked_replaceMaterial hroot ((ht.reshaped hs).within hid))

end

end

variable [Zero R] [One R] [Add R] [Mul R] {context : PassContext R} {roots : NodeId → Prop}
  {root : NodeId} {s s' : Session R}

/-- A pass works on the subtree it is applied to and on nothing else. -/
theorem worked_apply (context : PassContext R) (kind : PassKind) (hs : Workable roots s) (hroot : roots root) :
    Worked context.scene roots s ((kind.apply context root).runIn s).2 := by
  have hinstances : ∀ id ∈ s.stage.graph.instances root, s.stage.graph.Within root id := fun id =>
    within_of_mem_instances hs.linked
  have hmeshNodes : ∀ id ∈ s.stage.graph.meshNodes root, s.stage.graph.Within root id := fun id =>
    within_of_mem_meshNodes hs.linked
  cases kind with
  | collision =>
      show Worked context.scene roots s ((Collision.apply context root).runIn s).2
      rw [Collision.apply, runIn_bind, runIn_graph]
      simp only [runIn_bind]
      rw [runIn_filterM _ fun x _ => runIn_noCollision context s x]
      -- bodies are made only after all names have been read
      cases hkept : (s.stage.graph.instances root).filterM fun x =>
          (context.grammar.nameHas (s.stage.graph.name x) .noCollision).map not with
      | error fault => exact .refl context.scene roots s
      | ok kept =>
          refine worked_forM root hs (fun id hid => ?_) fun id t _ _ => worked_makeBody hroot
          rw [eq_filter_of_filterM hkept] at hid
          exact hinstances id (List.mem_filter.1 hid).1
  | renderRemoval =>
      exact worked_forM root hs hinstances fun id t _ hid =>
        worked_questioned hroot hid (questioned_hideIfAsked context id t)
  | lightmap =>
      show Worked context.scene roots s ((Rendering.applyLightmap context root).runIn s).2
      rw [Rendering.applyLightmap, runIn_bind, runIn_graph]
      simp only [runIn_bind]
      have hbaked : Worked context.scene roots s
          (((s.stage.graph.meshNodes root).forM (Rendering.bake context)).runIn s).2 :=
        worked_forM root hs hmeshNodes fun id t _ hid => worked_bake hroot hid
      -- nothing is lit if a mesh could not be baked
      rcases hrun : ((s.stage.graph.meshNodes root).forM (Rendering.bake context)).runIn s with ⟨fault | ⟨⟩, t⟩
      · rwa [hrun] at hbaked
      · rw [hrun] at hbaked
        refine hbaked.trans (worked_forM root (hbaked.workable hs) (fun id hid => ?_) fun id u _ hid =>
          worked_questioned hroot hid (questioned_lightIfAsked context id u))
        exact (hbaked.reshaped hs).within (hmeshNodes id hid)
  | shadow =>
      exact worked_forM root hs hinstances fun id t _ hid =>
        worked_questioned hroot hid (questioned_setShadow context id t)
  | renderLayer =>
      exact worked_forM root hs hinstances fun id t _ hid =>
        worked_questioned hroot hid (questioned_setLayer context id t)
  | material =>
      exact worked_forM root hs hmeshNodes fun id t ht hid => worked_replaceMaterials ht hroot hid

/-- Any passes, one after another, work on nothing but their subtree. -/
theorem worked_passes (context : PassContext R) (passes : List PassKind) (hs : Workable roots s) (hroot : roots root) :
    Worked context.scene roots s ((passes.forM fun pass => pass.apply context root).runIn s).2 := by
  refine forM_always (.refl context.scene roots s) ?_
  intro pass _ t ht
  exact ht.trans (worked_apply context pass (ht.workable hs) hroot)

theorem worked_of_apply {kind : PassKind} {outcome : Except Fault Unit} (hs : Workable roots s)
    (hroot : roots root) (hrun : (kind.apply context root).runIn s = (outcome, s')) :
    Worked context.scene roots s s' := by
  have hworked := worked_apply context kind hs hroot
  rwa [hrun] at hworked

theorem worked_of_passes {passes : List PassKind} {outcome : Except Fault Unit} (hs : Workable roots s)
    (hroot : roots root) (hrun : (passes.forM fun pass => pass.apply context root).runIn s = (outcome, s')) :
    Worked context.scene roots s s' := by
  have hworked := worked_passes context passes hs hroot
  rwa [hrun] at hworked

/-- A pass over one subtree reshapes this subtree only. -/
theorem reshaped_of_apply {kind : PassKind} {outcome : Except Fault Unit} (hs : s.stage.graph.Linked)
    (hroot : root.index < s.stage.graph.size) (hrun : (kind.apply context root).runIn s = (outcome, s')) :
    Reshaped context.scene (· = root) s.stage.graph s'.stage.graph := by
  have hworked : Worked context.scene (· = root) s s' := worked_of_apply (.single hs hroot) rfl hrun
  exact hworked.reshaped (.single hs hroot)

theorem reshaped_of_passes {passes : List PassKind} {outcome : Except Fault Unit} (hs : s.stage.graph.Linked)
    (hroot : root.index < s.stage.graph.size)
    (hrun : (passes.forM fun pass => pass.apply context root).runIn s = (outcome, s')) :
    Reshaped context.scene (· = root) s.stage.graph s'.stage.graph := by
  have hworked : Worked context.scene (· = root) s s' := worked_of_passes (.single hs hroot) rfl hrun
  exact hworked.reshaped (.single hs hroot)

/-- Passes over one static subtree after another work on nothing but these. -/
theorem worked_static (context : PassContext R) (passes : List PassKind) (nodes : List NodeId)
    (hs : Workable roots s) (hnodes : ∀ node ∈ nodes, roots node) : Worked context.scene roots s
      ((nodes.forM fun node => passes.forM fun pass => pass.apply context node).runIn s).2 := by
  refine forM_always (.refl context.scene roots s) ?_
  intro node hnode t ht
  exact ht.trans (worked_passes context passes (ht.workable hs) (hnodes node hnode))

theorem worked_of_static {passes : List PassKind} {nodes : List NodeId} {outcome : Except Fault Unit}
    (hs : Workable roots s) (hnodes : ∀ node ∈ nodes, roots node)
    (hrun : (nodes.forM fun node => passes.forM fun pass => pass.apply context node).runIn s = (outcome, s')) :
    Worked context.scene roots s s' := by
  have hworked := worked_static context passes nodes hs hnodes
  rwa [hrun] at hworked

/-- Passes over one subtree after another reshape these subtrees only. -/
theorem reshaped_of_static {passes : List PassKind} {nodes : List NodeId} {outcome : Except Fault Unit}
    (hs : s.stage.graph.Linked) (hnodes : ∀ node ∈ nodes, node.index < s.stage.graph.size)
    (hrun : (nodes.forM fun node => passes.forM fun pass => pass.apply context node).runIn s = (outcome, s')) :
    Reshaped context.scene (· ∈ nodes) s.stage.graph s'.stage.graph := by
  have hworked : Worked context.scene (· ∈ nodes) s s' := worked_of_static ⟨hs, hnodes⟩ (fun _ hnode => hnode) hrun
  exact hworked.reshaped ⟨hs, hnodes⟩

end LevelPrep
