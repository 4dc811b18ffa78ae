import LevelPrep.Proofs.Pass.Dressing
import LevelPrep.Proofs.Pass.Runs

/-!
# Passes restyle their subtree

A pass that succeeds restyles the mesh instances of its subtree and no others (`styled_of_apply`), and a list
of passes restyles them by each pass in turn (`styled_of_passes`).
-/

namespace LevelPrep

variable {R : Type}

/-- The session after the mesh instances of a subtree were restyled, each by its name. -/
structure Styled (root : NodeId)
    (change : Json → MeshInstance Geometry Material → MeshInstance Geometry Material → Prop)
    (s s' : Session R) : Prop where
  orderly : Orderly s'
  catalogs : s'.shelf.catalogs = s.shelf.catalogs
  inside : ∀ x, s.stage.graph.Within root x →
    Option.Rel (change (s.stage.graph.name x)) (s.stage.look x) (s'.stage.look x)
  outside : ∀ x, ¬ s.stage.graph.Within root x → s'.stage.look x = s.stage.look x

theorem Styled.look_eq {s s' : Session R} {root : NodeId} (h : Styled root (fun _ => Eq) s s') (x : NodeId) :
    s'.stage.look x = s.stage.look x := by
  by_cases hx : s.stage.graph.Within root x
  · exact (eq_of_optionRel (h.inside x hx)).symm
  · exact h.outside x hx

/-- A session that looks like another one, with the same catalogs and the same names. -/
structure Alike (s t : Session R) : Prop where
  orderly : Orderly t
  name_eq : ∀ x, t.stage.graph.name x = s.stage.graph.name x
  catalogs : t.shelf.catalogs = s.shelf.catalogs

open Work SceneGraph

variable {s t s' : Session R} {root : NodeId}
  {change change' : Json → MeshInstance Geometry Material → MeshInstance Geometry Material → Prop}

theorem Styled.mono (h : Styled root change s s') (hmono : ∀ name i i', change name i i' → change' name i i') :
    Styled root change' s s' :=
  ⟨h.orderly, h.catalogs, fun x hx => optionRel_mono (h.inside x hx) fun i i' _ => hmono _ i i', h.outside⟩

/-- A loop over nodes, each round of which restyles its node. -/
theorem restyled_of_forM {f : NodeId → Work R Unit} {ids : List NodeId} (hs : Orderly s)
    (hnodup : ids.Nodup)
    (hround : ∀ id t t', Alike s t → (f id).runIn t = (.ok (), t') →
      Restyled id (change (s.stage.graph.name id)) t t')
    (hrun : (ids.forM f).runIn s = (.ok (), s')) : Alike s s' ∧
      (∀ id ∈ ids, Option.Rel (change (s.stage.graph.name id)) (s.stage.look id) (s'.stage.look id)) ∧
      ∀ x, x ∉ ids → s'.stage.look x = s.stage.look x := by
  refine forM_related (I := Alike s) (fun t => t.stage.look)
    (fun id => Option.Rel (change (s.stage.graph.name id))) hnodup ⟨hs, fun _ => rfl, rfl⟩ ?_ hrun
  intro id _ t t' ht hstep
  have h := hround id t t' ht hstep
  exact ⟨⟨h.orderly, fun x => (h.name_eq x).trans (ht.name_eq x), h.catalogs.trans ht.catalogs⟩,
    h.self, h.others⟩

theorem mem_instances_iff {g : SceneGraph R} (hg : g.Linked) {x : NodeId} :
    x ∈ g.instances root ↔ g.Within root x ∧ (g.meshInstance? x).isSome := by
  rw [instances, List.mem_filter, mem_levelOrder_iff hg]

theorem mem_meshNodes_iff {g : SceneGraph R} (hg : g.Linked) {x : NodeId} :
    x ∈ g.meshNodes root ↔ g.Within root x ∧ (g.mesh? x).isSome := by
  rw [meshNodes, List.mem_filter, mem_levelOrder_iff hg]

/-- A loop over all mesh instances of a subtree. -/
theorem styled_of_instances
    (change : Json → MeshInstance Geometry Material → MeshInstance Geometry Material → Prop)
    {f : NodeId → Work R Unit} (hlinked : s.stage.graph.Linked) (hs : Orderly s)
    (hround : ∀ id t t', Alike s t → (f id).runIn t = (.ok (), t') →
      Restyled id (change (s.stage.graph.name id)) t t')
    (hrun : ((s.stage.graph.instances root).forM f).runIn s = (.ok (), s')) : Styled root change s s' := by
  obtain ⟨halike, hdone, hleft⟩ :=
    restyled_of_forM hs ((nodup_levelOrder hlinked root).filter _) hround hrun
  refine ⟨halike.orderly, halike.catalogs, fun x hx => ?_, fun x hx => ?_⟩
  · by_cases hmem : x ∈ s.stage.graph.instances root
    · exact hdone x hmem
    · have hnone : s.stage.look x = none := by
        unfold Stage.look
        rw [mem_instances_iff hlinked, Option.isSome_iff_ne_none] at hmem
        rw [not_not.1 fun hne => hmem ⟨hx, hne⟩]
        rfl
      -- a node that the loop does not visit is no mesh instance, so nothing is asked of it
      rw [hleft x hmem, hnone]
      exact .none
  · exact hleft x fun hmem => hx ((mem_instances_iff hlinked).1 hmem).1

/-- A round that redraws its node by the name restyles it as it was named at the start of the loop. -/
theorem Alike.restyled_of_redrawn {id : NodeId}
    {f : Json → MeshInstance GeometryId MaterialId → MeshInstance GeometryId MaterialId}
    {f' : Json → MeshInstance Geometry Material → MeshInstance Geometry Material} (h : Alike s t)
    (hmesh : ∀ name i mesh, (f name i).mesh = some mesh → i.mesh = some mesh)
    (hlook : ∀ name (r : Resources) i, r.look (f name i) = f' name (r.look i))
    (hredrawn : Redrawn id (f (t.stage.graph.name id)) t s') :
    Restyled id (fun i i' => i' = f' (s.stage.graph.name id) i) t s' := by
  rw [h.name_eq] at hredrawn
  exact LevelPrep.restyled_of_redrawn h.orderly (hmesh _) (hlook _) hredrawn

/-- A loop over all mesh instances of a subtree that redraws each of them by its name. -/
theorem styled_of_redraws {round : NodeId → Work R Unit}
    {f : Json → MeshInstance GeometryId MaterialId → MeshInstance GeometryId MaterialId}
    {f' : Json → MeshInstance Geometry Material → MeshInstance Geometry Material}
    (hlinked : s.stage.graph.Linked) (hs : Orderly s)
    (hmesh : ∀ name i mesh, (f name i).mesh = some mesh → i.mesh = some mesh)
    (hlook : ∀ name (r : Resources) i, r.look (f name i) = f' name (r.look i))
    (hround : ∀ id t t', (round id).runIn t = (.ok (), t') → Redrawn id (f (t.stage.graph.name id)) t t')
    (hrun : ((s.stage.graph.instances root).forM round).runIn s = (.ok (), s')) :
    Styled root (fun name i i' => i' = f' name i) s s' :=
  styled_of_instances (fun name i i' => i' = f' name i) hlinked hs
    (fun id t t' ht hstep => ht.restyled_of_redrawn hmesh hlook (hround id t t' hstep)) hrun

/-- A loop over the mesh instances of a subtree that show a mesh. -/
theorem styled_of_meshNodes
    (change : Json → MeshInstance Geometry Material → MeshInstance Geometry Material → Prop)
    {f : NodeId → Work R Unit} {ids : List NodeId} (hs : Orderly s) (hnodup : ids.Nodup)
    (hids : ∀ x, x ∈ ids ↔ s.stage.graph.Within root x ∧ (s.stage.graph.mesh? x).isSome)
    (hround : ∀ id t t', Alike s t → (f id).runIn t = (.ok (), t') →
      Restyled id (change (s.stage.graph.name id)) t t')
    (hrun : (ids.forM f).runIn s = (.ok (), s')) :
    Styled root (fun name i i' => if i.mesh.isSome then change name i i' else i' = i) s s' ∧
      Alike s s' := by
  rcases restyled_of_forM hs hnodup hround hrun with ⟨halike, hdone, hleft⟩
  refine ⟨⟨halike.orderly, halike.catalogs, fun x hx => ?_, fun x hx => ?_⟩, halike⟩
  · have hshown := s.stage.isSome_mesh?_iff x
    by_cases hmem : x ∈ ids
    · rcases hshown.1 ((hids x).1 hmem).2 with ⟨i, hi, hsome⟩
      refine optionRel_mono (hdone x hmem) fun j j' hj hchange => ?_
      cases hi.symm.trans hj
      rwa [if_pos hsome]
    · rw [hleft x hmem]
      refine optionRel_refl fun i hi => ?_
      rw [if_neg fun hsome => hmem ((hids x).2 ⟨hx, hshown.2 ⟨i, hi, hsome⟩⟩)]
  · exact hleft x fun hmem => hx ((hids x).1 hmem).1

/-- What passes have made is no mesh instance. -/
theorem look_eq_none_of_new [Zero R] [One R] {scene : NodeId} {roots : NodeId → Prop} {g : SceneGraph R}
    {x : NodeId} (h : Reshaped scene roots g t.stage.graph) (hx : g.size ≤ x.index) :
    t.stage.look x = none := by
  unfold Stage.look SceneGraph.meshInstance?
  cases hn : t.stage.graph.node? x with
  | none => rfl
  | some n => simp [(h.new x n hx hn).2]

/-- What two passes make of a subtree one after another. -/
theorem Styled.trans [Zero R] [One R] {scene : NodeId} {roots : NodeId → Prop}
    (h : Styled root change s t) (h' : Styled root change' t s') (hs : Workable roots s)
    (hroot : roots root) (hworked : Worked scene roots s t) :
    Styled root (fun name i i' => ∃ m, change name i m ∧ change' name m i') s s' := by
  have hreshaped := hworked.reshaped hs
  refine ⟨h'.orderly, h'.catalogs.trans h.catalogs, fun x hx => ?_, fun x hx => ?_⟩
  · have hlt := hs.linked.index_lt_of_within hx (hs.inside root hroot)
    have hlater := h'.inside x (hreshaped.within hx)
    rw [hreshaped.name_eq hlt] at hlater
    exact optionRel_trans (h.inside x hx) hlater
  · by_cases hlater : t.stage.graph.Within root x
    · -- a node that has come into the subtree is new, and no mesh instance
      have hnew : s.stage.graph.size ≤ x.index :=
        Nat.le_of_not_lt fun hlt => hx (hreshaped.within_of_old hs.linked hlt hlater)
      have hnone := look_eq_none_of_new hreshaped hnew
      rcases cases_of_optionRel (h'.inside x hlater) with ⟨-, hlast⟩ | ⟨i, -, hi, -, -⟩
      · rw [hlast, ← h.outside x hx, hnone]
      · rw [hnone] at hi
        cases hi
    · exact (h'.outside x hlater).trans (h.outside x hx)

/-! ## Single passes -/

variable [Zero R] [One R]

/-- A body is no mesh instance. -/
theorem SceneGraph.meshInstance?_addBody {scene : NodeId} {name : Json} {transform : Matrix R}
    {layer mask : Int} {shape : Shape} {g : SceneGraph R} (hroot : root.index < g.size) (x : NodeId) :
    (Collision.addBody scene root name transform layer mask shape g).meshInstance? x =
      g.meshInstance? x := by
  have hout : ∀ i, g.size ≤ i → g.node? ⟨i⟩ = none := fun i hi => Array.getElem?_eq_none hi
  have hx : g.size ≤ x.index → g.node? x = none := hout x.index
  unfold SceneGraph.meshInstance?
  rw [node?_addBody hroot]
  split_ifs with hbody hhull hxroot
  · rw [hx hbody.ge]
    rfl
  · rw [hx (by omega)]
    rfl
  · cases g.node? x <;> rfl
  · rfl

variable {context : PassContext R} {roots : NodeId → Prop}

/-- Baking changes nothing that is seen, and lights the nodes that ask for it. -/
theorem styled_of_lightmap (hworkable : Workable roots s) (hroot : roots root)
    (hs : Orderly s) (hunwrap : Lightmap.SetsCoordinates context.tools.unwrap)
    (hrun : (Rendering.applyLightmap context root).runIn s = (.ok (), s')) :
    Styled root (fun name i i' => i' = if i.mesh.isSome then i.asLit context.grammar name else i) s s' := by
  rcases exists_between_of_applyLightmap hrun with ⟨s₂, hbake, hlight⟩
  have hlinked := hworkable.linked
  have hnodup := (nodup_levelOrder hlinked root).filter fun id => (s.stage.graph.mesh? id).isSome
  obtain ⟨hbaked, halike⟩ := styled_of_meshNodes (fun _ => Eq) hs hnodup
    (fun x => mem_meshNodes_iff hlinked)
    (fun _ _ _ ht hstep => restyled_of_baked ht.orderly hunwrap (baked_of_bake hstep)) hbake
  have hsame : Styled root (fun _ => Eq) s s₂ := hbaked.mono fun name i i' h => by
    split_ifs at h
    · exact h
    · exact h.symm
  have hlook := hsame.look_eq
  have hworked : Worked context.scene roots s s₂ := by
    have hloop : Worked context.scene roots s
        (((s.stage.graph.meshNodes root).forM (Rendering.bake context)).runIn s).2 :=
      worked_forM root hworkable (fun id => within_of_mem_meshNodes hlinked) fun id t _ hid =>
        worked_bake hroot hid
    rwa [hbake] at hloop
  have hreshaped := hworked.reshaped hworkable
  -- the nodes that show a mesh are still the same
  have hids : ∀ x, x ∈ s.stage.graph.meshNodes root ↔
      s₂.stage.graph.Within root x ∧ (s₂.stage.graph.mesh? x).isSome := by
    intro x
    rw [mem_meshNodes_iff hlinked, Stage.isSome_mesh?_iff, Stage.isSome_mesh?_iff, hlook]
    refine and_congr_left fun hshown => ⟨hreshaped.within, fun hx => ?_⟩
    rcases hshown with ⟨i, hi, -⟩
    exact hreshaped.within_of_old hlinked (Stage.index_lt_of_look hi) hx
  obtain ⟨hlit, -⟩ := styled_of_meshNodes (fun name i i' => i' = i.asLit context.grammar name)
    halike.orderly hnodup hids (fun _ _ _ ht hstep =>
      ht.restyled_of_redrawn (by simp) (MeshInstance.look_asLit context.grammar) (redrawn_of_lightIfAsked hstep))
    hlight
  refine (hsame.trans hlit hworkable hroot hworked).mono ?_
  rintro name i i' ⟨m, rfl, h⟩
  split_ifs at h ⊢ <;> exact h

variable [Add R] [Mul R]

/-- Making bodies changes neither resources nor the shelf nor any mesh instance. -/
theorem kept_of_collision (hroot : root.index < s.stage.graph.size)
    (hrun : (Collision.apply context root).runIn s = (.ok (), s')) :
    s'.stage.resources = s.stage.resources ∧ s'.shelf = s.shelf ∧
      ∀ x, s'.stage.graph.meshInstance? x = s.stage.graph.meshInstance? x := by
  obtain ⟨hresources, hshelf, -, hsame⟩ := forM_invariant (I := fun t => t.stage.resources = s.stage.resources ∧
      t.shelf = s.shelf ∧ s.stage.graph.size ≤ t.stage.graph.size ∧
      ∀ x, t.stage.graph.meshInstance? x = s.stage.graph.meshInstance? x)
    ⟨rfl, rfl, Nat.le_refl _, fun _ => rfl⟩ (by
      rintro id - t t' ⟨hresources, hshelf, hsize, hsame⟩ hstep
      cases embodied_of_makeBody hstep with
      | added _ _ _ journal =>
          refine ⟨hresources, hshelf, ?_, fun x => ?_⟩
          · show _ ≤ SceneGraph.size (Collision.addBody _ _ _ _ _ _ _ _)
            rw [size_addBody]
            omega
          · exact (SceneGraph.meshInstance?_addBody (hroot.trans_le hsize) x).trans (hsame x))
    (makeBody_of_apply hrun)
  exact ⟨hresources, hshelf, hsame⟩

/-- Making bodies changes nothing that is seen of mesh instances. -/
theorem styled_of_collision (hs : Orderly s) (hroot : root.index < s.stage.graph.size)
    (hrun : (Collision.apply context root).runIn s = (.ok (), s')) : Styled root (fun _ => Eq) s s' := by
  rcases kept_of_collision hroot hrun with ⟨hresources, hshelf, hsame⟩
  have hlook : ∀ x, s'.stage.look x = s.stage.look x := by
    intro x
    unfold Stage.look
    rw [hsame, hresources]
  refine ⟨⟨?_, hshelf ▸ hs.listed, ?_⟩, by rw [hshelf], fun x _ => ?_, fun x _ => hlook x⟩
  · intro x mesh hmesh
    rw [hresources]
    exact hs.sound x mesh (by rwa [SceneGraph.mesh?, ← hsame])
  · rw [hshelf, hresources]
    exact hs.holds
  · rw [hlook]
    exact optionRel_refl fun _ _ => rfl

/-- A pass that succeeds restyles the mesh instances of its subtree. -/
theorem styled_of_apply {kind : PassKind} (hworkable : Workable roots s) (hroot : roots root)
    (hs : Orderly s) (hunwrap : Lightmap.SetsCoordinates context.tools.unwrap)
    (hrun : (kind.apply context root).runIn s = (.ok (), s')) :
    Styled root (fun name i i' => kind.restyle context.grammar s.shelf.materialFor name i = .ok i') s s' := by
  have hlinked := hworkable.linked
  cases kind with
  | collision =>
      exact (styled_of_collision hs (hworkable.inside root hroot) hrun).mono fun _ _ _ h => congrArg _ h
  | renderRemoval =>
      have hmesh : ∀ name (i : MeshInstance GeometryId MaterialId) mesh,
          (i.asHidden context.grammar name).mesh = some mesh → i.mesh = some mesh := by
        intro name i mesh hmesh
        rw [MeshInstance.mesh_asHidden] at hmesh
        split_ifs at hmesh
        exact hmesh
      exact (styled_of_redraws hlinked hs hmesh (MeshInstance.look_asHidden context.grammar)
        (fun _ _ _ => redrawn_of_hideIfAsked) (forM_of_graph hrun)).mono fun _ _ _ h => congrArg _ h.symm
  | lightmap =>
      exact (styled_of_lightmap hworkable hroot hs hunwrap hrun).mono fun _ _ _ h => congrArg _ h.symm
  | shadow =>
      exact (styled_of_redraws hlinked hs (by simp) (MeshInstance.look_asShadowing context.grammar)
        (fun _ _ _ => redrawn_of_setShadow) (forM_of_graph hrun)).mono fun _ _ _ h => congrArg _ h.symm
  | renderLayer =>
      exact (styled_of_redraws hlinked hs (by simp) (MeshInstance.look_asLayered context.grammar)
        (fun _ _ _ => redrawn_of_setLayer) (forM_of_graph hrun)).mono fun _ _ _ h => congrArg _ h.symm
  | material =>
      refine (styled_of_meshNodes (fun _ i i' => i.dress s.shelf.materialFor = .ok i') hs
        ((nodup_levelOrder hlinked root).filter _) (fun x => mem_meshNodes_iff hlinked) ?_
        (forM_of_graph hrun)).1.mono ?_
      · intro id t t' ht hstep
        rw [← Shelf.materialFor_eq ht.catalogs]
        exact restyled_of_replaceMaterials ht.orderly hstep
      · intro name i i' h
        show i.dress s.shelf.materialFor = .ok i'
        split_ifs at h with hshown
        · exact h
        · rw [h]
          unfold MeshInstance.dress
          rw [Option.not_isSome_iff_eq_none.1 hshown]

/-- Passes that succeed restyle the mesh instances of their subtree by each pass in turn. -/
theorem styled_of_passes {passes : List PassKind} (hworkable : Workable roots s) (hroot : roots root)
    (hs : Orderly s) (hunwrap : Lightmap.SetsCoordinates context.tools.unwrap)
    (hrun : (passes.forM fun pass => pass.apply context root).runIn s = (.ok (), s')) :
    Styled root (fun name i i' => restyleAll passes context.grammar s.shelf.materialFor name i = .ok i')
      s s' := by
  suffices hboth : Worked context.scene roots s s' ∧
      Styled root (fun name i i' => restyleAll passes context.grammar s.shelf.materialFor name i = .ok i')
        s s' from hboth.2
  refine forM_prefix (I := fun done t => Worked context.scene roots s t ∧
    Styled root (fun name i i' => restyleAll done context.grammar s.shelf.materialFor name i = .ok i') s t)
    ⟨.refl _ _ _, hs, rfl, fun x _ => optionRel_refl fun _ _ => rfl, fun _ _ => rfl⟩ ?_ hrun
  rintro done pass - t t' - ⟨hworked, hstyled⟩ hpass
  have hworkable' := hworked.workable hworkable
  refine ⟨hworked.trans (worked_of_apply hworkable' hroot hpass), ?_⟩
  have hlast := styled_of_apply hworkable' hroot hstyled.orderly hunwrap hpass
  rw [Shelf.materialFor_eq hstyled.catalogs] at hlast
  refine (hstyled.trans hlast hworkable hroot hworked).mono ?_
  rintro name i i' ⟨m, hm, hi'⟩
  unfold restyleAll at hm ⊢
  rw [List.foldlM_append, hm]
  exact bind_eq_ok_iff.2 ⟨m, rfl, bind_eq_ok_iff.2 ⟨i', hi', rfl⟩⟩

end LevelPrep
