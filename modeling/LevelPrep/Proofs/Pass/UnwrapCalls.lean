import LevelPrep.Proofs.Pass.Layouts

/-!
# Calls of the unwrapper

The lightmap pass calls the unwrapper for every mesh of its subtree once, level by level, and no other pass calls it.
So a list of passes with one lightmap pass in it calls it for the meshes that the passes before it leave, and what the
unwrapper gives back for a mesh is what its node shows in the end, up to the materials (`asked_of_passes`).
-/

namespace LevelPrep

variable {R : Type}

open Work SceneGraph

/-- The call that is made for a node hands over its mesh, of which only the lightmap coordinates are left out, with its
local transform and the size of a texel of the settings times the factor that its name asks for. -/
def CallFor (settings : ImportSettings) (g : Grammar) (s : Session R) (x : NodeId)
    (call : UnwrapCall R) : Prop :=
  ∃ n i mesh base, s.stage.graph.node? x = some n ∧ s.stage.look x = some i ∧ i.mesh = some mesh ∧
    settings.texel = .ok base ∧ call.resources.meshValue call.handed = mesh ∧
    call.transform = n.transform ∧ call.texel = base * g.texelFactor n.name

/-- What the unwrapper gives back for a call is what the node shows, up to the materials of its surfaces. -/
def UnwrapCall.Answered
    (unwrap : LiveMesh → Matrix R → Float → Resources → Except Fault LiveMesh × Resources) (call : UnwrapCall R)
    (s : Session R) (x : NodeId) : Prop :=
  ∃ unwrapped made, unwrap call.handed call.transform call.texel call.resources = (.ok unwrapped, made) ∧
    s.stage.layout x = some (made.meshValue unwrapped).unpainted

/-- The session after the unwrapper was called for some nodes, for one after another, and for nothing else: each
shows what the unwrapper gave back for it. -/
def Asked (unwrap : LiveMesh → Matrix R → Float → Resources → Except Fault LiveMesh × Resources)
    (settings : ImportSettings) (g : Grammar) (nodes : List NodeId) (s s' : Session R) : Prop :=
  ∃ calls, s'.unwrapCalls.toList = s.unwrapCalls.toList ++ calls ∧
    List.Forall₂ (fun x call => CallFor settings g s x call ∧ call.Answered unwrap s' x) nodes calls

variable {context : PassContext R} {settings : ImportSettings} {g : Grammar} {roots : NodeId → Prop}
  {root x : NodeId} {nodes more : List NodeId} {s t s' : Session R}
  {unwrap : LiveMesh → Matrix R → Float → Resources → Except Fault LiveMesh × Resources}

theorem Asked.of_silent (h : s'.unwrapCalls = s.unwrapCalls) : Asked unwrap settings g [] s s' :=
  ⟨[], by rw [h, List.append_nil], .nil⟩

/-- The calls for some nodes are followed by those for others, which leave the nodes before them laid out as they are
and find theirs as they were. -/
theorem Asked.trans (h : Asked unwrap settings g nodes s t) (h' : Asked unwrap settings g more t s')
    (hkept : ∀ x ∈ nodes, s'.stage.layout x = t.stage.layout x)
    (hfound : ∀ x ∈ more, ∀ call, CallFor settings g t x call → CallFor settings g s x call) :
    Asked unwrap settings g (nodes ++ more) s s' := by
  rcases h with ⟨calls, hcalls, hall⟩
  rcases h' with ⟨calls', hcalls', hall'⟩
  refine ⟨calls ++ calls', by rw [hcalls', hcalls, List.append_assoc], List.rel_append ?_ ?_⟩
  · refine ((List.forall₂_and_left _ _).2 ⟨fun x hx => hx, hall⟩).imp ?_
    rintro x call ⟨hx, hcall, unwrapped, made, hunwrap, hlayout⟩
    exact ⟨hcall, unwrapped, made, hunwrap, (hkept x hx).trans hlayout⟩
  · refine ((List.forall₂_and_left _ _).2 ⟨fun x hx => hx, hall'⟩).imp ?_
    rintro x call ⟨hx, hcall, hanswered⟩
    exact ⟨hfound x hx call hcall, hanswered⟩

/-- The call that is made for a node is the same as long as its name, its transform and its mesh are the same. -/
theorem CallFor.of_later {scene : NodeId} {call : UnwrapCall R} [Zero R] [One R]
    (h : CallFor settings g t x call) (hreshaped : Reshaped scene roots s.stage.graph t.stage.graph)
    (hx : x.index < s.stage.graph.size)
    (hmesh : ∀ i' mesh, t.stage.look x = some i' → i'.mesh = some mesh →
      ∃ i, s.stage.look x = some i ∧ i.mesh = some mesh) : CallFor settings g s x call := by
  rcases h with ⟨n', i', mesh, base, hn', hi', himesh', hcall⟩
  rcases hmesh i' mesh hi' himesh' with ⟨i, hi, himesh⟩
  rcases exists_node?_iff.2 hx with ⟨n, hn⟩
  rcases hreshaped.old x n hn with ⟨change, bodies, hlater, -⟩
  cases hlater.symm.trans hn'
  exact ⟨n, i, mesh, base, hn, hi, himesh, hcall⟩

/-- A node that shows a mesh is baked with one call. -/
theorem asked_of_baked (hs : Orderly s) (h : Baked context x s s') (hshown : (s.stage.graph.mesh? x).isSome) :
    Asked context.tools.unwrap context.settings context.grammar [x] s s' := by
  cases h with
  | noMesh hmesh => simp [hmesh] at hshown
  | @unwrapped n mesh unwrapped base texel made hnode hmesh hbase htexel hrun journal =>
      rcases Option.bind_eq_some_iff.1 hmesh with ⟨i, hi, himesh⟩
      have hname : s.stage.graph.name x = n.name := by simp [SceneGraph.name, hnode]
      have hlook : s.stage.look x = some (s.stage.resources.look i) := by simp [Stage.look, hi]
      have hhanded : (mesh.rebuild s.stage.resources).2.meshValue (mesh.rebuild s.stage.resources).1 =
          (s.stage.resources.meshValue mesh).bare := by
        rw [(Resources.rebuild_spec (hs.sound x mesh hmesh)).2.2]
        simp [Mesh.bare, Surface.bare, Resources.meshValue, Mesh.map, Resources.surfaceValue]
      refine ⟨_, Array.toList_push, .cons ⟨?_, unwrapped, made, hrun, ?_⟩ .nil⟩
      · exact ⟨n, s.stage.resources.look i, (s.stage.resources.meshValue mesh).bare, base, hnode, hlook,
          by simp [Resources.look, himesh], hbase, hhanded, rfl, by rw [htexel, hname]⟩
      · unfold Stage.layout
        rw [SceneGraph.mesh?_modifyInstance, if_pos rfl, hi]
        rfl

/-! ## Single passes -/

theorem unwrapCalls_of_replaceMaterials (h : (Rendering.replaceMaterials x).runIn s = (.ok (), s')) :
    s'.unwrapCalls = s.unwrapCalls := by
  refine replaceMaterials_invariant (I := fun t => t.unwrapCalls = s.unwrapCalls) rfl ?_ h
  intro surface t t' ht hround
  cases hround with
  | noMesh => exact ht
  | replaced _ hmaterial =>
      cases hmaterial with
      | blank | kept | loaded => exact ht

section

variable [Zero R] [One R]

/-- The lightmap pass asks for every mesh of its subtree. -/
theorem asked_of_lightmap (hworkable : Workable roots s) (hroot : roots root) (hs : Orderly s)
    (hunwrap : Lightmap.SetsCoordinates context.tools.unwrap)
    (hrun : (Rendering.applyLightmap context root).runIn s = (.ok (), s')) :
    Asked context.tools.unwrap context.settings context.grammar (s.stage.graph.meshNodes root) s s' := by
  rcases exists_between_of_applyLightmap hrun with ⟨s₂, hbake, hlight⟩
  have hlinked := hworkable.linked
  have hnodup : (s.stage.graph.meshNodes root).Nodup := (nodup_levelOrder hlinked root).filter _
  -- one call for each node that is done, in order, while all nodes look as they did
  obtain ⟨-, -, -, hasked⟩ := forM_prefix
    (I := fun done t => Worked context.scene roots s t ∧ Orderly t ∧ (∀ x, t.stage.look x = s.stage.look x) ∧
      Asked context.tools.unwrap context.settings context.grammar done s t)
    ⟨.refl _ _ _, hs, fun _ => rfl, .of_silent rfl⟩ (by
      rintro done id rest t t' hsplit ⟨hworked, ht, hlook, hasked⟩ hstep
      have hreshaped := hworked.reshaped hworkable
      obtain ⟨hid, hshown⟩ := (mem_meshNodes_iff hlinked).1
        (show id ∈ s.stage.graph.meshNodes root by rw [hsplit]; simp)
      have hbaked := baked_of_bake hstep
      have hrestyled := restyled_of_baked ht hunwrap hbaked
      rw [Stage.isSome_mesh?_iff, ← hlook, ← Stage.isSome_mesh?_iff] at hshown
      have hlt := hlinked.index_lt_of_within hid (hworkable.inside root hroot)
      refine ⟨hworked.trans (worked_of_baked hroot (hreshaped.within hid) hbaked), hrestyled.orderly,
        fun x => ?_, hasked.trans (asked_of_baked ht hbaked hshown) (fun x hx => ?_) fun x hx call hcall => ?_⟩
      · rw [← hlook]
        by_cases hx : x = id
        · rw [hx, eq_of_optionRel hrestyled.self]
        · exact hrestyled.others x hx
      · refine layout_of_baked ht hunwrap ?_ hbaked
        rintro rfl
        rw [hsplit] at hnodup
        exact List.disjoint_of_nodup_append hnodup hx List.mem_cons_self
      · rw [List.mem_singleton.1 hx] at hcall ⊢
        refine hcall.of_later hreshaped hlt fun i' mesh' hi' hmesh' => ?_
        exact ⟨i', by rw [← hlook, hi'], hmesh'⟩) hbake
  have hcalls : s'.unwrapCalls = s₂.unwrapCalls := by
    refine forM_invariant (I := fun t => t.unwrapCalls = s₂.unwrapCalls) rfl ?_ hlight
    intro id _ t t' ht hstep
    rcases redrawn_of_lightIfAsked hstep with ⟨journal, rfl⟩
    exact ht
  rw [← List.append_nil (s.stage.graph.meshNodes root)]
  refine hasked.trans (.of_silent hcalls) (fun x _ => ?_) (by simp)
  refine layout_of_forM (fun id _ t t' hstep => ?_) hlight
  exact layout_of_redrawn (fun _ => by simp) (redrawn_of_lightIfAsked hstep)

variable [Add R] [Mul R]

/-- No other pass asks for a mesh. -/
theorem unwrapCalls_of_apply {kind : PassKind} (hkind : kind ≠ .lightmap)
    (hrun : (kind.apply context root).runIn s = (.ok (), s')) : s'.unwrapCalls = s.unwrapCalls := by
  have hredrawn : ∀ {id : NodeId} {t t' : Session R}
      {change : MeshInstance GeometryId MaterialId → MeshInstance GeometryId MaterialId},
      Redrawn id change t t' → t'.unwrapCalls = t.unwrapCalls := by
    rintro id t t' change ⟨journal, rfl⟩
    rfl
  -- every such pass is a loop, and no round of it asks for a mesh
  have hloop : ∀ {f : NodeId → Work R Unit} {ids : List NodeId},
      (∀ id t t', (f id).runIn t = (.ok (), t') → t'.unwrapCalls = t.unwrapCalls) →
      (ids.forM f).runIn s = (.ok (), s') → s'.unwrapCalls = s.unwrapCalls := by
    intro f ids hround hrun
    exact forM_invariant (I := fun t => t.unwrapCalls = s.unwrapCalls) rfl
      (fun id _ t t' ht hstep => (hround id t t' hstep).trans ht) hrun
  cases kind with
  | collision =>
      refine hloop (fun id t t' hstep => ?_) (makeBody_of_apply hrun)
      cases embodied_of_makeBody hstep with
      | added => rfl
  | renderRemoval =>
      exact hloop (fun id t t' hstep => hredrawn (redrawn_of_hideIfAsked hstep)) (forM_of_graph hrun)
  | lightmap => exact absurd rfl hkind
  | shadow =>
      exact hloop (fun id t t' hstep => hredrawn (redrawn_of_setShadow hstep)) (forM_of_graph hrun)
  | renderLayer =>
      exact hloop (fun id t t' hstep => hredrawn (redrawn_of_setLayer hstep)) (forM_of_graph hrun)
  | material =>
      exact hloop (fun id t t' hstep => unwrapCalls_of_replaceMaterials hstep) (forM_of_graph hrun)

end

/-! ## Lists of passes -/

/-- Whether a node shows a mesh, and keeps it through some passes. -/
def keepsMesh (passes : List PassKind) (g : Grammar) (s : Session R) (x : NodeId) : Bool :=
  match s.stage.look x with
  | none => false
  | some i =>
    match restyleAll passes g s.shelf.materialFor (s.stage.graph.name x) i with
    | .ok i' => i'.mesh.isSome
    | .error _ => false

theorem isSome_mesh?_of_styled {passes : List PassKind}
    (h : Styled root (fun name i i' => restyleAll passes g s.shelf.materialFor name i = .ok i') s t)
    (hx : s.stage.graph.Within root x) : (t.stage.graph.mesh? x).isSome = keepsMesh passes g s x := by
  rw [Bool.eq_iff_iff, Stage.isSome_mesh?_iff]
  unfold keepsMesh
  rcases cases_of_optionRel (h.inside x hx) with ⟨hi, hi'⟩ | ⟨i, i', hi, hi', hrestyle⟩
  · simp [hi, hi']
  · simp [hi, hi', hrestyle]

variable [Zero R] [One R]

/-- The nodes that show a mesh after passes are those that have kept theirs, in their old order. -/
theorem meshNodes_of_styled {passes : List PassKind} {scene : NodeId} (hworkable : Workable roots s)
    (hroot : roots root) (hworked : Worked scene roots s t)
    (h : Styled root (fun name i i' => restyleAll passes g s.shelf.materialFor name i = .ok i') s t) :
    t.stage.graph.meshNodes root =
      (s.stage.graph.levelOrder root).filter (keepsMesh passes g s) := by
  have hlinked := hworkable.linked
  have hinside := hworkable.inside root hroot
  have hreshaped := hworked.reshaped hworkable
  -- a node that was not there before is a body or its shape, and shows no mesh
  have hold : ∀ x ∈ t.stage.graph.levelOrder root,
      (t.stage.graph.mesh? x).isSome = (keepsMesh passes g s x && decide (x.index < s.stage.graph.size)) := by
    intro x hx
    rw [mem_levelOrder_iff hreshaped.linked] at hx
    by_cases hlt : x.index < s.stage.graph.size
    · rw [isSome_mesh?_of_styled h (hreshaped.within_of_old hlinked hlt hx), decide_eq_true hlt,
        Bool.and_true]
    · have hnone := look_eq_none_of_new hreshaped (Nat.not_lt.1 hlt)
      rw [Bool.eq_iff_iff, Stage.isSome_mesh?_iff]
      simp [hnone, hlt]
  rw [← hreshaped.filter_levelOrder hlinked hinside, List.filter_filter]
  exact List.filter_congr hold

variable [Add R] [Mul R]

theorem unwrapCalls_of_passes {passes : List PassKind} (hpasses : PassKind.lightmap ∉ passes)
    (hrun : (passes.forM fun pass => pass.apply context root).runIn s = (.ok (), s')) :
    s'.unwrapCalls = s.unwrapCalls := by
  refine forM_invariant (I := fun t => t.unwrapCalls = s.unwrapCalls) rfl ?_ hrun
  intro pass hpass t t' ht hstep
  exact (unwrapCalls_of_apply (fun h => hpasses (h ▸ hpass)) hstep).trans ht

/-- Passes that leave layouts leave those of all nodes, and any passes those outside of their subtree. -/
theorem layout_of_passes {passes : List PassKind} (hworkable : Workable roots s) (hroot : roots root)
    (hs : Orderly s) (hunwrap : Lightmap.SetsCoordinates context.tools.unwrap) (hlt : x.index < s.stage.graph.size)
    (hx : (∀ kind ∈ passes, kind.keepsLayouts = true) ∨ ¬ s.stage.graph.Within root x)
    (hrun : (passes.forM fun pass => pass.apply context root).runIn s = (.ok (), s')) :
    s'.stage.layout x = s.stage.layout x := by
  refine (forM_invariant (I := fun t => Worked context.scene roots s t ∧ Orderly t ∧
    t.stage.layout x = s.stage.layout x) ⟨.refl _ _ _, hs, rfl⟩ ?_ hrun).2.2
  rintro kind hkind t t' ⟨hworked, ht, hkept⟩ hstep
  have hworkable' := hworked.workable hworkable
  refine ⟨hworked.trans (worked_of_apply hworkable' hroot hstep),
    (styled_of_apply hworkable' hroot ht hunwrap hstep).orderly, Eq.trans ?_ hkept⟩
  refine layout_of_apply hworkable'.linked (hworkable'.inside root hroot) ht hunwrap (hx.imp ?_ ?_) hstep
  · exact fun hall => hall kind hkind
  · exact mt ((hworked.reshaped hworkable).within_of_old hworkable.linked hlt)

/-- Passes with one lightmap pass among them call the unwrapper for the meshes that the passes before it leave. -/
theorem asked_of_passes {before after : List PassKind} (hworkable : Workable roots s) (hroot : roots root)
    (hs : Orderly s) (hunwrap : Lightmap.SetsCoordinates context.tools.unwrap)
    (hlightmap : PassKind.lightmap ∉ before) (hmaterial : PassKind.material ∉ before)
    (hafter : ∀ kind ∈ after, kind.keepsLayouts = true)
    (hrun : ((before ++ .lightmap :: after).forM fun pass => pass.apply context root).runIn s =
      (.ok (), s')) :
    Asked context.tools.unwrap context.settings context.grammar
      ((s.stage.graph.levelOrder root).filter (keepsMesh before context.grammar s)) s s' := by
  rcases exists_between_of_forM_append hrun with ⟨t, hfirst, hrest⟩
  rcases runIn_bind_eq_ok_iff.1 hrest with ⟨⟨⟩, u, hpass, hlast⟩
  have hstyled := styled_of_passes hworkable hroot hs hunwrap hfirst
  have hworked := worked_of_passes hworkable hroot hfirst
  have hworkable' := hworked.workable hworkable
  have hreshaped := hworked.reshaped hworkable
  have hmeshes := meshNodes_of_styled hworkable hroot hworked hstyled
  have hasked := asked_of_lightmap hworkable' hroot hstyled.orderly hunwrap hpass
  rw [hmeshes] at hasked
  have hwithin : ∀ x ∈ (s.stage.graph.levelOrder root).filter (keepsMesh before context.grammar s),
      s.stage.graph.Within root x := fun x hx => (mem_levelOrder_iff hworkable.linked).1 (List.mem_filter.1 hx).1
  have hinside : ∀ x ∈ (s.stage.graph.levelOrder root).filter (keepsMesh before context.grammar s),
      x.index < s.stage.graph.size := fun x hx =>
    hworkable.linked.index_lt_of_within (hwithin x hx) (hworkable.inside root hroot)
  -- only the one pass asks, and each call is for what the passes before it have made of a node
  have hnone : Asked context.tools.unwrap context.settings context.grammar [] s t :=
    .of_silent (unwrapCalls_of_passes hlightmap hfirst)
  have hearlier := hnone.trans hasked (by simp) fun x hx call hcall => by
    refine hcall.of_later hreshaped (hinside x hx) fun i' mesh hi' hmesh => ?_
    rcases cases_of_optionRel (hstyled.inside x (hwithin x hx)) with ⟨-, hnone⟩ | ⟨i, _, hi, hlook, hrestyle⟩
    · rw [hnone] at hi'
      cases hi'
    · cases hlook.symm.trans hi'
      exact ⟨i, hi, mesh_of_restyleAll hmaterial hrestyle hmesh⟩
  have hworked' := worked_of_apply hworkable' hroot hpass
  have hstyled' := styled_of_apply hworkable' hroot hstyled.orderly hunwrap hpass
  have hsilent : PassKind.lightmap ∉ after := fun hmem => absurd (hafter _ hmem) (by decide)
  have hlater := hearlier.trans (.of_silent (unwrapCalls_of_passes hsilent hlast)) (fun x hx => by
    refine layout_of_passes (hworked'.workable hworkable') hroot hstyled'.orderly hunwrap ?_ (Or.inl hafter) hlast
    have hle := (hworked.trans hworked').reshaped hworkable |>.size_le
    exact (hinside x (by simpa using hx)).trans_le hle) (by simp)
  simpa using hlater

end LevelPrep
