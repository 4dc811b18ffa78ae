import LevelPrep.Proofs.Level.Failing
import LevelPrep.Proofs.Level.Imaging

/-!
# What a failing conversion leaves in order

Scenes are converted one after another in one session, and what a failing one leaves behind stays there.  A step
`Endures` if it leaves a session that the passes can go on from, also when it fails: every round does, and so every
pass.  So whatever a conversion comes to, the session is one in which the next scene can be planted
(`inOrder_of_process`), with the files as they were.
-/

namespace LevelPrep

variable {R α β : Type}

open Work SceneGraph

/-- Whether a session is fit depends on its nodes, resources, catalogs and files. -/
theorem Fit.of_same {s s' : Session R} (h : Fit s) (hstage : s'.stage = s.stage) (hshelf : s'.shelf = s.shelf)
    (hdisk : s'.disk = s.disk) : Fit s' := by
  rcases h with ⟨hlinked, howned, ⟨hsound, hlisted, hholds⟩, honDisk⟩
  refine ⟨hstage ▸ hlinked, hstage ▸ howned, ⟨hstage ▸ hsound, hshelf ▸ hlisted, ?_⟩, ?_⟩
  · rw [hshelf, hstage]
    exact hholds
  · rw [hshelf, hdisk]
    exact honDisk

/-- A session is fit as long as nothing but resources is added. -/
theorem Fit.of_extends {s s' : Session R} (h : Fit s) (hgraph : s'.stage.graph = s.stage.graph)
    (hext : s.stage.resources.Extends s'.stage.resources) (hshelf : s'.shelf = s.shelf)
    (hdisk : s'.disk = s.disk) : Fit s' where
  linked := hgraph ▸ h.linked
  owned := by
    intro x n owner hn howner
    rw [hgraph] at hn ⊢
    exact h.owned x n owner hn howner
  orderly := by
    refine ⟨fun x mesh hmesh => ?_, hshelf ▸ h.orderly.listed, hshelf ▸ h.orderly.holds.of_extends hext⟩
    rw [hgraph] at hmesh
    exact (hext.mesh (h.orderly.sound x mesh hmesh)).1
  onDisk := by
    rw [hshelf, hdisk]
    exact h.onDisk

/-- A session is fit after a node was drawn anew, if its mesh is the one that it had. -/
theorem Fit.redraw {s : Session R} (h : Fit s) (id : NodeId)
    {change : MeshInstance GeometryId MaterialId → MeshInstance GeometryId MaterialId}
    (hmesh : ∀ i mesh, (change i).mesh = some mesh → i.mesh = some mesh) (journal : Array LogRecord) :
    Fit (s.redraw id change journal) := by
  have hrepainted : Repainted s (s.redraw id change journal) :=
    repainted_of_modifyInstance rfl (.refl _) rfl rfl rfl
  refine ⟨hrepainted.linked h.linked, hrepainted.owned h.owned,
    ⟨fun x mesh hx => ?_, h.orderly.listed, h.orderly.holds⟩, h.onDisk⟩
  -- whatever mesh a node has now, it had before
  rcases Option.bind_eq_some_iff.1 hx with ⟨j, hj, hjmesh⟩
  change (s.stage.graph.modifyInstance id change).meshInstance? x = some j at hj
  rw [SceneGraph.meshInstance?_modifyInstance] at hj
  refine h.orderly.sound x mesh (Option.bind_eq_some_iff.2 ?_)
  split_ifs at hj
  · rcases Option.map_eq_some_iff.1 hj with ⟨i, hi, rfl⟩
    exact ⟨i, hi, hmesh i mesh hjmesh⟩
  · exact ⟨j, hj, hjmesh⟩

/-! ## Steps that endure -/

/-- A fit session in which the nodes that are still to be worked on are there. -/
structure Sturdy (nodes : List NodeId) (s : Session R) : Prop where
  fit : Fit s
  inside : ∀ node ∈ nodes, node.index < s.stage.graph.size

theorem Sturdy.of_size {nodes : List NodeId} {s s' : Session R} (h : Sturdy nodes s) (hfit : Fit s')
    (hsize : s.stage.graph.size ≤ s'.stage.graph.size) : Sturdy nodes s' :=
  ⟨hfit, fun node hnode => (h.inside node hnode).trans_le hsize⟩

namespace Work

/-- A step that leaves a sturdy session sturdy and the files as they are, whether it succeeds or fails. -/
def Endures (nodes : List NodeId) (step : Work R α) : Prop :=
  Always (fun s s' => Sturdy nodes s → Sturdy nodes s' ∧ s'.disk = s.disk) step

namespace Endures

variable {nodes : List NodeId} {step : Work R α} {next : α → Work R β}

theorem bind (h : Endures nodes step) (hnext : ∀ a, Endures nodes (next a)) :
    Endures nodes (step >>= next) := by
  refine Always.bind (fun hst htu hs => ?_) h hnext
  rcases hst hs with ⟨ht, hdisk⟩
  rcases htu ht with ⟨hu, hdisk'⟩
  exact ⟨hu, hdisk'.trans hdisk⟩

theorem forM {f : α → Work R Unit} (items : List α) (hround : ∀ a ∈ items, Endures nodes (f a)) :
    Endures nodes (items.forM f) := by
  intro s hs
  refine forM_always (I := fun t => Sturdy nodes t ∧ t.disk = s.disk) ⟨hs, rfl⟩ fun a ha t ht => ?_
  rcases hround a ha t ht.1 with ⟨hu, hdisk⟩
  exact ⟨hu, hdisk.trans ht.2⟩

/-- A step that changes neither nodes nor resources, catalogs or files. -/
theorem of_keeps (h : Keeps (fun s => (s.stage, s.shelf, s.disk)) step) : Endures nodes step := by
  intro s hs
  obtain ⟨hstage, hshelf, hdisk⟩ : (step.runIn s).2.stage = s.stage ∧ (step.runIn s).2.shelf = s.shelf ∧
      (step.runIn s).2.disk = s.disk := by simpa using h s
  exact ⟨hs.of_size (hs.fit.of_same hstage hshelf hdisk) (by rw [hstage]), hdisk⟩

theorem graph : Endures nodes (Work.graph : Work R (SceneGraph R)) :=
  of_keeps fun _ => rfl

end Endures

end Work

variable {context : PassContext R} {bake : MeshValue → Matrix R → Float → Option MeshValue} {nodes : List NodeId}
  {root id : NodeId} {s s' : Session R}

/-! ## Rounds -/

/-- A round that asks a question leaves the session as it is if it is refused, and draws a node if it is not. -/
theorem endures_questioned {γ : Type} {question : Session R → Except Fault γ} {round : Work R Unit}
    {change : Session R → MeshInstance GeometryId MaterialId → MeshInstance GeometryId MaterialId}
    (h : ∀ s, Questioned (question s) id (change s) round s)
    (hmesh : ∀ s i mesh, (change s i).mesh = some mesh → i.mesh = some mesh) : Endures nodes round := by
  intro s hs
  rcases h s with ⟨journal, hrun⟩
  rw [hrun]
  cases question s with
  | error fault => exact ⟨hs, rfl⟩
  | ok _ => exact ⟨hs.of_size (hs.fit.redraw id (hmesh s) journal) (size_modifyInstance _ _ _).ge, rfl⟩

theorem endures_hideIfAsked (context : PassContext R) (id : NodeId) :
    Endures nodes (Rendering.hideIfAsked context id) := by
  refine endures_questioned (questioned_hideIfAsked context id) fun s i mesh hchanged => ?_
  rw [MeshInstance.mesh_asHidden] at hchanged
  split_ifs at hchanged
  exact hchanged

theorem endures_lightIfAsked (context : PassContext R) (id : NodeId) :
    Endures nodes (Rendering.lightIfAsked context id) := by
  refine endures_questioned (questioned_lightIfAsked context id) fun s i mesh hchanged => ?_
  rwa [MeshInstance.mesh_asLit] at hchanged

theorem endures_setShadow (context : PassContext R) (id : NodeId) :
    Endures nodes (Rendering.setShadow context id) :=
  endures_questioned (questioned_setShadow context id) fun _ _ _ hchanged => hchanged

theorem endures_setLayer (context : PassContext R) (id : NodeId) :
    Endures nodes (Rendering.setLayer context id) := by
  refine endures_questioned (questioned_setLayer context id) fun s i mesh hchanged => ?_
  rwa [MeshInstance.mesh_asLayered] at hchanged

/-- A node that was drawn anew is in a sturdy session. -/
theorem Painted.sturdy {f : Drawer R} (h : Painted f id s s') (hs : Sturdy nodes s) :
    Sturdy nodes s' ∧ s'.disk = s.disk :=
  ⟨hs.of_size h.fit h.repainted.size_eq.ge, h.repainted.disk⟩

/-- A mesh that could not be baked leaves no more behind than a copy and what the unwrapper has added. -/
theorem endures_bake (hadds : context.tools.OnlyAdds) (hunwrap : Lightmap.Computes context.tools.unwrap bake)
    (id : NodeId) : Endures nodes (Rendering.bake context id) := by
  intro s hs
  -- a round that fails has added resources at most, and one that succeeds has drawn its node anew
  rcases hrun : (Rendering.bake context id).runIn s with ⟨fault | ⟨⟩, t⟩
  · obtain ⟨hgraph, hdisk, hshelf, hresources⟩ := of_bake_error hrun
    have hext : s.stage.resources.Extends t.stage.resources := by
      rcases hresources with hsame | ⟨mesh, transform, texel, hmade⟩
      · rw [hsame]
        exact .refl _
      · rw [hmade]
        exact (mesh.extends_rebuild s.stage.resources).trans (hadds _ _ _ _)
    exact ⟨hs.of_size (hs.fit.of_extends hgraph hext hshelf hdisk) (by rw [hgraph]), hdisk⟩
  · cases baked_of_bake hrun with
    | noMesh hnone => exact ⟨hs, rfl⟩
    | @unwrapped n mesh _ _ _ _ hn hmesh =>
        rcases Option.bind_eq_some_iff.1 hmesh with ⟨i, hi, himesh⟩
        rw [meshInstance?_of_node? hn] at hi
        have hshown : (s.stage.resources.figure i).mesh.isSome = true := by simp [Resources.figure, himesh]
        have hsettles := settles_bakeMesh (s := s) hs.fit hn hi hunwrap hshown
        exact (hsettles.leaves _ hrun).2.sturdy hs

/-- A material that was found is kept by a fit session. -/
theorem Fit.of_takesMaterial {name : Json} {material : MaterialId} (hs : Fit s) (hable : Suppliable s name)
    (h : TakesMaterial name s material s') : Fit s' := by
  have hsupplied := supplied_of_takesMaterial hs.orderly h
  refine ⟨hsupplied.graph ▸ hs.linked, ?_, ⟨?_, hs.orderly.listed.of_catalogs hsupplied.catalogs, hsupplied.holds⟩,
    onDisk_of_takesMaterial hs hable h⟩
  · intro x n owner hn howner
    rw [hsupplied.graph] at hn ⊢
    exact hs.owned x n owner hn howner
  · intro x mesh hmesh
    rw [hsupplied.graph] at hmesh
    exact (hsupplied.resources.mesh (hs.orderly.sound x mesh hmesh)).1

/-- A surface that there is no material for, or that is not there, leaves no more behind than a found material. -/
theorem endures_replaceMaterial (id : NodeId) (surface : Nat) :
    Endures nodes (Rendering.replaceMaterial id surface : Work R Unit) := by
  intro s hs
  cases hmesh : s.stage.graph.mesh? id with
  | none =>
      have hidle : (Rendering.replaceMaterial id surface).runIn s = (.ok (), s) := by
        rw [Rendering.replaceMaterial, runIn_bind, runIn_graph]
        simp only [hmesh]
        rfl
      rw [hidle]
      exact ⟨hs, rfl⟩
  | some mesh =>
      rcases hrun : (Rendering.replaceMaterial id surface).runIn s with ⟨fault | ⟨⟩, t⟩
      · -- the material may have been found although the surface is not there
        rcases of_replaceMaterial_error hrun with rfl | ⟨name, material, hable, htakes⟩
        · exact ⟨hs, rfl⟩
        · have hsupplied := supplied_of_takesMaterial hs.fit.orderly htakes
          have hdisk : t.disk = s.disk := by cases htakes <;> rfl
          exact ⟨hs.of_size (hs.fit.of_takesMaterial hable htakes) (by rw [hsupplied.graph]), hdisk⟩
      · cases rematerialed_of_replaceMaterial hrun with
        | noMesh hnone => cases hmesh.symm.trans hnone
        | replaced hsome htakes hreplaced journal =>
            cases hmesh.symm.trans hsome
            rcases Option.bind_eq_some_iff.1 hmesh with ⟨i, hi, himesh⟩
            rcases Option.bind_eq_some_iff.1 hi with ⟨n, hn, hpayload⟩
            have hplace : surface < mesh.surfaces.length := (of_setSurfaceMaterial hreplaced).1
            have hsettles := settles_replaceMaterial_painted hs.fit hn hpayload himesh hplace
            exact (hsettles.leaves _ hrun).2.sturdy hs

theorem endures_replaceMaterials (id : NodeId) :
    Endures nodes (Rendering.replaceMaterials id : Work R Unit) := by
  refine .bind .graph fun g => ?_
  cases g.mesh? id with
  | none => exact .of_keeps fun _ => rfl
  | some mesh => exact .forM _ fun surface _ => endures_replaceMaterial id surface

variable [Zero R] [One R] [Add R] [Mul R]

/-- A body that could not be made leaves nothing behind. -/
theorem endures_makeBody (hscene : context.scene ∈ nodes) (hroot : root ∈ nodes) (id : NodeId) :
    Endures nodes (Collision.makeBody context root id) := by
  intro s hs
  rcases cases_of_makeBody context root id s with ⟨-, t, hrun⟩ | ⟨-, fault, hrun⟩
  · rw [hrun]
    obtain ⟨_, _, _, -, -, -, hgains⟩ := gainsBody_of_embodied (embodied_of_makeBody hrun)
    have hsize : s.stage.graph.size ≤ t.stage.graph.size := by
      rw [hgains.size_eq]
      omega
    exact ⟨hs.of_size (hgains.fit hs.fit (hs.inside root hroot) (hs.inside _ hscene)) hsize, hgains.disk⟩
  · rw [hrun]
    exact ⟨hs, rfl⟩

/-! ## Passes -/

theorem endures_apply (hadds : context.tools.OnlyAdds) {kind : PassKind}
    (hunwrap : kind = .lightmap → Lightmap.Computes context.tools.unwrap bake) (hscene : context.scene ∈ nodes)
    (hroot : root ∈ nodes) : Endures nodes (kind.apply context root) := by
  cases kind with
  | collision =>
      refine .bind .graph fun g => .bind (.of_keeps fun s => ?_) fun kept => .forM kept fun id _ => ?_
      · rw [runIn_filterM _ fun x _ => runIn_noCollision context s x]
      · exact endures_makeBody hscene hroot id
  | renderRemoval => exact .bind .graph fun g => .forM _ fun id _ => endures_hideIfAsked context id
  | lightmap =>
      refine .bind .graph fun g => .bind (.forM _ fun id _ => ?_) fun _ => .forM _ fun id _ => ?_
      · exact endures_bake hadds (hunwrap rfl) id
      · exact endures_lightIfAsked context id
  | shadow => exact .bind .graph fun g => .forM _ fun id _ => endures_setShadow context id
  | renderLayer => exact .bind .graph fun g => .forM _ fun id _ => endures_setLayer context id
  | material => exact .bind .graph fun g => .forM _ fun id _ => endures_replaceMaterials id

/-- Passes over one subtree after another. -/
theorem endures_static (hadds : context.tools.OnlyAdds) {passes : List PassKind}
    (hunwrap : .lightmap ∈ passes → Lightmap.Computes context.tools.unwrap bake) (hscene : context.scene ∈ nodes)
    {items : List NodeId} (hitems : ∀ item ∈ items, item ∈ nodes) :
    Endures nodes (items.forM fun node => passes.forM fun pass => pass.apply context node) := by
  refine .forM items fun node hnode => .forM passes fun pass hpass => ?_
  exact endures_apply hadds (fun hkind => hunwrap (hkind ▸ hpass)) hscene (hitems node hnode)

/-! ## Conversions -/

variable {p : LevelProcessor R} {scene : NodeId}

omit [Zero R] [One R] [Add R] [Mul R] in
/-- A scene and its children are there once the catalogs have been opened. -/
theorem Ready.sturdy_opened {settings : List (String × CatalogSettings)} {shelf : Shelf} (hs : Ready scene s)
    (hshelf : Shelf.ofSettings s.disk settings = .ok shelf) (journal : Array LogRecord) :
    Sturdy (scene :: s.stage.graph.children scene) { s with shelf := shelf, journal := journal } := by
  refine ⟨hs.fit_opened hshelf journal, fun node hnode => ?_⟩
  rcases List.mem_cons.1 hnode with rfl | hchild
  · exact hs.inside
  · exact (hs.linked.index_lt_of_mem_children hchild).2

omit [Zero R] [One R] [Add R] [Mul R] in
/-- A fit session is one to plant scenes in. -/
theorem Fit.inOrder (hs : Fit s) : s.InOrder :=
  ⟨hs.linked, hs.orderly.sound, hs.owned⟩

omit [Zero R] [One R] [Add R] [Mul R] in
theorem Session.InOrder.of_stage (hs : s.InOrder) (hstage : s'.stage = s.stage) : s'.InOrder :=
  ⟨hstage ▸ hs.linked, hstage ▸ hs.sound, hstage ▸ hs.owned⟩

omit [Add R] [Mul R] in
/-- Replacements that come to nothing: those before have left a fit session, and the failing one has not touched
the live nodes. -/
theorem inOrder_of_replacements {catalog : Catalog} {path : Path} {items : List NodeId} {fault : Fault} (hs : Fit s)
    (hitems : ∀ child ∈ items, child ∈ s.stage.graph.children scene)
    (hcatalog : s.shelf.packedSceneCatalog = .ok catalog) (hlists : catalog.ListsDirectory path)
    (hstock : Stocked p.tools catalog scene s)
    (hmatched : ∀ child ∈ items, ∃ entry, catalog.bestMatch (s.stage.graph.name child) = .ok (some entry))
    (hrun : (items.forM fun node => discard (replaceContent p.tools scene node)).runIn s = (.error fault, s')) :
    s'.InOrder ∧ s'.disk = s.disk := by
  rcases exists_of_forM_error hrun with ⟨done, child, later, u, hsplit, hdone, hfail⟩
  rw [runIn_discard_eq_error_iff] at hfail
  -- up to the child whose replacement fails, each replacement has tended to its own child
  have hprefix : (Tended scene s u ∧ (∀ child ∈ items, u.stage.graph.name child = s.stage.graph.name child)) ∧
      Stocked p.tools catalog scene u := by
    refine forM_invariant (I := fun t => (Tended scene s t ∧ ∀ child ∈ items,
      t.stage.graph.name child = s.stage.graph.name child) ∧ Stocked p.tools catalog scene t)
      ⟨⟨.refl scene hs, fun _ _ => rfl⟩, hstock⟩ ?_ hdone
    rintro a ha t t' ⟨⟨htended, hnames⟩, ht⟩ hstep
    have hmem : a ∈ items := hsplit ▸ List.mem_append_left _ ha
    rcases hmatched a hmem with ⟨entry, hmatch⟩
    have hchild : a ∈ t.stage.graph.children scene := htended.children_eq ▸ hitems a hmem
    rcases Stage.exists_snapshot? htended.fit.linked (htended.fit.linked.index_lt_of_mem_children hchild).2 with
      ⟨d, hd⟩
    have hparent := (htended.fit.linked.mem_children_iff scene a).1 hchild
    have hsettles := settles_replaceContent htended.fit hparent hd
      (htended.packedSceneCatalog_eq.trans hcatalog) hlists ht ((hnames a hmem).symm ▸ hmatch)
    obtain ⟨-, hadvanced, hstock', -⟩ := hsettles.leaves t' hstep
    refine ⟨⟨htended.trans (.of_advanced hadvanced htended.fit hchild), fun other hother => ?_⟩, hstock'⟩
    have hin : other ∈ t.stage.graph.children scene := htended.children_eq ▸ hitems other hother
    rw [hadvanced.name_eq other (htended.fit.linked.index_lt_of_mem_children hin).2, hnames other hother]
  obtain ⟨⟨htended, hnames⟩, hstock'⟩ := hprefix
  have hmem : child ∈ items := hsplit ▸ List.mem_append_right _ List.mem_cons_self
  have hchild : child ∈ u.stage.graph.children scene := htended.children_eq ▸ hitems child hmem
  rcases hmatched child hmem with ⟨entry, hmatch⟩
  -- the failing replacement itself may have reported something, and has loaded nothing
  have hkept : ((replaceContent p.tools scene child).runIn u).2.disk = u.disk :=
    keeps_replaceContent (·.disk) (fun _ _ _ _ _ => rfl) p.tools scene child u
  rw [hfail] at hkept
  rcases cases_of_replaceContent htended.fit.linked ((htended.fit.linked.mem_children_iff scene child).1 hchild)
    (htended.packedSceneCatalog_eq.trans hcatalog) hlists hstock' ((hnames child hmem).symm ▸ hmatch) with
    ⟨replacement, v, hok⟩ | ⟨fault', v, herror, -, -, hstage⟩
  · cases hok.symm.trans hfail
  · cases herror.symm.trans hfail
    exact ⟨htended.fit.inOrder.of_stage hstage, hkept.trans htended.disk⟩

/-- The next scene can be planted after a conversion, whatever the conversion has come to. -/
theorem inOrder_of_convert (hs : Ready scene s) (hadds : p.tools.OnlyAdds)
    (hunwrap : .lightmap ∈ p.passes → Lightmap.Computes p.tools.unwrap bake) {outcome : Except Fault Unit}
    (hrun : (p.convert scene).runIn s = (outcome, s')) : s'.InOrder ∧ s'.disk = s.disk := by
  have hstart : s.InOrder := ⟨hs.linked, hs.sound, hs.owned⟩
  cases ends_of_convert hrun with
  | opening => exact ⟨hstart, rfl⟩
  | unconfigured => exact ⟨hstart.of_stage rfl, rfl⟩
  | unanswered => exact ⟨hstart.of_stage rfl, rfl⟩
  | @working _ shelf catalog sorted _ hsorted hpasses =>
      rcases hsorted.sorted_eq with ⟨journal, rfl⟩
      have hsturdy := hs.sturdy_opened hsorted.opened journal
      have hscene : (p.context scene).scene ∈ scene :: s.stage.graph.children scene := List.mem_cons_self
      have hitems : ∀ item ∈ staticChildren catalog scene s.stage.graph,
          item ∈ scene :: s.stage.graph.children scene :=
        fun item hitem => List.mem_cons_of_mem _ (List.mem_filter.1 hitem).1
      have hendures := endures_static hadds hunwrap hscene hitems
      have hend := hendures _ hsturdy
      rw [hpasses] at hend
      exact ⟨hend.1.fit.inOrder, hend.2⟩
  | @replacing _ shelf catalog sorted worked _ hsorted hpasses hreplacements =>
      rcases hsorted.sorted_eq with ⟨journal, rfl⟩
      rcases Shelf.exists_listsDirectory hsorted.opened hsorted.catalog_eq with ⟨path, hlists⟩
      have hfit := hs.fit_opened hsorted.opened journal
      have hstatic := settles_staticChildren hfit hsorted.catalog_eq hsorted.answered hunwrap
      obtain ⟨-, htended, hkept, -, hsame⟩ := hstatic.leaves worked hpasses
      have hempty : worked.shelf.packedScenes = [] := hkept.trans (Shelf.of_ofSettings hsorted.opened).2.1
      have hend := inOrder_of_replacements (p := p) htended.fit
        (fun child hchild => htended.children_eq ▸ (List.mem_filter.1 hchild).1)
        (htended.packedSceneCatalog_eq.trans hsorted.catalog_eq) hlists ?_ ?_ hreplacements
      · exact ⟨hend.1, hend.2.trans htended.disk⟩
      · intro entry _ branch hlookup
        rw [hempty] at hlookup
        cases hlookup
      · -- the passes have not touched these children, so they have the names that were looked up
        intro child hmem
        rcases List.mem_filter.1 hmem with ⟨hchild, hyes⟩
        rcases hsorted.answered child hchild with ⟨found, hfound⟩
        rw [Catalog.hasMatch_of_bestMatch hfound] at hyes
        rcases Option.isSome_iff_exists.1 hyes with ⟨entry, rfl⟩
        rcases Stage.exists_snapshot? hs.linked (hs.linked.index_lt_of_mem_children hchild).2 with ⟨d, hd⟩
        have hname : worked.stage.graph.name child = s.stage.graph.name child := by
          rw [Stage.name_of_snapshot? hs.linked hd]
          exact Stage.name_of_snapshot? htended.fit.linked ((hsame child hmem).trans hd)
        exact ⟨entry, hname ▸ hfound⟩
  | flushing hconverted =>
      rcases Stage.exists_snapshot? hs.linked hs.inside with ⟨d, hd⟩
      have hdone := (converts_of_convert hs hd hunwrap hrun).2
      exact ⟨⟨hdone.ready.linked, hdone.ready.sound, hdone.ready.owned⟩, hdone.disk⟩

/-- The next scene can be planted after a scene was processed, whatever this has come to. -/
theorem inOrder_of_process (hs : Ready scene s) (hadds : p.tools.OnlyAdds)
    (hunwrap : .lightmap ∈ p.passes → Lightmap.Computes p.tools.unwrap bake) {outcome : Except Fault Unit}
    (hrun : (p.process scene).runIn s = (outcome, s')) : s'.InOrder ∧ s'.disk = s.disk := by
  have hstart : s.InOrder := ⟨hs.linked, hs.sound, hs.owned⟩
  unfold LevelProcessor.process at hrun
  simp only [runIn_bind, runIn_graph, runIn_lift] at hrun
  cases hlevel : isLevel (s.stage.graph.name scene) p.settings.levelIndicator with
  | error fault =>
      simp only [hlevel] at hrun
      cases hrun
      exact ⟨hstart, rfl⟩
  | ok level =>
      simp only [hlevel] at hrun
      cases level with
      | false =>
          cases hrun
          exact ⟨hstart.of_stage rfl, rfl⟩
      | true =>
          simp only [if_true, runIn_bind] at hrun
          rcases hconvert : (p.convert scene).runIn s with ⟨fault | ⟨⟩, t⟩
          · simp only [hconvert] at hrun
            cases hrun
            exact inOrder_of_convert hs hadds hunwrap hconvert
          · simp only [hconvert] at hrun
            cases hrun
            rcases inOrder_of_convert hs hadds hunwrap hconvert with ⟨ht, hdisk⟩
            exact ⟨ht.of_stage rfl, hdisk⟩

end LevelPrep
