import LevelPrep.Proofs.Level.Independence
import LevelPrep.Proofs.Pass.Steady

/-!
# Importing a scene again

Where passes make no bodies, a scene that was converted once stays as it is when it is converted again
(`reimport_idempotent`).  A child that was worked on has been given everything that the passes want
(`Rules.work_again`), and the new content of a child that was refitted is taken out for another piece of the same
content.
-/

namespace LevelPrep

variable {R : Type}

/-! ## Trees without marks -/

theorem Tree.flushed_ownedBy (owner : Json) (branch : Branch R) :
    (branch.ownedBy owner).flushed = branch.ownedBy owner := by
  have howned : ∀ d : Snapshot Geometry R, ∀ branch : Branch R, d = branch.ownedBy owner → d.flushed = d := by
    intro d
    induction d using Snapshot.induction with
    | step h cs ih =>
        rintro ⟨name, transform, payload, children⟩ hd
        have hcs : cs = children.map (Tree.ownedBy owner) := by
          rw [← Tree.allOwnedBy_eq]
          exact congrArg Snapshot.children hd
        have hkept : ∀ c ∈ cs, (!c.isQueued) = true ∧ c.flushed = c := by
          intro c hc
          have hmem := hc
          rw [hcs] at hmem
          rcases List.mem_map.1 hmem with ⟨child, -, rfl⟩
          exact ⟨by simp, ih _ hc child rfl⟩
        rw [Snapshot.flushed_node, List.filter_eq_self.2 fun c hc => (hkept c hc).1,
          List.map_congr_left fun c hc => (hkept c hc).2, List.map_id']
  exact howned _ branch rfl

/-- What is left of a refitted tree is the new content. -/
theorem Snapshot.flushed_refit (level : Json) (content : Branch R) (d : Snapshot Geometry R) :
    (d.refit level content).flushed = Snapshot.Head.node
      { d.head with payload := d.head.payload.mapInstance fun i => { i with mesh := none } }
      [(content.rename (.str (d.head.name.display ++ " (replaced)"))).ownedBy level] := by
  have hqueued : ((d.children.map queue).filter fun c => !c.isQueued) = [] := by
    rw [List.filter_eq_nil_iff]
    intro c hc
    rcases List.mem_map.1 hc with ⟨child, -, rfl⟩
    simp
  rw [refit, flushed_node, List.filter_append, hqueued]
  simp [Tree.flushed_ownedBy]

/-- Refitting what is left of a refitted tree leaves the same. -/
theorem Snapshot.flushed_refit_again (level : Json) (content : Branch R) (d : Snapshot Geometry R) :
    ((d.refit level content).flushed.refit level content).flushed = (d.refit level content).flushed := by
  rw [flushed_refit, flushed_refit, head_node]
  refine node_inj.2 ⟨?_, rfl⟩
  cases hpayload : d.head.payload <;> rfl

/-! ## The image of an image -/

namespace LevelRules

variable [Zero R] [One R] [Add R] [Mul R] {rules : LevelRules R} {level : Json} {d d' : Snapshot Geometry R}

/-- What is left of the image of a child has an image, of which the same is left. -/
theorem childImage_again (hpasses : .collision ∉ rules.passes) (hbake : Lightmap.ByForm rules.bake)
    (hmaterial : ∀ {name material}, rules.material name = some material →
      rules.material material.name = some material)
    (h : rules.childImage level d = some d') :
    ∃ again, rules.childImage level d'.flushed = some again ∧ again.flushed = d'.flushed := by
  -- the child is looked up under the same name again, so the same is done with it
  have hname : d'.flushed.head.name = d.head.name := by
    rcases head_of_childImage h with ⟨payload, hhead⟩
    rw [Snapshot.head_flushed, hhead]
  rcases Option.bind_eq_some_iff.1 h with ⟨found, hfound, hmade⟩
  cases found with
  | none =>
      have hwork : rules.work level rules.passes d = some d' := hmade
      refine ⟨d'.flushed, ?_, d'.flushed_flushed⟩
      rw [childImage, hname, hfound]
      exact Rules.work_again hpasses hbake hmaterial hwork
  | some content =>
      cases hmade
      refine ⟨_, ?_, Snapshot.flushed_refit_again level content d⟩
      rw [childImage, hname, hfound]
      rfl

/-- The image of a scene is its own image. -/
theorem image_again (hpasses : .collision ∉ rules.passes) (hbake : Lightmap.ByForm rules.bake)
    (hmaterial : ∀ {name material}, rules.material name = some material →
      rules.material material.name = some material)
    (h : rules.image d = some d') : rules.image d' = some d' := by
  rcases Option.map_eq_some_iff.1 h with ⟨made, hmade, rfl⟩
  rw [Snapshot.flushed_node]
  -- each child that was left has an image, of which it is itself left
  have hagain : ∀ c ∈ (made.filter fun c => !c.isQueued).map Snapshot.flushed,
      ∃ again, rules.childImage d.head.name c = some again ∧ again.flushed = c ∧ c.isQueued = false := by
    intro c hc
    rcases List.mem_map.1 hc with ⟨c', hc', rfl⟩
    rcases List.mem_filter.1 hc' with ⟨hc', hstays⟩
    rcases exists_of_mem_results (mapM_eq_some_iff.1 hmade) hc' with ⟨old, -, hold⟩
    rcases childImage_again hpasses hbake hmaterial hold with ⟨again, himage, hleft⟩
    exact ⟨again, himage, hleft, by simpa using hstays⟩
  rcases exists_forall₂ hagain with ⟨results, hresults⟩
  have himages := mapM_eq_some_iff.2 (hresults.imp fun _ _ hc => hc.1)
  have hleft : ((results.filter fun c => !c.isQueued).map Snapshot.flushed) =
      (made.filter fun c => !c.isQueued).map Snapshot.flushed := by
    clear himages hagain
    generalize (made.filter fun c => !c.isQueued).map Snapshot.flushed = left at hresults ⊢
    induction hresults with
    | nil => rfl
    | cons hc _ ih =>
        rcases hc with ⟨-, hsame, hstays⟩
        rw [← hsame, Snapshot.isQueued_flushed] at hstays
        simp [hstays, hsame, ih]
  show ((List.map Snapshot.flushed _).mapM (rules.childImage d.head.name)).map _ = _
  rw [himages, Option.map_some, Snapshot.flushed_node, hleft]
  rfl

end LevelRules

variable [Zero R] [One R] [Add R] [Mul R]

/-- What a conversion makes of a scene is made of itself. -/
theorem LevelProcessor.image_again {p : LevelProcessor R} {disk : Disk}
    {bake : MeshValue → Matrix R → Float → Option MeshValue} {d d' : Snapshot Geometry R}
    (hpasses : .collision ∉ p.passes) (hbake : Lightmap.ByForm bake) (h : p.image bake disk d = some d') :
    p.image bake disk d' = some d' := by
  rcases Option.bind_eq_some_iff.1 h with ⟨shelf, hshelf, hrest⟩
  rcases Option.bind_eq_some_iff.1 hrest with ⟨catalog, hcatalog, himage⟩
  rw [toOption_eq_some_iff] at hshelf hcatalog
  rw [image_of_opened hshelf hcatalog]
  have hpasses' : .collision ∉ (p.rules bake disk shelf).passes := hpasses
  have hbake' : Lightmap.ByForm (p.rules bake disk shelf).bake := hbake
  refine LevelRules.image_again hpasses' hbake' ?_ himage
  intro name material hmaterial
  exact Session.supply_again (s := { disk := disk, shelf := shelf }) hshelf rfl hmaterial

/-! ## Two imports -/

/-- The session with nodes marked to be taken out. -/
def Session.queued (ids : List NodeId) (s : Session R) : Session R :=
  { s with stage := { s.stage with graph := ids.foldl SceneGraph.queueFree s.stage.graph } }

omit [Zero R] [One R] [Add R] [Mul R] in
/-- Marks leave a scene ready. -/
theorem Ready.queued {scene : NodeId} {s : Session R} (h : Ready scene s) (ids : List NodeId) :
    Ready scene (s.queued ids) := by
  have hmarked := SceneGraph.relabelled_queueFree s.stage.graph ids
  refine h.of_nodes (hmarked.linked h.linked) hmarked.size_eq fun x n hn => ?_
  rw [hmarked.node?_eq] at hn
  rcases Option.map_eq_some_iff.1 hn with ⟨m, hm, rfl⟩
  exact ⟨m, hm, rfl, rfl⟩

/-- If a planted scene, whichever of its nodes are marked, can be converted by passes that make no bodies, then
its result can be converted as well, and the scene is dumped as before. -/
theorem reimport_idempotent (p : LevelProcessor R) (hpasses : .collision ∉ p.passes)
    {bake : MeshValue → Matrix R → Float → Option MeshValue}
    (hunwrap : .lightmap ∈ p.passes → Lightmap.Computes p.tools.unwrap bake ∧ Lightmap.ByForm bake)
    {branch : Branch R} {start s s' : Session R} {scene : NodeId} (hstart : start.InOrder)
    (hplant : (Work.plantScene branch).runIn start = (.ok scene, s)) (marked : List NodeId)
    (hrun : (p.convert scene).runIn (s.queued marked) = (.ok (), s')) :
    ∃ d s'', s'.stage.snapshot? scene = some d ∧ (p.convert scene).runIn s' = (.ok (), s'') ∧
      s''.stage.snapshot? scene = some d := by
  -- where nothing is baked, it does not matter how it would be
  obtain ⟨bake', hcomputes, hform⟩ : ∃ bake' : MeshValue → Matrix R → Float → Option MeshValue,
      (.lightmap ∈ p.passes → Lightmap.Computes p.tools.unwrap bake') ∧ Lightmap.ByForm bake' := by
    by_cases hlightmap : .lightmap ∈ p.passes
    · exact ⟨bake, fun _ => (hunwrap hlightmap).1, (hunwrap hlightmap).2⟩
    · exact ⟨fun _ _ _ => none, fun hin => absurd hin hlightmap, nofun, fun _ _ _ => rfl⟩
  have hready := (ready_of_plantScene hstart hplant).queued marked
  rcases Stage.exists_snapshot? hready.linked hready.inside with ⟨d, hd⟩
  rcases (settles_convert (p := p) hready hd hcomputes).leaves s' hrun with ⟨⟨d', hd'⟩, hfirst⟩
  have hdump : s'.stage.snapshot? scene = some d' := by rw [hfirst.dump, hd']
  have hagain : p.image bake' s'.disk d' = some d' := by
    rw [hfirst.disk]
    exact LevelProcessor.image_again hpasses hform hd'
  rcases (settles_convert (p := p) hfirst.ready hdump hcomputes).exists_after ⟨d', hagain⟩ with
    ⟨s'', hrun', hsecond⟩
  exact ⟨d', s'', hdump, hrun', by rw [hsecond.dump, hagain]⟩

/-- The processor of the depot without the collision pass. -/
def bodilessDepotProcessor : LevelProcessor Float :=
  { depotProcessor with passes := [.renderRemoval, .lightmap, .shadow, .renderLayer, .material] }

theorem reimport_idempotent_depotScene :
    .collision ∉ bodilessDepotProcessor.passes ∧
      (.lightmap ∈ bodilessDepotProcessor.passes →
        Lightmap.Computes (R := Float) bodilessDepotProcessor.tools.unwrap
            (fun mesh _ _ => some (Lightmap.marked mesh)) ∧
          Lightmap.ByForm (R := Float) fun mesh _ _ => some (Lightmap.marked mesh)) ∧
      ({ disk := depotDisk } : Session Float).InOrder ∧
      (Work.plantScene depotScene).runIn { disk := depotDisk } = (.ok ⟨0⟩, depotSession) ∧
      ((bodilessDepotProcessor.convert ⟨0⟩).runIn (depotSession.queued [⟨4⟩, ⟨6⟩])).1.toOption = some () ∧
      ∃ d s'', ((bodilessDepotProcessor.convert ⟨0⟩).runIn
          (depotSession.queued [⟨4⟩, ⟨6⟩])).2.stage.snapshot? ⟨0⟩ = some d ∧
        (bodilessDepotProcessor.convert ⟨0⟩).runIn
            ((bodilessDepotProcessor.convert ⟨0⟩).runIn (depotSession.queued [⟨4⟩, ⟨6⟩])).2 = (.ok (), s'') ∧
        s''.stage.snapshot? ⟨0⟩ = some d := by
  have hpasses : .collision ∉ bodilessDepotProcessor.passes := by decide
  have hunwrap : .lightmap ∈ bodilessDepotProcessor.passes →
      Lightmap.Computes (R := Float) bodilessDepotProcessor.tools.unwrap
          (fun mesh _ _ => some (Lightmap.marked mesh)) ∧
        Lightmap.ByForm (R := Float) fun mesh _ _ => some (Lightmap.marked mesh) :=
    fun _ => ⟨Lightmap.computes_placeholder, Lightmap.byForm_marked⟩
  have hplant : (Work.plantScene depotScene).runIn { disk := depotDisk } = (.ok ⟨0⟩, depotSession) := rfl
  have hrun : ((bodilessDepotProcessor.convert ⟨0⟩).runIn
      (depotSession.queued [⟨4⟩, ⟨6⟩])).1.toOption = some () := by
    decide +kernel
  exact ⟨hpasses, hunwrap, Session.inOrder_new depotDisk, hplant, hrun, reimport_idempotent bodilessDepotProcessor
    hpasses hunwrap (Session.inOrder_new depotDisk) hplant [⟨4⟩, ⟨6⟩] (Work.runIn_eq_of_toOption hrun)⟩

end LevelPrep
