import LevelPrep.Proofs.Level.Furnishing
import LevelPrep.Proofs.Level.Refitting
import LevelPrep.Proofs.Pass.Embodying

/-!
# Tending to the children of a scene

A conversion goes through the children of the scene and works on the tree of one child at a time.  The scene
itself and the trees of the other children are left alone (`Tended`), so a loop over some children succeeds
exactly if each tree, as it is at the start, can be dealt with (`settles_children`).  This is used for the
passes (`settles_static`) and for the replacements (`settles_replacements`).
-/

namespace LevelPrep

variable {R : Type}

open Work SceneGraph

variable {scene child : NodeId} {s t u s' : Session R}

/-- What work on the children of a scene leaves alone: the scene itself and the list of its children. -/
structure Tended (scene : NodeId) (s t : Session R) : Prop where
  fit : Fit t
  size_le : s.stage.graph.size ≤ t.stage.graph.size
  head?_eq : t.stage.head? scene = s.stage.head? scene
  children_eq : t.stage.graph.children scene = s.stage.graph.children scene
  disk : t.disk = s.disk
  catalogs : t.shelf.catalogs = s.shelf.catalogs

namespace Tended

theorem refl (scene : NodeId) (hs : Fit s) : Tended scene s s :=
  ⟨hs, Nat.le_refl _, rfl, rfl, rfl, rfl⟩

theorem trans (h : Tended scene s t) (h' : Tended scene t u) : Tended scene s u :=
  ⟨h'.fit, h.size_le.trans h'.size_le, h'.head?_eq.trans h.head?_eq, h'.children_eq.trans h.children_eq,
    h'.disk.trans h.disk, h'.catalogs.trans h.catalogs⟩

/-- Work on the tree of a child leaves the scene alone. -/
theorem of_advanced (h : Advanced child s t) (hs : Fit s) (hchild : child ∈ s.stage.graph.children scene) :
    Tended scene s t := by
  have hlt := (hs.linked.index_lt_of_mem_children hchild).1
  rcases h.outside scene hlt (hs.linked.not_within_parent hchild) with ⟨hhead, hchildren⟩
  exact ⟨h.fit, h.size_le, hhead, hchildren, h.disk, h.catalogs⟩

theorem name_eq (h : Tended scene s t) : t.stage.graph.name scene = s.stage.graph.name scene := by
  cases hv : s.stage.head? scene with
  | some v => rw [Stage.name_of_head? hv, Stage.name_of_head? (h.head?_eq.trans hv)]
  | none =>
      have hnone : ∀ {r : Session R}, r.stage.head? scene = none → r.stage.graph.name scene = .null := by
        intro r hr
        rw [SceneGraph.name, Option.map_eq_none_iff.1 hr]
        rfl
      rw [hnone hv, hnone (h.head?_eq.trans hv)]

theorem rules_eq {context : PassContext R} {bake : MeshValue → Matrix R → Float → Option MeshValue}
    (h : Tended scene s t) : context.rules bake t = context.rules bake s := by
  unfold PassContext.rules
  rw [Session.supply_eq h.disk h.catalogs]

theorem packedSceneCatalog_eq (h : Tended scene s t) :
    t.shelf.packedSceneCatalog = s.shelf.packedSceneCatalog :=
  Shelf.packedSceneCatalog_congr h.catalogs

end Tended

/-- Work on the tree of one child leaves the tree of another alone. -/
theorem Advanced.snapshot?_sibling {other : NodeId} (h : Advanced child s t) (hs : Fit s)
    (hchild : child ∈ s.stage.graph.children scene) (hother : other ∈ s.stage.graph.children scene)
    (hne : other ≠ child) : t.stage.snapshot? other = s.stage.snapshot? other :=
  h.snapshot?_eq hs (hs.linked.index_lt_of_mem_children hother).2 fun _ hx hx' =>
    hne (hs.linked.child_unique hother hchild hx hx')

/-- A loop over children each of which can be dealt with on its own: it succeeds exactly if something can be
made of each tree as it is at the start, and this is what it leaves. -/
theorem settles_children {f : NodeId → Work R Unit} {items : List NodeId}
    {image : Snapshot Geometry R → Option (Snapshot Geometry R)} {J : Session R → Prop} (hs : Fit s)
    (hitems : ∀ child ∈ items, child ∈ s.stage.graph.children scene) (hnodup : items.Nodup) (hJ : J s)
    (hround : ∀ child ∈ items, ∀ t d, Tended scene s t → J t → s.stage.snapshot? child = some d →
      t.stage.snapshot? child = some d →
      Settles (f child) t (∃ d', image d = some d') fun t' =>
        Advanced child t t' ∧ J t' ∧ t'.stage.snapshot? child = image d) :
    Settles (items.forM f) s (∀ child ∈ items, ∃ d', (s.stage.snapshot? child).bind image = some d') fun t =>
      Tended scene s t ∧ J t ∧
        (∀ child ∈ items, t.stage.snapshot? child = (s.stage.snapshot? child).bind image) ∧
        ∀ child ∈ s.stage.graph.children scene, child ∉ items →
          t.stage.snapshot? child = s.stage.snapshot? child := by
  have hdump : ∀ child ∈ items, ∃ d, s.stage.snapshot? child = some d := fun child hchild =>
    Stage.exists_snapshot? hs.linked (hs.linked.index_lt_of_mem_children (hitems child hchild)).2
  have hloop := forM_settles (s := s) (f := f) items (I := fun t => Tended scene s t ∧ J t)
    (fun t child => t.stage.snapshot? child)
    (fun _ v v' => ∃ d d', v = some d ∧ image d = some d' ∧ v' = some d')
    (· ∈ s.stage.graph.children scene) hnodup hitems ⟨.refl scene hs, hJ⟩ (by
      rintro child hmem t ⟨htended, ht⟩ hsame
      rcases hdump child hmem with ⟨d, hd⟩
      have hd' := hsame.trans hd
      have hchild : child ∈ t.stage.graph.children scene := htended.children_eq ▸ hitems child hmem
      refine (hround child hmem t d htended ht hd hd').congr ?_ ?_
      · rw [hd']
        constructor
        · rintro ⟨d', himage⟩
          exact ⟨_, d, d', rfl, himage, rfl⟩
        · rintro ⟨_, _, d', ⟨⟩, himage, -⟩
          exact ⟨d', himage⟩
      · rintro t' ⟨d', himage⟩ ⟨hadvanced, ht', hdone⟩
        refine ⟨⟨htended.trans (.of_advanced hadvanced htended.fit hchild), ht'⟩,
          ⟨d, d', hd', himage, hdone.trans himage⟩, fun other hother hne => ?_⟩
        exact hadvanced.snapshot?_sibling htended.fit hchild (htended.children_eq ▸ hother) hne)
  refine hloop.congr (forall₂_congr fun child hchild => ?_) ?_
  · rcases hdump child hchild with ⟨d, hd⟩
    rw [hd]
    constructor
    · rintro ⟨_, _, d', ⟨⟩, himage, -⟩
      exact ⟨d', himage⟩
    · rintro ⟨d', himage⟩
      exact ⟨_, d, d', rfl, himage, rfl⟩
  · rintro t - ⟨⟨htended, ht⟩, hdone, hleft⟩
    refine ⟨htended, ht, fun child hchild => ?_, hleft⟩
    rcases hdone child hchild with ⟨d, d', hd, himage, hd'⟩
    rw [hd, hd', Option.bind_some, himage]

section

variable [Zero R] [One R]

/-- The replacements of some children that have a match. -/
theorem settles_replacements (tools : Tools R) {catalog : Catalog} {path : Path} (items : List NodeId)
    (image : Snapshot Geometry R → Option (Snapshot Geometry R)) (hs : Fit s)
    (hitems : ∀ child ∈ items, child ∈ s.stage.graph.children scene) (hnodup : items.Nodup)
    (hcatalog : s.shelf.packedSceneCatalog = .ok catalog) (hlists : catalog.ListsDirectory path)
    (hstock : Stocked tools catalog scene s)
    (hmatched : ∀ child ∈ items, ∀ d, s.stage.snapshot? child = some d → ∃ entry,
      catalog.bestMatch d.head.name = .ok (some entry) ∧
      image d = (tools.loadScene s.disk entry.path).2.toOption.map (d.refit (s.stage.graph.name scene))) :
    Settles (items.forM fun node => discard (replaceContent tools scene node)) s
      (∀ child ∈ items, ∃ d', (s.stage.snapshot? child).bind image = some d') fun t =>
      Tended scene s t ∧ Stocked tools catalog scene t ∧
        (∀ child ∈ items, t.stage.snapshot? child = (s.stage.snapshot? child).bind image) ∧
        ∀ child ∈ s.stage.graph.children scene, child ∉ items →
          t.stage.snapshot? child = s.stage.snapshot? child := by
  refine settles_children hs hitems hnodup hstock fun child hchild t d htended ht hd hd' => ?_
  rcases hmatched child hchild d hd with ⟨entry, hmatch, himage⟩
  have hparent : t.stage.graph.parent? child = some scene :=
    (htended.fit.linked.mem_children_iff scene child).1 (htended.children_eq ▸ hitems child hchild)
  have hname : t.stage.graph.name child = d.head.name := Stage.name_of_snapshot? htended.fit.linked hd'
  have hcatalog' := htended.packedSceneCatalog_eq.trans hcatalog
  have hstep := settles_replaceContent htended.fit hparent hd' hcatalog' hlists ht (hname.symm ▸ hmatch)
  -- the files and the name of the scene are still those from the start
  rw [htended.disk, htended.name_eq] at hstep
  refine hstep.congr ?_ ?_
  · rw [himage]
    cases (tools.loadScene s.disk entry.path).2 <;> simp [Except.toOption]
  · rintro t' - ⟨hadvanced, hstock', branch, hload, hdump⟩
    refine ⟨hadvanced, hstock', ?_⟩
    rw [hdump, himage, hload]
    rfl

end

/-- The passes on some children. -/
theorem settles_static [Zero R] [One R] [Add R] [Mul R] (context : PassContext R)
    {bake : MeshValue → Matrix R → Float → Option MeshValue} (passes : List PassKind) (items : List NodeId)
    (image : Snapshot Geometry R → Option (Snapshot Geometry R)) (hs : Fit s)
    (hitems : ∀ child ∈ items, child ∈ s.stage.graph.children context.scene) (hnodup : items.Nodup)
    (hworked : ∀ child ∈ items, ∀ d, s.stage.snapshot? child = some d →
      image d = (context.rules bake s).work (s.stage.graph.name context.scene) passes d)
    (hunwrap : .lightmap ∈ passes → Lightmap.Computes context.tools.unwrap bake) :
    Settles (items.forM fun node => passes.forM fun pass => pass.apply context node) s
      (∀ child ∈ items, ∃ d', (s.stage.snapshot? child).bind image = some d') fun t =>
      Tended context.scene s t ∧ t.shelf.packedScenes = s.shelf.packedScenes ∧
        (∀ child ∈ items, t.stage.snapshot? child = (s.stage.snapshot? child).bind image) ∧
        ∀ child ∈ s.stage.graph.children context.scene, child ∉ items →
          t.stage.snapshot? child = s.stage.snapshot? child := by
  refine settles_children (J := fun t => t.shelf.packedScenes = s.shelf.packedScenes) hs hitems hnodup rfl
    fun child hchild t d htended ht hd hd' => ?_
  have hlt := (hs.linked.index_lt_of_mem_children (hitems child hchild)).1
  have hround := settles_passes htended.fit hd' (hlt.trans_le htended.size_le) hunwrap
  rw [htended.rules_eq, htended.name_eq, ← hworked child hchild d hd] at hround
  exact hround.congr Iff.rfl fun t' _ h => ⟨h.toAdvanced, h.packedScenes.trans ht, h.dump⟩

end LevelPrep
