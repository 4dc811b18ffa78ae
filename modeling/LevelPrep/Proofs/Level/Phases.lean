import LevelPrep.Level.Conversion
import LevelPrep.Proofs.Outcome
import LevelPrep.Proofs.Settling

/-!
# The phases of a conversion

A conversion that succeeds opens its catalogs, sorts the children of the scene by whether they have a match,
runs the passes on those that have none, replaces the content of the others, and flushes the scene
(`exists_converted`).  What is done with a scene as its name asks for is a conversion or nothing
(`of_process`).
-/

namespace LevelPrep

variable {R : Type}

open Work SceneGraph

/-! ## Sorting the children -/

/-- Whether a name has a match. -/
def Catalog.hasMatch (c : Catalog) (name : Json) : Bool :=
  match c.bestMatch name with
  | .ok (some _) => true
  | _ => false

theorem Catalog.hasMatch_of_bestMatch {c : Catalog} {name : Json} {found : Option CatalogEntry}
    (h : c.bestMatch name = .ok found) : c.hasMatch name = found.isSome := by
  unfold Catalog.hasMatch
  rw [h]
  cases found <;> rfl

/-- The children with marks that tell whether they have a match, where all of them can be looked up. -/
def Catalog.marks (c : Catalog) (g : SceneGraph R) (children : List NodeId) :
    Except Fault (List (NodeId × Bool)) :=
  children.mapM fun id => (c.bestMatch (g.name id)).map fun found => (id, found.isSome)

/-- The groups that marked children are sorted into. -/
def Classification.ofMarks (marked : List (NodeId × Bool)) : Classification where
  static := (marked.filter fun m => !m.2).map (·.1)
  replaceable := (marked.filter fun m => m.2).map (·.1)

/-- The step that looks up one child. -/
def Catalog.lookUp (c : Catalog) (id : NodeId) : Work R (NodeId × Bool) := do
  let name := (← Work.graph).name id
  match ← Work.lift (c.bestMatch name) with
  | none => return (id, false)
  | some entry =>
    Work.debug "pipeline.classifier"
      ("'" ++ name.display ++ "' will be replaced by packaged scene '" ++ entry.assetId ++ "'.")
    return (id, true)

/-- Looking up a child does nothing but report. -/
theorem Catalog.runIn_lookUp (c : Catalog) (id : NodeId) (s : Session R) :
    ∃ journal, (c.lookUp id).runIn s =
      ((c.bestMatch (s.stage.graph.name id)).map fun found => (id, found.isSome),
        { s with journal := journal }) := by
  unfold lookUp
  simp only [runIn_bind, runIn_graph, runIn_lift]
  rcases c.bestMatch (s.stage.graph.name id) with fault | found
  · exact ⟨s.journal, rfl⟩
  · cases found with
    | none => exact ⟨s.journal, rfl⟩
    | some entry => exact ⟨_, rfl⟩

/-- Sorting children looks them all up, and does nothing else but report. -/
theorem runIn_classify (children : List NodeId) (s : Session R) :
    ∃ journal, (classify children).runIn s =
      (s.shelf.packedSceneCatalog >>= fun catalog =>
          (catalog.marks s.stage.graph children).map Classification.ofMarks,
        { s with journal := journal }) := by
  have hclassify : classify children = (Work.session >>= fun s => Work.lift s.shelf.packedSceneCatalog >>=
      fun catalog => children.mapM catalog.lookUp >>= fun marked => pure (.ofMarks marked) :
        Work R Classification) := rfl
  rw [hclassify, runIn_bind, runIn_session]
  simp only [runIn_bind, runIn_lift]
  cases s.shelf.packedSceneCatalog with
  | error fault => exact ⟨s.journal, rfl⟩
  | ok catalog =>
      -- looking up a child changes the journal only
      have hround : ∀ id ∈ children, ∀ t : Session R, (∃ journal, t = { s with journal := journal }) →
          ∃ t', (catalog.lookUp id).runIn t =
              ((catalog.bestMatch (s.stage.graph.name id)).map fun found => (id, found.isSome), t') ∧
            ∃ journal, t' = { s with journal := journal } := by
        rintro id - t ⟨journal, rfl⟩
        rcases catalog.runIn_lookUp id { s with journal := journal } with ⟨journal', hrun⟩
        exact ⟨_, hrun, journal', rfl⟩
      obtain ⟨t, hrun, journal, rfl⟩ := exists_runIn_mapM _ ⟨s.journal, rfl⟩ hround
      refine ⟨journal, ?_⟩
      simp only [hrun, ok_bind, Catalog.marks]
      cases children.mapM fun id =>
        (catalog.bestMatch (s.stage.graph.name id)).map fun found => (id, found.isSome) <;> rfl

/-- The children without a match go one way and those with one the other, in their order. -/
theorem of_classify {children : List NodeId} {groups : Classification} {s s' : Session R}
    (h : (classify children).runIn s = (.ok groups, s')) :
    ∃ catalog journal, s.shelf.packedSceneCatalog = .ok catalog ∧
      s' = { s with journal := journal } ∧
      (∀ id ∈ children, ∃ found, catalog.bestMatch (s.stage.graph.name id) = .ok found) ∧
      groups.static = children.filter (fun id => !catalog.hasMatch (s.stage.graph.name id)) ∧
      groups.replaceable = children.filter (fun id => catalog.hasMatch (s.stage.graph.name id)) := by
  rcases runIn_classify children s with ⟨journal, hrun⟩
  rcases Prod.mk.inj (hrun.symm.trans h) with ⟨hgroups, hs'⟩
  rcases bind_eq_ok_iff.1 hgroups with ⟨catalog, hcatalog, hgroups⟩
  rcases map_eq_ok_iff.1 hgroups with ⟨marked, hmarked, rfl⟩
  have hall := (forall₂_of_mapM hmarked).imp fun id m hm => map_eq_ok_iff.1 hm
  -- all look-ups have an answer, so each mark says whether there is a match
  have hmarks : marked = children.map fun id => (id, catalog.hasMatch (s.stage.graph.name id)) := by
    refine eq_map_of_forall₂ (hall.imp ?_)
    rintro id m ⟨found, hfound, rfl⟩
    rw [Catalog.hasMatch_of_bestMatch hfound]
  refine ⟨catalog, journal, hcatalog, hs'.symm, ?_, ?_, ?_⟩
  · intro id hid
    rcases exists_result_of_mem hall hid with ⟨m, -, found, hfound, -⟩
    exact ⟨found, hfound⟩
  · simp [Classification.ofMarks, hmarks, List.filter_map, Function.comp_def]
  · simp [Classification.ofMarks, hmarks, List.filter_map, Function.comp_def]

/-- Children cannot be sorted without a catalog, or if one of them cannot be looked up. -/
theorem of_classify_error {children : List NodeId} {fault : Fault} {s s' : Session R}
    (h : (classify children).runIn s = (.error fault, s')) :
    (∃ journal, s' = { s with journal := journal }) ∧
      (s.shelf.packedSceneCatalog = .error fault ∨ ∃ catalog, s.shelf.packedSceneCatalog = .ok catalog ∧
        ∃ id ∈ children, catalog.bestMatch (s.stage.graph.name id) = .error fault) := by
  rcases runIn_classify children s with ⟨journal, hrun⟩
  rcases Prod.mk.inj (hrun.symm.trans h) with ⟨hgroups, hs'⟩
  refine ⟨⟨journal, hs'.symm⟩, ?_⟩
  cases hcatalog : s.shelf.packedSceneCatalog with
  | error fault' =>
      rw [hcatalog] at hgroups
      cases hgroups
      exact Or.inl rfl
  | ok catalog =>
      rw [hcatalog] at hgroups
      cases hmarked : catalog.marks s.stage.graph children with
      | ok marked =>
          rw [ok_bind, hmarked] at hgroups
          cases hgroups
      | error fault' =>
          rw [ok_bind, hmarked] at hgroups
          cases hgroups
          rcases exists_of_mapM_error hmarked with ⟨id, hid, hfault⟩
          refine Or.inr ⟨catalog, rfl, id, hid, ?_⟩
          cases hmatch : catalog.bestMatch (s.stage.graph.name id) with
          | ok found =>
              rw [hmatch] at hfault
              cases hfault
          | error fault' =>
              rw [hmatch] at hfault
              cases hfault
              rfl

/-! ## The two groups -/

/-- The children of a scene that have no match, and those that have one. -/
def staticChildren (catalog : Catalog) (scene : NodeId) (g : SceneGraph R) : List NodeId :=
  (g.children scene).filter fun id => !catalog.hasMatch (g.name id)

def replaceableChildren (catalog : Catalog) (scene : NodeId) (g : SceneGraph R) : List NodeId :=
  (g.children scene).filter fun id => catalog.hasMatch (g.name id)

/-- A child of a scene is in one of the two groups. -/
theorem mem_children_iff_sorted {catalog : Catalog} {scene child : NodeId} {g : SceneGraph R} :
    child ∈ g.children scene ↔
      child ∈ staticChildren catalog scene g ∨ child ∈ replaceableChildren catalog scene g := by
  simp only [staticChildren, replaceableChildren, List.mem_filter]
  cases catalog.hasMatch (g.name child) <;> simp

theorem not_mem_replaceable_of_static {catalog : Catalog} {scene child : NodeId} {g : SceneGraph R}
    (h : child ∈ staticChildren catalog scene g) : child ∉ replaceableChildren catalog scene g := by
  intro hreplaceable
  have hno := (List.mem_filter.1 h).2
  simp [(List.mem_filter.1 hreplaceable).2] at hno

/-! ## The phases -/

variable [Zero R] [One R] [Add R] [Mul R]

/-- The context in which the passes of a conversion run. -/
def LevelProcessor.context (p : LevelProcessor R) (scene : NodeId) : PassContext R :=
  { scene, settings := p.settings, grammar := p.grammar, tools := p.tools }

/-- A conversion that has opened its catalogs and has looked up all children of the scene, and the session in
which it goes on. -/
structure Sorted (p : LevelProcessor R) (scene : NodeId) (s : Session R) (shelf : Shelf) (catalog : Catalog)
    (sorted : Session R) : Prop where
  opened : Shelf.ofSettings s.disk p.settings.catalogs = .ok shelf
  catalog_eq : shelf.packedSceneCatalog = .ok catalog
  sorted_eq : ∃ journal, sorted = { s with shelf := shelf, journal := journal }
  answered : ∀ id ∈ s.stage.graph.children scene,
    ∃ found, catalog.bestMatch (s.stage.graph.name id) = .ok found

/-- A conversion that succeeded, phase by phase: the session after sorting, after the passes and after the
replacements. -/
structure Converted (p : LevelProcessor R) (scene : NodeId) (s s' : Session R) (shelf : Shelf)
    (catalog : Catalog) (sorted worked furnished : Session R) : Prop
    extends Sorted p scene s shelf catalog sorted where
  passes :
    ((staticChildren catalog scene s.stage.graph).forM fun node =>
      p.passes.forM fun pass => pass.apply (p.context scene) node).runIn sorted = (.ok (), worked)
  replacements :
    ((replaceableChildren catalog scene s.stage.graph).forM fun node =>
      discard (replaceContent p.tools scene node)).runIn worked = (.ok (), furnished)
  flushed : s' =
    { furnished with
      stage := { furnished.stage with graph := (furnished.stage.graph.flush scene).2 } }

/-- How a conversion ends: it fails while it opens the catalogs or looks up the children of the scene, in a pass or
in a replacement, or it goes through all phases. -/
inductive Ends (p : LevelProcessor R) (scene : NodeId) (s : Session R) : Except Fault Unit → Session R → Prop
  | opening {fault : Fault}
      (hopen : Shelf.ofSettings s.disk p.settings.catalogs = .error fault) : Ends p scene s (.error fault) s
  | unconfigured {fault : Fault} {shelf : Shelf} (hopen : Shelf.ofSettings s.disk p.settings.catalogs = .ok shelf)
      (hcatalog : shelf.packedSceneCatalog = .error fault) (journal : Array LogRecord) :
      Ends p scene s (.error fault) { s with shelf := shelf, journal := journal }
  | unanswered {fault : Fault} {shelf : Shelf} {catalog : Catalog} {child : NodeId}
      (hopen : Shelf.ofSettings s.disk p.settings.catalogs = .ok shelf)
      (hcatalog : shelf.packedSceneCatalog = .ok catalog) (hchild : child ∈ s.stage.graph.children scene)
      (hmatch : catalog.bestMatch (s.stage.graph.name child) = .error fault) (journal : Array LogRecord) :
      Ends p scene s (.error fault) { s with shelf := shelf, journal := journal }
  | working {fault : Fault} {shelf : Shelf} {catalog : Catalog} {sorted s' : Session R}
      (hsorted : Sorted p scene s shelf catalog sorted)
      (hpasses : ((staticChildren catalog scene s.stage.graph).forM fun node =>
        p.passes.forM fun pass => pass.apply (p.context scene) node).runIn sorted = (.error fault, s')) :
      Ends p scene s (.error fault) s'
  | replacing {fault : Fault} {shelf : Shelf} {catalog : Catalog} {sorted worked s' : Session R}
      (hsorted : Sorted p scene s shelf catalog sorted)
      (hpasses : ((staticChildren catalog scene s.stage.graph).forM fun node =>
        p.passes.forM fun pass => pass.apply (p.context scene) node).runIn sorted = (.ok (), worked))
      (hreplacements : ((replaceableChildren catalog scene s.stage.graph).forM fun node =>
        discard (replaceContent p.tools scene node)).runIn worked = (.error fault, s')) :
      Ends p scene s (.error fault) s'
  | flushing {shelf : Shelf} {catalog : Catalog} {sorted worked furnished s' : Session R}
      (hconverted : Converted p scene s s' shelf catalog sorted worked furnished) : Ends p scene s (.ok ()) s'

theorem ends_of_convert {p : LevelProcessor R} {scene : NodeId} {outcome : Except Fault Unit} {s s' : Session R}
    (h : (p.convert scene).runIn s = (outcome, s')) : Ends p scene s outcome s' := by
  rw [LevelProcessor.convert, runIn_bind, runIn_session] at h
  simp only [runIn_bind, runIn_lift, runIn_modify, runIn_graph] at h
  -- the phases are taken in turn, and a conversion ends with the first that fails
  cases hopen : Shelf.ofSettings s.disk p.settings.catalogs with
  | error fault =>
      simp only [hopen] at h
      cases h
      exact .opening hopen
  | ok shelf =>
      simp only [hopen] at h
      rcases hclassify : (classify (s.stage.graph.children scene)).runIn { s with shelf := shelf } with
        ⟨fault | groups, t⟩
      · simp only [hclassify] at h
        cases h
        rcases of_classify_error hclassify with ⟨⟨journal, rfl⟩, hcatalog | ⟨catalog, hcatalog, child, hchild, hmatch⟩⟩
        · exact .unconfigured hopen hcatalog journal
        · exact .unanswered hopen hcatalog hchild hmatch journal
      · rcases of_classify hclassify with ⟨catalog, journal, hcatalog, rfl, hanswered, hstatic, hreplaceable⟩
        simp only [hclassify, runIn_debug] at h
        generalize journal.push _ = journal' at h
        have hsorted : Sorted p scene s shelf catalog { s with shelf := shelf, journal := journal' } :=
          ⟨hopen, hcatalog, ⟨journal', rfl⟩, hanswered⟩
        rw [show groups.static = staticChildren catalog scene s.stage.graph from hstatic,
          show groups.replaceable = replaceableChildren catalog scene s.stage.graph from hreplaceable,
          show ({ scene, settings := p.settings, grammar := p.grammar, tools := p.tools } : PassContext R) =
            p.context scene from rfl] at h
        rcases hpasses : ((staticChildren catalog scene s.stage.graph).forM fun node =>
            p.passes.forM fun pass => pass.apply (p.context scene) node).runIn
              { s with shelf := shelf, journal := journal' } with ⟨fault | ⟨⟩, worked⟩
        · simp only [hpasses] at h
          cases h
          exact .working hsorted hpasses
        · simp only [hpasses] at h
          rcases hreplacements : ((replaceableChildren catalog scene s.stage.graph).forM fun node =>
              discard (replaceContent p.tools scene node)).runIn worked with ⟨fault | ⟨⟩, furnished⟩
          · simp only [hreplacements] at h
            cases h
            exact .replacing hsorted hpasses hreplacements
          · simp only [hreplacements] at h
            cases h
            exact .flushing ⟨hsorted, hpasses, hreplacements, rfl⟩

theorem exists_converted {p : LevelProcessor R} {scene : NodeId} {s s' : Session R}
    (h : (p.convert scene).runIn s = (.ok (), s')) :
    ∃ shelf catalog sorted worked furnished,
      Converted p scene s s' shelf catalog sorted worked furnished := by
  cases ends_of_convert h with
  | flushing hconverted => exact ⟨_, _, _, _, _, hconverted⟩

/-- What its name asks for is done with a scene: it is converted, or nothing but a note is made. -/
theorem of_process {p : LevelProcessor R} {scene : NodeId} {s s' : Session R}
    (hrun : (p.process scene).runIn s = (.ok (), s')) :
    (∃ journal, s' = { s with journal := journal }) ∨
      ∃ t journal, (p.convert scene).runIn s = (.ok (), t) ∧ s' = { t with journal := journal } := by
  rcases runIn_bind_eq_ok_iff.1 hrun with ⟨g, s₁, hgraph, hrest⟩
  cases hgraph
  rcases runIn_bind_eq_ok_iff.1 hrest with ⟨level, s₂, hlift, hrest⟩
  rcases runIn_lift_eq_ok_iff.1 hlift with ⟨-, rfl⟩
  cases level with
  | false =>
      cases hrest
      exact Or.inl ⟨_, rfl⟩
  | true =>
      rcases runIn_bind_eq_ok_iff.1 hrest with ⟨⟨⟩, t, hconvert, hrest⟩
      cases hrest
      exact Or.inr ⟨t, _, hconvert, rfl⟩

end LevelPrep
