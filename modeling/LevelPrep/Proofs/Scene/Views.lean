import LevelPrep.Proofs.Scene.Links
import LevelPrep.Scene.Branch

/-!
# Trees as they are seen

`Stage.Shows` says that a live node and everything below it look like a branch, without following links by
fuel.  What a node shows depends only on the nodes of its tree (`Shows.of_same`), and in a linked graph
every node shows one branch, the one that is read off it (`branch?_eq_some_iff`).
-/

namespace LevelPrep.Stage

variable {R : Type}

mutual

/-- The tree below a live node is the given branch. -/
def Shows (stage : Stage R) : Branch R → NodeId → Prop
  | .node name transform payload children, id => ∃ n, stage.graph.node? id = some n ∧ n.name = name ∧
    n.transform = transform ∧ stage.payloadValue n = payload ∧ stage.AllShow children n.children

/-- The trees below live nodes are the given branches, in order. -/
def AllShow (stage : Stage R) : List (Branch R) → List NodeId → Prop
  | [], ids => ids = []
  | branch :: rest, ids => ∃ id later, ids = id :: later ∧ stage.Shows branch id ∧
    stage.AllShow rest later

end

/-- A node looks on another stage as the node under another reference does: only its links to nodes above it,
its owner and its mark may differ. -/
def LooksAs (stage stage' : Stage R) (image : NodeId → NodeId) (x : NodeId) : Prop :=
  ∀ n, stage.graph.node? x = some n → ∃ n', stage'.graph.node? (image x) = some n' ∧ n'.name = n.name ∧
    n'.transform = n.transform ∧ stage'.payloadValue n' = stage.payloadValue n ∧
    n'.children = n.children.map image

/-- A node looks the same on another stage. -/
def LooksSame (stage stage' : Stage R) (x : NodeId) : Prop :=
  ∀ n, stage.graph.node? x = some n → ∃ n', stage'.graph.node? x = some n' ∧ n'.name = n.name ∧
    n'.transform = n.transform ∧ stage'.payloadValue n' = stage.payloadValue n ∧
    n'.children = n.children

theorem LooksSame.looksAs_id {stage stage' : Stage R} {x : NodeId} (h : stage.LooksSame stage' x) :
    stage.LooksAs stage' id x := by
  intro n hn
  rw [List.map_id]
  exact h n hn

mutual

/-- What a node shows depends only on its tree, and not on the references in it. -/
theorem Shows.of_image {stage stage' : Stage R} {image : NodeId → NodeId} : ∀ {branch : Branch R} {id : NodeId},
    stage.Shows branch id → (∀ x, stage.graph.Within id x → stage.LooksAs stage' image x) →
      stage'.Shows branch (image id)
  | .node name transform payload children, id, h, hsame => by
      rcases h with ⟨n, hn, rfl, rfl, rfl, hchildren⟩
      obtain ⟨n', hn', hname, htransform, hpayload, hkept⟩ :=
        hsame id (SceneGraph.Within.refl _ id) n hn
      refine ⟨n', hn', hname, htransform, hpayload, hkept ▸ AllShow.of_image hchildren ?_⟩
      intro child hchild x hx
      have hmem : child ∈ stage.graph.children id := by
        rwa [SceneGraph.children_of_node? hn]
      exact hsame x (((SceneGraph.Within.refl _ id).child hmem).trans hx)

theorem AllShow.of_image {stage stage' : Stage R} {image : NodeId → NodeId} :
    ∀ {branches : List (Branch R)} {ids : List NodeId}, stage.AllShow branches ids →
      (∀ id ∈ ids, ∀ x, stage.graph.Within id x → stage.LooksAs stage' image x) →
      stage'.AllShow branches (ids.map image)
  | [], _, h, _ => by
      subst h
      rfl
  | branch :: rest, _, h, hsame => by
      rcases h with ⟨id, later, rfl, hshows, hrest⟩
      exact ⟨image id, later.map image, rfl, hshows.of_image (hsame id List.mem_cons_self),
        AllShow.of_image hrest fun other hother => hsame other (List.mem_cons_of_mem id hother)⟩

end

/-- What a node shows depends only on its tree. -/
theorem Shows.of_same {stage stage' : Stage R} {branch : Branch R} {id : NodeId} (h : stage.Shows branch id)
    (hsame : ∀ x, stage.graph.Within id x → stage.LooksSame stage' x) : stage'.Shows branch id :=
  h.of_image fun x hx => (hsame x hx).looksAs_id

theorem AllShow.of_same {stage stage' : Stage R} {branches : List (Branch R)} {ids : List NodeId}
    (h : stage.AllShow branches ids)
    (hsame : ∀ id ∈ ids, ∀ x, stage.graph.Within id x → stage.LooksSame stage' x) :
    stage'.AllShow branches ids := by
  have himage := h.of_image fun id hid x hx => (hsame id hid x hx).looksAs_id
  rwa [List.map_id] at himage

theorem Shows.exists_node {stage : Stage R} {branch : Branch R} {id : NodeId}
    (h : stage.Shows branch id) : ∃ n, stage.graph.node? id = some n := by
  cases branch with
  | node => exact ⟨_, h.choose_spec.1⟩

/-! ## Reading branches off live nodes -/

variable {stage : Stage R} {id : NodeId}

theorem snapshotTo_succ (stage : Stage R) (fuel : Nat) (id : NodeId) :
    stage.snapshotTo (fuel + 1) id = (stage.graph.node? id).bind fun n =>
      (n.children.mapM (stage.snapshotTo fuel)).map fun children =>
        .node n.name n.transform (stage.payloadValue n) (n.owner.map stage.graph.name) n.queued
          children := by
  rw [snapshotTo]
  cases stage.graph.node? id with
  | none => rfl
  | some n =>
      show (n.children.mapM (stage.snapshotTo fuel)).bind _ = Option.map _ _
      cases n.children.mapM (stage.snapshotTo fuel) <;> rfl

theorem allShow_of_mapM {read : NodeId → Option (Snapshot Geometry R)}
    (hread : ∀ id snapshot, read id = some snapshot → stage.Shows snapshot.tree id) :
    ∀ {ids : List NodeId} {snapshots : List (Snapshot Geometry R)}, ids.mapM read = some snapshots →
      stage.AllShow (Snapshot.trees snapshots) ids := by
  intro ids
  induction ids with
  | nil =>
      intro snapshots h
      cases h
      rfl
  | cons id ids ih =>
      intro snapshots h
      rw [List.mapM_cons] at h
      rcases Option.bind_eq_some_iff.1 h with ⟨first, hfirst, h'⟩
      rcases Option.bind_eq_some_iff.1 h' with ⟨rest, hrest, hpure⟩
      cases hpure
      exact ⟨id, ids, rfl, hread id first hfirst, ih hrest⟩

theorem shows_of_snapshotTo {fuel : Nat} : ∀ {id : NodeId} {snapshot : Snapshot Geometry R},
    stage.snapshotTo fuel id = some snapshot → stage.Shows snapshot.tree id := by
  induction fuel with
  | zero =>
      intro id snapshot h
      cases h
  | succ fuel ih =>
      intro id snapshot h
      rw [snapshotTo_succ] at h
      rcases Option.bind_eq_some_iff.1 h with ⟨n, hn, h'⟩
      rcases Option.map_eq_some_iff.1 h' with ⟨children, hchildren, rfl⟩
      exact ⟨n, hn, rfl, rfl, rfl, allShow_of_mapM (fun id snapshot => ih) hchildren⟩

/-- Ranks of the nodes of a graph: they grow on the way down, and stay below the size of the graph. -/
structure Ranked (g : SceneGraph R) (rank : NodeId → Nat) : Prop where
  grows : ∀ parent child, child ∈ g.children parent → rank parent < rank child
  bounded : ∀ x, x.index < g.size → rank x < g.size

theorem exists_ranked {g : SceneGraph R} (hg : g.Linked) : ∃ rank, Ranked g rank := by
  rcases hg.exists_rank with ⟨rank, hgrows, hbounded⟩
  exact ⟨rank, fun parent child h => hgrows parent child ((hg.mem_children_iff parent child).1 h),
    hbounded⟩

mutual

/-- Fuel that makes up for what a rank lacks is enough to read all that a node shows. -/
theorem Shows.snapshotTo {rank : NodeId → Nat} (hrank : Ranked stage.graph rank) :
    ∀ {branch : Branch R} {id : NodeId} {fuel : Nat}, stage.Shows branch id →
      stage.graph.size ≤ rank id + fuel →
      ∃ snapshot, stage.snapshotTo fuel id = some snapshot ∧ snapshot.tree = branch
  | .node name transform payload children, id, fuel, h, hfuel => by
      rcases h with ⟨n, hn, rfl, rfl, rfl, hchildren⟩
      have hlt := hrank.bounded id (SceneGraph.index_lt_of_node? hn)
      -- the rank of a node is below the size, so there is fuel left for it
      obtain ⟨fuel, rfl⟩ : ∃ less, fuel = less + 1 := ⟨fuel - 1, by omega⟩
      have hbelow : ∀ child ∈ n.children, stage.graph.size ≤ rank child + fuel := by
        intro child hchild
        have hgrows := hrank.grows id child (by rwa [SceneGraph.children_of_node? hn])
        omega
      rcases AllShow.mapM_snapshotTo hrank hchildren hbelow with ⟨snapshots, hread, htrees⟩
      rw [snapshotTo_succ, hn, Option.bind_some, hread]
      exact ⟨_, rfl, by rw [Snapshot.tree, htrees]⟩

theorem AllShow.mapM_snapshotTo {rank : NodeId → Nat} (hrank : Ranked stage.graph rank) :
    ∀ {branches : List (Branch R)} {ids : List NodeId} {fuel : Nat}, stage.AllShow branches ids →
      (∀ id ∈ ids, stage.graph.size ≤ rank id + fuel) →
      ∃ snapshots, ids.mapM (stage.snapshotTo fuel) = some snapshots ∧
        Snapshot.trees snapshots = branches
  | [], _, _, h, _ => by
      subst h
      exact ⟨[], rfl, rfl⟩
  | branch :: rest, _, fuel, h, hfuel => by
      rcases h with ⟨id, later, rfl, hshown, hrest⟩
      rcases Shows.snapshotTo hrank hshown (hfuel id List.mem_cons_self) with ⟨snapshot, hread, htree⟩
      obtain ⟨snapshots, hreads, htrees⟩ := AllShow.mapM_snapshotTo hrank hrest
        fun other hother => hfuel other (List.mem_cons_of_mem id hother)
      refine ⟨snapshot :: snapshots, ?_, by rw [Snapshot.trees, htree, htrees]⟩
      rw [List.mapM_cons, hread, hreads]
      rfl

end

/-- The branch that is read off a node is the one that it shows. -/
theorem branch?_eq_some_iff (hg : stage.graph.Linked) {branch : Branch R} :
    stage.branch? id = some branch ↔ stage.Shows branch id := by
  unfold branch? snapshot?
  constructor
  · intro h
    rcases Option.map_eq_some_iff.1 h with ⟨snapshot, hread, rfl⟩
    exact shows_of_snapshotTo hread
  · intro h
    rcases exists_ranked hg with ⟨rank, hrank⟩
    rcases h.snapshotTo hrank (Nat.le_add_left _ _) with ⟨snapshot, hread, rfl⟩
    rw [hread]
    rfl

theorem exists_allShow {ids : List NodeId} (h : ∀ id ∈ ids, ∃ branch, stage.Shows branch id) :
    ∃ branches, stage.AllShow branches ids := by
  induction ids with
  | nil => exact ⟨[], rfl⟩
  | cons id ids ih =>
      rcases h id List.mem_cons_self with ⟨branch, hbranch⟩
      rcases ih fun other hother => h other (List.mem_cons_of_mem id hother) with ⟨rest, hrest⟩
      exact ⟨branch :: rest, id, ids, rfl, hbranch, hrest⟩

/-- Every node of a linked graph shows a branch. -/
theorem exists_shows (hg : stage.graph.Linked) (hid : id.index < stage.graph.size) :
    ∃ branch, stage.Shows branch id := by
  rcases exists_ranked hg with ⟨rank, hrank⟩
  have hlt := hrank.bounded id hid
  -- the branches below a node are there already when nodes are taken in order of falling rank
  generalize hgap : stage.graph.size - rank id = gap
  induction gap using Nat.strong_induction_on generalizing id with
  | _ gap ih =>
      rcases SceneGraph.exists_node?_iff.2 hid with ⟨n, hn⟩
      obtain ⟨branches, hbranches⟩ : ∃ branches, stage.AllShow branches n.children := by
        refine exists_allShow fun child hchild => ?_
        have hmem : child ∈ stage.graph.children id := by rwa [SceneGraph.children_of_node? hn]
        have hchildId := (hg.index_lt_of_mem_children hmem).2
        have hgrows := hrank.grows id child hmem
        have hchildLt := hrank.bounded child hchildId
        exact ih (stage.graph.size - rank child) (by omega) hchildId hchildLt rfl
      exact ⟨.node n.name n.transform (stage.payloadValue n) branches, n, hn, rfl, rfl, rfl, hbranches⟩

end LevelPrep.Stage
