import LevelPrep.Proofs.Outcome
import LevelPrep.Proofs.Scene.Snapshots
import LevelPrep.Proofs.Scene.Views

/-!
# Dumps of live trees

`Stage.head?` is what a dump tells of one live node.  In a linked graph the dump of a node is its head with the
dumps of its children (`snapshot?_eq`), whatever the fuel, and every node has one (`exists_snapshot?`).  So
trees that agree node by node have one dump, and what happens to nodes one by one happens to the dump:

* `snapshot?_congr`: nothing happens to the nodes of a tree;
* `exists_remake`, `exists_of_remake`: their payloads are made anew;
* `snapshot?_of_shows`: the tree of a branch whose nodes all have one owner.
-/

namespace LevelPrep

variable {R : Type}

/-- What holds of a node as soon as it holds of its children holds of every node of a linked graph. -/
theorem SceneGraph.Linked.induction {g : SceneGraph R} (hg : g.Linked) {P : NodeId → Prop}
    (step : ∀ x, (∀ child ∈ g.children x, P child) → P x) (x : NodeId) : P x := by
  rcases Stage.exists_ranked hg with ⟨rank, hrank⟩
  -- the ranks of children are larger, and no rank is as large as the graph
  generalize hgap : g.size - rank x = gap
  induction gap using Nat.strong_induction_on generalizing x with
  | _ gap ih =>
      refine step x fun child hchild => ?_
      have hgrows := hrank.grows x child hchild
      have hbound := hrank.bounded child (hg.index_lt_of_mem_children hchild).2
      exact ih (g.size - rank child) (by omega) child rfl

namespace Stage

open SceneGraph Snapshot

/-- A live node as it is dumped. -/
def headOf (stage : Stage R) (n : Node R) : Head R where
  name := n.name
  transform := n.transform
  payload := stage.payloadValue n
  owner := n.owner.map stage.graph.name
  queued := n.queued

/-- The node under a reference as it is dumped. -/
def head? (stage : Stage R) (x : NodeId) : Option (Head R) :=
  (stage.graph.node? x).map stage.headOf

variable {stage stage' : Stage R} {x root : NodeId}

theorem head?_of_node? {n : Node R} (h : stage.graph.node? x = some n) :
    stage.head? x = some (stage.headOf n) := by
  rw [head?, h, Option.map_some]

theorem exists_head?_iff : (∃ h, stage.head? x = some h) ↔ x.index < stage.graph.size := by
  rw [← exists_node?_iff]
  constructor
  · rintro ⟨h, hh⟩
    rcases Option.map_eq_some_iff.1 hh with ⟨n, hn, -⟩
    exact ⟨n, hn⟩
  · rintro ⟨n, hn⟩
    exact ⟨_, head?_of_node? hn⟩

theorem name_of_head? {h : Head R} (hh : stage.head? x = some h) : stage.graph.name x = h.name := by
  rcases Option.map_eq_some_iff.1 hh with ⟨n, hn, rfl⟩
  simp [SceneGraph.name, hn, headOf]

/-! ## The dump of a node -/

theorem snapshotTo_succ_eq (stage : Stage R) (fuel : Nat) (id : NodeId) :
    stage.snapshotTo (fuel + 1) id = (stage.head? id).bind fun h =>
      ((stage.graph.children id).mapM (stage.snapshotTo fuel)).map h.node := by
  rw [snapshotTo_succ, head?]
  cases hn : stage.graph.node? id with
  | none => rfl
  | some n =>
      rw [children_of_node? hn]
      rfl

/-- More fuel than enough makes no difference. -/
theorem snapshotTo_add {rank : NodeId → Nat} (hrank : Ranked stage.graph rank) {fuel : Nat} {id : NodeId}
    (hfuel : stage.graph.size ≤ rank id + fuel) :
    stage.snapshotTo (fuel + 1) id = stage.snapshotTo fuel id := by
  induction fuel generalizing id with
  | zero =>
      have hout : stage.head? id = none := by
        by_contra hsome
        rcases Option.ne_none_iff_exists'.1 hsome with ⟨h, hh⟩
        have hlt := hrank.bounded id (exists_head?_iff.1 ⟨h, hh⟩)
        omega
      rw [snapshotTo_succ_eq, hout]
      rfl
  | succ fuel ih =>
      rw [snapshotTo_succ_eq, snapshotTo_succ_eq]
      congr 1
      funext h
      refine congrArg _ (mapM_congr fun child hchild => ih ?_)
      have hgrows := hrank.grows id child hchild
      omega

/-- The dump of a node is its head with the dumps of its children. -/
theorem snapshot?_eq (hg : stage.graph.Linked) (id : NodeId) :
    stage.snapshot? id = (stage.head? id).bind fun h =>
      ((stage.graph.children id).mapM stage.snapshot?).map h.node := by
  rcases exists_ranked hg with ⟨rank, hrank⟩
  unfold snapshot?
  rw [← snapshotTo_add hrank (Nat.le_add_left _ _), snapshotTo_succ_eq]

theorem snapshot?_eq_some_iff (hg : stage.graph.Linked) {id : NodeId} {d : Snapshot Geometry R} :
    stage.snapshot? id = some d ↔ ∃ h ds, stage.head? id = some h ∧
      List.Forall₂ (fun child d => stage.snapshot? child = some d) (stage.graph.children id) ds ∧
      d = h.node ds := by
  rw [snapshot?_eq hg]
  constructor
  · intro hd
    rcases Option.bind_eq_some_iff.1 hd with ⟨h, hh, hd'⟩
    rcases Option.map_eq_some_iff.1 hd' with ⟨ds, hds, rfl⟩
    exact ⟨h, ds, hh, mapM_eq_some_iff.1 hds, rfl⟩
  · rintro ⟨h, ds, hh, hds, rfl⟩
    rw [hh, Option.bind_some, mapM_eq_some_iff.2 hds]
    rfl

/-- At the root of a dump is the node that is dumped. -/
theorem head?_of_snapshot? (hg : stage.graph.Linked) {id : NodeId} {d : Snapshot Geometry R}
    (h : stage.snapshot? id = some d) : stage.head? id = some d.head := by
  rcases (snapshot?_eq_some_iff hg).1 h with ⟨v, ds, hv, -, rfl⟩
  exact hv

theorem name_of_snapshot? (hg : stage.graph.Linked) {id : NodeId} {d : Snapshot Geometry R}
    (h : stage.snapshot? id = some d) : stage.graph.name id = d.head.name :=
  name_of_head? (head?_of_snapshot? hg h)

/-- Every live node has a dump. -/
theorem exists_snapshot? (hg : stage.graph.Linked) {id : NodeId} (hid : id.index < stage.graph.size) :
    ∃ d, stage.snapshot? id = some d := by
  rcases exists_shows hg hid with ⟨branch, hshows⟩
  rcases Option.map_eq_some_iff.1 ((branch?_eq_some_iff hg).2 hshows) with ⟨d, hd, -⟩
  exact ⟨d, hd⟩

theorem index_lt_of_snapshot? (hg : stage.graph.Linked) {id : NodeId} {d : Snapshot Geometry R}
    (h : stage.snapshot? id = some d) : id.index < stage.graph.size := by
  rcases (snapshot?_eq_some_iff hg).1 h with ⟨hd, ds, hhead, -, -⟩
  exact exists_head?_iff.1 ⟨hd, hhead⟩

/-- The dump of a tree depends on nothing but the nodes of the tree. -/
theorem snapshot?_congr (hg : stage.graph.Linked) (hg' : stage'.graph.Linked)
    (hsame : ∀ x, stage.graph.Within root x →
      stage'.head? x = stage.head? x ∧ stage'.graph.children x = stage.graph.children x) :
    stage'.snapshot? root = stage.snapshot? root := by
  induction root using hg.induction with
  | step root ih =>
      rcases hsame root (Within.refl _ root) with ⟨hhead, hchildren⟩
      rw [snapshot?_eq hg, snapshot?_eq hg', hhead, hchildren]
      congr 1
      funext h
      refine congrArg _ (mapM_congr fun child hchild => ih child hchild fun x hx => ?_)
      exact hsame x (((Within.refl _ root).child hchild).trans hx)

/-! ## New payloads -/

/-- Where the payloads of all nodes of a tree are made anew, so are those in its dump. -/
theorem exists_remake {f : Maker R} (hg : stage.graph.Linked) (hg' : stage'.graph.Linked)
    (hmade : ∀ x, stage.graph.Within root x → ∃ h h', stage.head? x = some h ∧ h.remake f = some h' ∧
      stage'.head? x = some h' ∧ stage'.graph.children x = stage.graph.children x) :
    ∃ d d', stage.snapshot? root = some d ∧ d.remake f = some d' ∧ stage'.snapshot? root = some d' := by
  induction root using hg.induction with
  | step root ih =>
      obtain ⟨h, h', hh, hremake, hh', hchildren⟩ := hmade root (Within.refl _ root)
      -- the dumps of each child before and after
      obtain ⟨pairs, hpairs⟩ : ∃ pairs : List (Snapshot Geometry R × Snapshot Geometry R),
          List.Forall₂ (fun child p => stage.snapshot? child = some p.1 ∧ p.1.remake f = some p.2 ∧
            stage'.snapshot? child = some p.2) (stage.graph.children root) pairs := by
        refine exists_forall₂ fun child hchild => ?_
        rcases ih child hchild fun x hx => hmade x (((Within.refl _ root).child hchild).trans hx) with
          ⟨d, d', hboth⟩
        exact ⟨(d, d'), hboth⟩
      refine ⟨h.node (pairs.map (·.1)), h'.node (pairs.map (·.2)),
        (snapshot?_eq_some_iff hg).2 ⟨h, _, hh, ?_, rfl⟩, remake_eq_some_iff.2 ⟨h', _, hremake, ?_, rfl⟩,
        (snapshot?_eq_some_iff hg').2 ⟨h', _, hh', ?_, rfl⟩⟩
      · rw [List.forall₂_map_right_iff]
        exact hpairs.imp fun _ _ hp => hp.1
      · rw [List.forall₂_map_left_iff, List.forall₂_map_right_iff, List.forall₂_same]
        intro p hp
        rcases exists_of_mem_results hpairs hp with ⟨child, -, hboth⟩
        exact hboth.2.1
      · rw [hchildren, List.forall₂_map_right_iff]
        exact hpairs.imp fun _ _ hp => hp.2.2

/-- Where each node of a tree can be made anew, so can its dump. -/
theorem exists_remake_of_heads {f : Maker R} (hg : stage.graph.Linked) {d : Snapshot Geometry R}
    (hd : stage.snapshot? root = some d)
    (hmade : ∀ x, stage.graph.Within root x → ∃ h h', stage.head? x = some h ∧ h.remake f = some h') :
    ∃ d', d.remake f = some d' := by
  induction root using hg.induction generalizing d with
  | step root ih =>
      rcases (snapshot?_eq_some_iff hg).1 hd with ⟨h, ds, hh, hds, rfl⟩
      rcases hmade root (Within.refl _ root) with ⟨_, h', hh', hremake⟩
      cases hh'.symm.trans hh
      obtain ⟨ds', hds'⟩ : ∃ ds', List.Forall₂ (fun d d' => d.remake f = some d') ds ds' := by
        refine exists_forall₂ fun c hc => ?_
        rcases exists_of_mem_results hds hc with ⟨child, hchild, hsnapshot⟩
        exact ih child hchild hsnapshot fun x hx => hmade x (((Within.refl _ root).child hchild).trans hx)
      exact ⟨h'.node ds', remake_eq_some_iff.2 ⟨h', ds', hremake, hds', rfl⟩⟩

/-- Where the dump of a tree can be made anew, so can each of its nodes. -/
theorem exists_of_remake {f : Maker R} (hg : stage.graph.Linked) {d d' : Snapshot Geometry R}
    (hd : stage.snapshot? root = some d) (hremake : d.remake f = some d') (hx : stage.graph.Within root x) :
    ∃ h h', stage.head? x = some h ∧ h.remake f = some h' := by
  induction root using hg.induction generalizing d d' with
  | step root ih =>
      rcases (snapshot?_eq_some_iff hg).1 hd with ⟨h, ds, hh, hds, rfl⟩
      rcases remake_eq_some_iff.1 hremake with ⟨h', ds', hh', hds', rfl⟩
      rcases hx.eq_or_exists_child with rfl | ⟨child, hchild, hx⟩
      · exact ⟨h, h', hh, hh'⟩
      · rcases exists_result_of_mem hds hchild with ⟨dc, hdc, hsnapshot⟩
        rcases exists_result_of_mem hds' hdc with ⟨dc', -, hremake'⟩
        exact ih child hchild hsnapshot hremake' hx

/-! ## Trees of branches -/

/-- A node that belongs to another one and is to stay. -/
def KeptBy (stage : Stage R) (owner x : NodeId) : Prop :=
  stage.graph.owner? x = some owner ∧ stage.graph.isQueued x = false

mutual

/-- The tree of a branch, all of whose nodes belong to one owner and are to stay. -/
theorem snapshot?_of_shows (hg : stage.graph.Linked) {owner : NodeId} :
    ∀ {branch : Branch R} {root : NodeId}, stage.Shows branch root →
      (∀ x, stage.graph.Within root x → stage.KeptBy owner x) →
      stage.snapshot? root = some (branch.ownedBy (stage.graph.name owner))
  | .node name transform payload below, root, h, hkept => by
      rcases h with ⟨n, hn, rfl, rfl, rfl, hchildren⟩
      have hbelow := mapM_snapshot?_of_allShow hg hchildren fun child hchild x hx => by
        have hmem : child ∈ stage.graph.children root := by rwa [children_of_node? hn]
        exact hkept x (((Within.refl _ root).child hmem).trans hx)
      rcases hkept root (Within.refl _ root) with ⟨howner, hstay⟩
      have howner' : n.owner = some owner := by simpa [owner?, hn] using howner
      have hstay' : n.queued = false := by simpa [SceneGraph.isQueued, hn] using hstay
      rw [snapshot?_eq hg, head?_of_node? hn, children_of_node? hn, Option.bind_some, hbelow]
      simp only [Option.map_some, headOf, Head.node, howner', hstay', Tree.ownedBy]

/-- The trees of branches, all of whose nodes belong to one owner and are to stay. -/
theorem mapM_snapshot?_of_allShow (hg : stage.graph.Linked) {owner : NodeId} :
    ∀ {branches : List (Branch R)} {ids : List NodeId}, stage.AllShow branches ids →
      (∀ id ∈ ids, ∀ x, stage.graph.Within id x → stage.KeptBy owner x) →
      ids.mapM stage.snapshot? = some (Tree.allOwnedBy (stage.graph.name owner) branches)
  | [], _, h, _ => by
      subst h
      rfl
  | branch :: rest, _, h, hkept => by
      rcases h with ⟨id, later, rfl, hshows, hrest⟩
      rw [List.mapM_cons, snapshot?_of_shows hg hshows (hkept id List.mem_cons_self),
        mapM_snapshot?_of_allShow hg hrest fun other hother => hkept other (List.mem_cons_of_mem id hother)]
      rfl

end

/-- The tree of a branch whose root is free and owns what is below it: it is dumped as a scene of its own. -/
theorem snapshot?_asScene (hg : stage.graph.Linked) {branch : Branch R} {root : NodeId} {n : Node R}
    (hshows : stage.Shows branch root) (hn : stage.graph.node? root = some n) (howner : n.owner = none)
    (hqueued : n.queued = false)
    (hkept : ∀ child ∈ stage.graph.children root, ∀ x, stage.graph.Within child x → stage.KeptBy root x) :
    stage.snapshot? root = some branch.asScene := by
  rcases branch with ⟨name, transform, payload, below⟩
  rcases hshows with ⟨m, hm, rfl, rfl, rfl, hall⟩
  cases hm.symm.trans hn
  have hname : stage.graph.name root = n.name := by simp [SceneGraph.name, hn]
  rw [children_of_node? hn] at hkept
  have hbelow := mapM_snapshot?_of_allShow hg hall hkept
  rw [snapshot?_eq hg, head?_of_node? hn, children_of_node? hn, Option.bind_some, hbelow, hname]
  simp [headOf, Head.node, howner, hqueued, Tree.asScene]

end Stage

end LevelPrep
