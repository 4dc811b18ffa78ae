import LevelPrep.Proofs.Pass.Bodies

/-!
# Working on one tree

A step that is `Advanced` leaves alone what lies outside of the tree that it works on, so other trees are dumped
as before (`Advanced.snapshot?_eq`).  Passes that draw are such steps, and so are those that add bodies.
-/

namespace LevelPrep

variable {R : Type}

open Work SceneGraph

variable {context : PassContext R} {bake : MeshValue → Matrix R → Float → Option MeshValue} {root : NodeId}
  {s s' t : Session R} {d : Snapshot Geometry R}

/-- What a step that works on one tree leaves alone: everything outside of the tree, and of the tree the names
and the places of its nodes. -/
structure Advanced (root : NodeId) (s s' : Session R) : Prop where
  fit : Fit s'
  size_le : s.stage.graph.size ≤ s'.stage.graph.size
  parent?_eq : ∀ x : NodeId, x.index < s.stage.graph.size →
    s'.stage.graph.parent? x = s.stage.graph.parent? x
  name_eq : ∀ x : NodeId, x.index < s.stage.graph.size → s'.stage.graph.name x = s.stage.graph.name x
  outside : ∀ x : NodeId, x.index < s.stage.graph.size → ¬ s.stage.graph.Within root x →
    s'.stage.head? x = s.stage.head? x ∧ s'.stage.graph.children x = s.stage.graph.children x
  disk : s'.disk = s.disk
  catalogs : s'.shelf.catalogs = s.shelf.catalogs

/-- A node that was there lies in the trees that it lay in. -/
theorem within_iff_of_parent? {g g' : SceneGraph R} (hg : g.Linked) (hg' : g'.Linked)
    (hparent : ∀ x : NodeId, x.index < g.size → g'.parent? x = g.parent? x) {a x : NodeId}
    (hx : x.index < g.size) : g'.Within a x ↔ g.Within a x := by
  constructor
  · intro h
    induction h with
    | refl => exact Within.refl g _
    | tail _ hchild ih =>
        rw [hg'.mem_children_iff, hparent _ hx, ← hg.mem_children_iff] at hchild
        exact (ih (hg.index_lt_of_mem_children hchild).1).child hchild
  · intro h
    induction h with
    | refl => exact Within.refl g' _
    | tail _ hchild ih =>
        have hlt := (hg.index_lt_of_mem_children hchild).1
        rw [hg.mem_children_iff, ← hparent _ hx, ← hg'.mem_children_iff] at hchild
        exact (ih hlt).child hchild

namespace Advanced

theorem refl (root : NodeId) (hs : Fit s) : Advanced root s s :=
  ⟨hs, Nat.le_refl _, fun _ _ => rfl, fun _ _ => rfl, fun _ _ _ => ⟨rfl, rfl⟩, rfl, rfl⟩

theorem within_iff (h : Advanced root s s') (hs : Fit s) {a x : NodeId} (hx : x.index < s.stage.graph.size) :
    s'.stage.graph.Within a x ↔ s.stage.graph.Within a x :=
  within_iff_of_parent? hs.linked h.fit.linked h.parent?_eq hx

theorem trans (h : Advanced root s t) (h' : Advanced root t s') (hs : Fit s) : Advanced root s s' where
  fit := h'.fit
  size_le := h.size_le.trans h'.size_le
  parent?_eq x hx := (h'.parent?_eq x (hx.trans_le h.size_le)).trans (h.parent?_eq x hx)
  name_eq x hx := (h'.name_eq x (hx.trans_le h.size_le)).trans (h.name_eq x hx)
  outside x hx hout := by
    rcases h.outside x hx hout with ⟨hhead, hchildren⟩
    rcases h'.outside x (hx.trans_le h.size_le) fun hin => hout ((h.within_iff hs hx).1 hin) with
      ⟨hhead', hchildren'⟩
    exact ⟨hhead'.trans hhead, hchildren'.trans hchildren⟩
  disk := h'.disk.trans h.disk
  catalogs := h'.catalogs.trans h.catalogs

theorem rules_eq (h : Advanced root s s') : context.rules bake s' = context.rules bake s := by
  unfold PassContext.rules
  rw [Session.supply_eq h.disk h.catalogs]

/-- A tree that has nothing in common with the one that is worked on is dumped as before. -/
theorem snapshot?_eq (h : Advanced root s s') (hs : Fit s) {y : NodeId} (hy : y.index < s.stage.graph.size)
    (happart : ∀ x, s.stage.graph.Within y x → ¬ s.stage.graph.Within root x) :
    s'.stage.snapshot? y = s.stage.snapshot? y :=
  Stage.snapshot?_congr hs.linked h.fit.linked fun x hx =>
    h.outside x (hs.linked.index_lt_of_within hx hy) (happart x hx)

end Advanced

theorem Overpainted.advanced {f : Snapshot.Maker R} (h : Overpainted f root s s') : Advanced root s s' :=
  ⟨h.fit, h.repainted.size_eq.ge, fun x _ => h.repainted.parent?_eq x, fun x _ => h.repainted.name_eq x,
    fun x _ hout => ⟨h.outside x hout, h.repainted.children_eq x⟩, h.repainted.disk, h.repainted.catalogs⟩

/-- A node other than the root is as it was. -/
theorem Bodied.head?_eq {made : NodeId → Option (Snapshot Geometry R)} {n : Node R} {done : List NodeId}
    (h : Bodied root made n done s t) (hs : Fit s) (hn : s.stage.graph.node? root = some n) {x : NodeId}
    (hx : x.index < s.stage.graph.size) (hne : x ≠ root) :
    t.stage.head? x = s.stage.head? x ∧ t.stage.graph.children x = s.stage.graph.children x := by
  rcases exists_node?_iff.2 hx with ⟨m, hm⟩
  have hnode := h.old x m hne hm
  refine ⟨Stage.head?_of_same hs.orderly.sound (h.resources ▸ .refl _) (hnode.trans hm.symm)
    fun owner howner => ?_, by rw [children_of_node? hnode, children_of_node? hm]⟩
  rcases Option.bind_eq_some_iff.1 howner with ⟨k, hk, howner⟩
  exact (h.sprouted hn).name_eq (hs.owned x k owner hk howner)

/-- Bodies change nothing but the children of the root. -/
theorem Bodied.advanced {made : NodeId → Option (Snapshot Geometry R)} {n : Node R} {done : List NodeId}
    (h : Bodied root made n done s t) (hs : Fit s) (hn : s.stage.graph.node? root = some n) :
    Advanced root s t := by
  refine ⟨h.fit, h.size_le, fun x => (h.sprouted hn).parent?_eq, fun x => (h.sprouted hn).name_eq,
    fun x hx hout => ?_, h.disk, h.catalogs⟩
  refine h.head?_eq hs hn hx ?_
  rintro rfl
  exact hout (Within.refl _ x)

/-- The tree is dumped with the bodies behind the children that it had. -/
theorem Bodied.dump {made : NodeId → Option (Snapshot Geometry R)} {n : Node R} {done : List NodeId}
    (h : Bodied root made n done s t) (hs : Fit s) (hn : s.stage.graph.node? root = some n)
    (hd : s.stage.snapshot? root = some d) :
    ∃ bodies, List.Forall₂ (fun y body => made y = some body) done bodies ∧
      t.stage.snapshot? root = some (d.head.node (d.children ++ bodies)) := by
  rcases h.below with ⟨ids, bodies, hroot, -, hbodies, hall⟩
  rcases (Stage.snapshot?_eq_some_iff hs.linked).1 hd with ⟨v, ds, hv, hds, rfl⟩
  have hhead : t.stage.head? root = some v := by
    rw [← hv, Stage.head?_of_node? hn, Stage.head?_of_node? hroot]
    have howner : n.owner.map t.stage.graph.name = n.owner.map s.stage.graph.name := by
      cases howner : n.owner with
      | none => rfl
      | some owner => exact congrArg some ((h.sprouted hn).name_eq (hs.owned root n owner hn howner))
    simp only [Stage.headOf, howner]
    unfold Stage.payloadValue
    rw [h.resources]
  -- the children that were there have kept their trees
  have hold : (s.stage.graph.children root).mapM t.stage.snapshot? = some ds := by
    rw [← mapM_eq_some_iff.2 hds]
    refine mapM_congr fun child hchild => ?_
    have hlt := (hs.linked.index_lt_of_mem_children hchild).2
    refine Stage.snapshot?_congr hs.linked h.fit.linked fun x hx => ?_
    refine h.head?_eq hs hn (hs.linked.index_lt_of_within hx hlt) ?_
    rintro rfl
    exact hs.linked.not_within_parent hchild hx
  refine ⟨bodies, hall, ?_⟩
  rw [children_of_node? hn] at hold
  rw [Stage.snapshot?_eq h.fit.linked, hhead, children_of_node? hroot, Option.bind_some, List.mapM_append, hold,
    hbodies]
  rfl

end LevelPrep
