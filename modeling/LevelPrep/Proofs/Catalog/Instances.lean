import LevelPrep.Proofs.Scene.Oblivious
import LevelPrep.Proofs.Scene.Reaching

/-!
# Instances of packaged scenes

The tree of a packaged scene is planted once, and what is handed out are copies of it under other names.  Live nodes
may have been changed at will in the meantime, so nothing is known of the stage but that this tree is on it as it was
planted (`Stage.Stores`).  This is enough: a copy is made of new things only, and it is dumped as what was planted
(`Stores.instanceOf`).
-/

namespace LevelPrep

variable {R : Type}

open SceneGraph

namespace Stage

/-- A live tree was made: all that it leads to was made with it, and what was there before is as it was. -/
structure Makes (stage : Stage R) (root : NodeId) (stage' : Stage R) : Prop where
  fresh : ∀ x, stage'.Reaches (.node root) x → x ∈ stage'.things \ stage.things
  left : ∀ x ∈ stage.things, stage'.thing? x = stage.thing? x

/-- A live tree was made of a tree as a value: this value is what is seen of it. -/
structure InstanceOf (tree : Branch R) (stage : Stage R) (root : NodeId) (stage' : Stage R) : Prop
    extends stage.Makes root stage' where
  shown : stage'.snapshot? root = some tree.asScene

/-- A scene of its own is on the stage, whatever else is there: all that its root leads to is as it is on a stage all
of whose links are in order. -/
def Stores (stage : Stage R) (branch : Branch R) (root : NodeId) : Prop :=
  ∃ model : Stage R, model.graph.Linked ∧ model.OwnScene branch root ∧
    ∀ x, model.Reaches (.node root) x → stage.thing? x = model.thing? x

variable {stage stage' : Stage R} {root : NodeId} {branch : Branch R}

theorem mem_things_of_eq {x : Ref} (hx : x ∈ stage.things) (h : stage'.thing? x = stage.thing? x) :
    x ∈ stage'.things := by
  rcases hx with ⟨t, ht⟩
  exact ⟨t, h.trans ht⟩

/-- What was made on a later stage is new to an earlier one. -/
theorem Makes.of_earlier {stage₁ : Stage R} (h : stage₁.Makes root stage')
    (hleft : ∀ x ∈ stage.things, stage₁.thing? x = stage.thing? x) : stage.Makes root stage' where
  fresh x hx := ⟨(h.fresh x hx).1, fun hin => (h.fresh x hx).2 (mem_things_of_eq hin (hleft x hin))⟩
  left x hx := (h.left x (mem_things_of_eq hx (hleft x hx))).trans (hleft x hx)

/-! ## Where all links are in order -/

/-- What was planted has no links to what was there. -/
theorem Planted.closedOn (h : stage.Planted branch root stage') (hg : stage.graph.Linked) :
    stage'.graph.ClosedOn fun x => stage.graph.size ≤ x.index where
  children _ _ hx hchild := (h.le_index_of_link hg hchild).1 hx
  owner x owner hx howner := by
    rcases Option.bind_eq_some_iff.1 howner with ⟨n, hn, howned⟩
    exact ((h.new x n hx hn).owner owner howned).1

theorem OwnScene.closedOn (h : stage.OwnScene branch root) : stage.graph.ClosedOn (stage.graph.Within root) where
  children _ _ hx hchild := hx.child hchild
  owner x owner hx howner := by
    rcases Option.bind_eq_some_iff.1 howner with ⟨n, hn, howned⟩
    rw [(h.kept hx hn).2 owner howned]
    exact Within.refl _ root

/-! ## On any stage -/

/-- Stages of one size and with the same resources have the same things. -/
theorem things_congr (hsize : stage'.graph.size = stage.graph.size) (hresources : stage'.resources = stage.resources) :
    stage'.things = stage.things := by
  ext x
  cases x with
  | node id => rw [node_mem_things, node_mem_things, hsize]
  | geometry id => rw [geometry_mem_things, geometry_mem_things, hresources]
  | material id => rw [material_mem_things, material_mem_things, hresources]

/-- What agrees behind the things that were there with a stage on which a scene was planted has the scene, and it is
new. -/
theorem instanceOf_of_sameOn {before after : Stage R} (hg : stage.graph.Linked)
    (hplanted : stage.Planted branch root stage') (hscene : stage'.OwnScene branch root)
    (hsize : before.graph.size = stage.graph.size) (hresources : before.resources = stage.resources)
    (hadds : before.Adds after)
    (hsame : stage'.SameOn (fun x => stage.graph.size ≤ x.index) after) :
    before.InstanceOf branch root after ∧ after.Stores branch root := by
  have hbefore := things_congr hsize hresources
  have hafter := things_congr hsame.graph.size_eq hsame.resources
  have hclosed := hplanted.closed_new hg
  have hroot : Ref.node root ∈ stage'.things \ stage.things :=
    ⟨node_mem_things.2 hscene.index_lt, fun hin => absurd (node_mem_things.1 hin) (Nat.not_lt.2 hplanted.fresh)⟩
  have hthing : ∀ x ∈ stage'.things \ stage.things, after.thing? x = stage'.thing? x := by
    rintro x ⟨-, hnew⟩
    cases x with
    | node id =>
        rw [node_mem_things, Nat.not_lt] at hnew
        rw [thing?, thing?, hsame.graph.node?_eq id hnew]
    | geometry id => rw [thing?, thing?, hsame.resources]
    | material id => rw [thing?, thing?, hsame.resources]
  have hnew : ∀ x, stage'.Reaches (.node root) x → x ∈ stage'.things \ stage.things :=
    fun x hx => hx.mem_of_closed hclosed hroot
  have hagrees : ∀ x, stage'.Reaches (.node root) x → after.thing? x = stage'.thing? x :=
    fun x hx => hthing x (hnew x hx)
  refine ⟨⟨⟨fun x hx => ?_, fun x => hadds.thing?_eq⟩, ?_⟩, stage', hplanted.linked, hscene, hagrees⟩
  · rw [hbefore, hafter]
    exact hnew x ((reaches_congr hagrees).1 hx)
  · exact (hsame.snapshot?_eq (hplanted.closedOn hg) hplanted.fresh).trans (hscene.snapshot?_eq hplanted.linked)

namespace Stores

/-- A stored scene stays stored while all that its root leads to stays as it is. -/
theorem of_same (h : stage.Stores branch root)
    (hsame : ∀ x, stage.Reaches (.node root) x → stage'.thing? x = stage.thing? x) : stage'.Stores branch root := by
  rcases h with ⟨model, hg, hscene, hmodel⟩
  refine ⟨model, hg, hscene, fun x hx => ?_⟩
  rw [hsame x ((reaches_congr hmodel).2 hx), hmodel x hx]

/-- What a stored scene refers to is there. -/
theorem mem_things (h : stage.Stores branch root) {x : Ref} (hx : stage.Reaches (.node root) x) :
    x ∈ stage.things := by
  rcases h with ⟨model, hg, hscene, hmodel⟩
  rw [reaches_congr hmodel] at hx
  rcases hscene.mem_things_of_reaches hg hx with ⟨t, ht⟩
  exact ⟨t, (hmodel x hx).trans ht⟩

theorem node?_eq {model : Stage R} (hmodel : ∀ x, model.Reaches (.node root) x → stage.thing? x = model.thing? x)
    {x : NodeId} (hx : model.graph.Within root x) : stage.graph.node? x = model.graph.node? x :=
  Option.map_injective (fun _ _ => Thing.node.inj) (hmodel (.node x) (reaches_of_within hx))

/-- A stored scene is a scene of its own. -/
theorem ownScene (h : stage.Stores branch root) : stage.OwnScene branch root := by
  have hthere : ∀ x, stage.Reaches (.node root) x → x ∈ stage.things := fun x => h.mem_things
  rcases h with ⟨model, hg, hscene, hmodel⟩
  refine hscene.of_same (fun x => node?_eq hmodel) fun x n hx hn => ?_
  rcases reaches_of_payload (reaches_of_within hx) hn with ⟨hgeometry, hmaterial⟩
  constructor
  · exact Payload.known_iff.2
      ⟨fun id hid => geometry_mem_things.1 (hthere _ ((reaches_congr hmodel).2 (hgeometry id hid))),
        fun id hid => material_mem_things.1 (hthere _ ((reaches_congr hmodel).2 (hmaterial id hid)))⟩
  · refine Payload.map_congr (fun id hid => ?_) fun id hid => ?_
    · have hsame := Option.map_injective (fun _ _ => Thing.geometry.inj) (hmodel _ (hgeometry id hid))
      simp only [Resources.geometry, Array.getD_eq_getD_getElem?, hsame]
    · have hsame := Option.map_injective (fun _ _ => Thing.material.inj) (hmodel _ (hmaterial id hid))
      simp only [Resources.material, Array.getD_eq_getD_getElem?, hsame]

/-- A copy of a stored scene under another name is made of new things, and is dumped as what is stored. -/
theorem instanceOf (h : stage.Stores branch root) (name : Json) :
    stage.InstanceOf (branch.rename name) (copyTree root stage).1
      ((copyTree root stage).2.rename (copyTree root stage).1 name) := by
  have hscene := h.ownScene
  rcases h with ⟨model, hg, hmodelScene, hmodel⟩
  -- what is copied on the stage is what would be copied if all other links were cleared first
  let bare : Stage R := { stage with graph := stage.graph.keepLinks (stage.graph.Within root) }
  have hwithin : ∀ x, stage.graph.Within root x ↔ model.graph.Within root x :=
    fun x => within_congr fun y => node?_eq hmodel
  have hbare : bare.graph.Linked := by
    refine linked_keepLinks hg (fun x hx => node?_eq hmodel ((hwithin x).1 hx)) (fun x child hx hchild => ?_)
      fun x parent hx hparent => ?_
    · exact (hwithin child).2 (((hwithin x).1 hx).child hchild)
    · rcases exists_node?_of_parent? hparent with ⟨n, hn, hlink⟩
      exact (hwithin parent).2 (hmodelScene.within_parent hg ((hwithin x).1 hx) hn hlink)
  have hagrees : bare.SameOn (fun x => stage.graph.Within root x ∨ stage.graph.size ≤ x.index) stage :=
    ⟨sameOn_keepLinks _ stage.graph, rfl⟩
  have hnodes : ∀ x, stage.graph.Within root x → bare.graph.node? x = stage.graph.node? x :=
    fun x hx => (hagrees.graph.node?_eq x (Or.inl hx)).symm
  have hbareScene : bare.OwnScene branch root :=
    hscene.of_same hnodes fun x n hx hn => ⟨hscene.known x n hx hn, rfl⟩
  have hbareWithin : ∀ x, bare.graph.Within root x → stage.graph.Within root x :=
    fun x => (within_congr hnodes).1
  have hsize : stage.graph.size = bare.graph.size := hagrees.graph.size_eq
  rcases copyTree_spec hbare hbareScene with ⟨hplanted, hcopyScene⟩
  have hstart : bare.SameOn (bare.graph.Within root) stage :=
    ⟨hagrees.graph.mono fun x hx => Or.inl (hbareWithin x hx), rfl⟩
  rcases hstart.copyTree hbareScene.closedOn (Within.refl _ root) with ⟨hid, hcopies⟩
  rw [hid]
  have hrenamed : ((copyTree root bare).2.rename (copyTree root bare).1 name).SameOn
      (fun x => bare.graph.size ≤ x.index) ((copyTree root stage).2.rename (copyTree root bare).1 name) :=
    ⟨(hcopies.graph.mono fun _ => Or.inr).modify _ _, hcopies.resources⟩
  have hadds : stage.Adds ((copyTree root stage).2.rename (copyTree root bare).1 name) :=
    (adds_copyTree stage root).modify (hsize ▸ hplanted.fresh) _
  exact (instanceOf_of_sameOn hbare (hplanted.rename name) (hcopyScene.rename hplanted.linked name) hsize rfl
    hadds hrenamed).1

end Stores

/-- A tree that is planted on any stage and given to its root is new, and it is stored there. -/
theorem instanceOf_plant (branch : Branch R) (stage : Stage R) :
    let planted : Stage R :=
      { (plant branch stage).2 with graph := (plant branch stage).2.graph.ownTree (plant branch stage).1 }
    stage.InstanceOf branch (plant branch stage).1 planted ∧ planted.Stores branch (plant branch stage).1 := by
  -- what is made on the stage is what would be made if its links were cleared first
  let bare : Stage R := { stage with graph := stage.graph.keepLinks fun _ => False }
  have hbare : bare.graph.Linked :=
    linked_keepLinks Linked.empty (fun _ h => False.elim h) (fun _ _ h => False.elim h) fun _ _ h => False.elim h
  have hagrees := sameOn_keepLinks (fun _ => False) stage.graph
  have hsize : stage.graph.size = bare.graph.size := hagrees.size_eq
  have hstart : bare.SameOn (fun x => bare.graph.size ≤ x.index) stage :=
    ⟨hagrees.mono fun x hx => Or.inr (hsize ▸ hx), rfl⟩
  have hplanted := plant_spec branch hbare
  rcases hstart.plant branch with ⟨hid, hsame⟩
  have hclosed := hplanted.closedOn hbare
  simp only [hid]
  have hadds := (adds_plant branch stage).ownTree fun x hx => by
    rw [hsame.graph.levelOrder_eq hclosed hplanted.fresh] at hx
    exact hsize ▸ hclosed.of_mem_levelOrder hplanted.fresh hx
  exact instanceOf_of_sameOn hbare (hplanted.ownTree hbare) (hplanted.ownScene hbare) hsize rfl hadds
    ⟨hsame.graph.ownTree hclosed hplanted.fresh, hsame.resources⟩

/-- A single node under a name of its own is new. -/
theorem makes_plain (old : Json) (transform : Matrix R) (name : Json) (stage : Stage R) :
    let planted := plant (.node old transform .plain []) stage
    stage.Makes planted.1 (planted.2.rename planted.1 name) := by
  intro planted
  have hroot : planted.1 = ⟨stage.graph.size⟩ := plant_fst _ stage
  have hadds : stage.Adds (planted.2.rename planted.1 name) :=
    (adds_plant _ stage).modify (by rw [hroot]) _
  have hnode : (planted.2.rename planted.1 name).graph.node? planted.1 =
      some { name := name, transform := transform, payload := .plain } := by
    have hn : planted.2.graph.node? planted.1 = some { name := old, transform := transform, payload := .plain } :=
      node?_insert_self stage.graph _
    rw [node?_rename_of_node? hn, if_pos rfl]
  refine ⟨fun x hx => ?_, fun x => hadds.thing?_eq⟩
  -- the node refers to nothing, so nothing is reached but the node
  have hself : x ∈ ({.node planted.1} : Set Ref) := by
    refine hx.mem_of_closed (closed_of_nodes fun id n hid hn => ?_) rfl
    cases hid
    cases hnode.symm.trans hn
    exact fun y hy => nomatch hy
  cases hself
  refine ⟨node_mem_things.2 (index_lt_of_node? hnode), fun hin => absurd (node_mem_things.1 hin) ?_⟩
  rw [hroot]
  exact Nat.lt_irrefl _

end Stage

end LevelPrep
