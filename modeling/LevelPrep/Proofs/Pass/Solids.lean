import LevelPrep.Proofs.Pass.Asking
import LevelPrep.Proofs.Pass.Bodies
import LevelPrep.Proofs.Pass.Hanging
import LevelPrep.Proofs.Scene.Planting

/-!
# The bodies of the collision pass, and nothing else

The collision pass goes through the mesh instances that do not ask for no body, as the tree was at the start.  What is
known after some of them (`Solidified`) is that each has its body, in their order behind the children that the root
had, and that nothing else has changed but the journal.  So the pass ends in one of three ways (`CollisionEnds`): all
of them have bodies; or it stops at the first that no body can be made for, and the bodies before it stay; or the name
of some mesh instance is no text and cannot even be asked, and then nothing has happened (`collision_ends`).
-/

namespace LevelPrep

variable {R : Type}

open Work SceneGraph

/-! ## Bodies -/

section

variable [Zero R] [One R] [Add R] [Mul R]

/-- A body that was made for a mesh instance, with its one shape: it has the name, the place and the bits that belong
to the mesh instance, and hangs under the root of the subtree. -/
def SolidFor (context : PassContext R) (root : NodeId) (s : Session R) (g' : SceneGraph R) (x body : NodeId) : Prop :=
  ∃ (mesh : LiveMesh) (shape : Shape) (transform : Matrix R) (layer mask : Int),
    s.stage.graph.mesh? x = some mesh ∧
    context.grammar.AsksShape (s.stage.graph.name x) mesh s.stage.resources shape ∧
    s.stage.graph.relativeTransform x root = .ok transform ∧
    context.grammar.AsksBits (s.stage.graph.name x) .collisionLayer layer ∧
    context.grammar.AsksBits (s.stage.graph.name x) .collisionMask mask ∧
    g'.node? body = some
      { name := .str ((s.stage.graph.name x).display ++ "_StaticBody"), transform
        payload := .staticBody layer mask, parent := some root, owner := some context.scene
        children := [⟨body.index + 1⟩] } ∧
    g'.node? ⟨body.index + 1⟩ = some
      { name := .str "CollisionShape", transform := Matrix.identity
        payload := .collisionShape (some shape), parent := some body, owner := some context.scene }

/-- Some mesh instances were given bodies, and nothing else has changed but the journal. -/
structure Solidified (context : PassContext R) (root : NodeId) (xs : List NodeId) (s s' : Session R) : Prop where
  linked : s'.stage.graph.Linked
  size_eq : s'.stage.graph.size = s.stage.graph.size + 2 * xs.length
  others : ∀ y, y ≠ root → y.index < s.stage.graph.size →
    s'.stage.graph.node? y = s.stage.graph.node? y
  rest : ∃ graph journal, s' = { s with stage := { s.stage with graph := graph }, journal := journal }
  fit : ∀ x ∈ xs, ∀ fault, ¬ Unfit context.grammar s x fault
  bodies : ∃ n bodies, s.stage.graph.node? root = some n ∧
    s'.stage.graph.node? root = some { n with children := n.children ++ bodies } ∧
    (∀ body ∈ bodies, s.stage.graph.size ≤ body.index) ∧
    List.Forall₂ (SolidFor context root s s'.stage.graph) xs bodies

/-- How a collision pass ends. -/
inductive CollisionEnds (context : PassContext R) (root : NodeId) (s : Session R) :
    Except Fault Unit → Session R → Prop
  | done {s' : Session R} (hbodies : Solidified context root (collidable context root s.stage.graph) s s') :
      CollisionEnds context root s (.ok ()) s'
  | stopped {before after : List NodeId} {x : NodeId} {fault : Fault} {s' : Session R}
      (hsplit : collidable context root s.stage.graph = before ++ x :: after)
      (hbodies : Solidified context root before s s') (hunfit : Unfit context.grammar s x fault) :
      CollisionEnds context root s (.error fault) s'
  | unasked {x : NodeId} {fault : Fault} (hx : x ∈ s.stage.graph.instances root)
      (hname : ∀ text, s.stage.graph.name x ≠ .str text)
      (hfault : context.grammar.nameHas (s.stage.graph.name x) .noCollision = .error fault) :
      CollisionEnds context root s (.error fault) s

variable {context : PassContext R} {root x : NodeId} {s s' t t' : Session R} {done : List NodeId}

/-! ## One more body -/

/-- A body stays as it is while another one is made. -/
theorem SolidFor.later {name : Json} {transform : Matrix R} {layer mask : Int} {shape : Shape} {body : NodeId}
    (hsolid : SolidFor context root s t.stage.graph x body) (hnew : s.stage.graph.size ≤ body.index)
    (hroot : root.index < s.stage.graph.size) (hlt : root.index < t.stage.graph.size)
    (hgains : GainsBody context.scene root name transform layer mask shape t t') :
    SolidFor context root s t'.stage.graph x body := by
  rcases hsolid with ⟨mesh, shape', transform', layer', mask', hmesh, hshape, htransform, hlayer, hmask, hbody, hhull⟩
  -- the root is older than the body and its shape
  have hkept : ∀ {y : NodeId} {m : Node R}, s.stage.graph.size ≤ y.index → t.stage.graph.node? y = some m →
      t'.stage.graph.node? y = some m := by
    intro y m hy hm
    have hne : y ≠ root := by
      rintro rfl
      exact absurd hroot (Nat.not_lt.2 hy)
    rw [hgains.node?_of_old hlt hne (index_lt_of_node? hm), hm]
  exact ⟨mesh, shape', transform', layer', mask', hmesh, hshape, htransform, hlayer, hmask, hkept hnew hbody,
    hkept (Nat.le_succ_of_le hnew) hhull⟩

namespace Solidified

theorem start (hs : s.stage.graph.Linked) (hroot : root.index < s.stage.graph.size) :
    Solidified context root [] s s where
  linked := hs
  size_eq := by simp
  others _ _ _ := rfl
  rest := ⟨_, _, rfl⟩
  fit := by simp
  bodies := by
    rcases exists_node?_iff.2 hroot with ⟨n, hn⟩
    exact ⟨n, [], hn, by simpa using hn, by simp, .nil⟩

variable (h : Solidified context root done s t)
include h

theorem sprouted : s.stage.graph.Sprouted t.stage.graph := by
  intro y m hm
  by_cases hy : y = root
  · subst hy
    rcases h.bodies with ⟨n, bodies, hn, hn', -⟩
    cases hm.symm.trans hn
    exact ⟨bodies, hn'⟩
  · refine ⟨[], ?_⟩
    rw [h.others y hy (index_lt_of_node? hm), hm, List.append_nil]

theorem resources : t.stage.resources = s.stage.resources := by
  rcases h.rest with ⟨graph, journal, rfl⟩
  rfl

/-- The bodies that are there do not change where a node stands, and there is a way up to the root from it. -/
theorem exists_relativeTransform (hs : s.stage.graph.Linked) (hx : s.stage.graph.Within root x)
    (hlt : x.index < s.stage.graph.size) : ∃ transform, s.stage.graph.relativeTransform x root = .ok transform ∧
      t.stage.graph.relativeTransform x root = .ok transform := by
  rcases hx.exists_descends hs with ⟨path, hpath⟩
  have hpath' := h.sprouted.descends hpath
  have hlt' : x.index < t.stage.graph.size := by
    rw [h.size_eq]
    omega
  exact ⟨_, hpath.relativeTransform_eq hs hlt, hpath'.relativeTransform_eq h.linked hlt'⟩

/-- Whether a body can be made does not depend on the bodies that are there. -/
theorem unfit_iff {fault : Fault} (hlt : x.index < s.stage.graph.size) :
    Unfit context.grammar t x fault ↔ Unfit context.grammar s x fault :=
  have hname := h.sprouted.name_eq hlt
  have hmesh := h.sprouted.mesh?_eq hlt
  ⟨fun hunfit => hunfit.congr hname.symm hmesh.symm h.resources.symm,
    fun hunfit => hunfit.congr hname hmesh h.resources⟩

/-- One more mesh instance is given its body. -/
theorem snoc (hs : s.stage.graph.Linked) (hroot : root.index < s.stage.graph.size)
    (hx : s.stage.graph.Within root x) (hround : Embodied context root x t t') :
    Solidified context root (done ++ [x]) s t' := by
  have hlt := hs.index_lt_of_within hx hroot
  have hrootT : root.index < t.stage.graph.size := by
    rw [h.size_eq]
    omega
  have hjournal : ∃ graph journal, t' = { t with stage := { t.stage with graph := graph }, journal := journal } := by
    cases hround with
    | added => exact ⟨_, _, rfl⟩
  obtain ⟨a, shape, transform, hread, hshape, htransform, hgains⟩ := gainsBody_of_embodied hround
  -- what the body is made of is what it would be made of at the start
  have hname := h.sprouted.name_eq hlt
  have hreadS : context.grammar.nameAttributes (s.stage.graph.name x) = .ok a := hname ▸ hread
  rcases asksShape_of_shapeOf hread hshape with ⟨mesh, hmesh, hasks⟩
  rw [hname, h.resources] at hasks
  rw [h.sprouted.mesh?_eq hlt] at hmesh
  rcases h.exists_relativeTransform hs hx hlt with ⟨transform', hplace, hplaceT⟩
  cases htransform.symm.trans hplaceT
  have hsolid : SolidFor context root s t'.stage.graph x ⟨t.stage.graph.size⟩ := by
    refine ⟨mesh, shape, transform, _, _, hmesh, hasks, hplace, Grammar.asksBits_of_nameAttributes hreadS rfl,
      Grammar.asksBits_of_nameAttributes hreadS rfl, ?_, hgains.node?_hull hrootT⟩
    rw [← hname]
    exact hgains.node?_body hrootT
  rcases h.bodies with ⟨n, bodies, hn, hbelow, hnew, hall⟩
  refine ⟨?_, ?_, ?_, ?_, ?_, n, bodies ++ [⟨t.stage.graph.size⟩], hn, ?_, ?_, ?_⟩
  · rw [hgains.graph]
    exact h.linked.addBody hrootT
  · rw [hgains.size_eq, h.size_eq, List.length_append, List.length_singleton]
    omega
  · intro y hy hyS
    rw [hgains.node?_of_old hrootT hy (by rw [h.size_eq]; omega), h.others y hy hyS]
  · rcases hjournal with ⟨graph, journal, rfl⟩
    rcases h.rest with ⟨graph', journal', rfl⟩
    exact ⟨graph, journal, rfl⟩
  · intro y hy
    rcases List.mem_append.1 hy with hold | hlast
    · exact h.fit y hold
    · rw [List.mem_singleton.1 hlast]
      exact fun fault hunfit => hunfit.not_asksShape hreadS hmesh hasks
  · rw [hgains.node?_root hbelow, List.append_assoc]
  · intro body hbody
    rcases List.mem_append.1 hbody with hold | hlast
    · exact hnew body hold
    · rw [List.mem_singleton.1 hlast, h.size_eq]
      exact Nat.le_add_right _ _
  · refine List.rel_append (forall₂_imp_of_mem hall fun y _ body hbody hy => ?_) (.cons hsolid .nil)
    exact hy.later (hnew body hbody) hroot hrootT hgains

end Solidified

/-! ## The pass -/

/-- A body that cannot be made leaves the session as it is. -/
theorem cases_of_makeBody_error {fault : Fault}
    (hrun : (Collision.makeBody context root x).runIn t = (.error fault, t')) :
    t' = t ∧ (Unfit context.grammar t x fault ∨ t.stage.graph.relativeTransform x root = .error fault) := by
  rw [Collision.makeBody, runIn_bind, runIn_graph] at hrun
  simp only [runIn_bind, runIn_lift, runIn_resources] at hrun
  -- all that can fail is read before anything is changed
  cases hread : context.grammar.nameAttributes (t.stage.graph.name x) with
  | error fault' =>
      rw [hread] at hrun
      cases hrun
      exact ⟨rfl, Or.inl (.unreadable hread)⟩
  | ok a =>
      simp only [hread] at hrun
      cases hshape : Collision.shapeOf t.stage.graph t.stage.resources a x with
      | error fault' =>
          rw [hshape] at hrun
          cases hrun
          exact ⟨rfl, Or.inl (unfit_of_shapeOf hread hshape)⟩
      | ok shape =>
          simp only [hshape] at hrun
          cases htransform : t.stage.graph.relativeTransform x root with
          | error fault' =>
              rw [htransform] at hrun
              cases hrun
              exact ⟨rfl, Or.inr rfl⟩
          | ok transform =>
              simp only [htransform] at hrun
              cases hrun

/-- Bodies are made one after another until one cannot be made. -/
theorem cases_of_makeBodies {xs : List NodeId} {outcome : Except Fault Unit} (hs : s.stage.graph.Linked)
    (hroot : root.index < s.stage.graph.size) (hxs : ∀ x ∈ xs, s.stage.graph.Within root x)
    (hrun : (xs.forM (Collision.makeBody context root)).runIn s = (outcome, s')) :
    (outcome = .ok () ∧ Solidified context root xs s s') ∨
      ∃ before x after fault, xs = before ++ x :: after ∧ outcome = .error fault ∧
        Solidified context root before s s' ∧ Unfit context.grammar s x fault := by
  have hprefix : ∀ {ids t}, (∀ x ∈ ids, s.stage.graph.Within root x) →
      (ids.forM (Collision.makeBody context root)).runIn s = (.ok (), t) → Solidified context root ids s t := by
    intro ids t hids hloop
    refine forM_prefix (I := fun done t => Solidified context root done s t) (.start hs hroot) ?_ hloop
    intro before x after u u' hsplit hu hstep
    exact hu.snoc hs hroot (hids x (by simp [hsplit])) (embodied_of_makeBody hstep)
  cases outcome with
  | ok => exact Or.inl ⟨rfl, hprefix hxs hrun⟩
  | error fault =>
      rcases exists_of_forM_error hrun with ⟨before, x, after, t, rfl, hbefore, hstop⟩
      have hdone := hprefix (fun y hy => hxs y (List.mem_append_left _ hy)) hbefore
      have hx : s.stage.graph.Within root x := hxs x (by simp)
      have hlt := hs.index_lt_of_within hx hroot
      obtain ⟨rfl, hwhy⟩ := cases_of_makeBody_error hstop
      refine Or.inr ⟨before, x, after, fault, rfl, rfl, hdone, ?_⟩
      rcases hwhy with hunfit | hplace
      · exact (hdone.unfit_iff hlt).1 hunfit
      · -- there is a way up to the root from every node of the tree
        rcases hdone.exists_relativeTransform hs hx hlt with ⟨transform, -, hok⟩
        cases hplace.symm.trans hok

/-- The collidable mesh instances are those of the tree whose names do not carry the attribute, each of them once, in
the order of a breadth-first walk. -/
structure Walked (context : PassContext R) (root : NodeId) (g : SceneGraph R) (xs : List NodeId) : Prop where
  mem_iff : ∀ x, x ∈ xs ↔ g.Within root x ∧ (g.meshInstance? x).isSome = true ∧
    context.grammar.carries (g.name x) .noCollision = false
  nodup : xs.Nodup
  ordered : ∃ walk, walk = root :: walk.flatMap g.children ∧ xs.Sublist walk

omit [Zero R] [One R] [Add R] [Mul R] in
theorem walked_collidable {g : SceneGraph R} (hg : g.Linked) :
    Walked context root g (collidable context root g) where
  mem_iff x := by
    rw [collidable, instances, List.mem_filter, List.mem_filter, mem_levelOrder_iff hg, Bool.not_eq_true', and_assoc]
  nodup := ((nodup_levelOrder hg root).filter _).filter _
  ordered := ⟨g.levelOrder root, levelOrder_eq_cons_flatMap hg root,
    List.filter_sublist.trans List.filter_sublist⟩

/-- A pass that succeeds has made all the bodies. -/
theorem CollisionEnds.solidified (h : CollisionEnds context root s (.ok ()) s') :
    Solidified context root (collidable context root s.stage.graph) s s' := by
  cases h with
  | done hbodies => exact hbodies

/-- However the collision pass ends over the tree below a root, the mesh instances that have got bodies are those that
do not ask for none, in the order of the walk: all of them, or those in front of the first that no body can be made
for.  Nothing else has changed but the journal. -/
theorem collision_ends {outcome : Except Fault Unit} (hs : s.stage.graph.Linked)
    (hroot : root.index < s.stage.graph.size) (hrun : (Collision.apply context root).runIn s = (outcome, s')) :
    Walked context root s.stage.graph (collidable context root s.stage.graph) ∧
      CollisionEnds context root s outcome s' := by
  refine ⟨walked_collidable hs, ?_⟩
  rw [Collision.apply, runIn_bind, runIn_graph] at hrun
  simp only [runIn_bind] at hrun
  rw [runIn_filterM _ fun x _ => runIn_noCollision context s x] at hrun
  cases hkept : (s.stage.graph.instances root).filterM fun x =>
      (context.grammar.nameHas (s.stage.graph.name x) .noCollision).map not with
  | error fault =>
      rw [hkept] at hrun
      cases hrun
      rcases exists_of_filterM_error hkept with ⟨x, hx, hmap⟩
      have hfault : context.grammar.nameHas (s.stage.graph.name x) .noCollision = .error fault := by
        cases hhas : context.grammar.nameHas (s.stage.graph.name x) .noCollision <;> simp_all [Except.map]
      refine .unasked hx (fun text htext => ?_) hfault
      rw [htext] at hfault
      cases hfault
  | ok kept =>
      rw [hkept] at hrun
      -- every test has been answered, so what is kept is what does not carry the attribute
      have hcollidable : kept = collidable context root s.stage.graph := by
        rw [eq_filter_of_filterM hkept, collidable]
        refine List.filter_congr fun x hx => ?_
        rcases exists_filterM_ok_iff.1 ⟨kept, hkept⟩ x hx with ⟨b, hb⟩
        rcases map_eq_ok_iff.1 hb with ⟨found, hfound, rfl⟩
        cases found <;> simp [Grammar.carries, hfound, Except.map, Except.toOption]
      subst hcollidable
      have hwithin : ∀ x ∈ collidable context root s.stage.graph, s.stage.graph.Within root x :=
        fun x hx => within_of_mem_collidable hs hx
      rcases cases_of_makeBodies hs hroot hwithin hrun with
        ⟨rfl, hdone⟩ | ⟨before, x, after, fault, hsplit, rfl, hdone, hunfit⟩
      · exact .done hdone
      · exact .stopped hsplit hdone hunfit

end

/-! ## A shed -/

/-- A shed with a wall that asks for a layer, a ghost that asks for no body, and a door without a mesh. -/
def shedScene : Branch Nat :=
  .node (.str "Shed") Matrix.identity .plain [
    .node (.str "Wall=Col\x7b5\x7d") Matrix.identity (.meshInstance { mesh := some {} }) [],
    .node (.str "Ghost=NoCol") Matrix.identity (.meshInstance { mesh := some {} }) [],
    .node (.str "Door") Matrix.identity (.meshInstance {}) []]

/-- The session with the shed. -/
def shedSession : Session Nat where
  stage := (Stage.plant shedScene {}).2
  disk := { home := { anchor := .root false, parts := ["home"] } }

def shedContext : PassContext Nat where
  scene := ⟨0⟩
  settings :=
    { levelIndicator := .str "Level", baseTexel := .float 0.2
      grammar := { indicator := .str "=", valueStart := .str "\x7b", valueEnd := .str "\x7d", keywords := [] }
      catalogs := [], passes := [] }
  grammar := Grammar.default
  tools := { loadScene := fun _ _ => ([], .ok shedScene), unwrap := fun mesh _ _ r => (.ok mesh, r) }

/-- The run of the pass over the tree below a node of the shed. -/
def shedRun (root : NodeId) : Except Fault Unit × Session Nat :=
  (Collision.apply shedContext root).runIn shedSession

/-- Over the wall alone the pass makes one body; over the shed it makes the same body and stops at the door. -/
theorem collision_ends_shed :
    shedSession.stage.graph.Linked ∧ shedSession.stage.graph.size = 4 ∧
      Solidified shedContext ⟨1⟩ [⟨1⟩] shedSession (shedRun ⟨1⟩).2 ∧
      collidable shedContext ⟨0⟩ shedSession.stage.graph = [⟨1⟩, ⟨3⟩] ∧
      CollisionEnds shedContext ⟨0⟩ shedSession (.error (.noMesh "Door")) (shedRun ⟨0⟩).2 ∧
      (shedRun ⟨0⟩).2.stage.graph.children ⟨0⟩ = [⟨1⟩, ⟨2⟩, ⟨3⟩, ⟨4⟩] := by
  have hs : shedSession.stage.graph.Linked := (Stage.plant_spec shedScene Linked.empty).linked
  have hsize : shedSession.stage.graph.size = 4 := by decide +kernel
  have hinside : ∀ i, i < 4 → (⟨i⟩ : NodeId).index < shedSession.stage.graph.size := fun i hi => hsize ▸ hi
  have hwall : (shedRun ⟨1⟩).1 = .ok () := by decide +kernel
  have hdoor : (shedRun ⟨0⟩).1 = .error (.noMesh "Door") := by decide +kernel
  have hone : collidable shedContext ⟨1⟩ shedSession.stage.graph = [⟨1⟩] := by decide +kernel
  have htwo : collidable shedContext ⟨0⟩ shedSession.stage.graph = [⟨1⟩, ⟨3⟩] := by decide +kernel
  have hchildren : (shedRun ⟨0⟩).2.stage.graph.children ⟨0⟩ = [⟨1⟩, ⟨2⟩, ⟨3⟩, ⟨4⟩] := by decide +kernel
  have hrunWall : shedRun ⟨1⟩ = (.ok (), (shedRun ⟨1⟩).2) := hwall ▸ Prod.mk.eta.symm
  have hrunShed : shedRun ⟨0⟩ = (.error (.noMesh "Door"), (shedRun ⟨0⟩).2) := hdoor ▸ Prod.mk.eta.symm
  have hmade := (collision_ends hs (hinside 1 (by decide)) hrunWall).2
  have hstopped := (collision_ends hs (hinside 0 (by decide)) hrunShed).2
  have hbodies := hmade.solidified
  rw [hone] at hbodies
  exact ⟨hs, hsize, hbodies, htwo, hstopped, hchildren⟩

end LevelPrep
