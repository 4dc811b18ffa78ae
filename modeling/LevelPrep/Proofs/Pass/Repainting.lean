import LevelPrep.Proofs.Pass.Dressing
import LevelPrep.Proofs.Pass.Rules
import LevelPrep.Proofs.Scene.Dumps

/-!
# Drawing mesh instances anew

A pass other than the collision pass changes nothing of the live nodes but their payloads (`Repainted`).  What
one round makes of its node, as it is dumped, is told by a `Drawer` (`Painted`), and so is what a loop of such
rounds makes of a whole tree (`Overpainted`, `settles_of_rounds`).  Sessions in which this is so are `Fit`.
-/

namespace LevelPrep

variable {R : Type}

open Work SceneGraph

/-! ## Fit sessions -/

/-- The owners of live nodes are live nodes. -/
def Stage.Owned (stage : Stage R) : Prop :=
  ∀ x n owner, stage.graph.node? x = some n → n.owner = some owner → owner.index < stage.graph.size

/-- What passes start from and leave: linked nodes, owners that are there, good references, and kept materials
that are those of their entries and in the files of these. -/
structure Fit (s : Session R) : Prop where
  linked : s.stage.graph.Linked
  owned : s.stage.Owned
  orderly : Orderly s
  onDisk : ∀ name entry id, s.shelf.materialFor name = .ok (some entry) →
    s.shelf.materials.lookup entry.assetId = some id → s.disk.isFile entry.path = .ok true

/-- A mesh instance with everything that it refers to. -/
def Resources.figure (r : Resources) (i : MeshInstance GeometryId MaterialId) :
    MeshInstance Geometry Material :=
  { i with mesh := i.mesh.map r.meshValue }

theorem Stage.payloadValue_of_meshInstance {stage : Stage R} {n : Node R}
    {i : MeshInstance GeometryId MaterialId} (h : n.payload.meshInstance? = some i) :
    stage.payloadValue n = .meshInstance (stage.resources.figure i) := by
  cases hpayload : n.payload with
  | meshInstance j =>
      rw [hpayload] at h
      cases h
      unfold payloadValue
      rw [hpayload]
      rfl
  | plain | staticBody | collisionShape =>
      rw [hpayload] at h
      cases h

/-- References of a live payload are good. -/
theorem Stage.Sound.payload {stage : Stage R} (h : stage.Sound) {x : NodeId} {n : Node R}
    (hn : stage.graph.node? x = some n) : n.payload.Known stage.resources := by
  intro i mesh hi hmesh
  refine h x mesh ?_
  rw [SceneGraph.mesh?, meshInstance?_of_node? hn, hi]
  exact hmesh

/-- A node that stays as it is is dumped as before, if the names of owners stay. -/
theorem Stage.head?_of_same {stage stage' : Stage R} {x : NodeId} (hsound : stage.Sound)
    (hext : stage.resources.Extends stage'.resources)
    (hnode : stage'.graph.node? x = stage.graph.node? x)
    (hnames : ∀ owner, stage.graph.owner? x = some owner →
      stage'.graph.name owner = stage.graph.name owner) : stage'.head? x = stage.head? x := by
  unfold head?
  rw [hnode]
  cases hn : stage.graph.node? x with
  | none => rfl
  | some n =>
      have hpayload := (hext.payload (hsound.payload hn)).2
      have howner : n.owner.map stage'.graph.name = n.owner.map stage.graph.name := by
        cases ho : n.owner with
        | none => rfl
        | some owner => simp [hnames owner (by simp [owner?, hn, ho])]
      show some (stage'.headOf n) = some (stage.headOf n)
      simp only [headOf, howner]
      unfold payloadValue
      rw [hpayload]

/-! ## Sessions that differ in payloads -/

/-- Of the live nodes only payloads have changed, resources were only added, and files, catalogs and packaged
scenes are the same. -/
structure Repainted (s s' : Session R) : Prop where
  size_eq : s'.stage.graph.size = s.stage.graph.size
  node : ∀ x n, s.stage.graph.node? x = some n →
    ∃ payload, s'.stage.graph.node? x = some { n with payload := payload }
  resources : s.stage.resources.Extends s'.stage.resources
  disk : s'.disk = s.disk
  catalogs : s'.shelf.catalogs = s.shelf.catalogs
  packedScenes : s'.shelf.packedScenes = s.shelf.packedScenes

namespace Repainted

variable {s t s' : Session R}

theorem refl (s : Session R) : Repainted s s :=
  ⟨rfl, fun _ n hn => ⟨n.payload, hn⟩, .refl _, rfl, rfl, rfl⟩

theorem trans (h : Repainted s t) (h' : Repainted t s') : Repainted s s' where
  size_eq := h'.size_eq.trans h.size_eq
  node x n hn := by
    rcases h.node x n hn with ⟨payload, ht⟩
    rcases h'.node x _ ht with ⟨payload', hs'⟩
    exact ⟨payload', hs'⟩
  resources := h.resources.trans h'.resources
  disk := h'.disk.trans h.disk
  catalogs := h'.catalogs.trans h.catalogs
  packedScenes := h'.packedScenes.trans h.packedScenes

/-- Where there was no node there is none. -/
theorem node?_eq_none (h : Repainted s s') {x : NodeId} (hx : s.stage.graph.node? x = none) :
    s'.stage.graph.node? x = none := by
  by_contra hsome
  rcases Option.ne_none_iff_exists'.1 hsome with ⟨n', hn'⟩
  have hlt := index_lt_of_node? hn'
  rw [h.size_eq] at hlt
  rcases exists_node?_iff.2 hlt with ⟨n, hn⟩
  rw [hx] at hn
  cases hn

theorem map_node?_eq {α : Type} (h : Repainted s s') {f : Node R → α}
    (hf : ∀ n payload, f { n with payload := payload } = f n) (x : NodeId) :
    (s'.stage.graph.node? x).map f = (s.stage.graph.node? x).map f := by
  cases hn : s.stage.graph.node? x with
  | none => rw [h.node?_eq_none hn]
  | some n =>
      rcases h.node x n hn with ⟨payload, hn'⟩
      rw [hn', Option.map_some, hf, Option.map_some]

theorem children_eq (h : Repainted s s') (x : NodeId) :
    s'.stage.graph.children x = s.stage.graph.children x := by
  unfold SceneGraph.children
  rw [h.map_node?_eq (f := fun n => n.children) fun _ _ => rfl]

theorem parent?_eq (h : Repainted s s') (x : NodeId) :
    s'.stage.graph.parent? x = s.stage.graph.parent? x := by
  unfold SceneGraph.parent?
  cases hn : s.stage.graph.node? x with
  | none => rw [h.node?_eq_none hn]
  | some n =>
      rcases h.node x n hn with ⟨payload, hn'⟩
      rw [hn', Option.bind_some, Option.bind_some]

theorem name_eq (h : Repainted s s') (x : NodeId) : s'.stage.graph.name x = s.stage.graph.name x := by
  unfold SceneGraph.name
  rw [h.map_node?_eq (f := fun n => n.name) fun _ _ => rfl]

theorem linked (h : Repainted s s') (hs : s.stage.graph.Linked) : s'.stage.graph.Linked :=
  hs.of_same_links h.children_eq h.parent?_eq

theorem within_iff (h : Repainted s s') {root x : NodeId} :
    s'.stage.graph.Within root x ↔ s.stage.graph.Within root x := by
  unfold Within
  simp only [h.children_eq]

theorem owned (h : Repainted s s') (hs : s.stage.Owned) : s'.stage.Owned := by
  intro x n' owner hn' howner
  rcases exists_node?_iff.2 (h.size_eq ▸ index_lt_of_node? hn') with ⟨n, hn⟩
  rcases h.node x n hn with ⟨payload, hs'⟩
  cases hn'.symm.trans hs'
  rw [h.size_eq]
  exact hs x n owner hn howner

end Repainted

/-! ## One round -/

/-- A node whose payload is what is made of it as it is dumped. -/
def Remade (f : Snapshot.Maker R) (v v' : Option (Snapshot.Head R)) : Prop :=
  ∃ h h', v = some h ∧ h.remake f = some h' ∧ v' = some h'

/-- The session after one node was drawn anew. -/
structure Painted (f : Drawer R) (id : NodeId) (s s' : Session R) : Prop where
  fit : Fit s'
  repainted : Repainted s s'
  self : Remade f.maker (s.stage.head? id) (s'.stage.head? id)
  others : ∀ x, x ≠ id → s'.stage.head? x = s.stage.head? x

variable {f : Drawer R} {id : NodeId} {s s' : Session R}

theorem repainted_of_modifyInstance {change : MeshInstance GeometryId MaterialId → MeshInstance GeometryId MaterialId}
    (hgraph : s'.stage.graph = s.stage.graph.modifyInstance id change)
    (hext : s.stage.resources.Extends s'.stage.resources) (hdisk : s'.disk = s.disk)
    (hcatalogs : s'.shelf.catalogs = s.shelf.catalogs)
    (hpacked : s'.shelf.packedScenes = s.shelf.packedScenes) : Repainted s s' where
  size_eq := by rw [hgraph, size_modifyInstance]
  node x n hn := by
    rw [hgraph, node?_modifyInstance, hn]
    split_ifs
    · exact ⟨_, rfl⟩
    · exact ⟨n.payload, rfl⟩
  resources := hext
  disk := hdisk
  catalogs := hcatalogs
  packedScenes := hpacked

/-- A mesh instance is drawn by what is made of it with the resources there are then. -/
theorem painted_of_modifyInstance (hs : Fit s) {n : Node R} {i : MeshInstance GeometryId MaterialId}
    {change : MeshInstance GeometryId MaterialId → MeshInstance GeometryId MaterialId}
    (hn : s.stage.graph.node? id = some n) (hi : n.payload.meshInstance? = some i)
    (hgraph : s'.stage.graph = s.stage.graph.modifyInstance id change)
    (h : Repainted s s') (hholds : s'.shelf.Holds s'.stage.resources)
    (honDisk : ∀ name entry material, s'.shelf.materialFor name = .ok (some entry) →
      s'.shelf.materials.lookup entry.assetId = some material → s'.disk.isFile entry.path = .ok true)
    (hknown : ∀ mesh, (change i).mesh = some mesh → Mesh.Known s'.stage.resources mesh)
    (hmade : f n.name n.transform (s.stage.resources.figure i) =
      some (s'.stage.resources.figure (change i))) : Painted f id s s' := by
  have hpayload : n.payload = .meshInstance i := by
    cases hp : n.payload with
    | meshInstance j =>
        rw [hp] at hi
        cases hi
        rfl
    | plain | staticBody | collisionShape =>
        rw [hp] at hi
        cases hi
  have hn' : s'.stage.graph.node? id = some { n with payload := .meshInstance (change i) } := by
    rw [hgraph, node?_modifyInstance, if_pos rfl, hn, Option.map_some, hpayload]
    rfl
  have hothers : ∀ x, x ≠ id → s'.stage.graph.node? x = s.stage.graph.node? x := by
    intro x hx
    rw [hgraph, node?_modifyInstance, if_neg hx]
  refine ⟨⟨h.linked hs.linked, h.owned hs.owned, ⟨?_, hs.orderly.listed.of_catalogs h.catalogs, hholds⟩,
    honDisk⟩, h, ?_, ?_⟩
  · -- references stay good: those of the node by assumption, all others because resources only grow
    intro x mesh hmesh
    by_cases hx : x = id
    · subst hx
      rw [SceneGraph.mesh?, meshInstance?_of_node? hn'] at hmesh
      exact hknown mesh hmesh
    · rw [SceneGraph.mesh?, SceneGraph.meshInstance?, hothers x hx] at hmesh
      exact (h.resources.mesh (hs.orderly.sound x mesh hmesh)).1
  · refine ⟨s.stage.headOf n, { s.stage.headOf n with
      payload := .meshInstance (s'.stage.resources.figure (change i)) }, Stage.head?_of_node? hn, ?_, ?_⟩
    · show (f.maker n.name n.transform (s.stage.payloadValue n)).map _ = _
      rw [Stage.payloadValue_of_meshInstance hi]
      show ((f n.name n.transform (s.stage.resources.figure i)).map _).map _ = _
      rw [hmade]
      rfl
    · rw [Stage.head?_of_node? hn']
      have hnames : n.owner.map s'.stage.graph.name = n.owner.map s.stage.graph.name :=
        congrArg n.owner.map (funext h.name_eq)
      simp only [Stage.headOf, hnames]
      rfl
  · intro x hx
    exact Stage.head?_of_same hs.orderly.sound h.resources (hothers x hx) fun owner _ => h.name_eq owner

/-- A mesh instance that is drawn as before. -/
theorem Painted.of_same (hs : Fit s) {n : Node R} {i : MeshInstance GeometryId MaterialId}
    (hn : s.stage.graph.node? id = some n) (hi : n.payload.meshInstance? = some i)
    (hsame : f n.name n.transform (s.stage.resources.figure i) = some (s.stage.resources.figure i)) :
    Painted f id s s := by
  refine ⟨hs, .refl s, ⟨s.stage.headOf n, s.stage.headOf n, Stage.head?_of_node? hn, ?_,
    Stage.head?_of_node? hn⟩, fun _ _ => rfl⟩
  have hpayload : (s.stage.headOf n).payload = .meshInstance (s.stage.resources.figure i) :=
    Stage.payloadValue_of_meshInstance hi
  have hmaker : f.maker n.name n.transform (s.stage.headOf n).payload = some (s.stage.headOf n).payload := by
    rw [hpayload]
    show (f n.name n.transform _).map _ = _
    rw [hsame]
    rfl
  show (f.maker n.name n.transform (s.stage.headOf n).payload).map _ = _
  rw [hmaker]
  rfl

/-! ## Loops over a tree -/

/-- The session after the payloads of all nodes of a tree were made anew. -/
structure Overpainted (f : Snapshot.Maker R) (root : NodeId) (s s' : Session R) : Prop where
  fit : Fit s'
  repainted : Repainted s s'
  inside : ∀ x, s.stage.graph.Within root x → Remade f (s.stage.head? x) (s'.stage.head? x)
  outside : ∀ x, ¬ s.stage.graph.Within root x → s'.stage.head? x = s.stage.head? x

namespace Overpainted

variable {f g : Snapshot.Maker R} {root : NodeId} {t : Session R}

/-- A tree that is made anew twice is made anew once. -/
theorem trans (h : Overpainted f root s t) (h' : Overpainted g root t s') :
    Overpainted (f.andThen g) root s s' where
  fit := h'.fit
  repainted := h.repainted.trans h'.repainted
  inside x hx := by
    rcases h.inside x hx with ⟨v, w, hv, hvw, hw⟩
    rcases h'.inside x (h.repainted.within_iff.2 hx) with ⟨w', u, hw', hwu, hu⟩
    cases hw'.symm.trans hw
    refine ⟨v, u, hv, ?_, hu⟩
    rw [Snapshot.Head.remake_andThen, hvw]
    exact hwu
  outside x hx := by
    rw [h'.outside x fun hwithin => hx (h.repainted.within_iff.1 hwithin), h.outside x hx]

/-- What is made of the nodes is made of the dump. -/
theorem dump (h : Overpainted f root s s') (hs : Fit s) {d : Snapshot Geometry R}
    (hd : s.stage.snapshot? root = some d) :
    ∃ d', d.remake f = some d' ∧ s'.stage.snapshot? root = some d' := by
  obtain ⟨_, d', hd₀, hd', hdump⟩ := Stage.exists_remake (f := f) hs.linked h.fit.linked fun x hx => by
    rcases h.inside x hx with ⟨v, v', hv, hvv', hv'⟩
    exact ⟨v, v', hv, hvv', hv', h.repainted.children_eq x⟩
  cases hd₀.symm.trans hd
  exact ⟨d', hd', hdump⟩

end Overpainted

/-- A mesh instance with everything that it refers to, if the node is one. -/
def Stage.figure? (stage : Stage R) (x : NodeId) : Option (MeshInstance Geometry Material) :=
  (stage.graph.meshInstance? x).map stage.resources.figure

theorem Stage.figure?_of_node? {stage : Stage R} {x : NodeId} {n : Node R}
    (hn : stage.graph.node? x = some n) :
    stage.figure? x = n.payload.meshInstance?.map stage.resources.figure := by
  rw [figure?, meshInstance?_of_node? hn]

/-- The node that a mesh instance belongs to. -/
theorem Stage.exists_node_of_figure? {stage : Stage R} {j : MeshInstance Geometry Material}
    (h : stage.figure? id = some j) : ∃ n i, stage.graph.node? id = some n ∧
      n.payload.meshInstance? = some i ∧ stage.resources.figure i = j := by
  rcases Option.map_eq_some_iff.1 h with ⟨i, hi, hj⟩
  rcases Option.bind_eq_some_iff.1 hi with ⟨n, hn, hpayload⟩
  exact ⟨n, i, hn, hpayload, hj⟩

/-- What a mesh instance refers to is part of its dump. -/
theorem Stage.figure?_eq (stage : Stage R) (x : NodeId) :
    stage.figure? x = (stage.head? x).bind (·.payload.meshInstance?) := by
  cases hn : stage.graph.node? x with
  | none => simp [figure?, head?, SceneGraph.meshInstance?, hn]
  | some n =>
      rw [figure?_of_node? hn, head?_of_node? hn, Option.bind_some]
      unfold headOf payloadValue
      cases n.payload <;> rfl

/-- A node that is drawn anew is a mesh instance if it was one, and then shows what is made of it. -/
theorem Remade.figure? {x : NodeId} (h : Remade f.maker (s.stage.head? x) (s'.stage.head? x)) :
    Option.Rel (fun i i' => ∃ name transform, f name transform i = some i') (s.stage.figure? x)
      (s'.stage.figure? x) := by
  rcases h with ⟨v, v', hv, hvv', hv'⟩
  rw [Stage.figure?_eq, Stage.figure?_eq, hv, hv', Option.bind_some, Option.bind_some]
  rcases Option.map_eq_some_iff.1 hvv' with ⟨payload, hpayload, rfl⟩
  cases hp : v.payload with
  | meshInstance i =>
      rw [hp] at hpayload
      rcases Option.map_eq_some_iff.1 hpayload with ⟨j, hj, rfl⟩
      exact .some ⟨v.name, v.transform, hj⟩
  | plain | staticBody | collisionShape =>
      rw [hp] at hpayload
      cases hpayload
      exact .none

/-- A node that is still there and is a mesh instance now differs from what it was in nothing else. -/
theorem Repainted.head?_of_figure? (h : Repainted s s') {x : NodeId} {n : Node R}
    {j : MeshInstance Geometry Material} (hn : s.stage.graph.node? x = some n)
    (hfigure : s'.stage.figure? x = some j) :
    s'.stage.head? x = some { s.stage.headOf n with payload := .meshInstance j } := by
  rcases h.node x n hn with ⟨payload, hn'⟩
  rw [Stage.figure?_of_node? hn'] at hfigure
  rcases Option.map_eq_some_iff.1 hfigure with ⟨i, hi, rfl⟩
  have hvalue : s'.stage.payloadValue { n with payload := payload } = _ := Stage.payloadValue_of_meshInstance hi
  have hnames : n.owner.map s'.stage.graph.name = n.owner.map s.stage.graph.name :=
    congrArg n.owner.map (funext h.name_eq)
  rw [Stage.head?_of_node? hn']
  simp only [Stage.headOf, hvalue, hnames]

/-- A node that is no mesh instance, or one that is drawn as before, stays as it is. -/
theorem Drawer.remake_of_not_any {q : MeshInstance Geometry Material → Bool}
    (hskip : ∀ name transform i, q i = false → f name transform i = some i) {h : Snapshot.Head R}
    (hq : h.payload.meshInstance?.any q = false) : h.remake f.maker = some h := by
  have hmaker : f.maker h.name h.transform h.payload = some h.payload := by
    cases hp : h.payload with
    | meshInstance i =>
        rw [hp] at hq
        show (f h.name h.transform i).map _ = _
        rw [hskip h.name h.transform i hq]
        rfl
    | plain | staticBody | collisionShape => rfl
  rw [Snapshot.Head.remake, hmaker]
  rfl

theorem Stage.exists_head?_of_not_any {stage : Stage R} {x : NodeId} {q : MeshInstance Geometry Material → Bool}
    (hx : x.index < stage.graph.size) (hskip : ∀ name transform i, q i = false → f name transform i = some i)
    (hq : (stage.figure? x).any q = false) : ∃ h, stage.head? x = some h ∧ h.remake f.maker = some h := by
  rcases Stage.exists_head?_iff.2 hx with ⟨h, hh⟩
  rw [Stage.figure?_eq, hh] at hq
  exact ⟨h, hh, Drawer.remake_of_not_any hskip hq⟩

/-- Rounds that draw their own nodes anew draw all mesh instances of a tree anew, if the loop leaves out only
such as stay as they are. -/
theorem settles_of_rounds {root : NodeId} {d : Snapshot Geometry R} {round : NodeId → Work R Unit}
    {q : MeshInstance Geometry Material → Bool} (hs : Fit s) (hd : s.stage.snapshot? root = some d)
    (hskip : ∀ name transform i, q i = false → f name transform i = some i)
    (hround : ∀ x t n i, Fit t → Repainted s t → t.stage.graph.node? x = some n →
      n.payload.meshInstance? = some i → q (t.stage.resources.figure i) = true →
      Settles (round x) t (∃ v, Remade f.maker (t.stage.head? x) v) (Painted f x t)) :
    Settles (((s.stage.graph.levelOrder root).filter fun x => (s.stage.figure? x).any q).forM round) s
      (∃ d', d.remake f.maker = some d') (Overpainted f.maker root s) := by
  have hg := hs.linked
  have hroot := Stage.index_lt_of_snapshot? hg hd
  have hin : ∀ x, x ∈ (s.stage.graph.levelOrder root).filter (fun x => (s.stage.figure? x).any q) ↔
      s.stage.graph.Within root x ∧ (s.stage.figure? x).any q = true := by
    intro x
    rw [List.mem_filter, mem_levelOrder_iff hg]
  have hloop := forM_settles (s := s) (f := round)
    ((s.stage.graph.levelOrder root).filter fun x => (s.stage.figure? x).any q)
    (I := fun t => Fit t ∧ Repainted s t) (fun t x => t.stage.head? x) (fun _ => Remade f.maker)
    (fun _ => True) ((nodup_levelOrder hg root).filter _) (fun _ _ => trivial) ⟨hs, .refl s⟩ (by
      rintro x hx t ⟨ht, hrepainted⟩ hsame
      have hany := ((hin x).1 hx).2
      rw [Stage.figure?_eq, ← hsame, ← Stage.figure?_eq] at hany
      rcases (Option.any_eq_true q _).1 hany with ⟨_, hfigure, hq⟩
      rcases Stage.exists_node_of_figure? hfigure with ⟨n, i, hn, hpayload, rfl⟩
      refine (hround x t n i ht hrepainted hn hpayload hq).congr Iff.rfl fun t' _ hpainted => ?_
      exact ⟨⟨hpainted.fit, hrepainted.trans hpainted.repainted⟩, hpainted.self,
        fun y _ hy => hpainted.others y hy⟩)
  -- the nodes that the loop leaves out stay as they are
  have hleftOut : ∀ x, s.stage.graph.Within root x → (s.stage.figure? x).any q = false →
      ∃ h, s.stage.head? x = some h ∧ h.remake f.maker = some h :=
    fun x hx hq => Stage.exists_head?_of_not_any (hg.index_lt_of_within hx hroot) hskip hq
  refine hloop.congr ⟨fun hable => ?_, fun hable x hx => ?_⟩ fun s' _ hafter => ?_
  · refine Stage.exists_remake_of_heads hg hd fun x hx => ?_
    cases hq : (s.stage.figure? x).any q with
    | true =>
        rcases hable x ((hin x).2 ⟨hx, hq⟩) with ⟨_, h, h', hh, hh', -⟩
        exact ⟨h, h', hh, hh'⟩
    | false =>
        rcases hleftOut x hx hq with ⟨h, hh, hh'⟩
        exact ⟨h, h, hh, hh'⟩
  · rcases hable with ⟨d', hd'⟩
    rcases Stage.exists_of_remake hg hd hd' ((hin x).1 hx).1 with ⟨h, h', hh, hh'⟩
    exact ⟨some h', h, h', hh, hh', rfl⟩
  · rcases hafter with ⟨⟨hfit, hrepainted⟩, hdone, hleft⟩
    refine ⟨hfit, hrepainted, fun x hx => ?_, fun x hx => hleft x trivial fun hmem => ?_⟩
    · cases hq : (s.stage.figure? x).any q with
      | true => exact hdone x ((hin x).2 ⟨hx, hq⟩)
      | false =>
          have hnot : x ∉ (s.stage.graph.levelOrder root).filter fun x => (s.stage.figure? x).any q := by
            intro hmem
            rw [((hin x).1 hmem).2] at hq
            cases hq
          rcases hleftOut x hx hq with ⟨h, hh, hh'⟩
          exact ⟨h, h, hh, hh', (hleft x trivial hnot).trans hh⟩
    · exact hx ((hin x).1 hmem).1

end LevelPrep
