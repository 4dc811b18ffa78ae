import LevelPrep.Proofs.Pass.Supplying

/-!
# What passes make of trees

Every pass but the collision pass succeeds exactly if the dump of its tree can be drawn anew by the rules, and
then draws it like this (`settles_drawing`).
-/

namespace LevelPrep

variable {R : Type}

open Work SceneGraph

variable {context : PassContext R} {bake : MeshValue → Matrix R → Float → Option MeshValue}
  {root : NodeId} {s s' : Session R} {d : Snapshot Geometry R}

theorem instances_eq (s : Session R) (root : NodeId) : s.stage.graph.instances root =
    (s.stage.graph.levelOrder root).filter fun x => (s.stage.figure? x).any fun _ => true := by
  refine List.filter_congr fun x _ => ?_
  unfold Stage.figure?
  cases s.stage.graph.meshInstance? x <;> rfl

theorem meshNodes_eq (s : Session R) (root : NodeId) : s.stage.graph.meshNodes root =
    (s.stage.graph.levelOrder root).filter fun x => (s.stage.figure? x).any (·.mesh.isSome) := by
  refine List.filter_congr fun x _ => ?_
  unfold Stage.figure? SceneGraph.mesh?
  cases s.stage.graph.meshInstance? x <;> simp [Resources.figure]

theorem Repainted.levelOrder_eq (h : Repainted s s') (root : NodeId) :
    s'.stage.graph.levelOrder root = s.stage.graph.levelOrder root :=
  levelOrder_congr h.size_eq h.children_eq root

/-- A baked mesh instance shows a mesh exactly if it showed one before. -/
theorem Rules.isSome_mesh_of_bakeMesh {rules : Rules R} {name : Json} {transform : Matrix R}
    {i j : MeshInstance Geometry Material} (h : rules.bakeMesh name transform i = some j) :
    j.mesh.isSome = i.mesh.isSome := by
  unfold Rules.bakeMesh at h
  split at h
  · cases h
    rfl
  · next mesh hmesh =>
      rcases Option.bind_eq_some_iff.1 h with ⟨⟨⟩, -, h⟩
      rcases Option.bind_eq_some_iff.1 h with ⟨base, -, h⟩
      rcases Option.map_eq_some_iff.1 h with ⟨baked, -, rfl⟩
      rw [hmesh]
      rfl

/-- The meshes of a tree are shown by the same nodes after they were baked. -/
theorem Overpainted.meshNodes_eq {rules : Rules R} (h : Overpainted rules.bakeMesh.maker root s s')
    (hs : s.stage.graph.Linked) : s'.stage.graph.meshNodes root = s.stage.graph.meshNodes root := by
  rw [LevelPrep.meshNodes_eq, LevelPrep.meshNodes_eq, h.repainted.levelOrder_eq]
  refine List.filter_congr fun x hx => ?_
  rcases cases_of_optionRel (h.inside x ((mem_levelOrder_iff hs).1 hx)).figure? with
    ⟨hold, hnew⟩ | ⟨i, j, hold, hnew, name, transform, hj⟩
  · rw [hold, hnew]
  · rw [hold, hnew]
    exact Rules.isSome_mesh_of_bakeMesh hj

/-- Rounds that draw their own nodes anew draw a tree anew if they go over all its mesh instances. -/
theorem settles_instances {f : Drawer R} {round : NodeId → Work R Unit} (hs : Fit s)
    (hd : s.stage.snapshot? root = some d)
    (hround : ∀ x t n i, Fit t → t.stage.graph.node? x = some n → n.payload.meshInstance? = some i →
      Settles (round x) t (∃ v, Remade f.maker (t.stage.head? x) v) (Painted f x t)) :
    Settles ((s.stage.graph.instances root).forM round) s (∃ d', d.remake f.maker = some d')
      (Overpainted f.maker root s) := by
  rw [instances_eq]
  exact settles_of_rounds hs hd (fun _ _ _ h => by cases h) fun x t n i ht _ hn hi _ => hround x t n i ht hn hi

/-- So they do if they go over the nodes that show a mesh, and a mesh instance without one stays as it is. -/
theorem settles_meshNodes {f : Drawer R} {round : NodeId → Work R Unit} (hs : Fit s)
    (hd : s.stage.snapshot? root = some d)
    (hskip : ∀ name transform (i : MeshInstance Geometry Material), i.mesh = none → f name transform i = some i)
    (hround : ∀ x t n i, Fit t → Repainted s t → t.stage.graph.node? x = some n →
      n.payload.meshInstance? = some i → (t.stage.resources.figure i).mesh.isSome = true →
      Settles (round x) t (∃ v, Remade f.maker (t.stage.head? x) v) (Painted f x t)) :
    Settles ((s.stage.graph.meshNodes root).forM round) s (∃ d', d.remake f.maker = some d')
      (Overpainted f.maker root s) := by
  rw [meshNodes_eq]
  refine settles_of_rounds hs hd (fun name transform i hi => hskip name transform i ?_) hround
  simpa using hi

/-- The lightmap pass bakes the meshes of its tree first, and then lights the nodes that show them. -/
theorem settles_lightmap (hs : Fit s) (hd : s.stage.snapshot? root = some d)
    (hunwrap : Lightmap.Computes context.tools.unwrap bake) :
    Settles (Rendering.applyLightmap context root) s
      (∃ d', d.remake ((context.rules bake s).drawer .lightmap).maker = some d')
      (Overpainted ((context.rules bake s).drawer .lightmap).maker root s) := by
  have hmaker : ((context.rules bake s).drawer .lightmap).maker =
      (context.rules bake s).bakeMesh.maker.andThen (context.rules bake s).light.maker :=
    Drawer.maker_bind _ _
  unfold Rendering.applyLightmap
  refine .of_read (runIn_graph s) ?_
  have hbake : Settles ((s.stage.graph.meshNodes root).forM (Rendering.bake context)) s
      (∃ d', d.remake (context.rules bake s).bakeMesh.maker = some d')
      (Overpainted (context.rules bake s).bakeMesh.maker root s) := by
    refine settles_meshNodes hs hd (fun name transform i hmesh => ?_) fun x t n i ht _ hn hi hshown =>
      settles_bakeMesh ht hn hi hunwrap hshown
    simp [Rules.bakeMesh, hmesh]
  have hlight : ∀ t, (∃ d', d.remake (context.rules bake s).bakeMesh.maker = some d') →
      Overpainted (context.rules bake s).bakeMesh.maker root s t →
      Settles ((s.stage.graph.meshNodes root).forM (Rendering.lightIfAsked context)) t
        (∃ d' d'', d.remake (context.rules bake s).bakeMesh.maker = some d' ∧
          d'.remake (context.rules bake s).light.maker = some d'')
        (Overpainted ((context.rules bake s).bakeMesh.maker.andThen (context.rules bake s).light.maker)
          root s) := by
    intro t _ hbaked
    -- the loop goes over the nodes that showed a mesh at the start, which still show one
    rcases hbaked.dump hs hd with ⟨d', hd', hdump⟩
    rw [← hbaked.meshNodes_eq hs.linked]
    refine (settles_meshNodes (f := (context.rules bake s).light) hbaked.fit hdump
      (fun name transform i hmesh => ?_) fun x u n i hu _ hn hi hshown =>
        settles_lightIfAsked hu hn hi hshown).congr ?_ ?_
    · simp [Rules.light, hmesh]
    · simp [hd']
    · intro s' _ hlit
      exact hbaked.trans hlit
  have hboth := hbake.seq hlight
  rw [hmaker]
  refine hboth.congr ?_ fun _ _ hdone => hdone
  · rw [Snapshot.remake_andThen]
    simp only [Option.bind_eq_some_iff]
    constructor
    · rintro ⟨-, d', d'', hd', hd''⟩
      exact ⟨d'', d', hd', hd''⟩
    · rintro ⟨d'', d', hd', hd''⟩
      exact ⟨⟨d', hd'⟩, d', d'', hd', hd''⟩

variable [Zero R] [One R] [Add R] [Mul R]

/-- A pass other than the collision pass draws its tree anew by the rules. -/
theorem settles_drawing {kind : PassKind} (hkind : kind ≠ .collision) (hs : Fit s)
    (hd : s.stage.snapshot? root = some d)
    (hunwrap : kind = .lightmap → Lightmap.Computes context.tools.unwrap bake) :
    Settles (kind.apply context root) s
      (∃ d', d.remake ((context.rules bake s).drawer kind).maker = some d')
      (Overpainted ((context.rules bake s).drawer kind).maker root s) := by
  cases kind with
  | collision => exact absurd rfl hkind
  | lightmap => exact settles_lightmap hs hd (hunwrap rfl)
  | renderRemoval =>
      refine .of_read (runIn_graph s) ?_
      exact settles_instances hs hd fun x t n i ht hn hi => settles_hideIfAsked ht hn hi
  | shadow =>
      refine .of_read (runIn_graph s) ?_
      exact settles_instances hs hd fun x t n i ht hn hi => settles_setShadow ht hn hi
  | renderLayer =>
      refine .of_read (runIn_graph s) ?_
      exact settles_instances hs hd fun x t n i ht hn hi => settles_setLayer ht hn hi
  | material =>
      refine .of_read (runIn_graph s) ?_
      refine settles_meshNodes hs hd (fun name transform i hmesh => ?_) fun x t n i ht hrepainted hn hi _ => ?_
      · simp [Rules.drawer, Rules.dress, hmesh]
      · rw [← hrepainted.rules_eq]
        exact settles_replaceMaterials ht hn hi

end LevelPrep
