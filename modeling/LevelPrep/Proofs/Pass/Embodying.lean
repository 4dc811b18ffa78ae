import LevelPrep.Proofs.Pass.Advancing
import LevelPrep.Proofs.Pass.Runs

/-!
# Passes as functions of dumps

The collision pass succeeds exactly if every collidable mesh instance of its tree can be given a body, and then
adds the bodies to the dump of the tree, in the order of the walk (`settles_collision`).  So every pass does to
a tree what `PassKind.image` does to its dump (`settles_apply`), and any passes, one after another, do it in
this order (`settles_passes`).
-/

namespace LevelPrep

variable {R : Type}

open Work SceneGraph

variable [Zero R] [One R] [Add R] [Mul R] {context : PassContext R}
  {bake : MeshValue → Matrix R → Float → Option MeshValue} {root x : NodeId} {s s' t : Session R}
  {d : Snapshot Geometry R}

/-- The pass succeeds if the names of all mesh instances can be read and all collidable ones can be given
bodies. -/
theorem settles_collisionApply {n : Node R} (hs : Fit s) (hn : s.stage.graph.node? root = some n)
    (hscene : context.scene.index < s.stage.graph.size)
    (hpaths : ∀ x, s.stage.graph.Within root x → ∃ path, s.stage.graph.Descends root x path) :
    Settles (Collision.apply context root) s
      ((∀ x ∈ s.stage.graph.instances root, ∃ found,
          context.grammar.nameHas (s.stage.graph.name x) .noCollision = .ok found) ∧
        ∀ x ∈ collidable context root s.stage.graph, ∃ body, context.bodyOf root s x = some body)
      (Bodied root (context.bodyOf root s) n (collidable context root s.stage.graph) s) := by
  have hloop := settles_makeBodies hs hn hscene (collidable context root s.stage.graph) fun x hx =>
    hpaths x (within_of_mem_instances hs.linked (List.mem_filter.1 hx).1)
  -- first all names are asked, which changes nothing, and then the bodies are made
  have hread := exists_filterM_iff (s.stage.graph.instances root)
    fun x _ => runIn_noCollision context s x
  have hanswers : (∀ x ∈ s.stage.graph.instances root, ∃ b,
      (context.grammar.nameHas (s.stage.graph.name x) .noCollision).map not = .ok b) ↔
      ∀ x ∈ s.stage.graph.instances root, ∃ found,
        context.grammar.nameHas (s.stage.graph.name x) .noCollision = .ok found := by
    refine forall₂_congr fun x _ => ?_
    cases context.grammar.nameHas (s.stage.graph.name x) .noCollision <;> simp [Except.map]
  rw [hanswers] at hread
  refine ⟨fun s' hrun => ?_, fun hable => ?_⟩
  · rcases hloop.leaves s' (makeBody_of_apply hrun) with ⟨hbodies, hafter⟩
    rcases runIn_bind_eq_ok_iff.1 hrun with ⟨g, s₁, hgraph, hrest⟩
    rcases eq_of_graph hgraph with ⟨rfl, rfl⟩
    rcases runIn_bind_eq_ok_iff.1 hrest with ⟨kept, s₂, hkept, -⟩
    exact ⟨⟨hread.1 ⟨kept, s₂, hkept⟩, hbodies⟩, hafter⟩
  · rcases hread.2 hable.1 with ⟨kept, t, hkept⟩
    obtain ⟨rfl, rfl⟩ := filterM_results
      (p := fun x => !context.grammar.carries (s.stage.graph.name x) .noCollision) (by
        intro x _ b u htest
        rw [runIn_noCollision] at htest
        rcases Prod.mk.inj htest with ⟨hb, rfl⟩
        rcases map_eq_ok_iff.1 hb with ⟨found, hfound, rfl⟩
        exact ⟨rfl, by simp [Grammar.carries, hfound]⟩) hkept
    rcases hloop.runs hable.2 with ⟨s', hrun⟩
    refine ⟨s', ?_⟩
    rw [Collision.apply, runIn_bind, runIn_graph]
    exact runIn_bind_eq_ok_iff.2 ⟨_, t, hkept, hrun⟩

/-- The bodies for a live node are those for its dump. -/
theorem bodies_eq {p : Snapshot.Placed R} (hg : s.stage.graph.Linked) (hp : s.stage.Meets root x p) :
    (context.rules bake s).bodies (s.stage.graph.name context.scene) p =
      if (s.stage.graph.meshInstance? x).isSome then
        (context.grammar.nameHas (s.stage.graph.name x) .noCollision).toOption.bind fun skipped =>
          if skipped then some [] else (context.bodyOf root s x).map fun body => [body]
      else some [] := by
  rcases (Stage.snapshot?_eq_some_iff hg).1 hp.dump with ⟨v, ds, hv, -, hd⟩
  have hhead : p.2.head = v := by rw [hd, Snapshot.head_node]
  have hinstance : (s.stage.graph.meshInstance? x).isSome = p.2.head.payload.meshInstance?.isSome := by
    have hfigure := s.stage.figure?_eq x
    rw [hv, Option.bind_some, ← hhead] at hfigure
    rw [← hfigure, Stage.figure?, Option.isSome_map]
  unfold Rules.bodies
  rw [hinstance]
  cases hi : p.2.head.payload.meshInstance? with
  | none => rfl
  | some i =>
      rw [bodyOf_eq bake hg hp hi, Stage.name_of_head? hv, hhead]
      rfl

/-- What is made of the dumps is what is made of the live nodes, node by node. -/
theorem exists_mapM_bodies_iff (bake : MeshValue → Matrix R → Float → Option MeshValue)
    {ps : List (Snapshot.Placed R)} {xs : List NodeId} (hg : s.stage.graph.Linked)
    (h : List.Forall₂ (s.stage.Meets root) xs ps) :
    (∃ bss, ps.mapM ((context.rules bake s).bodies (s.stage.graph.name context.scene)) = some bss) ↔
      (∀ x ∈ xs.filter fun x => (s.stage.graph.meshInstance? x).isSome, ∃ found,
        context.grammar.nameHas (s.stage.graph.name x) .noCollision = .ok found) ∧
      ∀ x ∈ (xs.filter fun x => (s.stage.graph.meshInstance? x).isSome).filter fun x =>
        !context.grammar.carries (s.stage.graph.name x) .noCollision,
        ∃ body, context.bodyOf root s x = some body := by
  -- node by node: a mesh instance is asked by its name, and has to have a body if it is to collide
  have hnodes : (∀ p ∈ ps, ∃ bs, (context.rules bake s).bodies (s.stage.graph.name context.scene) p = some bs) ↔
      ∀ x ∈ xs, (s.stage.graph.meshInstance? x).isSome = true →
        (∃ found, context.grammar.nameHas (s.stage.graph.name x) .noCollision = .ok found) ∧
        (context.grammar.carries (s.stage.graph.name x) .noCollision = false →
          ∃ body, context.bodyOf root s x = some body) := by
    induction h with
    | nil => simp
    | @cons x p xs ps hp _ ih =>
        rw [List.forall_mem_cons, List.forall_mem_cons, ih, bodies_eq hg hp]
        refine and_congr ?_ Iff.rfl
        cases (s.stage.graph.meshInstance? x).isSome with
        | false => simp
        | true =>
            unfold Grammar.carries
            rcases context.grammar.nameHas (s.stage.graph.name x) .noCollision with fault | skipped
            · simp [Except.toOption]
            · cases skipped <;> simp [Except.toOption]
  rw [exists_mapM_iff, hnodes]
  simp only [List.mem_filter, Bool.not_eq_true']
  constructor
  · intro hall
    exact ⟨fun x hx => (hall x hx.1 hx.2).1, fun x hx => (hall x hx.1.1 hx.1.2).2 hx.2⟩
  · rintro ⟨hfound, hbody⟩ x hx hi
    exact ⟨hfound x ⟨hx, hi⟩, fun hcarries => hbody x ⟨⟨hx, hi⟩, hcarries⟩⟩

theorem flatten_of_mapM_bodies {ps : List (Snapshot.Placed R)} {xs : List NodeId}
    {bss : List (List (Snapshot Geometry R))} (hg : s.stage.graph.Linked)
    (h : List.Forall₂ (s.stage.Meets root) xs ps)
    (hbss : ps.mapM ((context.rules bake s).bodies (s.stage.graph.name context.scene)) = some bss) :
    List.Forall₂ (fun x body => context.bodyOf root s x = some body)
      ((xs.filter fun x => (s.stage.graph.meshInstance? x).isSome).filter fun x =>
        !context.grammar.carries (s.stage.graph.name x) .noCollision) bss.flatten := by
  have hall := mapM_eq_some_iff.1 hbss
  clear hbss
  induction h generalizing bss with
  | nil =>
      cases hall
      exact .nil
  | @cons x p xs ps hp _ ih =>
      cases hall with
      | @cons _ bs _ rest hbs hrest =>
          have hlater := ih hrest
          rw [bodies_eq hg hp] at hbs
          rw [List.flatten_cons, List.filter_cons]
          -- a node adds its body to both lists, or nothing to either
          cases hi : (s.stage.graph.meshInstance? x).isSome with
          | false =>
              rw [hi] at hbs
              cases hbs
              simpa using hlater
          | true =>
              rw [hi, if_pos rfl] at hbs
              rcases Option.bind_eq_some_iff.1 hbs with ⟨skipped, hfound, hbs⟩
              have hcarries : context.grammar.carries (s.stage.graph.name x) .noCollision = skipped := by
                simp [Grammar.carries, toOption_eq_some_iff.1 hfound]
              cases skipped with
              | true =>
                  cases hbs
                  simpa [hcarries] using hlater
              | false =>
                  rcases Option.map_eq_some_iff.1 hbs with ⟨body, hbody, rfl⟩
                  simp only [if_true, List.filter_cons, hcarries, Bool.not_false]
                  exact .cons hbody hlater

/-! ## The passes -/

/-- What a step makes of the tree that it works on. -/
structure Imaged (root : NodeId) (image : Option (Snapshot Geometry R)) (s s' : Session R) : Prop
    extends Advanced root s s' where
  dump : s'.stage.snapshot? root = image
  packedScenes : s'.shelf.packedScenes = s.shelf.packedScenes

/-- The collision pass adds bodies for the collidable mesh instances of a tree. -/
theorem settles_collision (hs : Fit s) (hd : s.stage.snapshot? root = some d)
    (hscene : context.scene.index < s.stage.graph.size) :
    Settles (Collision.apply context root) s
      (∃ d', (context.rules bake s).embody (s.stage.graph.name context.scene) d = some d')
      (Imaged root ((context.rules bake s).embody (s.stage.graph.name context.scene) d) s) := by
  have hg := hs.linked
  rcases exists_node?_iff.2 (Stage.index_lt_of_snapshot? hg hd) with ⟨n, hn⟩
  have hmeets := Stage.forall₂_levelOrder hg hd
  have hable : (∃ d', (context.rules bake s).embody (s.stage.graph.name context.scene) d = some d') ↔
      ∃ bss, d.levelOrder.mapM ((context.rules bake s).bodies (s.stage.graph.name context.scene)) = some bss := by
    unfold Rules.embody
    simp
  refine (settles_collisionApply hs hn hscene fun x hx => ?_).congr ?_ ?_
  · rcases exists_result_of_mem hmeets ((mem_levelOrder_iff hg).2 hx) with ⟨p, -, hp⟩
    exact ⟨p.1, hp.descends⟩
  · rw [hable, exists_mapM_bodies_iff bake hg hmeets]
    rfl
  · intro s' hready hbodied
    obtain ⟨bss, hbss⟩ := (exists_mapM_bodies_iff bake hg hmeets).2 hready
    rcases hbodied.dump hs hn hd with ⟨bodies, hbodies, hdump⟩
    -- both lists of bodies are made from the collidable nodes
    have hflat := mapM_eq_some_iff.2 (flatten_of_mapM_bodies hg hmeets hbss)
    have hsame : bodies = bss.flatten :=
      Option.some.inj ((mapM_eq_some_iff.2 hbodies).symm.trans hflat)
    refine ⟨hbodied.advanced hs hn, ?_, hbodied.packedScenes⟩
    unfold Rules.embody
    rw [hbss, hdump, hsame]
    rfl

/-- Every pass does to its tree what is done to the dump of the tree. -/
theorem settles_apply {kind : PassKind} (hs : Fit s) (hd : s.stage.snapshot? root = some d)
    (hscene : context.scene.index < s.stage.graph.size)
    (hunwrap : kind = .lightmap → Lightmap.Computes context.tools.unwrap bake) :
    Settles (kind.apply context root) s
      (∃ d', kind.image (context.rules bake s) (s.stage.graph.name context.scene) d = some d')
      (Imaged root (kind.image (context.rules bake s) (s.stage.graph.name context.scene) d) s) := by
  by_cases hkind : kind = .collision
  · subst hkind
    exact settles_collision hs hd hscene
  · rw [PassKind.image_eq_remake hkind]
    refine (settles_drawing hkind hs hd hunwrap).congr Iff.rfl fun s' _ hpainted => ?_
    rcases hpainted.dump hs hd with ⟨d', hd', hdump⟩
    exact ⟨hpainted.advanced, hdump.trans hd'.symm, hpainted.repainted.packedScenes⟩

/-- Passes, one after another, do to their tree what is done to its dump. -/
theorem settles_passes {passes : List PassKind} (hs : Fit s) (hd : s.stage.snapshot? root = some d)
    (hscene : context.scene.index < s.stage.graph.size)
    (hunwrap : .lightmap ∈ passes → Lightmap.Computes context.tools.unwrap bake) :
    Settles (passes.forM fun pass => pass.apply context root) s
      (∃ d', (context.rules bake s).work (s.stage.graph.name context.scene) passes d = some d')
      (Imaged root ((context.rules bake s).work (s.stage.graph.name context.scene) passes d) s) := by
  induction passes generalizing s d with
  | nil =>
      refine ⟨fun s' hrun => ?_, fun _ => ⟨s, rfl⟩⟩
      cases hrun
      exact ⟨⟨d, rfl⟩, .refl root hs, hd, rfl⟩
  | cons kind rest ih =>
      have hunwrapKind : kind = .lightmap → Lightmap.Computes context.tools.unwrap bake := fun h =>
        hunwrap (h ▸ List.mem_cons_self)
      have hfirst := settles_apply hs hd hscene hunwrapKind
      have hwork : (context.rules bake s).work (s.stage.graph.name context.scene) (kind :: rest) d =
          (kind.image (context.rules bake s) (s.stage.graph.name context.scene) d).bind
            ((context.rules bake s).work (s.stage.graph.name context.scene) rest) := rfl
      rw [hwork]
      -- the first pass leaves a fit session with the same rules, so that the others go on from its image
      have hrest : ∀ t, (∃ d', kind.image (context.rules bake s) (s.stage.graph.name context.scene) d = some d') →
          Imaged root (kind.image (context.rules bake s) (s.stage.graph.name context.scene) d) s t →
          Settles (rest.forM fun pass => pass.apply context root) t
            (∃ d', (kind.image (context.rules bake s) (s.stage.graph.name context.scene) d).bind
              ((context.rules bake s).work (s.stage.graph.name context.scene) rest) = some d')
            (Imaged root ((kind.image (context.rules bake s) (s.stage.graph.name context.scene) d).bind
              ((context.rules bake s).work (s.stage.graph.name context.scene) rest)) s) := by
        rintro t ⟨d', hd'⟩ ht
        have hlater := ih ht.fit (ht.dump.trans hd') (hscene.trans_le ht.size_le)
          fun h => hunwrap (List.mem_cons_of_mem kind h)
        rw [ht.rules_eq, ht.name_eq _ hscene] at hlater
        rw [hd', Option.bind_some]
        refine hlater.congr Iff.rfl fun s' _ hs' => ?_
        exact ⟨ht.toAdvanced.trans hs'.toAdvanced hs, hs'.dump, hs'.packedScenes.trans ht.packedScenes⟩
      refine (hfirst.seq hrest).congr ⟨fun h => h.2, fun h => ⟨?_, h⟩⟩ fun _ _ h => h
      rcases h with ⟨d'', hd''⟩
      rcases Option.bind_eq_some_iff.1 hd'' with ⟨d', hd', -⟩
      exact ⟨d', hd'⟩

end LevelPrep
