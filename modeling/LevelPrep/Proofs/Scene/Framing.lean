import LevelPrep.Proofs.Pass.Placing
import LevelPrep.Proofs.Scene.Exporting
import LevelPrep.Proofs.Scene.Planting

/-!
# Where frames stand

Following the links of a frame graph from a frame upwards multiplies the matrices on the way (`FrameGraph.Hangs`).
Where all frames have different names, every link that was made is there in the end (`FrameGraph.hasLink_foldl`), so
the way from a frame to the base is the way from its node to the root.

This needs that the base itself hangs from nothing.  It does unless a node below the root has the name of the base
frame: then that node takes the place of the base (`Export.baseFrame_mem_names_iff`).
-/

namespace LevelPrep

variable {R : Type}

namespace FrameGraph

variable {g : FrameGraph R}

/-- The link by which a frame hangs from its parent. -/
structure HasLink (g : FrameGraph R) (link : FrameLink R) : Prop where
  parent : g.parents.lookup link.frame = some link.parent
  last : g.link? link.parent link.frame = some link

/-- A frame that hangs from the base, with the matrices of the links on the way down to it. -/
inductive Hangs (g : FrameGraph R) : Json → List (Matrix R) → Prop
  | base : Hangs g g.base []
  | step {link : FrameLink R} {path : List (Matrix R)} (hparent : Hangs g link.parent path)
      (hlink : g.HasLink link) : Hangs g link.frame (path ++ [link.transform])

theorem Hangs.eq_base_or_step {frame : Json} {path : List (Matrix R)} (h : g.Hangs frame path) :
    (frame = g.base ∧ path = []) ∨ ∃ link above, frame = link.frame ∧ path = above ++ [link.transform] ∧
      g.Hangs link.parent above ∧ g.HasLink link := by
  cases h with
  | base => exact Or.inl ⟨rfl, rfl⟩
  | step hparent hlink => exact Or.inr ⟨_, _, rfl, rfl, hparent, hlink⟩

/-- Where the base hangs from nothing, there is one way down to every frame. -/
theorem Hangs.unique (hbase : g.parents.lookup g.base = none) {frame : Json} {path other : List (Matrix R)}
    (h : g.Hangs frame path) (h' : g.Hangs frame other) : path = other := by
  induction h generalizing other with
  | base =>
      rcases h'.eq_base_or_step with ⟨-, rfl⟩ | ⟨link, above, hframe, -, -, hlink⟩
      · rfl
      · rw [hframe, hlink.parent] at hbase
        cases hbase
  | @step link path _ hlink ih =>
      rcases h'.eq_base_or_step with ⟨hframe, -⟩ | ⟨link', above, hframe, rfl, habove, hlink'⟩
      · rw [← hframe, hlink.parent] at hbase
        cases hbase
      · -- both links are the one that the graph knows of the frame
        have hparent : link.parent = link'.parent := by
          have hlookup := hlink.parent
          rw [hframe, hlink'.parent] at hlookup
          exact (Option.some.inj hlookup).symm
        have hsame : link = link' := by
          have hlast := hlink.last
          rw [hframe, hparent, hlink'.last] at hlast
          exact (Option.some.inj hlast).symm
        subst hsame
        rw [ih habove]

/-! ## Links that are made once -/

section

variable {same : Matrix R → Matrix R → Bool}

@[simp] theorem base_attach (g : FrameGraph R) (link : FrameLink R) : (g.attach same link).base = g.base := by
  unfold attach
  cases link.geometry with
  | none | some =>
      dsimp only
      split
      · -- the frames were linked before
        split_ifs <;> rfl
      · rfl

theorem base_foldl_attach (links : List (FrameLink R)) (g : FrameGraph R) :
    (links.foldl (attach same) g).base = g.base := by
  induction links generalizing g with
  | nil => rfl
  | cons link rest ih => rw [List.foldl_cons, ih, base_attach]

theorem setEntry_of_notMem {α : Type} {s : String} (value : α) {entries : List (Json × α)}
    (h : .str s ∉ entries.map (·.1)) : Json.setEntry (.str s) value entries = entries ++ [(.str s, value)] := by
  induction entries with
  | nil => rfl
  | cons entry rest ih =>
      obtain ⟨key, old⟩ := entry
      rw [List.map_cons, List.mem_cons, not_or] at h
      have hkey : (key == Json.str s) = false := by
        rw [Bool.eq_false_iff, Ne, Json.beq_str_iff]
        exact fun heq => h.1 heq.symm
      rw [Json.setEntry, hkey, ih h.2]
      rfl

theorem lookup_of_mem {α : Type} {s : String} {value : α} {entries : List (Json × α)}
    (hnodup : (entries.map (·.1)).Nodup) (h : (.str s, value) ∈ entries) :
    entries.lookup (.str s) = some value := by
  induction entries with
  | nil => cases h
  | cons entry rest ih =>
      obtain ⟨key, other⟩ := entry
      rw [List.map_cons, List.nodup_cons] at hnodup
      rcases List.mem_cons.1 h with heq | hrest
      · rw [← heq, List.lookup_cons, Json.str_beq_str, beq_self_eq_true]
      · have hkey : (Json.str s == key) = false := by
          rw [Bool.eq_false_iff, Ne, Json.str_beq_iff]
          rintro rfl
          exact hnodup.1 (List.mem_map.2 ⟨_, hrest, rfl⟩)
        rw [List.lookup_cons, hkey]
        exact ih hnodup.2 hrest

theorem lookup_eq_none_of_notMem {α : Type} {s : String} {entries : List (Json × α)}
    (h : .str s ∉ entries.map (·.1)) : entries.lookup (.str s) = none := by
  rw [List.lookup_eq_none_iff]
  intro entry hentry
  rw [bne, Bool.not_eq_true', Bool.eq_false_iff, Ne, Json.str_beq_iff]
  intro heq
  exact h (heq ▸ List.mem_map_of_mem hentry)

/-- Attaching a frame that is not known yet adds one link. -/
theorem attach_of_unknown {link : FrameLink R} {s : String} (hframe : link.frame = .str s)
    (hparents : link.frame ∉ g.parents.map (·.1)) (hlinks : link.frame ∉ g.links.map (·.frame)) :
    (g.attach same link).base = g.base ∧
      (g.attach same link).parents = g.parents ++ [(link.frame, link.parent)] ∧
      (g.attach same link).links = link :: g.links := by
  have hother : ∀ old ∈ g.links, (old.parent == link.parent && old.frame == link.frame) = false := by
    intro old hold
    rw [Bool.and_eq_false_iff]
    right
    rw [Bool.eq_false_iff, hframe, Ne, Json.beq_str_iff]
    intro heq
    exact hlinks (hframe ▸ heq ▸ List.mem_map_of_mem hold)
  have hnone : g.links.find? (fun old => old.parent == link.parent && old.frame == link.frame) = none := by
    rw [List.find?_eq_none]
    intro old hold
    rw [hother old hold]
    exact Bool.false_ne_true
  have hfilter : g.links.filter (fun old => !(old.parent == link.parent && old.frame == link.frame)) = g.links := by
    rw [List.filter_eq_self]
    intro old hold
    rw [hother old hold]
    rfl
  have hentry : Json.setEntry link.frame link.parent g.parents = g.parents ++ [(link.frame, link.parent)] := by
    rw [hframe] at hparents ⊢
    exact setEntry_of_notMem _ hparents
  unfold attach
  -- no link is replaced by this one, whether it carries a geometry or not
  cases link.geometry with
  | none =>
      simp only [link?, hnone, relink, hfilter, hentry]
      exact ⟨trivial, trivial, trivial⟩
  | some geometry =>
      simp only [link?, hnone, relink, hfilter, hentry]
      exact ⟨trivial, trivial, trivial⟩

/-- Links of different frames are all there when they have been made. -/
theorem foldl_attach (same : Matrix R → Matrix R → Bool) {links : List (FrameLink R)}
    (htexts : ∀ link ∈ links, ∃ s, link.frame = .str s)
    (hparents : (g.parents.map (·.1) ++ links.map (·.frame)).Nodup)
    (hlinks : ∀ link ∈ links, link.frame ∉ g.links.map (·.frame)) :
    (links.foldl (attach same) g).base = g.base ∧
      (links.foldl (attach same) g).parents = g.parents ++ links.map (fun link => (link.frame, link.parent)) ∧
      (links.foldl (attach same) g).links = links.reverse ++ g.links := by
  induction links generalizing g with
  | nil => simp
  | cons link rest ih =>
      rcases htexts link (List.mem_cons_self ..) with ⟨s, hs⟩
      have hnew : link.frame ∉ g.parents.map (·.1) := by
        intro hmem
        exact (List.nodup_append.1 hparents).2.2 _ hmem _ (List.mem_cons_self ..) rfl
      rcases attach_of_unknown hs hnew (hlinks link (List.mem_cons_self ..)) with
        ⟨hbase, hparents', hlinks'⟩
      have hrest := ih (g := g.attach same link) (fun other hother => htexts other (List.mem_cons_of_mem _ hother))
        (by rw [hparents']; simpa [List.append_assoc] using hparents) ?_
      · rw [hbase, hparents', hlinks'] at hrest
        simpa using hrest
      · intro other hother
        rw [hlinks', List.map_cons, List.mem_cons, not_or]
        refine ⟨?_, hlinks other (List.mem_cons_of_mem _ hother)⟩
        -- the links that follow are of other frames
        intro heq
        have hnodup := (List.nodup_append.1 hparents).2.1
        rw [List.map_cons, List.nodup_cons, ← heq] at hnodup
        exact hnodup.1 (List.mem_map_of_mem hother)

/-- Every link that was made by its own frame's name is there in the end. -/
theorem hasLink_foldl {links : List (FrameLink R)} {base : Json}
    (htexts : ∀ link ∈ links, ∃ s, link.frame = .str s) (hparents : ∀ link ∈ links, ∃ s, link.parent = .str s)
    (hnodup : (links.map (·.frame)).Nodup) {link : FrameLink R} (hlink : link ∈ links) :
    (links.foldl (attach same) { base }).HasLink link := by
  rcases foldl_attach same (g := { base }) htexts (by simpa using hnodup) (by simp) with
    ⟨-, hparents', hlinks'⟩
  rcases htexts link hlink with ⟨s, hs⟩
  rcases hparents link hlink with ⟨t, ht⟩
  constructor
  · rw [hparents', List.nil_append, hs]
    refine lookup_of_mem ?_ (List.mem_map.2 ⟨link, hlink, by rw [hs]⟩)
    rwa [List.map_map]
  · rw [link?, hlinks', List.append_nil]
    have hfound :
        (links.reverse.find? fun other => other.parent == link.parent && other.frame == link.frame).isSome := by
      rw [List.find?_isSome]
      refine ⟨link, List.mem_reverse.2 hlink, ?_⟩
      rw [hs, ht, Json.str_beq_str, Json.str_beq_str, beq_self_eq_true, beq_self_eq_true]
      rfl
    rcases Option.isSome_iff_exists.1 hfound with ⟨other, hother⟩
    have hframe : other.frame = link.frame := by
      have hmatch := List.find?_some hother
      rw [Bool.and_eq_true, hs, Json.beq_str_iff] at hmatch
      rw [hmatch.2, hs]
    -- frames differ, so this is the link
    rw [hother, List.inj_on_of_nodup_map hnodup (List.mem_reverse.1 (List.mem_of_find?_eq_some hother)) hlink hframe]

end

end FrameGraph

/-! ## The frame graph of an export -/

namespace Export

open SceneGraph

/-- The frame graph that the links of an export make, where `same` tells which matrices are the same. -/
def graph (same : Matrix R → Matrix R → Bool) (e : Export R) : FrameGraph R :=
  e.issued.foldl (FrameGraph.attach same) { base := .str baseFrame }

theorem base_graph (same : Matrix R → Matrix R → Bool) (e : Export R) :
    (e.graph same).base = .str baseFrame :=
  FrameGraph.base_foldl_attach e.issued _

section

variable [Semiring R] {stage : Stage R} {root : NodeId}

/-- A frame graph in which the tree below a root keeps its place: it is a tree of the issued frames below its base,
and every frame of a node stands where the node stands. -/
structure InPlace (stage : Stage R) (root : NodeId) (g : FrameGraph R) : Prop where
  base_notMem : ∀ p ∈ framesOfTree stage root, g.base ∉ p.names
  base_hangs : g.parents.lookup g.base = none
  frames : g.parents.map (·.1) = (framesOfTree stage root).flatMap NodeFrames.names
  hangs : ∀ p ∈ framesOfTree stage root, ∀ frame ∈ p.names, ∃ path, g.Hangs frame path
  placed : ∀ p ∈ framesOfTree stage root, ∀ frame ∈ p.names, ∀ path, g.Hangs frame path →
    stage.graph.relativeTransform p.node root = .ok path.prod

/-- All links of an export are between texts. -/
theorem texts_of_mem_issued (hg : stage.graph.Linked) (htexts : NamedByTexts stage (stage.graph.descendants root))
    {link : FrameLink R} (hlink : link ∈ (ofTree stage root).issued) :
    (∃ s, link.frame = .str s) ∧ ∃ s, link.parent = .str s := by
  have hnames : ∀ p ∈ framesOfTree stage root, ∀ name ∈ p.names, ∃ s, name = .str s := by
    intro p hp name hname
    rcases text_of_mem_names hg htexts hp hname with ⟨t, ht, -⟩
    exact ⟨t, ht⟩
  have hparents : ∀ p ∈ framesOfTree stage root, ∃ s, p.parent = .str s := by
    intro p hp
    -- the frame of a parent is granted in an earlier level, or it is the base frame
    have hall := framesBelow_induction (P := fun _ frame => ∃ s, frame = .str s) ?_
      (fun q hq _ _ _ => hnames q hq _ (List.mem_cons_self ..)) p hp
    · rcases hall with ⟨⟨-, hparent, -⟩, -⟩
      exact hparent
    · intro entry hentry
      exact ⟨_, congrArg Prod.snd (List.mem_singleton.1 hentry)⟩
  rw [ofTree_eq] at hlink
  rcases List.mem_flatMap.1 hlink with ⟨p, hp, hlink⟩
  constructor
  · refine hnames p hp _ ?_
    rw [← NodeFrames.map_frame_links]
    exact List.mem_map_of_mem hlink
  · rcases List.mem_cons.1 hlink with rfl | hsurface
    · exact hparents p hp
    · rcases List.mem_map.1 hsurface with ⟨surface, -, rfl⟩
      exact hnames p hp _ (List.mem_cons_self ..)

/-- The frames of the graph are the issued ones, in the order in which they were issued. -/
theorem frames_graph (hg : stage.graph.Linked) (htexts : NamedByTexts stage (stage.graph.descendants root))
    (same : Matrix R → Matrix R → Bool) : ((ofTree stage root).graph same).parents.map (·.1) =
      (framesOfTree stage root).flatMap NodeFrames.names := by
  have hnodup := nodup_names_framesOfTree hg htexts
  rw [← names_ofTree, names] at hnodup
  have hparents := (FrameGraph.foldl_attach same (g := { base := .str baseFrame })
    (fun link hlink => (texts_of_mem_issued hg htexts hlink).1) (by simpa using hnodup) (by simp)).2.1
  rw [graph, hparents, List.nil_append, List.map_map, ← names_ofTree]
  rfl

theorem hasLink_graph (hg : stage.graph.Linked) (htexts : NamedByTexts stage (stage.graph.descendants root))
    (same : Matrix R → Matrix R → Bool) {p : NodeFrames R} (hp : p ∈ framesOfTree stage root) {link : FrameLink R}
    (hlink : link ∈ p.links) : ((ofTree stage root).graph same).HasLink link := by
  have hnodup := nodup_names_framesOfTree hg htexts
  rw [← NodeFrames.map_frame_flatMap_links] at hnodup
  have hissued : (ofTree stage root).issued = (framesOfTree stage root).flatMap NodeFrames.links := by
    rw [ofTree_eq]
  refine FrameGraph.hasLink_foldl (fun other hother => (texts_of_mem_issued hg htexts hother).1)
    (fun other hother => (texts_of_mem_issued hg htexts hother).2) ?_ ?_
  · rwa [hissued]
  · rw [hissued]
    exact List.mem_flatMap.2 ⟨p, hp, hlink⟩

/-- A frame stands where a node below the root stands. -/
def StandsAt (stage : Stage R) (root : NodeId) (g : FrameGraph R) (id : NodeId) (frame : Json) : Prop :=
  ∃ path, stage.graph.Descends root id path ∧ g.Hangs frame path

/-- The frame of a node stands where the node stands. -/
theorem standsAt_frame (hg : stage.graph.Linked) (htexts : NamedByTexts stage (stage.graph.descendants root))
    (same : Matrix R → Matrix R → Bool) {p : NodeFrames R} (hp : p ∈ framesOfTree stage root) :
    StandsAt stage root ((ofTree stage root).graph same) p.node p.frame := by
  refine (framesBelow_induction (P := StandsAt stage root ((ofTree stage root).graph same)) ?_ ?_ p hp).2
  · intro entry hentry
    rcases List.mem_singleton.1 hentry with rfl
    exact ⟨[], .root, base_graph same (ofTree stage root) ▸ FrameGraph.Hangs.base⟩
  · -- one link more, and one step further down
    rintro q hq x ⟨path, hx, hhangs⟩ hchild
    rcases exists_nodeFrames_of_mem (issues_framesBelow stage _ [] _) hq with ⟨earlier, n, -, hn, hframes⟩
    have htransform : q.transform = n.transform := by
      rw [hframes]
      rfl
    refine ⟨path ++ [n.transform], hx.child hchild hn, ?_⟩
    rw [← htransform]
    exact FrameGraph.Hangs.step hhangs (hasLink_graph hg htexts same hq (List.mem_cons_self ..))

/-- The frames of surfaces stand where their node stands, too: their links move nothing. -/
theorem exists_hangs (hg : stage.graph.Linked) (htexts : NamedByTexts stage (stage.graph.descendants root))
    (same : Matrix R → Matrix R → Bool) {p : NodeFrames R} (hp : p ∈ framesOfTree stage root) {frame : Json}
    (hframe : frame ∈ p.names) : ∃ path, ((ofTree stage root).graph same).Hangs frame path ∧
      stage.graph.relativeTransform p.node root = .ok path.prod := by
  rcases standsAt_frame hg htexts same hp with ⟨path, hdescends, hhangs⟩
  have hnode : p.node.index < stage.graph.size := by
    rcases exists_nodeFrames_of_mem (issues_framesBelow stage _ [] _) hp with ⟨_, n, -, hn, -⟩
    exact index_lt_of_node? hn
  have hplace := hdescends.relativeTransform_eq_prod hg hnode
  rcases List.mem_cons.1 hframe with rfl | hsurface
  · exact ⟨path, hhangs, hplace⟩
  · rcases List.mem_map.1 hsurface with ⟨surface, hmem, rfl⟩
    have hlink : NodeFrames.surfaceLink p.frame surface.1 ∈ p.links :=
      List.mem_cons_of_mem _ (List.mem_map_of_mem hmem)
    refine ⟨path ++ [Matrix.identity], FrameGraph.Hangs.step hhangs (hasLink_graph hg htexts same hp hlink), ?_⟩
    rw [hplace, List.prod_append, List.prod_singleton]
    exact congrArg Except.ok (Matrix.mul_identity _).symm

/-- An export issues frames for the nodes below the root, and in its frame graph they keep their place exactly if no
node has the name of the base frame. -/
theorem inPlace_iff (hg : stage.graph.Linked) (htexts : NamedByTexts stage (stage.graph.descendants root))
    (same : Matrix R → Matrix R → Bool) :
    (framesOfTree stage root).map (·.node) = stage.graph.descendants root ∧
      (ofTree stage root).issued = (framesOfTree stage root).flatMap NodeFrames.links ∧
      (InPlace stage root ((ofTree stage root).graph same) ↔
        ∀ id ∈ stage.graph.descendants root, stage.graph.name id ≠ .str baseFrame) := by
  refine ⟨map_node_framesOfTree hg root, by rw [ofTree_eq], ?_, ?_⟩
  · intro h id hid hname
    have hmem := (baseFrame_mem_names_iff hg htexts).2 ⟨id, hid, hname⟩
    rcases List.mem_flatMap.1 hmem with ⟨p, hp, hbase⟩
    refine h.base_notMem p hp ?_
    rwa [base_graph]
  · intro hfree
    have hbase : .str baseFrame ∉ (framesOfTree stage root).flatMap NodeFrames.names := by
      rw [baseFrame_mem_names_iff hg htexts]
      rintro ⟨id, hid, hname⟩
      exact hfree id hid hname
    have hparents := frames_graph hg htexts same
    have hhangs : ((ofTree stage root).graph same).parents.lookup ((ofTree stage root).graph same).base = none := by
      rw [base_graph]
      refine FrameGraph.lookup_eq_none_of_notMem ?_
      rwa [hparents]
    refine ⟨?_, hhangs, hparents, ?_, ?_⟩
    · intro p hp hmem
      rw [base_graph] at hmem
      exact hbase (List.mem_flatMap.2 ⟨p, hp, hmem⟩)
    · intro p hp frame hframe
      rcases exists_hangs hg htexts same hp hframe with ⟨path, hpath, -⟩
      exact ⟨path, hpath⟩
    · intro p hp frame hframe path hpath
      rcases exists_hangs hg htexts same hp hframe with ⟨other, hother, hplace⟩
      rw [hpath.unique hhangs hother]
      exact hplace

end

/-! ## A yard -/

/-- A scene with a name that comes twice and one that looks as if it were issued. -/
def yardScene : Branch ℤ :=
  .node (.str "Level") Matrix.identity .plain [
    .node (.str "Gate") ⟨⟨1, 0, 0, 5⟩, ⟨0, 1, 0, 0⟩, ⟨0, 0, 1, 0⟩, ⟨0, 0, 0, 1⟩⟩
      (.meshInstance { mesh := some { surfaces := [{ geometry := {} }] } }) [
      .node (.str "Gate") ⟨⟨0, -1, 0, 2⟩, ⟨1, 0, 0, 0⟩, ⟨0, 0, 1, 0⟩, ⟨0, 0, 0, 1⟩⟩ .plain []],
    .node (.str "Gate_surface0") Matrix.identity .plain []]

/-- The live yard. -/
def yardStage : Stage ℤ :=
  (Stage.plant yardScene {}).2

theorem inPlace_yardStage :
    yardStage.graph.Linked ∧ NamedByTexts yardStage (yardStage.graph.descendants ⟨0⟩) ∧
      InPlace yardStage ⟨0⟩ ((ofTree yardStage ⟨0⟩).graph fun m n => decide (m = n)) := by
  have hlinked : yardStage.graph.Linked := (Stage.plant_spec yardScene Linked.empty).linked
  have hnames : ∀ id ∈ yardStage.graph.descendants ⟨0⟩,
      ∃ s, yardStage.graph.name id = .str s ∧ s ≠ baseFrame := by
    intro id hid
    have hids : yardStage.graph.descendants ⟨0⟩ = [⟨1⟩, ⟨3⟩, ⟨2⟩] := rfl
    rw [hids] at hid
    rcases List.mem_cons.1 hid with rfl | hid
    · exact ⟨"Gate", rfl, by decide⟩
    rcases List.mem_cons.1 hid with rfl | hid
    · exact ⟨"Gate_surface0", rfl, by decide⟩
    rcases List.mem_singleton.1 hid with rfl
    exact ⟨"Gate", rfl, by decide⟩
  have htexts : NamedByTexts yardStage (yardStage.graph.descendants ⟨0⟩) := by
    intro id hid
    rcases hnames id hid with ⟨s, hs, -⟩
    exact ⟨s, hs⟩
  refine ⟨hlinked, htexts, (inPlace_iff hlinked htexts _).2.2.2 ?_⟩
  intro id hid hname
  rcases hnames id hid with ⟨s, hs, hne⟩
  exact hne (Json.str.inj (hs.symm.trans hname))

/-- A scene in which a node is named like the base frame. -/
def globeScene : Branch ℤ :=
  .node (.str "Level") Matrix.identity .plain [
    .node (.str "world") ⟨⟨1, 0, 0, 1⟩, ⟨0, 1, 0, 2⟩, ⟨0, 0, 1, 3⟩, ⟨0, 0, 0, 1⟩⟩
      (.meshInstance { mesh := some { surfaces := [{ geometry := {} }] } }) []]

/-- The live globe. -/
def globeStage : Stage ℤ :=
  (Stage.plant globeScene {}).2

/-- The globe is issued the base frame, which then hangs from itself: nothing keeps its place. -/
theorem not_inPlace_globeStage :
    globeStage.graph.Linked ∧ NamedByTexts globeStage (globeStage.graph.descendants ⟨0⟩) ∧
      (ofTree globeStage ⟨0⟩).names = [.str baseFrame, .str "world_surface0"] ∧
      ((ofTree globeStage ⟨0⟩).graph fun m n => decide (m = n)).parents.lookup (.str baseFrame) =
        some (.str baseFrame) ∧
      ¬ InPlace globeStage ⟨0⟩ ((ofTree globeStage ⟨0⟩).graph fun m n => decide (m = n)) := by
  have hlookup : ((ofTree globeStage ⟨0⟩).graph fun m n => decide (m = n)).parents.lookup (.str baseFrame) =
      some (.str baseFrame) := rfl
  refine ⟨(Stage.plant_spec globeScene Linked.empty).linked, ?_, rfl, hlookup, ?_⟩
  · intro id hid
    rcases List.mem_singleton.1 hid with rfl
    exact ⟨"world", rfl⟩
  · intro h
    have hnone := h.base_hangs
    rw [base_graph, hlookup] at hnone
    cases hnone

end Export

end LevelPrep
