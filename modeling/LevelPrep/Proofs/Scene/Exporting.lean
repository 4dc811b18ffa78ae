import LevelPrep.Proofs.Scene.Levels
import LevelPrep.Scene.Frames
import Mathlib.Data.List.Perm.Subperm

/-!
# What an export issues

An export goes through a tree level by level and hands out names, and each name depends on the ones that were
handed out before.  `Export.framesBelow` says without any state what is issued for which node, and
`Export.ofTree_eq` that this is what an export does.

There are more numbers than names taken (`Export.exists_numberedName_notMem`), so a fresh name is new, and no name is
issued twice (`Export.nodup_names_framesOfTree`).  Nothing keeps the name of the base frame back: it is issued to the
first node below the root that has it, and to nothing else (`Export.baseFrame_mem_names_iff`).
-/

namespace LevelPrep

variable {R : Type}

/-! ## Fresh names -/

namespace Export

/-- A name with a number. -/
def numberedName (name : String) (k : Nat) : String :=
  name ++ "_" ++ toString k

theorem numberedName_injective (name : String) : Function.Injective (numberedName name) := by
  intro k l h
  have hlist := congrArg String.toList h
  simp only [numberedName, String.toList_append, Nat.toString_eq_ofList_toDigits, String.toList_ofList] at hlist
  have hvalue := congrArg (fun digits => Nat.ofDigitChars 10 digits 0) (List.append_cancel_left hlist)
  simpa only [Nat.ofDigitChars_toDigits (by decide : 1 < 10) (by decide : 10 ≤ 10)] using hvalue

theorem contains_str_iff {taken : List Json} {s : String} : taken.contains (.str s) = true ↔ .str s ∈ taken := by
  rw [List.contains_iff_exists_mem_beq]
  constructor
  · rintro ⟨name, hname, hbeq⟩
    rwa [(Json.str_beq_iff name s).1 hbeq] at hname
  · intro h
    exact ⟨_, h, by simp⟩

/-- There are numbers enough: some numbered name is not taken. -/
theorem exists_numberedName_notMem (taken : List Json) (name : String) :
    ∃ k < taken.length + 1, Json.str (numberedName name (k + 2)) ∉ taken := by
  by_contra hall
  have hsubset : (List.range (taken.length + 1)).map (fun k => Json.str (numberedName name (k + 2))) ⊆ taken := by
    intro candidate hcandidate
    rcases List.mem_map.1 hcandidate with ⟨k, hk, rfl⟩
    by_contra hfree
    exact hall ⟨k, List.mem_range.1 hk, hfree⟩
  have hnodup : ((List.range (taken.length + 1)).map fun k => Json.str (numberedName name (k + 2))).Nodup := by
    refine List.Nodup.map ?_ List.nodup_range
    intro k l h
    have hnumbers := numberedName_injective name (Json.str.inj h)
    omega
  -- one candidate more than there are names taken
  have hlength := (hnodup.subperm hsubset).length_le
  rw [List.length_map, List.length_range] at hlength
  omega

/-- A name that is free is kept. -/
theorem freshName_of_notMem {taken : List Json} {s : String} (h : .str s ∉ taken) :
    freshName taken (.str s) = .str s := by
  have hfree : taken.contains (.str s) = false := by
    rw [Bool.eq_false_iff]
    exact fun hmem => h (contains_str_iff.1 hmem)
  simp only [freshName, hfree, Bool.false_eq_true, if_false]

/-- A name that is taken gets the least number from two on with which it is not. -/
theorem exists_freshName_of_mem {taken : List Json} {s : String} (h : .str s ∈ taken) :
    ∃ k, freshName taken (.str s) = .str (numberedName s (k + 2)) ∧ .str (numberedName s (k + 2)) ∉ taken ∧
      ∀ j < k, Json.str (numberedName s (j + 2)) ∈ taken := by
  have hfree : ∀ k, (!taken.contains (Json.str (numberedName s (k + 2)))) = true ↔
      Json.str (numberedName s (k + 2)) ∉ taken := by
    intro k
    rw [Bool.not_eq_true', Bool.eq_false_iff, Ne, contains_str_iff]
  -- the names that are tried are one more than those that are taken, so one of them is free
  have hfind : ((List.range (taken.length + 1)).find? fun k =>
      !taken.contains (Json.str (numberedName s (k + 2)))).isSome := by
    rcases exists_numberedName_notMem taken s with ⟨k, hk, hnot⟩
    rw [List.find?_isSome]
    exact ⟨k, List.mem_range.2 hk, (hfree k).2 hnot⟩
  rcases Option.isSome_iff_exists.1 hfind with ⟨k, hk⟩
  -- the search goes through the numbers in order, so all before the one it found are taken
  have hleast := List.find?_range_eq_some.1 hk
  refine ⟨k, ?_, (hfree k).1 hleast.1, ?_⟩
  · have hfound : (((List.range (taken.length + 1)).map fun k => Json.str (numberedName s (k + 2))).find?
        fun candidate => !taken.contains candidate) = some (.str (numberedName s (k + 2))) := by
      rw [List.find?_map]
      exact congrArg (Option.map _) hk
    show (if taken.contains (.str s) then _ else _) = _
    rw [if_pos (contains_str_iff.2 h)]
    exact congrArg (Option.getD · (.str s)) hfound
  · intro j hj
    have htaken := hleast.2.2 j hj
    by_contra hnot
    rw [(hfree j).2 hnot] at htaken
    cases htaken

/-- A fresh name is the text that was asked for, or that text with a number. -/
theorem freshName_str (taken : List Json) (s : String) :
    ∃ t, freshName taken (.str s) = .str t ∧ .str t ∉ taken ∧ (t = s ∨ ∃ k, t = numberedName s k) := by
  by_cases h : Json.str s ∈ taken
  · rcases exists_freshName_of_mem h with ⟨k, hk, hnot, -⟩
    exact ⟨_, hk, hnot, Or.inr ⟨_, rfl⟩⟩
  · exact ⟨s, freshName_of_notMem h, h, Or.inl rfl⟩

end Export

/-! ## What is issued for a node -/

/-- The frames that are issued for a node, with what its surfaces carry. -/
structure NodeFrames (R : Type) where
  node : NodeId
  parent : Json
  frame : Json
  transform : Matrix R
  /-- The frames of the surfaces, each with its geometry. -/
  surfaces : List (Json × Geometry)

namespace NodeFrames

/-- The frame of the node and those of its surfaces. -/
def names (p : NodeFrames R) : List Json :=
  p.frame :: p.surfaces.map (·.1)

/-- The node with its frame, below which the frames of its children are linked. -/
def place (p : NodeFrames R) : NodeId × Json :=
  (p.node, p.frame)

def geometries (p : NodeFrames R) : List (String × Geometry) :=
  p.surfaces.map fun (frame, geometry) => (frame.display, geometry)

variable [Zero R] [One R]

/-- The link of the frame of a surface to that of its node. -/
def surfaceLink (frame surface : Json) : FrameLink R :=
  { frame := surface, parent := frame, transform := Matrix.identity, geometry := some surface }

/-- The links of all frames of the node. -/
def links (p : NodeFrames R) : List (FrameLink R) :=
  { frame := p.frame, parent := p.parent, transform := p.transform } ::
    p.surfaces.map fun surface => surfaceLink p.frame surface.1

@[simp] theorem map_frame_links (p : NodeFrames R) : p.links.map (·.frame) = p.names := by
  simp [links, names, surfaceLink]

theorem map_frame_flatMap_links (ps : List (NodeFrames R)) :
    (ps.flatMap links).map (·.frame) = ps.flatMap names := by
  simp [List.map_flatMap]

end NodeFrames

/-- The geometry of the surfaces that a node shows. -/
def Stage.shownGeometry (stage : Stage R) (id : NodeId) : List Geometry :=
  match stage.graph.mesh? id with
  | none => []
  | some mesh => mesh.surfaces.map fun surface => stage.resources.geometry surface.geometry

namespace Export

/-- The frames of the surfaces of a node from an index on. -/
def surfaceFrames (frame : Json) : (taken : List Json) → (index : Nat) → List Geometry → List (Json × Geometry)
  | _, _, [] => []
  | taken, index, geometry :: rest =>
    let surface := freshName taken (.str (frame.display ++ "_surface" ++ toString index))
    (surface, geometry) :: surfaceFrames frame (taken ++ [surface]) (index + 1) rest

/-- The frames of a node below the frame of its parent. -/
def nodeFrames (stage : Stage R) (taken : List Json) (parent : Json) (id : NodeId) (n : Node R) : NodeFrames R :=
  let frame := freshName taken n.name
  { node := id, parent, frame, transform := n.transform
    surfaces := surfaceFrames frame (taken ++ [frame]) 0 (stage.shownGeometry id) }

/-- The frames of nodes, each below a frame. -/
def framesOf (stage : Stage R) : (taken : List Json) → List (NodeId × Json) → List (NodeFrames R)
  | _, [] => []
  | taken, (id, parent) :: rest =>
    match stage.graph.node? id with
    | none => framesOf stage taken rest
    | some n =>
      let p := nodeFrames stage taken parent id n
      p :: framesOf stage (taken ++ p.names) rest

/-- The children of the nodes of a level, each with the frame it hangs from. -/
def nextLevel (stage : Stage R) (level : List (NodeId × Json)) : List (NodeId × Json) :=
  level.flatMap fun (id, frame) => (stage.graph.children id).map fun child => (child, frame)

/-- The frames of all nodes below a level, level by level. -/
def framesBelow (stage : Stage R) : (fuel : Nat) → (taken : List Json) → (level : List (NodeId × Json)) →
    List (NodeFrames R)
  | 0, _, _ => []
  | fuel + 1, taken, level =>
    let next := framesOf stage taken (nextLevel stage level)
    next ++ framesBelow stage fuel (taken ++ next.flatMap NodeFrames.names) (next.map NodeFrames.place)

/-- The frames of all nodes below a root, node by node in the order in which they are issued. -/
def framesOfTree (stage : Stage R) (root : NodeId) : List (NodeFrames R) :=
  framesBelow stage (stage.graph.size + 1) [] [(root, .str baseFrame)]

theorem framesOf_append (stage : Stage R) (taken : List Json) (first rest : List (NodeId × Json)) :
    framesOf stage taken (first ++ rest) = framesOf stage taken first ++
      framesOf stage (taken ++ (framesOf stage taken first).flatMap NodeFrames.names) rest := by
  induction first generalizing taken with
  | nil => simp [framesOf]
  | cons entry first ih =>
      obtain ⟨id, parent⟩ := entry
      rw [List.cons_append, framesOf, framesOf]
      cases stage.graph.node? id with
      | none => exact ih taken
      | some n =>
          dsimp only
          rw [ih, List.flatMap_cons, List.append_assoc, List.cons_append]

@[simp] theorem framesBelow_nil (stage : Stage R) (fuel : Nat) (taken : List Json) :
    framesBelow stage fuel taken [] = [] := by
  induction fuel generalizing taken with
  | zero => rfl
  | succ fuel ih => simp [framesBelow, nextLevel, framesOf, ih]

/-! ## The nodes an export goes through -/

variable {stage : Stage R} {root : NodeId}

theorem map_node_framesOf {taken : List Json} {level : List (NodeId × Json)}
    (hlevel : ∀ entry ∈ level, ∃ n, stage.graph.node? entry.1 = some n) :
    (framesOf stage taken level).map (·.node) = level.map (·.1) := by
  induction level generalizing taken with
  | nil => rfl
  | cons entry rest ih =>
      obtain ⟨n, hn⟩ := hlevel entry (List.mem_cons_self ..)
      obtain ⟨id, parent⟩ := entry
      rw [framesOf, hn]
      exact congrArg (id :: ·) (ih fun entry hentry => hlevel entry (List.mem_cons_of_mem _ hentry))

theorem mem_level_of_mem_framesOf {taken : List Json} {level : List (NodeId × Json)} {p : NodeFrames R}
    (hp : p ∈ framesOf stage taken level) : (p.node, p.parent) ∈ level := by
  induction level generalizing taken with
  | nil => cases hp
  | cons entry rest ih =>
      obtain ⟨id, parent⟩ := entry
      rw [framesOf] at hp
      cases hn : stage.graph.node? id with
      | none =>
          rw [hn] at hp
          exact List.mem_cons_of_mem _ (ih hp)
      | some n =>
          rw [hn] at hp
          rcases List.mem_cons.1 hp with rfl | hp
          · exact List.mem_cons_self ..
          · exact List.mem_cons_of_mem _ (ih hp)

theorem map_fst_nextLevel (stage : Stage R) (level : List (NodeId × Json)) :
    (nextLevel stage level).map (·.1) = (level.map (·.1)).flatMap stage.graph.children := by
  simp [nextLevel, List.map_flatMap, List.flatMap_map, Function.comp_def]

theorem exists_node?_of_mem_nextLevel (hg : stage.graph.Linked) {level : List (NodeId × Json)}
    {entry : NodeId × Json} (hentry : entry ∈ nextLevel stage level) :
    ∃ n, stage.graph.node? entry.1 = some n := by
  have hmem : entry.1 ∈ (nextLevel stage level).map (·.1) := List.mem_map_of_mem hentry
  rw [map_fst_nextLevel] at hmem
  rcases List.mem_flatMap.1 hmem with ⟨parent, -, hchild⟩
  exact SceneGraph.exists_node?_iff.2 (hg.index_lt_of_mem_children hchild).2

/-- A level is followed by the children of its nodes. -/
theorem map_node_nextLevel (hg : stage.graph.Linked) (taken : List Json) (level : List (NodeId × Json)) :
    (framesOf stage taken (nextLevel stage level)).map (·.node) =
      (level.map (·.1)).flatMap stage.graph.children := by
  rw [map_node_framesOf fun entry hentry => exists_node?_of_mem_nextLevel hg hentry, map_fst_nextLevel]

theorem map_node_framesBelow (hg : stage.graph.Linked) (fuel : Nat) (taken : List Json)
    (level : List (NodeId × Json)) : (framesBelow stage fuel taken level).map (·.node) =
      stage.graph.levelsFrom fuel ((level.map (·.1)).flatMap stage.graph.children) := by
  induction fuel generalizing taken level with
  | zero => rfl
  | succ fuel ih =>
      have hnext := map_node_nextLevel hg taken level
      rw [framesBelow, SceneGraph.levelsFrom_succ, List.map_append, ih, hnext, List.map_map]
      exact congrArg (fun nodes => _ ++ stage.graph.levelsFrom fuel (nodes.flatMap stage.graph.children)) hnext

/-- Every node below the root is given its frames, once, and no other node is. -/
theorem map_node_framesOfTree (hg : stage.graph.Linked) (root : NodeId) :
    (framesOfTree stage root).map (·.node) = stage.graph.descendants root := by
  rcases hg.exists_covered root with ⟨rank, hcov⟩
  have hlevels := SceneGraph.levelsFrom_add hg hcov 1
  rw [framesOfTree, map_node_framesBelow hg]
  simpa [SceneGraph.descendants] using hlevels

/-- What holds of the nodes of a level with their frames, and goes from a node to its children, holds of all nodes
below the level. -/
theorem framesBelow_induction {P : NodeId → Json → Prop} {fuel : Nat} {taken : List Json}
    {level : List (NodeId × Json)} (hlevel : ∀ entry ∈ level, P entry.1 entry.2)
    (hstep : ∀ p ∈ framesBelow stage fuel taken level, ∀ x, P x p.parent → p.node ∈ stage.graph.children x →
      P p.node p.frame) :
    ∀ p ∈ framesBelow stage fuel taken level,
      (∃ x, P x p.parent ∧ p.node ∈ stage.graph.children x) ∧ P p.node p.frame := by
  induction fuel generalizing taken level with
  | zero =>
      intro p hp
      cases hp
  | succ fuel ih =>
      have hnext : ∀ p ∈ framesOf stage taken (nextLevel stage level),
          (∃ x, P x p.parent ∧ p.node ∈ stage.graph.children x) ∧ P p.node p.frame := by
        intro p hp
        rcases List.mem_flatMap.1 (mem_level_of_mem_framesOf hp) with ⟨entry, hentry, hbelow⟩
        rcases List.mem_map.1 hbelow with ⟨child, hchild, heq⟩
        obtain ⟨rfl, hparent⟩ := Prod.mk.inj heq
        have hP := hlevel entry hentry
        rw [hparent] at hP
        exact ⟨⟨entry.1, hP, hchild⟩, hstep p (List.mem_append_left _ hp) entry.1 hP hchild⟩
      intro p hp
      rcases List.mem_append.1 hp with hp | hp
      · exact hnext p hp
      · refine ih ?_ ?_ p hp
        · intro entry hentry
          rcases List.mem_map.1 hentry with ⟨q, hq, rfl⟩
          exact (hnext q hq).2
        · intro q hq
          exact hstep q (List.mem_append_right _ hq)

/-! ## The names an export issues -/

/-- Frames that are issued one after another, where some names are taken already. -/
def Issues (stage : Stage R) : (taken : List Json) → List (NodeFrames R) → Prop
  | _, [] => True
  | taken, p :: rest =>
    (∃ n, stage.graph.node? p.node = some n ∧ p = nodeFrames stage taken p.parent p.node n) ∧
      Issues stage (taken ++ p.names) rest

theorem issues_append {taken : List Json} {ps qs : List (NodeFrames R)} (hps : Issues stage taken ps)
    (hqs : Issues stage (taken ++ ps.flatMap NodeFrames.names) qs) : Issues stage taken (ps ++ qs) := by
  induction ps generalizing taken with
  | nil => simpa using hqs
  | cons p rest ih =>
      refine ⟨hps.1, ih hps.2 ?_⟩
      rwa [List.append_assoc]

theorem issues_framesOf (stage : Stage R) (taken : List Json) (level : List (NodeId × Json)) :
    Issues stage taken (framesOf stage taken level) := by
  induction level generalizing taken with
  | nil => trivial
  | cons entry rest ih =>
      obtain ⟨id, parent⟩ := entry
      rw [framesOf]
      cases hn : stage.graph.node? id with
      | none => exact ih taken
      | some n => exact ⟨⟨n, hn, rfl⟩, ih _⟩

theorem issues_framesBelow (stage : Stage R) (fuel : Nat) (taken : List Json) (level : List (NodeId × Json)) :
    Issues stage taken (framesBelow stage fuel taken level) := by
  induction fuel generalizing taken level with
  | zero => trivial
  | succ fuel ih => exact issues_append (issues_framesOf stage taken _) (ih _ _)

/-- Every node is issued its frames when some of the other names are taken. -/
theorem exists_nodeFrames_of_mem {taken : List Json} {ps : List (NodeFrames R)} (h : Issues stage taken ps)
    {p : NodeFrames R} (hp : p ∈ ps) : ∃ earlier n, earlier ⊆ taken ++ ps.flatMap NodeFrames.names ∧
      stage.graph.node? p.node = some n ∧ p = nodeFrames stage earlier p.parent p.node n := by
  induction ps generalizing taken with
  | nil => cases hp
  | cons q rest ih =>
      rcases List.mem_cons.1 hp with rfl | hp
      · rcases h.1 with ⟨n, hn, hframes⟩
        exact ⟨taken, n, List.subset_append_left _ _, hn, hframes⟩
      · rcases ih h.2 hp with ⟨earlier, n, hearlier, hn, hframes⟩
        rw [List.append_assoc] at hearlier
        exact ⟨earlier, n, hearlier, hn, hframes⟩

theorem surfaceFrames_spec (frame : Json) (taken : List Json) (index : Nat) (surfaces : List Geometry) :
    ((surfaceFrames frame taken index surfaces).map (·.1)).Nodup ∧
      ∀ name ∈ (surfaceFrames frame taken index surfaces).map (·.1),
        name ∉ taken ∧ ∃ t, name = .str t ∧ '_' ∈ t.toList := by
  induction surfaces generalizing taken index with
  | nil => exact ⟨List.nodup_nil, by simp [surfaceFrames]⟩
  | cons surface rest ih =>
      rcases freshName_str taken (frame.display ++ "_surface" ++ toString index) with ⟨t, ht, hnot, hform⟩
      -- the name just granted is taken for the rest, so none of the rest is equal to it
      rcases ih (taken ++ [.str t]) (index + 1) with ⟨hnodup, hrest⟩
      have hmark : '_' ∈ t.toList := by
        rcases hform with rfl | ⟨k, rfl⟩ <;> simp [numberedName]
      rw [surfaceFrames, ht, List.map_cons]
      refine ⟨List.nodup_cons.2 ⟨?_, hnodup⟩, ?_⟩
      · intro hmem
        exact (hrest _ hmem).1 (List.mem_append_right _ (List.mem_singleton.2 rfl))
      · intro name hname
        rcases List.mem_cons.1 hname with rfl | hname
        · exact ⟨hnot, t, rfl, hmark⟩
        · rcases hrest name hname with ⟨hnew, htext⟩
          exact ⟨fun hold => hnew (List.mem_append_left _ hold), htext⟩

/-- The frames of a node whose name is a text are new texts.  All but one name are marked by an underscore, and
that one is the name of the node. -/
theorem nodeFrames_spec (stage : Stage R) (taken : List Json) (parent : Json) (id : NodeId) {n : Node R} {s : String}
    (hn : n.name = .str s) : (nodeFrames stage taken parent id n).names.Nodup ∧
      ∀ name ∈ (nodeFrames stage taken parent id n).names,
        name ∉ taken ∧ ∃ t, name = .str t ∧ (t = s ∨ '_' ∈ t.toList) := by
  rcases freshName_str taken s with ⟨t, ht, hnot, hform⟩
  rcases surfaceFrames_spec (.str t) (taken ++ [.str t]) 0 (stage.shownGeometry id) with ⟨hnodup, hsurfaces⟩
  have hnames : (nodeFrames stage taken parent id n).names =
      .str t :: (surfaceFrames (.str t) (taken ++ [.str t]) 0 (stage.shownGeometry id)).map (·.1) := by
    simp only [nodeFrames, NodeFrames.names, hn, ht]
  rw [hnames]
  refine ⟨List.nodup_cons.2 ⟨?_, hnodup⟩, ?_⟩
  · intro hmem
    exact (hsurfaces _ hmem).1 (List.mem_append_right _ (List.mem_singleton.2 rfl))
  · intro name hname
    rcases List.mem_cons.1 hname with rfl | hname
    · refine ⟨hnot, t, rfl, ?_⟩
      rcases hform with rfl | ⟨k, rfl⟩
      · exact Or.inl rfl
      · exact Or.inr (by simp [numberedName])
    · rcases hsurfaces name hname with ⟨hnew, u, hu, hmark⟩
      exact ⟨fun hold => hnew (List.mem_append_left _ hold), u, hu, Or.inr hmark⟩

/-- The nodes are named by texts. -/
def NamedByTexts (stage : Stage R) (ids : List NodeId) : Prop :=
  ∀ id ∈ ids, ∃ s, stage.graph.name id = .str s

theorem name_of_node? {id : NodeId} {n : Node R} (h : stage.graph.node? id = some n) :
    stage.graph.name id = n.name := by
  simp [SceneGraph.name, h]

/-- No name is issued twice. -/
theorem nodup_names_of_issues {taken : List Json} {ps : List (NodeFrames R)} (h : Issues stage taken ps)
    (htexts : NamedByTexts stage (ps.map (·.node))) (htaken : taken.Nodup) :
    (taken ++ ps.flatMap NodeFrames.names).Nodup := by
  induction ps generalizing taken with
  | nil => simpa using htaken
  | cons p rest ih =>
      rcases h.1 with ⟨n, hn, hframes⟩
      rcases htexts p.node (List.mem_cons_self ..) with ⟨s, hs⟩
      rw [name_of_node? hn] at hs
      rcases nodeFrames_spec stage taken p.parent p.node hs with ⟨hnodup, hnew⟩
      rw [← hframes] at hnodup hnew
      rw [List.flatMap_cons, ← List.append_assoc]
      -- what was issued for this node is taken for all later ones
      refine ih h.2 (fun id hid => htexts id (List.mem_cons_of_mem _ hid)) ?_
      refine List.nodup_append.2 ⟨htaken, hnodup, ?_⟩
      rintro name hname _ hagain rfl
      exact (hnew name hagain).1 hname

theorem nodup_names_framesOfTree (hg : stage.graph.Linked)
    (htexts : NamedByTexts stage (stage.graph.descendants root)) :
    ((framesOfTree stage root).flatMap NodeFrames.names).Nodup := by
  rw [← map_node_framesOfTree hg] at htexts
  exact nodup_names_of_issues (issues_framesBelow stage _ [] _) htexts List.nodup_nil

/-- Issued names are texts.  A name without an underscore is the name of the node that it is issued for. -/
theorem text_of_mem_names (hg : stage.graph.Linked) (htexts : NamedByTexts stage (stage.graph.descendants root))
    {p : NodeFrames R} (hp : p ∈ framesOfTree stage root) {name : Json} (hname : name ∈ p.names) :
    ∃ t, name = .str t ∧ (stage.graph.name p.node = .str t ∨ '_' ∈ t.toList) := by
  rcases exists_nodeFrames_of_mem (issues_framesBelow stage _ [] _) hp with ⟨earlier, n, -, hn, hframes⟩
  have hnode : p.node ∈ stage.graph.descendants root := by
    rw [← map_node_framesOfTree hg]
    exact List.mem_map_of_mem hp
  rcases htexts p.node hnode with ⟨s, hs⟩
  have hspec := (nodeFrames_spec stage earlier p.parent p.node ((name_of_node? hn).symm.trans hs)).2
  rw [← hframes] at hspec
  rcases (hspec name hname).2 with ⟨t, ht, hform⟩
  refine ⟨t, ht, hform.imp ?_ id⟩
  rintro rfl
  exact hs

/-- The name of the base frame is issued only where a node below the root has it. -/
theorem baseFrame_mem_names_iff (hg : stage.graph.Linked)
    (htexts : NamedByTexts stage (stage.graph.descendants root)) :
    .str baseFrame ∈ (framesOfTree stage root).flatMap NodeFrames.names ↔
      ∃ id ∈ stage.graph.descendants root, stage.graph.name id = .str baseFrame := by
  constructor
  · intro hmem
    rcases List.mem_flatMap.1 hmem with ⟨p, hp, hname⟩
    rcases text_of_mem_names hg htexts hp hname with ⟨t, ht, hform⟩
    obtain rfl : baseFrame = t := Json.str.inj ht
    refine ⟨p.node, ?_, hform.resolve_right (by decide)⟩
    rw [← map_node_framesOfTree hg]
    exact List.mem_map_of_mem hp
  · rintro ⟨id, hid, hname⟩
    by_contra hnot
    rw [← map_node_framesOfTree hg] at hid
    rcases List.mem_map.1 hid with ⟨p, hp, rfl⟩
    rcases exists_nodeFrames_of_mem (issues_framesBelow stage _ [] _) hp with ⟨earlier, n, hearlier, hn, hframes⟩
    -- where the name is free, the node that has it is issued it
    have hfree : Json.str baseFrame ∉ earlier := fun h => hnot (hearlier h)
    have hframe : p.frame = .str baseFrame := by
      rw [hframes]
      show freshName earlier n.name = _
      rw [← name_of_node? hn, hname, freshName_of_notMem hfree]
    exact hnot (List.mem_flatMap.2 ⟨p, hp, by rw [← hframe]; exact List.mem_cons_self ..⟩)

/-! ## What an export does -/

variable [Zero R] [One R]

/-- An export that has issued the frames of more nodes. -/
def add (e : Export R) (ps : List (NodeFrames R)) : Export R where
  issued := e.issued ++ ps.flatMap NodeFrames.links
  geometries := e.geometries ++ ps.flatMap NodeFrames.geometries

@[simp] theorem names_add (e : Export R) (ps : List (NodeFrames R)) :
    (e.add ps).names = e.names ++ ps.flatMap NodeFrames.names := by
  simp [add, names, List.map_flatMap]

@[simp] theorem add_nil (e : Export R) : e.add [] = e := by
  simp [add]

theorem add_add (e : Export R) (ps qs : List (NodeFrames R)) : (e.add ps).add qs = e.add (ps ++ qs) := by
  simp [add]

theorem forM_issueSurface {α : Type} (frame : Json) (shown : α → Geometry) (index : Nat) (surfaces : List α)
    (e : Export R) :
    ((surfaces.zipIdx index).forM fun entry => issueSurface frame entry.2 (shown entry.1)) e =
      ((), { issued := e.issued ++ (surfaceFrames frame e.names index (surfaces.map shown)).map
               fun surface => NodeFrames.surfaceLink frame surface.1
             geometries := e.geometries ++ (surfaceFrames frame e.names index (surfaces.map shown)).map
               fun (surface, geometry) => (surface.display, geometry) }) := by
  induction surfaces generalizing index e with
  | nil =>
      rw [List.map_nil, surfaceFrames, List.map_nil, List.map_nil, List.append_nil, List.append_nil]
      rfl
  | cons surface rest ih =>
      rw [List.zipIdx_cons]
      show (((rest.zipIdx (index + 1)).forM fun entry => issueSurface frame entry.2 (shown entry.1))
        (issueSurface frame index (shown surface) e).2) = _
      rw [ih]
      simp [issueSurface, surfaceFrames, names, NodeFrames.surfaceLink]

/-- A node issues its frame and then those of its surfaces. -/
theorem issueNode_eq (stage : Stage R) (parent : Json) (id : NodeId) (n : Node R) (e : Export R) :
    issueNode stage parent id n e =
      ((nodeFrames stage e.names parent id n).place, e.add [nodeFrames stage e.names parent id n]) := by
  set frame := freshName e.names n.name with hframe
  set e' : Export R := { e with issued := e.issued ++ [{ frame, parent, transform := n.transform }] } with he'
  have hnames : e'.names = e.names ++ [frame] := by
    simp [he', names]
  have hsurfaces : ∀ surfaces : List (Surface GeometryId MaterialId),
      ((surfaces.zipIdx 0).forM fun entry =>
        issueSurface frame entry.2 (stage.resources.geometry entry.1.geometry)) e' =
        ((), e.add [{
          node := id, parent, frame, transform := n.transform
          surfaces := surfaceFrames frame (e.names ++ [frame]) 0
            (surfaces.map fun surface => stage.resources.geometry surface.geometry) }]) := by
    intro surfaces
    rw [forM_issueSurface frame fun surface : Surface GeometryId MaterialId =>
      stage.resources.geometry surface.geometry, hnames]
    simp [he', add, NodeFrames.links, NodeFrames.geometries]
  unfold issueNode nodeFrames Stage.shownGeometry
  -- a node without a mesh is one that shows no surfaces
  cases stage.graph.mesh? id with
  | none => exact congrArg (fun ran : Unit × Export R => ((id, frame), ran.2)) (hsurfaces [])
  | some mesh => exact congrArg (fun ran : Unit × Export R => ((id, frame), ran.2)) (hsurfaces mesh.surfaces)

theorem mapM_cons_eq {σ α β : Type} {f : α → StateM σ β} {a : α} {rest : List α} {b : β} {bs : List β} {s s₁ s₂ : σ}
    (hfirst : f a s = (b, s₁)) (hrest : rest.mapM f s₁ = (bs, s₂)) : (a :: rest).mapM f s = (b :: bs, s₂) := by
  rw [List.mapM_cons]
  show ((f a s).1 :: (rest.mapM f (f a s).2).1, (rest.mapM f (f a s).2).2) = _
  rw [hfirst, hrest]

/-- The children of a node are issued in order below its frame. -/
theorem issueChildren_eq (stage : Stage R) (node : NodeId × Json) (e : Export R) :
    issueChildren stage node e =
      ((framesOf stage e.names ((stage.graph.children node.1).map fun id => (id, node.2))).map NodeFrames.place,
        e.add (framesOf stage e.names ((stage.graph.children node.1).map fun id => (id, node.2)))) := by
  unfold issueChildren
  induction stage.graph.children node.1 generalizing e with
  | nil =>
      rw [List.map_nil, framesOf, List.map_nil, add_nil]
      rfl
  | cons id rest ih =>
      rw [List.filterMap_cons, List.map_cons, framesOf]
      cases stage.graph.node? id with
      | none => exact ih e
      | some n =>
          have hrest := ih (e.add [nodeFrames stage e.names node.2 id n])
          rw [names_add, List.flatMap_cons, List.flatMap_nil, List.append_nil, add_add] at hrest
          exact mapM_cons_eq (issueNode_eq stage node.2 id n e) hrest

/-- A level is issued node by node. -/
theorem mapM_issueChildren (stage : Stage R) (level : List (NodeId × Json)) (e : Export R) :
    ∃ next, level.mapM (issueChildren stage) e = (next, e.add (framesOf stage e.names (nextLevel stage level))) ∧
      next.flatten = (framesOf stage e.names (nextLevel stage level)).map NodeFrames.place := by
  induction level generalizing e with
  | nil => exact ⟨[], by simp [nextLevel, framesOf]; rfl, by simp [nextLevel, framesOf]⟩
  | cons node rest ih =>
      have hfirst := issueChildren_eq stage node e
      rcases ih (issueChildren stage node e).2 with ⟨next, hrun, hnext⟩
      rw [hfirst, names_add, add_add] at hrun
      rw [hfirst, names_add] at hnext
      have hlevel : nextLevel stage (node :: rest) =
          ((stage.graph.children node.1).map fun id => (id, node.2)) ++ nextLevel stage rest := rfl
      rw [hlevel, framesOf_append]
      exact ⟨_, mapM_cons_eq hfirst hrun, by rw [List.flatten_cons, hnext, List.map_append]⟩

theorem issueLevels_eq (stage : Stage R) (fuel : Nat) (level : List (NodeId × Json)) (e : Export R) :
    issueLevels stage fuel level e = ((), e.add (framesBelow stage fuel e.names level)) := by
  induction fuel generalizing level e with
  | zero =>
      rw [framesBelow, add_nil]
      rfl
  | succ fuel ih =>
      cases level with
      | nil =>
          rw [framesBelow_nil, add_nil]
          rfl
      | cons node rest =>
          rcases mapM_issueChildren stage (node :: rest) e with ⟨next, hrun, hnext⟩
          show issueLevels stage fuel ((node :: rest).mapM (issueChildren stage) e).1.flatten
            ((node :: rest).mapM (issueChildren stage) e).2 = _
          rw [hrun, hnext, ih, names_add, add_add]
          rfl

/-- An export issues the frames of the nodes below the root, node by node. -/
theorem ofTree_eq (stage : Stage R) (root : NodeId) :
    ofTree stage root = {
      issued := (framesOfTree stage root).flatMap NodeFrames.links
      geometries := (framesOfTree stage root).flatMap NodeFrames.geometries } := by
  unfold ofTree
  rw [issueLevels_eq]
  simp [add, names, framesOfTree]

theorem names_ofTree (stage : Stage R) (root : NodeId) :
    (ofTree stage root).names = (framesOfTree stage root).flatMap NodeFrames.names := by
  rw [ofTree_eq, names, NodeFrames.map_frame_flatMap_links]

end Export

end LevelPrep
