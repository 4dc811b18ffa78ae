import LevelPrep.Proofs.Scene.Depths
import LevelPrep.Proofs.Scene.Editing
import LevelPrep.Proofs.Scene.Planting

/-!
# Walks as lists of their own

The walk through a tree is a level order (`IsLevelOrder`): it lists every node of the tree once, those of smaller depth
first, and the nodes of one depth in the order in which a depth-first walk comes to them (`DepthFirst`).

Lists are objects that are changed in place: each node keeps one for its children, and a walk makes lists on its way
(`ListStore`).  The walk goes on, round by round, for as long as there is a next level (`Collects`).  It comes to an end
in every tree, and its answer is a list of its own, which no edit of the tree changes (`walk_complete`).
-/

namespace LevelPrep

variable {R : Type}

namespace SceneGraph

variable {g : SceneGraph R} {root : NodeId}

/-! ## Depth-first walks -/

/-- A depth-first walk from left to right: it takes the first of the nodes that are left, and goes on with its children
before it comes to the others. -/
inductive DepthFirst (g : SceneGraph R) : (left walk : List NodeId) → Prop
  | done : DepthFirst g [] []
  | next {node : NodeId} {rest walk : List NodeId} (h : DepthFirst g (g.children node ++ rest) walk) :
      DepthFirst g (node :: rest) (node :: walk)

namespace DepthFirst

variable {left more walk : List NodeId}

theorem append {others : List NodeId} (h : g.DepthFirst left walk) (h' : g.DepthFirst more others) :
    g.DepthFirst (left ++ more) (walk ++ others) := by
  induction h with
  | done => exact h'
  | @next node rest walk _ ih =>
      rw [List.append_assoc] at ih
      exact .next ih

/-- A walk through the nodes of two lists is one through the first list and then one through the second. -/
theorem exists_append (h : g.DepthFirst (left ++ more) walk) :
    ∃ first second, walk = first ++ second ∧ g.DepthFirst left first ∧ g.DepthFirst more second := by
  generalize hall : left ++ more = all at h
  induction h generalizing left with
  | done =>
      rcases List.append_eq_nil_iff.1 hall with ⟨rfl, rfl⟩
      exact ⟨[], [], rfl, .done, .done⟩
  | @next node rest walk hrest ih =>
      cases left with
      | nil =>
          rw [List.nil_append] at hall
          subst hall
          exact ⟨[], node :: walk, rfl, .done, .next hrest⟩
      | cons head tail =>
          cases hall
          have hassoc : (g.children node ++ tail) ++ more = g.children node ++ (tail ++ more) := List.append_assoc ..
          rcases ih hassoc with ⟨first, second, rfl, hfirst, hsecond⟩
          exact ⟨node :: first, second, rfl, .next hfirst, hsecond⟩

/-- The nodes of a depth stand in a depth-first walk in the order of their level. -/
theorem level_sublist (h : g.DepthFirst left walk) (depth : Nat) : (g.level depth left).Sublist walk := by
  induction depth generalizing left walk with
  | zero =>
      induction h with
      | done => exact .slnil
      | @next node rest walk _ ih => exact ((List.sublist_append_right (g.children node) rest).trans ih).cons_cons node
  | succ depth ih =>
      induction left generalizing walk with
      | nil =>
          rw [level_nil]
          exact List.nil_sublist _
      | cons node rest ihrest =>
          cases h with
          | next h =>
              rcases exists_append h with ⟨first, second, rfl, hfirst, hsecond⟩
              rw [level_cons, level_succ_singleton]
              exact ((ih hfirst).append (ihrest hsecond)).cons node

end DepthFirst

/-- Where the levels end there is a depth-first walk. -/
theorem exists_depthFirst {depth : Nat} {left : List NodeId} (h : g.level depth left = []) :
    ∃ walk, g.DepthFirst left walk := by
  induction depth generalizing left with
  | zero =>
      rw [level] at h
      subst h
      exact ⟨[], .done⟩
  | succ depth ih =>
      induction left with
      | nil => exact ⟨[], .done⟩
      | cons node rest ihrest =>
          rw [level_cons, level_succ_singleton] at h
          rcases List.append_eq_nil_iff.1 h with ⟨hchildren, hrest⟩
          rcases ih hchildren with ⟨first, hfirst⟩
          rcases ihrest hrest with ⟨second, hsecond⟩
          exact ⟨node :: (first ++ second), .next (hfirst.append hsecond)⟩

/-! ## Level orders -/

/-- A list goes through the tree below a root level by level. -/
structure IsLevelOrder (g : SceneGraph R) (root : NodeId) (walk : List NodeId) : Prop where
  /-- It lists the root and everything below it. -/
  mem_iff : ∀ x, x ∈ walk ↔ g.Within root x
  /-- It lists nothing twice. -/
  nodup : walk.Nodup
  byDepth : walk.Pairwise fun x y => ∀ depth depth', g.Lies root x depth → g.Lies root y depth' → depth ≤ depth'
  /-- The nodes of one depth stand in it in the order in which they stand in a depth-first walk. -/
  asDepthFirst : ∃ dfs, g.DepthFirst [root] dfs ∧ ∀ depth, ∃ nodes : List NodeId,
    (∀ x, x ∈ nodes ↔ g.Lies root x depth) ∧ nodes.Sublist walk ∧ nodes.Sublist dfs
  /-- What lies below a child comes before what lies at the same depth below a later child. -/
  siblings : ∀ parent a b x y depth, g.Within root parent → [a, b].Sublist (g.children parent) → g.Within a x →
    g.Within b y → g.Lies root x depth → g.Lies root y depth → [x, y].Sublist walk

/-- The walk through a tree is a level order. -/
theorem TreeBelow.isLevelOrder (h : g.TreeBelow root) : g.IsLevelOrder root (g.levelOrder root) where
  mem_iff _ := h.mem_levelOrder
  nodup := h.nodup_levelOrder
  byDepth := h.pairwise_levelOrder
  asDepthFirst := by
    rcases exists_depthFirst (h.level_eq_nil (Nat.lt_succ_self g.size)) with ⟨dfs, hdfs⟩
    exact ⟨dfs, hdfs, fun depth =>
      ⟨g.level depth [root], fun _ => mem_level_iff, h.level_sublist_levelOrder depth, hdfs.level_sublist depth⟩⟩
  siblings parent a b x y depth hparent hab hax hby hx hy := by
    have hbelow : ∀ {child}, child ∈ g.children parent → g.Lies parent child 1 := fun hchild => .child .root hchild
    rcases hparent.exists_lies with ⟨above, habove⟩
    rcases hax.exists_lies with ⟨more, hmore⟩
    rcases hby.exists_lies with ⟨more', hmore'⟩
    have ha : a ∈ g.children parent := hab.subset List.mem_cons_self
    have hb : b ∈ g.children parent := hab.subset (List.mem_cons_of_mem a List.mem_cons_self)
    have hdepth := h.depth_unique hx ((habove.trans (hbelow ha)).trans hmore)
    -- both lie as many links below the two children
    obtain rfl : more = more' := by
      have hdepth' := h.depth_unique hy ((habove.trans (hbelow hb)).trans hmore')
      omega
    have hpair : [x, y].Sublist (g.level more [a, b]) := by
      rw [level_cons]
      exact (List.singleton_sublist.2 (mem_level_iff.2 hmore)).append
        (List.singleton_sublist.2 (mem_level_iff.2 hmore'))
    have hnext : [a, b].Sublist (g.level (above + 1) [root]) := by
      rw [level_succ]
      have hone := List.singleton_sublist.2 (mem_level_iff.2 habove)
      rw [← List.flatMap_singleton g.children parent] at hab
      exact hab.trans (hone.flatMap g.children)
    have hlevel : [x, y].Sublist (g.level depth [root]) := by
      rw [hdepth, level_add]
      exact hpair.trans (SceneGraph.level_sublist hnext more)
    exact hlevel.trans (h.level_sublist_levelOrder depth)

end SceneGraph

/-! ## Lists as objects -/

/-- Where a list of nodes is: a node keeps it for its children, or it is one of those that were made. -/
inductive ListRef where
  | children (node : NodeId)
  | made (number : Nat)
deriving DecidableEq, Repr

/-- A session with the lists of nodes that were made in it.  Who refers to a list sees what becomes of it. -/
structure ListStore (R : Type) where
  session : Session R
  made : Array (List NodeId) := #[]

namespace ListStore

variable {t t' t'' : ListStore R} {list frontier : ListRef} {root : NodeId}

def graph (t : ListStore R) : SceneGraph R :=
  t.session.stage.graph

/-- What is in a list. -/
def items (t : ListStore R) : ListRef → List NodeId
  | .children node => t.graph.children node
  | .made number => t.made.getD number []

/-- Makes a new list. -/
def make (t : ListStore R) (nodes : List NodeId) : ListRef × ListStore R :=
  (.made t.made.size, { t with made := t.made.push nodes })

/-- Puts nodes at the end of a list. -/
def extend (t : ListStore R) (list : ListRef) (nodes : List NodeId) : ListStore R :=
  match list with
  | .children node =>
    let graph := t.graph.modify node fun n => { n with children := n.children ++ nodes }
    { t with session := { t.session with stage := { t.session.stage with graph := graph } } }
  | .made number => { t with made := t.made.modify number (· ++ nodes) }

/-- Makes a copy of the children of a node. -/
def copyChildren (t : ListStore R) (node : NodeId) : ListRef × ListStore R :=
  t.make (t.items (.children node))

/-- The children of nodes, of which a copy is made for each node. -/
def gather : ListStore R → List NodeId → List NodeId × ListStore R
  | t, [] => ([], t)
  | t, node :: rest =>
    let (copy, copied) := t.copyChildren node
    let (others, gathered) := copied.gather rest
    (copied.items copy ++ others, gathered)

/-- One round of a walk: a level goes to the end of the result, and the next one is made. -/
def round (t : ListStore R) (result frontier : ListRef) : ListRef × ListStore R :=
  let extended := t.extend result (t.items frontier)
  let (next, gathered) := extended.gather (extended.items frontier)
  gathered.make next

/-- Round after round is made for as long as the frontier is not empty. -/
inductive Collects (result : ListRef) : (t : ListStore R) → (frontier : ListRef) → (t' : ListStore R) → Prop
  | done {t : ListStore R} {frontier : ListRef} (h : t.items frontier = []) : Collects result t frontier t
  | round {t t' : ListStore R} {frontier : ListRef} (h : t.items frontier ≠ [])
      (hrest : Collects result (t.round result frontier).2 (t.round result frontier).1 t') :
      Collects result t frontier t'

/-- The walk from a node: it starts with an empty result and with the children of the node, and in the end the node is put
in front of the result, which makes the list that is answered. -/
inductive Walks (t : ListStore R) (node : NodeId) : (answer : ListRef) → (t' : ListStore R) → Prop
  | walk {collected : ListStore R}
      (h : Collects (t.make []).1 ((t.make []).2.copyChildren node).2 ((t.make []).2.copyChildren node).1 collected) :
      Walks t node (collected.make (node :: collected.items (t.make []).1)).1
        (collected.make (node :: collected.items (t.make []).1)).2

/-- Edits the live nodes, one edit after another. -/
def edited (t : ListStore R) (edits : List (Edit R)) : ListStore R :=
  { t with session := edits.foldl (fun s edit => (edit.perform.runIn s).2) t.session }

/-! ## Lists that are left alone -/

/-- Nothing has changed but that lists were made. -/
structure Adds (t t' : ListStore R) : Prop where
  session : t'.session = t.session
  size_le : t.made.size ≤ t'.made.size
  items : ∀ number, number < t.made.size → t'.items (.made number) = t.items (.made number)

theorem Adds.refl (t : ListStore R) : t.Adds t :=
  ⟨rfl, Nat.le_refl _, fun _ _ => rfl⟩

theorem Adds.trans (h : t.Adds t') (h' : t'.Adds t'') : t.Adds t'' where
  session := h'.session.trans h.session
  size_le := h.size_le.trans h'.size_le
  items number hnumber := (h'.items number (hnumber.trans_le h.size_le)).trans (h.items number hnumber)

theorem Adds.graph_eq (h : t.Adds t') : t'.graph = t.graph := by
  unfold graph
  rw [h.session]

theorem adds_make (t : ListStore R) (nodes : List NodeId) : t.Adds (t.make nodes).2 where
  session := rfl
  size_le := by simp [make]
  items number hnumber := by
    simp [make, items, Array.getD_eq_getD_getElem?, Array.getElem?_push, Nat.ne_of_lt hnumber]

theorem items_make (t : ListStore R) (nodes : List NodeId) : (t.make nodes).2.items (t.make nodes).1 = nodes := by
  simp [make, items]

theorem gather_spec (t : ListStore R) (nodes : List NodeId) :
    (t.gather nodes).1 = nodes.flatMap t.graph.children ∧ t.Adds (t.gather nodes).2 := by
  induction nodes generalizing t with
  | nil => exact ⟨rfl, .refl t⟩
  | cons node rest ih =>
      have hcopy : t.Adds (t.copyChildren node).2 := adds_make t _
      rcases ih (t.copyChildren node).2 with ⟨hothers, hadds⟩
      refine ⟨?_, hcopy.trans hadds⟩
      show (t.copyChildren node).2.items (t.copyChildren node).1 ++ ((t.copyChildren node).2.gather rest).1 = _
      rw [hothers, hcopy.graph_eq, List.flatMap_cons]
      unfold copyChildren
      rw [items_make]
      rfl

/-- A round adds the frontier to the result, which is another list, and goes on with the children of the frontier. -/
theorem round_spec {result number : Nat} (hresult : result < t.made.size) (hne : number ≠ result) :
    (t.round (.made result) (.made number)).2.session = t.session ∧
      (∃ next, (t.round (.made result) (.made number)).1 = .made next ∧ next ≠ result) ∧
      result < (t.round (.made result) (.made number)).2.made.size ∧
      (t.round (.made result) (.made number)).2.items (.made result) =
        t.items (.made result) ++ t.items (.made number) ∧
      (t.round (.made result) (.made number)).2.items (t.round (.made result) (.made number)).1 =
        (t.items (.made number)).flatMap t.graph.children := by
  have hextended : (t.extend (.made result) (t.items (.made number))).items (.made result) =
      t.items (.made result) ++ t.items (.made number) := by
    simp [extend, items, hresult, Array.getElem_modify_self]
  have hother : (t.extend (.made result) (t.items (.made number))).items (.made number) = t.items (.made number) := by
    simp [extend, items, Array.getD_eq_getD_getElem?, Array.getElem?_modify, hne.symm]
  have hsize : (t.extend (.made result) (t.items (.made number))).made.size = t.made.size := by simp [extend]
  have hgraph : (t.extend (.made result) (t.items (.made number))).graph = t.graph := rfl
  have hsession : (t.extend (.made result) (t.items (.made number))).session = t.session := rfl
  unfold round
  -- what the extended store holds is said by now, and gathering only adds lists to it
  generalize t.extend (.made result) (t.items (.made number)) = extended at *
  rcases gather_spec extended (extended.items (.made number)) with ⟨hnext, hadds⟩
  dsimp only
  generalize extended.gather (extended.items (.made number)) = gathered at *
  have hall := hadds.trans (adds_make gathered.2 gathered.1)
  have hthere : result < extended.made.size := hsize.symm ▸ hresult
  refine ⟨hall.session.trans hsession, ⟨_, rfl, Nat.ne_of_gt (hthere.trans_le hadds.size_le)⟩,
    hthere.trans_le hall.size_le, (hall.items result hthere).trans hextended, ?_⟩
  rw [items_make, hnext, hother, hgraph]

/-- Where the levels below the frontier end, the rounds do, and the result is longer by these levels. -/
theorem exists_collects {result number fuel : Nat} (hresult : result < t.made.size) (hne : number ≠ result)
    (hends : t.graph.level fuel (t.items (.made number)) = []) :
    ∃ t', Collects (.made result) t (.made number) t' ∧ t'.session = t.session ∧
      t'.items (.made result) = t.items (.made result) ++ t.graph.levelsFrom fuel (t.items (.made number)) := by
  induction fuel generalizing t number with
  | zero =>
      have hnil : t.items (.made number) = [] := hends
      exact ⟨t, .done hnil, rfl, by simp [SceneGraph.levelsFrom]⟩
  | succ fuel ih =>
      by_cases hnil : t.items (.made number) = []
      · exact ⟨t, .done hnil, rfl, by rw [hnil, SceneGraph.levelsFrom_nil, List.append_nil]⟩
      · rcases round_spec hresult hne with ⟨hsession, ⟨next, href, hother⟩, hthere, hitems, hnext⟩
        have hgraph : (t.round (.made result) (.made number)).2.graph = t.graph := by
          unfold graph
          rw [hsession]
        rw [href] at hnext
        rcases ih hthere hother (by rw [hnext, hgraph]; exact hends) with ⟨t', hcollects, hsession', hitems'⟩
        refine ⟨t', .round hnil (href ▸ hcollects), hsession'.trans hsession, ?_⟩
        rw [hitems', hitems, hnext, hgraph, SceneGraph.levelsFrom_succ, List.append_assoc]

/-- The rounds end in one way. -/
theorem Collects.unique {result : ListRef} (h : Collects result t frontier t') (h' : Collects result t frontier t'') :
    t' = t'' := by
  induction h with
  | done hnil =>
      cases h' with
      | done => rfl
      | round hne => exact absurd hnil hne
  | round hne _ ih =>
      cases h' with
      | done hnil => exact absurd hnil hne
      | round _ hrest => exact ih hrest

end ListStore

open ListStore

/-- In a session in which a node is the root of a tree, whatever else there is and whatever lists were made before, the
walk from the node ends.  It has changed nothing, its answer is the level order of the tree, and whatever edits of the
live nodes come after it, the list that was answered stays as it is. -/
theorem walk_complete {t : ListStore R} {root : NodeId} (htree : t.graph.TreeBelow root) :
    (∃ answer t', t.Walks root answer t') ∧
      ∀ answer t', t.Walks root answer t' →
        t'.session = t.session ∧ t'.items answer = t.graph.levelOrder root ∧
          t.graph.IsLevelOrder root (t'.items answer) ∧
          ∀ edits, (t'.edited edits).items answer = t'.items answer := by
  have hmade := t.adds_make []
  have hcopied : (t.make []).2.Adds ((t.make []).2.copyChildren root).2 := adds_make _ _
  have hall := hmade.trans hcopied
  have hthere : t.made.size < (t.make []).2.made.size := by simp [make]
  have hempty : ((t.make []).2.copyChildren root).2.items (.made t.made.size) = [] :=
    (hcopied.items _ hthere).trans (items_make t [])
  have hfrontier : ((t.make []).2.copyChildren root).2.items (.made (t.make []).2.made.size) =
      t.graph.children root := items_make _ _
  have hends : ((t.make []).2.copyChildren root).2.graph.level t.graph.size
      (((t.make []).2.copyChildren root).2.items (.made (t.make []).2.made.size)) = [] := by
    rw [hall.graph_eq, hfrontier, ← SceneGraph.level_succ_singleton]
    exact htree.level_eq_nil (Nat.lt_succ_self _)
  rcases exists_collects (hthere.trans_le hcopied.size_le) (Nat.ne_of_gt hthere) hends with
    ⟨collected, hcollects, hsession, hitems⟩
  rw [hempty, hfrontier, hall.graph_eq, List.nil_append] at hitems
  refine ⟨⟨_, _, .walk hcollects⟩, ?_⟩
  rintro answer t' ⟨hwalk⟩
  cases hwalk.unique hcollects
  have hitems' : (collected.make (root :: collected.items (t.make []).1)).2.items
      (collected.make (root :: collected.items (t.make []).1)).1 = t.graph.levelOrder root := by
    rw [items_make]
    exact congrArg (root :: ·) hitems
  refine ⟨hsession.trans hall.session, hitems', ?_, fun edits => rfl⟩
  rw [hitems']
  exact htree.isLevelOrder

/-! ## A gallery -/

/-- A gallery with a hall and a wing side by side.  The hall has a niche, the wing a room with a case in it, and a
stair. -/
def galleryBranch : Branch Nat :=
  let place (name : String) (children : List (Branch Nat)) : Branch Nat :=
    .node (.str name) .identity .plain children
  place "Gallery" [place "Hall" [place "Niche" []], place "Wing" [place "Room" [place "Case" []], place "Stair" []]]

/-- A session with the gallery, in which a list was made before. -/
def galleryStore : ListStore Nat where
  session := { emptyPlot with stage := (Stage.plant galleryBranch {}).2 }
  made := #[[⟨5⟩]]

theorem treeBelow_gallery : galleryStore.graph.TreeBelow ⟨0⟩ :=
  (Stage.plant_spec galleryBranch SceneGraph.Linked.empty).linked.treeBelow ⟨0⟩

/-- The wing is taken out, and the hall is given a bench: a new walk is shorter, the old one still lists what there
was. -/
theorem walk_complete_gallery :
    galleryStore.graph.TreeBelow ⟨0⟩ ∧ ∃ answer t', galleryStore.Walks ⟨0⟩ answer t' ∧
      t'.items answer = [⟨0⟩, ⟨1⟩, ⟨3⟩, ⟨2⟩, ⟨4⟩, ⟨6⟩, ⟨5⟩] ∧
      let edits : List (Edit Nat) := [.removeChild ⟨0⟩ (some ⟨3⟩), .create (.str "Bench") .identity .plain,
        .addChild ⟨1⟩ (some ⟨7⟩)]
      (t'.edited edits).items answer = t'.items answer ∧
        (t'.edited edits).graph.levelOrder ⟨0⟩ = [⟨0⟩, ⟨1⟩, ⟨2⟩, ⟨7⟩] := by
  obtain ⟨⟨answer, t', hwalk⟩, hall⟩ := walk_complete treeBelow_gallery
  obtain ⟨hsession, hitems, -, hlasts⟩ := hall answer t' hwalk
  refine ⟨treeBelow_gallery, answer, t', hwalk, ?_, hlasts _, ?_⟩
  · rw [hitems]
    decide +kernel
  · have hgraph : ∀ edits, (t'.edited edits).graph = (galleryStore.edited edits).graph := by
      intro edits
      unfold edited graph
      rw [hsession]
    rw [hgraph]
    decide +kernel

end LevelPrep
