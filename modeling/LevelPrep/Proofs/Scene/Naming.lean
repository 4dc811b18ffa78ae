import LevelPrep.Proofs.Scene.Exporting
import LevelPrep.Proofs.Scene.Planting
import Mathlib.Algebra.Ring.Int.Defs

/-!
# Names that an export grants

An export works off a queue: it issues the frames of the children of the node at the front and puts the children at
the end (`Export.Drains`).  Every name that it asks for is granted while all names granted before are taken
(`Export.Grants`), so a name that was made for a node or a surface is out of reach for a node that has it as its own,
and the other way round.  What is left is a record of one entry for each node below the root (`Export.Records`,
`Export.ofNamedTree_records`).
-/

namespace LevelPrep

variable {R : Type}

namespace Export

/-! ## Names one after another -/

/-- The name that is granted for a text: the text if it is free, and otherwise the text with the least number from
two on with which it is. -/
inductive GrantedAs (taken : List Json) (asked : String) : String → Prop
  | kept (hfree : Json.str asked ∉ taken) : GrantedAs taken asked asked
  | numbered {k : Nat} (htaken : Json.str asked ∈ taken) (hk : 2 ≤ k)
      (hfree : Json.str (numberedName asked k) ∉ taken)
      (hleast : ∀ j, 2 ≤ j → j < k → Json.str (numberedName asked j) ∈ taken) :
      GrantedAs taken asked (numberedName asked k)

/-- Every text is granted a name. -/
theorem exists_grantedAs (taken : List Json) (asked : String) :
    ∃ name, freshName taken (.str asked) = .str name ∧ GrantedAs taken asked name := by
  by_cases htaken : Json.str asked ∈ taken
  · rcases exists_freshName_of_mem htaken with ⟨k, hname, hfree, hleast⟩
    refine ⟨_, hname, .numbered htaken (Nat.le_add_left 2 k) hfree fun j hj hlt => ?_⟩
    rcases Nat.exists_eq_add_of_le' hj with ⟨i, rfl⟩
    exact hleast i (by omega)
  · exact ⟨asked, freshName_of_notMem htaken, .kept htaken⟩

/-- Names that are granted for requests one after another, each of them taken from then on. -/
inductive Grants : (taken : List Json) → (requests names : List Json) → Prop
  | nil {taken : List Json} : Grants taken [] []
  | cons {taken requests names : List Json} {asked name : String} (hgranted : GrantedAs taken asked name)
      (hrest : Grants (taken ++ [.str name]) requests names) :
      Grants taken (.str asked :: requests) (.str name :: names)

theorem Grants.append {taken requests names requests' names' : List Json} (h : Grants taken requests names)
    (h' : Grants (taken ++ names) requests' names') : Grants taken (requests ++ requests') (names ++ names') := by
  induction h with
  | nil => simpa using h'
  | cons hgranted _ ih =>
      refine .cons hgranted (ih ?_)
      rwa [List.append_assoc]

end Export

/-- The names that are asked for on behalf of a node: its own for its frame, and one made of the frame and a number for
each surface. -/
def NodeFrames.requests (stage : Stage R) (p : NodeFrames R) : List Json :=
  stage.graph.name p.node ::
    (List.range p.surfaces.length).map fun index => .str (p.frame.display ++ "_surface" ++ toString index)

namespace Export

open SceneGraph

variable {stage : Stage R} {root : NodeId} {taken : List Json} {ps : List (NodeFrames R)}

theorem length_surfaceFrames (frame : Json) (taken : List Json) (index : Nat) (surfaces : List Geometry) :
    (surfaceFrames frame taken index surfaces).length = surfaces.length := by
  induction surfaces generalizing taken index with
  | nil => rfl
  | cons geometry rest ih => rw [surfaceFrames, List.length_cons, ih, List.length_cons]

theorem map_snd_surfaceFrames (frame : Json) (taken : List Json) (index : Nat) (surfaces : List Geometry) :
    (surfaceFrames frame taken index surfaces).map (·.2) = surfaces := by
  induction surfaces generalizing taken index with
  | nil => rfl
  | cons geometry rest ih => rw [surfaceFrames, List.map_cons, ih]

/-- Surfaces are granted their names in order, by their numbers. -/
theorem grants_surfaceFrames (frame : Json) (taken : List Json) (index : Nat) (surfaces : List Geometry) :
    Grants taken
      ((List.range' index surfaces.length).map fun i => .str (frame.display ++ "_surface" ++ toString i))
      ((surfaceFrames frame taken index surfaces).map (·.1)) := by
  induction surfaces generalizing taken index with
  | nil => exact .nil
  | cons geometry rest ih =>
      rcases exists_grantedAs taken (frame.display ++ "_surface" ++ toString index) with ⟨name, hname, hgranted⟩
      rw [List.length_cons, List.range'_succ, List.map_cons, surfaceFrames, List.map_cons, hname]
      exact .cons hgranted (ih _ _)

/-- A node is granted its name, and then its surfaces are. -/
theorem grants_nodeFrames (parent : Json) {id : NodeId} {n : Node R} (hn : stage.graph.node? id = some n) {s : String}
    (hs : n.name = .str s) :
    Grants taken ((nodeFrames stage taken parent id n).requests stage) (nodeFrames stage taken parent id n).names := by
  rcases exists_grantedAs taken s with ⟨name, hname, hgranted⟩
  have hframe : (nodeFrames stage taken parent id n).frame = .str name := by
    show freshName taken n.name = _
    rw [hs, hname]
  have hsurfaces : (nodeFrames stage taken parent id n).surfaces =
      surfaceFrames (.str name) (taken ++ [.str name]) 0 (stage.shownGeometry id) := by
    show surfaceFrames (freshName taken n.name) (taken ++ [freshName taken n.name]) 0 _ = _
    rw [hs, hname]
  have hasked : stage.graph.name (nodeFrames stage taken parent id n).node = .str s := (name_of_node? hn).trans hs
  rw [NodeFrames.requests, NodeFrames.names, hasked, hframe, hsurfaces, length_surfaceFrames, List.range_eq_range']
  exact .cons hgranted (grants_surfaceFrames _ _ 0 _)

/-- Nodes are granted names one after another. -/
theorem grants_of_issues (h : Issues stage taken ps) (htexts : NamedByTexts stage (ps.map (·.node))) :
    Grants taken (ps.flatMap (NodeFrames.requests stage)) (ps.flatMap NodeFrames.names) := by
  induction ps generalizing taken with
  | nil => exact .nil
  | cons p rest ih =>
      rcases h.1 with ⟨n, hn, hframes⟩
      rcases htexts p.node (List.mem_cons_self ..) with ⟨s, hs⟩
      have hfirst : Grants taken _ _ := grants_nodeFrames p.parent hn ((name_of_node? hn).symm.trans hs)
      rw [← hframes] at hfirst
      rw [List.flatMap_cons, List.flatMap_cons]
      exact hfirst.append (ih h.2 fun id hid => htexts id (List.mem_cons_of_mem _ hid))

/-! ## The nodes of an export -/

/-- The nodes of an export are met breadth-first. -/
theorem order_framesOfTree (hg : stage.graph.Linked) (root : NodeId) : (framesOfTree stage root).map (·.node) =
    (root :: (framesOfTree stage root).map (·.node)).flatMap stage.graph.children := by
  have horder := levelOrder_eq_cons_flatMap hg root
  rw [levelOrder, List.cons.injEq] at horder
  rw [map_node_framesOfTree hg]
  exact horder.2

/-- Every frame of a node is linked below that of its parent, and the base frame stands for the root. -/
theorem exists_parent_of_mem_framesOfTree {p : NodeFrames R} (hp : p ∈ framesOfTree stage root) :
    ∃ x, p.node ∈ stage.graph.children x ∧
      ((x = root ∧ p.parent = .str baseFrame) ∨ ∃ q ∈ framesOfTree stage root, q.node = x ∧ p.parent = q.frame) := by
  have hroot : ∀ entry ∈ [(root, Json.str baseFrame)], (entry.1 = root ∧ entry.2 = .str baseFrame) ∨
      ∃ q ∈ framesOfTree stage root, q.node = entry.1 ∧ entry.2 = q.frame := by
    intro entry hentry
    cases List.mem_singleton.1 hentry
    exact Or.inl ⟨rfl, rfl⟩
  rcases framesBelow_induction (P := fun x frame => (x = root ∧ frame = .str baseFrame) ∨
    ∃ q ∈ framesOfTree stage root, q.node = x ∧ frame = q.frame) hroot
    (fun q hq _ _ _ => Or.inr ⟨q, hq, rfl, rfl⟩) p hp with ⟨⟨x, hx, hchild⟩, -⟩
  exact ⟨x, hchild, hx⟩

/-- Names that are texts can all name frames. -/
theorem forM_checkKey_of_texts {ids : List NodeId} (h : NamedByTexts stage ids) :
    (ids.forM fun id => (stage.graph.name id).checkKey) = .ok () := by
  induction ids with
  | nil => rfl
  | cons id rest ih =>
      rcases h id (List.mem_cons_self ..) with ⟨s, hs⟩
      show ((stage.graph.name id).checkKey >>= fun _ => rest.forM fun id => (stage.graph.name id).checkKey) = _
      rw [hs, ih fun other hother => h other (List.mem_cons_of_mem _ hother)]
      rfl

/-! ## The queue -/

section

variable [Zero R] [One R]

/-- A queue of nodes with their frames is worked off from the front, and what the children of a node have been issued
goes to the end of it, until none is left. -/
inductive Drains (stage : Stage R) : List (NodeId × Json) → Export R → Export R → Prop
  | done (e : Export R) : Drains stage [] e e
  | next {node : NodeId × Json} {pending : List (NodeId × Json)} {e e' : Export R}
      (h : Drains stage (pending ++ (issueChildren stage node e).1) (issueChildren stage node e).2 e') :
      Drains stage (node :: pending) e e'

/-- A level at the front of the queue is worked off node by node, and the next one is at the end then. -/
theorem Drains.of_level {level later : List (NodeId × Json)} {e e' : Export R}
    (h : Drains stage (later ++ (framesOf stage e.names (nextLevel stage level)).map NodeFrames.place)
      (e.add (framesOf stage e.names (nextLevel stage level))) e') : Drains stage (level ++ later) e e' := by
  induction level generalizing later e with
  | nil => simpa [nextLevel, framesOf] using h
  | cons node rest ih =>
      have hlevel : nextLevel stage (node :: rest) =
          ((stage.graph.children node.1).map fun id => (id, node.2)) ++ nextLevel stage rest := rfl
      rw [hlevel, framesOf_append, List.map_append, ← List.append_assoc, ← add_add, ← names_add] at h
      rw [List.cons_append]
      refine .next ?_
      rw [issueChildren_eq, List.append_assoc]
      exact ih h

/-- Where the fuel covers what is below a level, the levels are issued until none is left. -/
theorem drains_issueLevels (hg : stage.graph.Linked) {rank : NodeId → Nat} {fuel : Nat}
    {level : List (NodeId × Json)}
    (hcov : stage.graph.Covered rank fuel ((level.map (·.1)).flatMap stage.graph.children)) (e : Export R) :
    Drains stage level e (issueLevels stage (fuel + 1) level e).2 := by
  have hnodes := map_node_nextLevel hg e.names level
  induction fuel generalizing level e with
  | zero =>
      rw [hcov.eq_nil, List.map_eq_nil_iff] at hnodes
      have hlevel : Drains stage (level ++ []) e e := .of_level (by rw [hnodes, add_nil]; exact .done e)
      rw [issueLevels_eq, framesBelow, framesBelow, hnodes, List.append_nil, add_nil]
      rwa [List.append_nil] at hlevel
  | succ fuel ih =>
      rw [issueLevels_eq, framesBelow, ← add_add, ← names_add]
      set next := framesOf stage e.names (nextLevel stage level) with hnext
      -- the next level is the nodes of the frames just issued, so what covers the one covers the other
      have hfirst : (next.map NodeFrames.place).map (·.1) = next.map (·.node) := by
        rw [List.map_map]
        rfl
      have hcov' : stage.graph.Covered rank fuel
          (((next.map NodeFrames.place).map (·.1)).flatMap stage.graph.children) := by
        rw [hfirst, hnodes]
        exact hcov.next hg
      have hrest := ih hcov' (e.add next) (map_node_nextLevel hg _ _)
      rw [issueLevels_eq] at hrest
      have hlevel : Drains stage (level ++ []) e _ := .of_level hrest
      rwa [List.append_nil] at hlevel

/-! ## The record of an export -/

/-- What an export leaves, in terms of one entry for each node below the root, in breadth-first order: the frames of
the node and of its surfaces are linked, the first to that of the parent of the node, and their names are those that
were granted one after another, all of them different. -/
structure Records (stage : Stage R) (root : NodeId) (e : Export R) (ps : List (NodeFrames R)) : Prop where
  nodes : ∀ x, x ∈ ps.map (·.node) ↔ ∃ child ∈ stage.graph.children root, stage.graph.Within child x
  once : (ps.map (·.node)).Nodup
  order : ps.map (·.node) = (root :: ps.map (·.node)).flatMap stage.graph.children
  surfaces : ∀ p ∈ ps, p.surfaces.map (·.2) = stage.shownGeometry p.node
  transforms : ∀ p ∈ ps, ∃ n, stage.graph.node? p.node = some n ∧ p.transform = n.transform
  parents : ∀ p ∈ ps, ∃ x, p.node ∈ stage.graph.children x ∧
    ((x = root ∧ p.parent = .str baseFrame) ∨ ∃ q ∈ ps, q.node = x ∧ p.parent = q.frame)
  issued : e.issued = ps.flatMap NodeFrames.links
  geometries : e.geometries = ps.flatMap NodeFrames.geometries
  granted : Grants [] (ps.flatMap (NodeFrames.requests stage)) e.names
  distinct : e.names.Nodup

theorem records_ofTree (hg : stage.graph.Linked) (htexts : NamedByTexts stage (stage.graph.descendants root)) :
    Records stage root (ofTree stage root) (framesOfTree stage root) where
  nodes x := by
    rw [map_node_framesOfTree hg, mem_descendants_iff hg]
  once := by
    rw [map_node_framesOfTree hg]
    exact (List.nodup_cons.1 (nodup_levelOrder hg root)).2
  order := order_framesOfTree hg root
  surfaces p hp := by
    rcases exists_nodeFrames_of_mem (issues_framesBelow stage _ [] _) hp with ⟨earlier, n, -, -, hframes⟩
    rw [hframes]
    exact map_snd_surfaceFrames _ _ 0 _
  transforms p hp := by
    rcases exists_nodeFrames_of_mem (issues_framesBelow stage _ [] _) hp with ⟨earlier, n, -, hn, hframes⟩
    exact ⟨n, hn, by rw [hframes]; rfl⟩
  parents p hp := exists_parent_of_mem_framesOfTree hp
  issued := by rw [ofTree_eq]
  geometries := by rw [ofTree_eq]
  granted := by
    rw [names_ofTree]
    rw [← map_node_framesOfTree hg] at htexts
    exact grants_of_issues (issues_framesBelow stage _ [] _) htexts
  distinct := by
    rw [names_ofTree]
    exact nodup_names_framesOfTree hg htexts

/-- The queue of an export is worked off in the end. -/
theorem drains_ofTree (hg : stage.graph.Linked) (root : NodeId) :
    Drains stage [(root, .str baseFrame)] {} (ofTree stage root) := by
  rcases hg.exists_covered root with ⟨rank, hcov⟩
  have hbelow : stage.graph.Covered rank stage.graph.size
      (([(root, Json.str baseFrame)].map (·.1)).flatMap stage.graph.children) := by
    simpa using hcov
  exact drains_issueLevels hg hbelow {}

/-- Where all nodes below the root are named by texts, whatever these are, the tree is exported: the queue is worked
off, and what is left is a record of the nodes and of their surfaces. -/
theorem ofNamedTree_records (stage : Stage R) (root : NodeId) (hg : stage.graph.Linked)
    (htexts : NamedByTexts stage (stage.graph.descendants root)) :
    ∃ e ps, ofNamedTree stage root = .ok e ∧ Drains stage [(root, .str baseFrame)] {} e ∧ Records stage root e ps := by
  refine ⟨ofTree stage root, framesOfTree stage root, ?_, drains_ofTree hg root, records_ofTree hg htexts⟩
  unfold ofNamedTree
  rw [forM_checkKey_of_texts htexts]
  rfl

/-- Stalls whose names are taken twice, or look like those that are made for other nodes and for surfaces. -/
def stallsScene : Branch ℤ :=
  let shown : Payload Geometry Material := .meshInstance { mesh := some { surfaces := [
    { geometry := {} }, { geometry := {} }] } }
  .node (.str "Market") Matrix.identity .plain [
    .node (.str "A") Matrix.identity shown [.node (.str "A") Matrix.identity .plain []],
    .node (.str "A_surface0") Matrix.identity shown [],
    .node (.str "A_2") Matrix.identity .plain [.node (.str "world") Matrix.identity .plain []],
    .node (.str "") Matrix.identity .plain [.node (.str "") Matrix.identity (.meshInstance {}) []]]

/-- The live stalls. -/
def stallsStage : Stage ℤ :=
  (Stage.plant stallsScene {}).2

/-- The stall that is met first keeps its name and takes that of the second with its surface; the second stall of one
name is passed by the one that has the number in its own name. -/
theorem ofNamedTree_records_stalls :
    stallsStage.graph.Linked ∧ NamedByTexts stallsStage (stallsStage.graph.descendants ⟨0⟩) ∧
      ∃ e ps, ofNamedTree stallsStage ⟨0⟩ = .ok e ∧ Records stallsStage ⟨0⟩ e ps ∧
        e.names.map Json.display = ["A", "A_surface0", "A_surface1", "A_surface0_2", "A_surface0_2_surface0",
          "A_surface0_2_surface1", "A_2", "", "A_3", "world", "_2"] := by
  have hlinked : stallsStage.graph.Linked := (Stage.plant_spec stallsScene Linked.empty).linked
  have htexts : NamedByTexts stallsStage (stallsStage.graph.descendants ⟨0⟩) := by
    intro id hid
    have hnames : (stallsStage.graph.descendants ⟨0⟩).map stallsStage.graph.name =
        ["A", "A_surface0", "A_2", "", "A", "world", ""].map Json.str := rfl
    have hname := List.mem_map_of_mem (f := stallsStage.graph.name) hid
    rw [hnames] at hname
    rcases List.mem_map.1 hname with ⟨s, -, hs⟩
    exact ⟨s, hs.symm⟩
  rcases ofNamedTree_records stallsStage ⟨0⟩ hlinked htexts with ⟨e, ps, hexport, -, hrecords⟩
  have hissued : (ofNamedTree stallsStage ⟨0⟩).toOption.map (·.names.map Json.display) =
      some ["A", "A_surface0", "A_surface1", "A_surface0_2", "A_surface0_2_surface0", "A_surface0_2_surface1", "A_2",
        "", "A_3", "world", "_2"] := by
    decide +kernel
  rw [hexport] at hissued
  exact ⟨hlinked, htexts, e, ps, hexport, hrecords, Option.some.inj hissued⟩

end

end Export

end LevelPrep
