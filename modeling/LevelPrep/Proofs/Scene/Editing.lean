import LevelPrep.Proofs.Scene.Flushing
import LevelPrep.Proofs.Scene.Relabelling
import LevelPrep.Proofs.Session
import Mathlib.Algebra.GroupWithZero.Nat

/-!
# Histories of edits

Nodes are made, hung under others and taken from them, queued and flushed, given owners and names, in any order
(`Edit`, `Edited`).  An edit is refused for one of the reasons of `Edit.Refuses`, and then nothing has changed;
otherwise it does what `Edit.Makes` says.  Every edit keeps a graph linked (`Edit.Makes.linked`), so after any history
the links of parents and children agree and have no cycle (`forest_of_edited`).
-/

namespace LevelPrep

variable {R : Type}

open Work SceneGraph

/-! ## Edits -/

/-- One request to the live nodes.  A child of none is a request that gives no child. -/
inductive Edit (R : Type) where
  | create (name : Json) (transform : Matrix R) (payload : Payload GeometryId MaterialId)
  | addChild (node : NodeId) (child : Option NodeId)
  | removeChild (node : NodeId) (child : Option NodeId)
  | queueFree (node : NodeId)
  | flush (node : NodeId)
  | setOwner (node : NodeId) (owner : Option NodeId)
  | rename (node : NodeId) (name : Json)

namespace Edit

/-- Does what the edit asks for. -/
def perform : Edit R → Work R Unit
  | create name transform payload => Work.onGraph fun g => (g.insert { name, transform, payload }).2
  | addChild node child => do
    let changed ← Work.lift ((← Work.graph).addChild node child)
    Work.onGraph fun _ => changed
  | removeChild node child => do
    let changed ← Work.lift ((← Work.graph).removeChild node child)
    Work.onGraph fun _ => changed
  | queueFree node => Work.onGraph (·.queueFree node)
  | flush node => Work.onGraph fun g => (g.flush node).2
  | setOwner node owner => Work.onGraph (·.setOwner node owner)
  | rename node name => Work.onGraph (·.modify node fun n => { n with name := name })

/-- The nodes that an edit speaks of. -/
def nodes : Edit R → List NodeId
  | create .. => []
  | addChild node child | removeChild node child => node :: child.toList
  | queueFree node | flush node | rename node _ => [node]
  | setOwner node owner => node :: owner.toList

/-- An edit that speaks of nodes that are there, and that hangs no node under one that lies below it. -/
structure Proper (g : SceneGraph R) (edit : Edit R) : Prop where
  known : ∀ id ∈ edit.nodes, id.index < g.size
  noAncestor : ∀ node child, edit = addChild node (some child) → child ≠ node → ¬ g.Within child node

/-- The edits that are refused, each with its fault. -/
inductive Refuses (g : SceneGraph R) : Edit R → Fault → Prop
  | noChildToAdd (node : NodeId) :
      Refuses g (addChild node none) (.noSuchMember Json.null.kindWord "parent")
  | hasParent {node child parent : NodeId} (hparent : g.parent? child = some parent) :
      Refuses g (addChild node (some child)) (.alreadyHasParent (g.name child).display (g.name parent).display)
  | itself {node : NodeId} (hroot : g.parent? node = none) :
      Refuses g (addChild node (some node)) (.ownChild (g.name node).display)
  | noChildToRemove (node : NodeId) : Refuses g (removeChild node none) .notChild
  | notAmongChildren {node child : NodeId} (hother : child ∉ g.children node) :
      Refuses g (removeChild node (some child)) .notChild

/-- The graph after an edit that is not refused. -/
inductive Makes (g : SceneGraph R) : Edit R → SceneGraph R → Prop
  | created (name : Json) (transform : Matrix R) (payload : Payload GeometryId MaterialId) :
      Makes g (create name transform payload) (g.insert { name, transform, payload }).2
  | hung {node child : NodeId} (hroot : g.parent? child = none) (hne : child ≠ node) :
      Makes g (addChild node (some child)) (g.link node child)
  | taken {node child : NodeId} (hchild : child ∈ g.children node) :
      Makes g (removeChild node (some child)) (g.unlink node child)
  | queued (node : NodeId) : Makes g (queueFree node) (g.queueFree node)
  | flushed (node : NodeId) : Makes g (flush node) (g.flush node).2
  | owned (node : NodeId) (owner : Option NodeId) : Makes g (setOwner node owner) (g.setOwner node owner)
  | renamed (node : NodeId) (name : Json) :
      Makes g (rename node name) (g.modify node fun n => { n with name := name })

/-- What becomes of the links by an edit. -/
def Relinks (g g' : SceneGraph R) : Edit R → Prop
  | addChild node child => ∃ c, child = some c ∧
      (∀ x, g'.children x = if x = node then g.children x ++ [c] else g.children x) ∧
      ∀ x, g'.parent? x = if x = c then some node else g.parent? x
  | removeChild node child => ∃ c, child = some c ∧
      (∀ x, g'.children x = if x = node then (g.children x).erase c else g.children x) ∧
      ∀ x, g'.parent? x = if x = c then none else g.parent? x
  | flush node => g.Cut (g.Doomed node) g'
  | create .. | queueFree _ | setOwner .. | rename .. =>
      (∀ x, g'.children x = g.children x) ∧ ∀ x, g'.parent? x = g.parent? x

end Edit

/-- Proper edits, one after another.  Those that are refused are part of the history. -/
inductive Edited (start : Session R) : List (Edit R) → Session R → Prop
  | start : Edited start [] start
  | snoc {edits : List (Edit R)} {s : Session R} (h : Edited start edits s) (edit : Edit R)
      (hproper : edit.Proper s.stage.graph) : Edited start (edits ++ [edit]) (edit.perform.runIn s).2

/-! ## Links after an edit -/

namespace SceneGraph

theorem children_unlink (g : SceneGraph R) (parent child x : NodeId) :
    (g.unlink parent child).children x =
      if x = parent then (g.children x).erase child else g.children x := by
  unfold children
  rw [node?_unlink]
  cases g.node? x <;> split_ifs <;> simp

theorem parent?_unlink (g : SceneGraph R) (parent child x : NodeId) :
    (g.unlink parent child).parent? x = if x = child then none else g.parent? x := by
  unfold parent?
  rw [node?_unlink]
  cases g.node? x <;> split_ifs <;> rfl

end SceneGraph

namespace Edit

variable {g g' : SceneGraph R} {edit : Edit R} {s : Session R}

/-- What an edit makes differs in its links as the edit says. -/
theorem Makes.relinks (h : edit.Makes g g') (hg : g.Linked) (hproper : edit.Proper g) : edit.Relinks g g' := by
  cases h with
  | created name transform payload => exact ⟨children_insert g rfl, parent?_insert g rfl⟩
  | @hung node child hroot hne =>
      have hnode : node.index < g.size := hproper.known node (by simp [nodes])
      have hchild : child.index < g.size := hproper.known child (by simp [nodes])
      exact ⟨child, rfl, children_link g child hnode, parent?_link g node hchild⟩
  | @taken node child hchild => exact ⟨child, rfl, children_unlink g node child, parent?_unlink g node child⟩
  | queued node =>
      have hsame := relabelled_queueFree g [node]
      exact ⟨hsame.children_same, hsame.parent?_same⟩
  | flushed node => exact flush_spec hg (hproper.known node (by simp [nodes]))
  | owned node owner =>
      have hsame := relabelled_setOwner g node owner
      exact ⟨hsame.children_same, hsame.parent?_same⟩
  | renamed node name =>
      have hsame := relabelled_rename g node name
      exact ⟨hsame.children_same, hsame.parent?_same⟩

/-- An edit keeps a graph linked. -/
theorem Makes.linked (h : edit.Makes g g') (hg : g.Linked) (hproper : edit.Proper g) : g'.Linked := by
  have hrelinks := h.relinks hg hproper
  cases h with
  | @hung node child hroot hne =>
      have hnode : node.index < g.size := hproper.known node (by simp [nodes])
      have hchild : child.index < g.size := hproper.known child (by simp [nodes])
      exact hg.link hnode hchild hroot (hproper.noAncestor node child rfl hne)
  | @taken node child hchild =>
      have hparent := (hg.mem_children_iff node child).1 hchild
      exact (cut_unlink hg (Or.inl hparent)).linked hg
  | flushed node => exact Cut.linked hrelinks hg
  | created | queued | owned | renamed => exact hg.of_same_links hrelinks.1 hrelinks.2

/-- An edit is refused without a trace, or it is done. -/
theorem cases_of_perform (edit : Edit R) (s : Session R) :
    (∃ fault, edit.Refuses s.stage.graph fault ∧ edit.perform.runIn s = (.error fault, s)) ∨
      ∃ g', edit.Makes s.stage.graph g' ∧
        edit.perform.runIn s = (.ok (), { s with stage := { s.stage with graph := g' } }) := by
  cases edit with
  | addChild node child =>
      cases child with
      | none => exact Or.inl ⟨_, .noChildToAdd node, rfl⟩
      | some child =>
          cases hparent : s.stage.graph.parent? child with
          | some parent =>
              refine Or.inl ⟨_, .hasParent hparent, ?_⟩
              simp [perform, runIn_bind, SceneGraph.addChild, hparent]
          | none =>
              by_cases hself : child = node
              · subst hself
                refine Or.inl ⟨_, .itself hparent, ?_⟩
                simp [perform, runIn_bind, SceneGraph.addChild, hparent]
              · refine Or.inr ⟨_, .hung hparent hself, ?_⟩
                simp [perform, runIn_bind, SceneGraph.addChild, hparent, hself]
  | removeChild node child =>
      cases child with
      | none => exact Or.inl ⟨_, .noChildToRemove node, rfl⟩
      | some child =>
          by_cases hchild : child ∈ s.stage.graph.children node
          · refine Or.inr ⟨_, .taken hchild, ?_⟩
            simp [perform, runIn_bind, SceneGraph.removeChild, hchild]
          · refine Or.inl ⟨_, .notAmongChildren hchild, ?_⟩
            simp [perform, runIn_bind, SceneGraph.removeChild, hchild]
  | create name transform payload => exact Or.inr ⟨_, .created name transform payload, rfl⟩
  | queueFree node => exact Or.inr ⟨_, .queued node, rfl⟩
  | flush node => exact Or.inr ⟨_, .flushed node, rfl⟩
  | setOwner node owner => exact Or.inr ⟨_, .owned node owner, rfl⟩
  | rename node name => exact Or.inr ⟨_, .renamed node name, rfl⟩

/-- What is refused is not done. -/
theorem Refuses.not_makes {fault : Fault} (h : edit.Refuses g fault) : ¬ edit.Makes g g' := by
  intro hmakes
  cases h with
  | noChildToAdd | noChildToRemove => cases hmakes
  | hasParent hparent =>
      cases hmakes with
      | hung hroot => simp [hparent] at hroot
  | itself =>
      cases hmakes with
      | hung _ hne => exact hne rfl
  | notAmongChildren hother =>
      cases hmakes with
      | taken hchild => exact hother hchild

/-- The fault of an edit that is refused is told by the graph. -/
theorem Refuses.unique {fault fault' : Fault} (h : edit.Refuses g fault) (h' : edit.Refuses g fault') :
    fault = fault' := by
  cases h with
  | noChildToAdd | noChildToRemove | notAmongChildren => cases h'; rfl
  | hasParent hparent =>
      cases h' with
      | hasParent hparent' =>
          rw [hparent] at hparent'
          cases hparent'
          rfl
      | itself hroot => simp [hparent] at hroot
  | itself hroot =>
      cases h' with
      | hasParent hparent => simp [hparent] at hroot
      | itself => rfl

/-- An edit fails exactly if it is refused, and leaves everything as it was. -/
theorem perform_eq_error_iff {fault : Fault} {s' : Session R} :
    edit.perform.runIn s = (.error fault, s') ↔ edit.Refuses s.stage.graph fault ∧ s' = s := by
  rcases cases_of_perform edit s with ⟨fault', hrefuses, hrun⟩ | ⟨g', hmakes, hrun⟩
  · rw [hrun]
    constructor
    · intro h
      cases h
      exact ⟨hrefuses, rfl⟩
    · rintro ⟨h, rfl⟩
      rw [h.unique hrefuses]
  · rw [hrun]
    constructor
    · intro h
      cases h
    · rintro ⟨h, -⟩
      exact absurd hmakes h.not_makes

/-- An edit that succeeds makes a graph of the one that was there. -/
theorem makes_of_perform {s' : Session R} (hrun : edit.perform.runIn s = (.ok (), s')) :
    edit.Makes s.stage.graph s'.stage.graph := by
  rcases cases_of_perform edit s with ⟨fault, -, herror⟩ | ⟨g', hmakes, hok⟩
  · cases hrun.symm.trans herror
  · cases hrun.symm.trans hok
    exact hmakes

/-- The graph is linked after an edit, whether the edit was refused or not. -/
theorem linked_of_perform {outcome : Except Fault Unit} {s' : Session R} (hs : s.stage.graph.Linked)
    (hproper : edit.Proper s.stage.graph) (hrun : edit.perform.runIn s = (outcome, s')) :
    s'.stage.graph.Linked := by
  cases outcome with
  | error fault =>
      rcases perform_eq_error_iff.1 hrun with ⟨-, rfl⟩
      exact hs
  | ok => exact (makes_of_perform hrun).linked hs hproper

end Edit

/-! ## Histories -/

/-- A history keeps a graph linked. -/
theorem Edited.linked {start s : Session R} {edits : List (Edit R)} (h : Edited start edits s)
    (hstart : start.stage.graph.Linked) : s.stage.graph.Linked := by
  induction h with
  | start => exact hstart
  | snoc _ edit hproper ih => exact Edit.linked_of_perform ih hproper rfl

/-- Parents and children agree: a node has a parent exactly if it is among the children of the parent, it is listed
once and in one place, and no way from parent to parent comes back to where it started. -/
structure SceneGraph.IsForest (g : SceneGraph R) : Prop where
  parent_iff : ∀ parent child, g.parent? child = some parent ↔ child ∈ g.children parent
  nodup : ∀ parent, (g.children parent).Nodup
  oneParent : ∀ parent other child, child ∈ g.children parent → child ∈ g.children other → parent = other
  acyclic : ∀ x, ¬ Relation.TransGen (fun child parent => g.parent? child = some parent) x x

theorem SceneGraph.Linked.isForest {g : SceneGraph R} (hg : g.Linked) : g.IsForest := by
  refine ⟨fun parent child => (hg.mem_children_iff parent child).symm, hg.nodup_children,
    fun parent other child => hg.parent_unique, fun x hcycle => ?_⟩
  rcases hg.ranked with ⟨rank, hrank⟩
  -- ranks fall on every way up, so no way up comes back
  have hfalls : ∀ y, Relation.TransGen (fun child parent => g.parent? child = some parent) x y →
      rank y < rank x := by
    intro y hy
    induction hy with
    | single h => exact hrank _ _ h
    | tail _ h ih => exact (hrank _ _ h).trans ih
  exact absurd (hfalls x hcycle) (Nat.lt_irrefl _)

/-- After any history of proper edits, and after one more, parents and children are those of a forest; an edit
fails exactly if it is to be refused, everything is then as it was, and otherwise its links are changed and no others. -/
theorem forest_of_edited {start s : Session R} {edits : List (Edit R)} (hstart : start.stage.graph = {})
    (h : Edited start edits s) :
    s.stage.graph.IsForest ∧
      ∀ (edit : Edit R) (outcome : Except Fault Unit) (s' : Session R),
        edit.Proper s.stage.graph → edit.perform.runIn s = (outcome, s') →
        s'.stage.graph.IsForest ∧
        (∀ fault, outcome = .error fault ↔ edit.Refuses s.stage.graph fault) ∧
        (∀ fault, outcome = .error fault → s' = s) ∧
        (outcome = .ok () → edit.Relinks s.stage.graph s'.stage.graph) := by
  have hlinked : s.stage.graph.Linked := h.linked (hstart ▸ Linked.empty)
  refine ⟨hlinked.isForest, fun edit outcome s' hproper hrun => ?_⟩
  refine ⟨(Edit.linked_of_perform hlinked hproper hrun).isForest, fun fault => ?_, fun fault => ?_, ?_⟩
  · constructor
    · rintro rfl
      exact (Edit.perform_eq_error_iff.1 hrun).1
    · intro hrefuses
      have herror := Edit.perform_eq_error_iff.2 ⟨hrefuses, rfl⟩
      exact congrArg Prod.fst (hrun.symm.trans herror)
  · rintro rfl
    exact (Edit.perform_eq_error_iff.1 hrun).2
  · rintro rfl
    exact (Edit.makes_of_perform hrun).relinks hlinked hproper

/-! ## A house that is built and torn down -/

namespace Edit

/-- What gives no child to a node is proper if it speaks of nodes that are there. -/
theorem proper_of_known {g : SceneGraph R} {edit : Edit R} (hknown : ∀ id ∈ edit.nodes, id.index < g.size)
    (hother : ∀ node child, edit ≠ addChild node (some child)) : edit.Proper g :=
  ⟨hknown, fun node child heq => absurd heq (hother node child)⟩

/-- A node without children may be hung under any node. -/
theorem proper_of_leaf {g : SceneGraph R} {node child : NodeId} (hnode : node.index < g.size)
    (hchild : child.index < g.size) (hleaf : g.children child = []) : (addChild node (some child)).Proper g where
  known := by simp [nodes, hnode, hchild]
  noAncestor := by
    intro node' child' heq hne hwithin
    cases heq
    rcases hwithin.eq_or_exists_child with rfl | ⟨below, hbelow, -⟩
    · exact hne rfl
    · rw [hleaf] at hbelow
      cases hbelow

end Edit

/-- The house, its room and the lamp in the room.  The lamp is given to the house while it still hangs in the room, and
the room is flushed. -/
def houseEdits : List (Edit Nat) :=
  [.create (.str "House") .identity .plain, .create (.str "Room") .identity .plain,
    .create (.str "Lamp") .identity .plain, .addChild ⟨0⟩ (some ⟨1⟩), .addChild ⟨1⟩ (some ⟨2⟩),
    .addChild ⟨0⟩ (some ⟨2⟩), .queueFree ⟨1⟩, .flush ⟨0⟩]

/-- A session without nodes. -/
def emptyPlot : Session Nat where
  disk := { home := { anchor := .root false, parts := ["home"] } }

/-- The session after the edits. -/
def houseSession : Session Nat :=
  houseEdits.foldl (fun s edit => (edit.perform.runIn s).2) emptyPlot

theorem edited_house : Edited emptyPlot houseEdits houseSession :=
  Edited.start
    |>.snoc (.create (.str "House") .identity .plain) (Edit.proper_of_known (by decide +kernel) (by simp))
    |>.snoc (.create (.str "Room") .identity .plain) (Edit.proper_of_known (by decide +kernel) (by simp))
    |>.snoc (.create (.str "Lamp") .identity .plain) (Edit.proper_of_known (by decide +kernel) (by simp))
    |>.snoc (.addChild ⟨0⟩ (some ⟨1⟩)) (Edit.proper_of_leaf (by decide +kernel) (by decide +kernel) (by decide +kernel))
    |>.snoc (.addChild ⟨1⟩ (some ⟨2⟩)) (Edit.proper_of_leaf (by decide +kernel) (by decide +kernel) (by decide +kernel))
    |>.snoc (.addChild ⟨0⟩ (some ⟨2⟩)) (Edit.proper_of_leaf (by decide +kernel) (by decide +kernel) (by decide +kernel))
    |>.snoc (.queueFree ⟨1⟩) (Edit.proper_of_known (by decide +kernel) (by simp))
    |>.snoc (.flush ⟨0⟩) (Edit.proper_of_known (by decide +kernel) (by simp))

/-- The lamp still hangs in the room, so the house may not have it; it may be taken from the room. -/
theorem forest_of_edited_house :
    Edited emptyPlot houseEdits houseSession ∧ houseSession.stage.graph.IsForest ∧
      (Edit.addChild ⟨0⟩ (some ⟨2⟩)).perform.runIn houseSession =
        (.error (.alreadyHasParent "Lamp" "Room"), houseSession) ∧
      ((Edit.removeChild ⟨1⟩ (some ⟨2⟩)).perform.runIn houseSession).2.stage.graph.IsForest := by
  have hhouse := forest_of_edited rfl edited_house
  -- the lamp has no children, so the request is proper
  have hproper : (Edit.addChild ⟨0⟩ (some ⟨2⟩)).Proper houseSession.stage.graph :=
    Edit.proper_of_leaf (by decide +kernel) (by decide +kernel) (by decide +kernel)
  have hrefuses : (Edit.addChild ⟨0⟩ (some ⟨2⟩)).Refuses houseSession.stage.graph
      (.alreadyHasParent "Lamp" "Room") := by
    have hlamp : (houseSession.stage.graph.name ⟨2⟩).display = "Lamp" := by decide +kernel
    have hroom : (houseSession.stage.graph.name ⟨1⟩).display = "Room" := by decide +kernel
    have hparent : houseSession.stage.graph.parent? ⟨2⟩ = some ⟨1⟩ := by decide +kernel
    rw [← hlamp, ← hroom]
    exact Edit.Refuses.hasParent hparent
  have hasked := hhouse.2 (.addChild ⟨0⟩ (some ⟨2⟩)) _ _ hproper Prod.mk.eta.symm
  have htaken := hhouse.2 (.removeChild ⟨1⟩ (some ⟨2⟩)) _ _
    (Edit.proper_of_known (by decide +kernel) (by simp)) Prod.mk.eta.symm
  have houtcome := (hasked.2.1 _).2 hrefuses
  exact ⟨edited_house, hhouse.1, Prod.ext houtcome (hasked.2.2.1 _ houtcome), htaken.1⟩

end LevelPrep
