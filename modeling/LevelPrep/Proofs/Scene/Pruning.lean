import LevelPrep.Proofs.Scene.Dumps
import LevelPrep.Proofs.Scene.Flushing

/-!
# The dump of a flushed tree

Below a node that is reached from the root of a flush, the marked trees are left out and nothing else is
changed (`snapshot?_of_cut`).  So the dump of a flushed tree is the dump with the marked trees left out
(`snapshot?_flush`).
-/

namespace LevelPrep.Stage

variable {R : Type}

open SceneGraph

variable {stage stage' : Stage R} {root x : NodeId}

/-- What a dump tells of a single node is not changed by cutting nodes from their parents. -/
theorem head?_of_cut {doomed : NodeId → Prop} (hcut : stage.graph.Cut doomed stage'.graph)
    (hresources : stage'.resources = stage.resources) (x : NodeId) : stage'.head? x = stage.head? x := by
  have hnames : stage'.graph.name = stage.graph.name := by
    funext y
    unfold SceneGraph.name
    rw [hcut.node?_eq]
    cases stage.graph.node? y <;> rfl
  unfold head?
  rw [hcut.node?_eq]
  cases stage.graph.node? x with
  | none => rfl
  | some n =>
      simp only [Option.map_some, headOf, hnames]
      unfold payloadValue
      rw [hresources]

/-- Among the children of a reached node exactly the marked ones are cut. -/
theorem children_of_cut (hcut : stage.graph.Cut (stage.graph.Doomed root) stage'.graph)
    (hx : stage.graph.Reaches root x) :
    stage'.graph.children x = (stage.graph.children x).filter fun child => !stage.graph.isQueued child := by
  unfold SceneGraph.children
  rw [hcut.node?_eq]
  cases hn : stage.graph.node? x with
  | none => rfl
  | some n => exact filter_doomed_of_reaches hx hn

theorem isQueued_of_snapshot? (hg : stage.graph.Linked) {d : Snapshot Geometry R}
    (hd : stage.snapshot? x = some d) : d.isQueued = stage.graph.isQueued x := by
  rcases Option.map_eq_some_iff.1 (head?_of_snapshot? hg hd) with ⟨n, hn, hhead⟩
  simp [Snapshot.isQueued, SceneGraph.isQueued, hn, ← hhead, headOf]

/-- What is left of a list and of its results after picking by tests that agree. -/
theorem forall₂_filter_map {α β γ : Type} {P : α → β → Prop} {Q : α → γ → Prop} {p : α → Bool} {q : β → Bool}
    {f : β → γ} {items : List α} {results : List β} (h : List.Forall₂ P items results)
    (htest : ∀ a ∈ items, ∀ b, P a b → q b = p a)
    (hkept : ∀ a ∈ items, ∀ b, p a = true → P a b → Q a (f b)) :
    List.Forall₂ Q (items.filter p) ((results.filter q).map f) := by
  induction h with
  | nil => exact .nil
  | @cons a b items results hab _ ih =>
      have hrest := ih (fun c hc => htest c (List.mem_cons_of_mem a hc))
        fun c hc => hkept c (List.mem_cons_of_mem a hc)
      have hsame := htest a List.mem_cons_self b hab
      cases ha : p a with
      | false => simpa [ha, hsame] using hrest
      | true =>
          rw [List.filter_cons_of_pos ha, List.filter_cons_of_pos (hsame.trans ha)]
          exact .cons (hkept a List.mem_cons_self b ha hab) hrest

/-- Below a reached node the marked trees are left out. -/
theorem snapshot?_of_cut (hg : stage.graph.Linked)
    (hcut : stage.graph.Cut (stage.graph.Doomed root) stage'.graph)
    (hresources : stage'.resources = stage.resources) (hx : stage.graph.Reaches root x) :
    stage'.snapshot? x = (stage.snapshot? x).map Snapshot.flushed := by
  induction x using hg.induction with
  | step x ih =>
      rw [snapshot?_eq hg, snapshot?_eq (hcut.linked hg), head?_of_cut hcut hresources, children_of_cut hcut hx]
      cases hh : stage.head? x with
      | none => rfl
      | some h =>
          have hdumped : ∀ child ∈ stage.graph.children x, ∃ d, stage.snapshot? child = some d :=
            fun child hchild => exists_snapshot? hg (hg.index_lt_of_mem_children hchild).2
          rcases exists_forall₂ hdumped with ⟨ds, hds⟩
          -- each child is either marked and left out, or reached
          have hkept : List.Forall₂ (fun child d => stage'.snapshot? child = some d)
              ((stage.graph.children x).filter fun child => !stage.graph.isQueued child)
              ((ds.filter fun d => !d.isQueued).map Snapshot.flushed) := by
            refine forall₂_filter_map hds (fun child _ d hd => by rw [isQueued_of_snapshot? hg hd]) ?_
            intro child hchild d hstay hd
            rw [ih child hchild (hx.tail ⟨hchild, by simpa using hstay⟩), hd, Option.map_some]
          rw [Option.bind_some, Option.bind_some, mapM_eq_some_iff.2 hds, mapM_eq_some_iff.2 hkept]
          exact congrArg some (Snapshot.flushed_node h ds).symm

/-- The dump of a flushed tree. -/
theorem snapshot?_flush (hg : stage.graph.Linked) (hroot : root.index < stage.graph.size) :
    ({ stage with graph := (stage.graph.flush root).2 } : Stage R).snapshot? root =
      (stage.snapshot? root).map Snapshot.flushed :=
  snapshot?_of_cut hg (flush_spec hg hroot) rfl .refl

end LevelPrep.Stage
