import LevelPrep.Batch.Run
import LevelPrep.Proofs.Disk.Agreement
import LevelPrep.Proofs.Level.Enduring

/-!
# What is made of a scene file

What an import makes of a scene file, before anything is saved, is told by the disk (`LevelProcessor.product`).  The
session that it is made in has no part in it, as long as scenes can be planted in it, and this is so after every
scene, whatever it has come to (`makes_of_makeScene`).
-/

namespace LevelPrep

variable {R : Type}

open Work SceneGraph

variable [Zero R] [One R] [Add R] [Mul R]

/-! ## Scenes -/

namespace LevelProcessor

/-- What is made of a scene that is dumped as `d`: a level if its name marks it as one, and itself otherwise. -/
def processed (p : LevelProcessor R) (bake : MeshValue → Matrix R → Float → Option MeshValue) (disk : Disk)
    (d : Snapshot Geometry R) : Option (Snapshot Geometry R) :=
  (isLevel d.head.name p.settings.levelIndicator).toOption.bind fun level =>
    if level then p.image bake disk d else some d

/-- The tree that is made of a scene file. -/
def product (p : LevelProcessor R) (bake : MeshValue → Matrix R → Float → Option MeshValue) (disk : Disk)
    (file : Path) : Option (Branch R) :=
  (p.tools.loadScene disk file).2.toOption.bind fun branch =>
    (p.processed bake disk branch.asScene).map Snapshot.tree

end LevelProcessor

variable {p : LevelProcessor R} {bake : MeshValue → Matrix R → Float → Option MeshValue} {scene : NodeId}
  {s s' : Session R} {d : Snapshot Geometry R}

/-- A scene is processed exactly if something can be made of its dump, and this is what is made of it. -/
theorem settles_process (hs : Ready scene s) (hd : s.stage.snapshot? scene = some d)
    (hunwrap : .lightmap ∈ p.passes → Lightmap.Computes p.tools.unwrap bake) :
    Settles (p.process scene) s (∃ d', p.processed bake s.disk d = some d') fun s' =>
      s'.stage.snapshot? scene = p.processed bake s.disk d := by
  have hname := Stage.name_of_snapshot? hs.linked hd
  unfold LevelProcessor.process LevelProcessor.processed
  rw [← hname]
  -- a scene whose name cannot be read fails, one that is no level stays as it is, and a level is converted
  cases hlevel : isLevel (s.stage.graph.name scene) p.settings.levelIndicator with
  | error fault =>
      refine ⟨fun s' hrun => ?_, ?_⟩
      · simp only [runIn_bind, runIn_graph, runIn_lift, hlevel] at hrun
        cases hrun
      · rintro ⟨d', hd'⟩
        cases hd'
  | ok level =>
      cases level with
      | false =>
          refine ⟨fun s' hrun => ?_, fun _ => ?_⟩
          · simp only [runIn_bind, runIn_graph, runIn_lift, hlevel] at hrun
            cases hrun
            exact ⟨⟨d, rfl⟩, hd⟩
          · simp only [runIn_bind, runIn_graph, runIn_lift, hlevel]
            exact ⟨_, rfl⟩
      | true =>
          have hconvert := settles_convert (p := p) hs hd hunwrap
          refine ⟨fun s' hrun => ?_, fun hable => ?_⟩
          · simp only [runIn_bind, runIn_graph, runIn_lift, hlevel, if_true] at hrun
            rcases hrun' : (p.convert scene).runIn s with ⟨fault | ⟨⟩, t⟩
            · simp only [hrun'] at hrun
              cases hrun
            · simp only [hrun'] at hrun
              cases hrun
              rcases hconvert.leaves t hrun' with ⟨hable, hdone⟩
              exact ⟨hable, hdone.dump⟩
          · rcases hconvert.runs hable with ⟨t, hrun'⟩
            simp only [runIn_bind, runIn_graph, runIn_lift, hlevel, if_true, hrun']
            exact ⟨_, rfl⟩

/-! ## Files -/

/-- Loads a scene and turns it into a level if it is one. -/
def Work.makeScene (p : LevelProcessor R) (file : Path) : Work R NodeId := do
  let root ← plantScene (← loadScene p.tools file)
  p.process root
  return root

/-- How making a scene of a file ends: it fails where nothing can be made, and otherwise the scene looks like the
tree that can be. -/
inductive Makes (p : LevelProcessor R) (bake : MeshValue → Matrix R → Float → Option MeshValue) (disk : Disk)
    (file : Path) (s : Session R) : Except Fault NodeId → Prop
  | refused {fault : Fault} (hnone : p.product bake disk file = none) : Makes p bake disk file s (.error fault)
  | made {root : NodeId} {branch : Branch R} (hproduct : p.product bake disk file = some branch)
      (hbranch : s.stage.branch? root = some branch) : Makes p bake disk file s (.ok root)

/-- What is made of a file is the same in every session on the same disk, and the next scene can be made after
it. -/
theorem makes_of_makeScene (hs : s.InOrder) (hadds : p.tools.OnlyAdds)
    (hunwrap : .lightmap ∈ p.passes → Lightmap.Computes p.tools.unwrap bake) {file : Path}
    {outcome : Except Fault NodeId} (hrun : (Work.makeScene p file).runIn s = (outcome, s')) :
    Makes p bake s.disk file s' outcome ∧ s'.InOrder ∧ s'.disk = s.disk := by
  unfold Work.makeScene at hrun
  rw [runIn_bind, runIn_loadScene] at hrun
  cases hload : (p.tools.loadScene s.disk file).2 with
  | error fault =>
      simp only [hload] at hrun
      cases hrun
      refine ⟨.refused ?_, hs.of_stage rfl, rfl⟩
      simp [LevelProcessor.product, hload, Except.toOption]
  | ok branch =>
      simp only [hload] at hrun
      have hin : Session.InOrder { s with
          warnings := s.warnings ++ (p.tools.loadScene s.disk file).1.toArray } := hs.of_stage rfl
      generalize ht : ({ s with warnings := s.warnings ++ (p.tools.loadScene s.disk file).1.toArray } :
        Session R) = t at hrun hin
      have hdisk : t.disk = s.disk := by rw [← ht]
      have hproduct : p.product bake s.disk file =
          (p.processed bake s.disk branch.asScene).map Snapshot.tree := by
        simp [LevelProcessor.product, hload, Except.toOption]
      rw [runIn_bind] at hrun
      rcases hplant : (plantScene branch).runIn t with ⟨fault | scene, u⟩
      · cases hplant
      · have hready := ready_of_plantScene hin hplant
        have hdump := snapshot?_of_plantScene hin.linked hplant
        have hu : u.disk = s.disk := by
          rw [(stage_of_plantScene hplant).2]
          exact hdisk
        have hsettles := settles_process (p := p) hready hdump hunwrap
        simp only [hplant, runIn_bind] at hrun
        rcases hprocess : (p.process scene).runIn u with ⟨fault | ⟨⟩, v⟩
        · have hend := inOrder_of_process hready hadds hunwrap hprocess
          simp only [hprocess] at hrun
          cases hrun
          refine ⟨.refused ?_, hend.1, hend.2.trans hu⟩
          -- a scene of which something can be made would have been processed
          rw [hproduct, ← hu]
          cases hd' : p.processed bake u.disk branch.asScene with
          | none => rfl
          | some d' =>
              rcases hsettles.runs ⟨d', hd'⟩ with ⟨w, hrun'⟩
              cases hrun'.symm.trans hprocess
        · have hend := inOrder_of_process hready hadds hunwrap hprocess
          simp only [hprocess] at hrun
          cases hrun
          rcases hsettles.leaves _ hprocess with ⟨⟨d', hd'⟩, hafter⟩
          have hmade : p.product bake s.disk file = some d'.tree := by
            rw [hproduct, ← hu, hd']
            rfl
          refine ⟨.made hmade ?_, hend.1, hend.2.trans hu⟩
          rw [Stage.branch?, hafter, hd']
          rfl

end LevelPrep
