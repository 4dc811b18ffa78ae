import LevelPrep.Batch.Run
import LevelPrep.Proofs.Json.Printing
import LevelPrep.Proofs.Level.Assembly
import LevelPrep.Proofs.Level.Keeping
import LevelPrep.Proofs.Level.Shape
import LevelPrep.Proofs.Scene.Loading
import LevelPrep.Proofs.Scene.RoundTrip

/-!
# Scenes that are saved and read again

Nothing is lost when a scene is written as a document, be it as it was read or after a conversion.

* `branch?_of_plantScene`: a scene that was just put down looks like the tree that it was made from;
* `Handled.exists_branch`: what is left of it by a conversion looks like a tree that can be written;
* `savable_of_imported`: this is so however many scenes were imported before;
* `readDocument_of_saveTree`: what was saved is read again;
* `roundTrip_of_import`: all of this for scenes that come from documents.
-/

namespace LevelPrep

open Work SceneGraph

/-! ## Scenes that are put down -/

section

variable {R : Type} {s s' : Session R} {scene : NodeId}

theorem branch?_of_plantScene {branch : Branch R} (hs : s.stage.graph.Linked)
    (hrun : (plantScene branch).runIn s = (.ok scene, s')) : s'.stage.branch? scene = some branch := by
  rcases ownScene_of_plantScene hs hrun with ⟨hscene, hplanted⟩
  exact (Stage.branch?_eq_some_iff hplanted.linked).2 hscene.shown

/-- What was done with a scene that was put down: nothing, a conversion, or what its name asks for. -/
inductive Handled [Zero R] [One R] [Add R] [Mul R] (p : LevelProcessor R) (scene : NodeId) (s : Session R) :
    Session R → Prop
  | kept : Handled p scene s s
  | converted {s' : Session R} (hrun : (p.convert scene).runIn s = (.ok (), s')) : Handled p scene s s'
  | processed {s' : Session R} (hrun : (p.process scene).runIn s = (.ok (), s')) : Handled p scene s s'

/-- A session whose nodes are linked and whose resources can be written. -/
structure Session.Savable (s : Session R) : Prop where
  linked : s.stage.graph.Linked
  writable : s.Writable

theorem savable_of_plantScene {branch : Branch R} (hbranch : branch.Writable) (hs : s.Savable)
    (hrun : (plantScene branch).runIn s = (.ok scene, s')) : s'.Savable where
  linked := (openScene_of_plantScene hs.linked hrun).linked
  writable := writable_of_plantScene hbranch hrun hs.writable

variable [Zero R] [One R] [Add R] [Mul R] {p : LevelProcessor R}

/-- A conversion that succeeds leaves the scene where it is. -/
theorem inside_of_convert (hscene : OpenScene scene s) (hrun : (p.convert scene).runIn s = (.ok (), s')) :
    s'.stage.graph.Linked ∧ scene.index < s'.stage.graph.size := by
  rcases exists_assembled hscene hrun with ⟨shelf, catalog, sorted, t, u, -, h⟩
  refine ⟨h.linked, exists_node?_iff.1 ?_⟩
  rw [h.node?_scene]
  exact exists_node?_iff.2 hscene.inside

namespace Handled

/-- Whatever was done with a scene, it has stayed where it is. -/
theorem inside (hscene : OpenScene scene s) (h : Handled p scene s s') :
    s'.stage.graph.Linked ∧ scene.index < s'.stage.graph.size := by
  cases h with
  | kept => exact ⟨hscene.linked, hscene.inside⟩
  | converted hrun => exact inside_of_convert hscene hrun
  | processed hrun =>
      rcases of_process hrun with ⟨journal, rfl⟩ | ⟨t, journal, hconvert, rfl⟩
      · exact ⟨hscene.linked, hscene.inside⟩
      · have hinside := inside_of_convert hscene hconvert
        exact hinside

theorem writable (htools : p.tools.KeepWritable) (hs : s.Writable) (h : Handled p scene s s') :
    s'.Writable := by
  cases h with
  | kept => exact hs
  | converted hrun => exact writable_of_convert htools hrun hs
  | processed hrun => exact writable_of_process htools hrun hs

/-- The scene looks like a tree that can be written. -/
theorem exists_branch (htools : p.tools.KeepWritable) (hscene : OpenScene scene s) (hs : s.Writable)
    (h : Handled p scene s s') : ∃ branch, s'.stage.branch? scene = some branch ∧ branch.Writable := by
  rcases h.inside hscene with ⟨hlinked, hinside⟩
  rcases Stage.exists_shows hlinked hinside with ⟨branch, hshows⟩
  have hresources := (h.writable htools hs).resources
  exact ⟨branch, (Stage.branch?_eq_some_iff hlinked).2 hshows, hshows.writable hresources⟩

end Handled

end

/-! ## One import after the other -/

/-- The sessions that a processor comes to from the start by putting down scenes, from documents or from
files, and handling each of them. -/
inductive Imported (p : LevelProcessor Float) : Session Float → Prop
  | start {disk : Disk} (hdisk : disk.WellFormed) : Imported p { disk }
  | document {d : Json} {t : Branch Float} {scene : NodeId} {s₀ s s' : Session Float} (h : Imported p s₀)
      (hread : Document.decodeNode d = .ok t) (hplant : (plantScene t).runIn s₀ = (.ok scene, s))
      (hhandled : Handled p scene s s') : Imported p s'
  | file {path : Path} {t : Branch Float} {scene : NodeId} {s₀ s s' : Session Float} (h : Imported p s₀)
      (hload : (p.tools.loadScene s₀.disk path).2 = .ok t) (hplant : (plantScene t).runIn s₀ = (.ok scene, s))
      (hhandled : Handled p scene s s') : Imported p s'

variable {p : LevelProcessor Float}

/-- Tools that load scene files as they are. -/
theorem Tools.keepWritable {tools : Tools Float} (hload : tools.loadScene = SceneFile.load)
    (hunwrap : Lightmap.KeepsWritable tools.unwrap) : tools.KeepWritable where
  loadScene disk path branch hdisk hbranch := by
    rw [hload] at hbranch
    exact SceneFile.writable_of_load hdisk hbranch
  unwrap := hunwrap

theorem savable_start {disk : Disk} (hdisk : disk.WellFormed) : ({ disk } : Session Float).Savable where
  linked := Linked.empty
  writable :=
    { disk := hdisk
      resources := .empty
      catalogs := by
        intro name catalog h
        cases h }

/-- An import takes a session that can be saved to another. -/
theorem savable_of_import {t : Branch Float} {scene : NodeId} {s₀ s s' : Session Float}
    (htools : p.tools.KeepWritable) (ht : t.Writable) (hs₀ : s₀.Savable)
    (hplant : (plantScene t).runIn s₀ = (.ok scene, s)) (h : Handled p scene s s') : s'.Savable where
  linked := (h.inside (openScene_of_plantScene hs₀.linked hplant)).1
  writable := h.writable htools (savable_of_plantScene ht hs₀ hplant).writable

theorem savable_of_imported (htools : p.tools.KeepWritable) {s : Session Float} (h : Imported p s) :
    s.Savable := by
  induction h with
  | start hdisk => exact savable_start hdisk
  | document _ hread hplant hhandled ih =>
      exact savable_of_import htools (Document.writable_of_decodeNode hread) ih hplant hhandled
  | file _ hload hplant hhandled ih =>
      have ht := htools.loadScene _ _ _ ih.writable.disk hload
      exact savable_of_import htools ht ih hplant hhandled

/-! ## Files -/

/-- Writing a file puts its text where its path leads to. -/
theorem of_writeFile {R : Type} {path : Path} {text : String} {s s' : Session R}
    (hrun : (writeFile path text).runIn s = (.ok (), s')) :
    ∃ place, s.disk.openFile path = .ok place ∧ s'.disk = s.disk.put place (.file text.toUTF8) := by
  rcases runIn_bind_eq_ok_iff.1 hrun with ⟨s₁, s₂, hsession, hopen⟩
  cases hsession
  rcases runIn_bind_eq_ok_iff.1 hopen with ⟨place, s₃, hlift, hput⟩
  rcases runIn_lift_eq_ok_iff.1 hlift with ⟨hplace, rfl⟩
  cases hput
  exact ⟨place, hplace, rfl⟩

/-- A scene that was saved is read again as the tree that it looks like, if its text is read as what was
written. -/
theorem readDocument_of_saveTree {t : Branch Float} {root : NodeId} {path : Path} {s s' : Session Float}
    (hbranch : s.stage.branch? root = some t) (ht : t.Writable)
    (hjson : Json.read (Json.print (Document.encode t)) = .ok (Document.encode t))
    (hrun : (saveTree root path).runIn s = (.ok (), s')) :
    SceneFile.readDocument s'.disk path = ([], .ok { version := .str Document.version, root := t }) := by
  rcases runIn_bind_eq_ok_iff.1 hrun with ⟨branch, s₁, hread, hwrite⟩
  rcases runIn_bind_eq_ok_iff.1 hread with ⟨s₂, s₃, hsession, hfound⟩
  cases hsession
  rw [hbranch] at hfound
  cases hfound
  rcases of_writeFile hwrite with ⟨place, hplace, hdisk⟩
  have hplain := Disk.readPlain_put hplace (Json.print (Document.encode t))
  -- the text has no carriage returns, so reading it as lines leaves it as it was written
  have htext : s'.disk.readText path = .ok (Json.print (Document.encode t)) := by
    unfold Disk.readText
    rw [hdisk, hplain, ok_bind, unifyLines_print, String.ofList_toList]
    rfl
  have hvalue : (s'.disk.readText path).bind Json.read = .ok (Document.encode t) := by
    rw [htext]
    exact hjson
  unfold SceneFile.readDocument
  rw [hvalue]
  exact Document.decode_encode ht

/-! ## Scenes that come from documents -/

/-- Every tree that is read from a document is read again from what is written of it, so what is written does
not change when it is read and written once more.  So it is with every tree that an import leaves, whatever
was imported before, and if it is saved it is read again from its file.  An unwrapper may bring in nothing
that cannot be written, and the text of what is saved has to be read as what was written. -/
theorem roundTrip_of_import {d : Json} {t : Branch Float} (hread : Document.decodeNode d = .ok t) :
    Document.decodeNode (Document.encodeNode t) = .ok t ∧
    (Document.decodeNode (Document.encodeNode t)).map Document.encodeNode = .ok (Document.encodeNode t) ∧
    ∀ p : LevelProcessor Float, p.tools.loadScene = SceneFile.load →
      Lightmap.KeepsWritable p.tools.unwrap →
      ∀ (s₀ s s' : Session Float) (scene : NodeId), s₀.Savable →
        (plantScene t).runIn s₀ = (.ok scene, s) → Handled p scene s s' →
        s.stage.branch? scene = some t ∧
        ∃ t', s'.stage.branch? scene = some t' ∧ Document.decodeNode (Document.encodeNode t') = .ok t' ∧
          ∀ path s'', (saveTree scene path).runIn s' = (.ok (), s'') →
            Json.read (Json.print (Document.encode t')) = .ok (Document.encode t') →
            SceneFile.readDocument s''.disk path =
              ([], .ok { version := .str Document.version, root := t' }) := by
  have ht := Document.writable_of_decodeNode hread
  have hback := Document.decodeNode_encodeNode ht
  refine ⟨hback, by rw [hback]; rfl, ?_⟩
  intro p hload hunwrap s₀ s s' scene hs₀ hplant hhandled
  have htools := Tools.keepWritable hload hunwrap
  have hscene := openScene_of_plantScene hs₀.linked hplant
  have hs := (savable_of_plantScene ht hs₀ hplant).writable
  rcases hhandled.exists_branch htools hscene hs with ⟨t', hbranch, ht'⟩
  refine ⟨branch?_of_plantScene hs₀.linked hplant, t', hbranch, Document.decodeNode_encodeNode ht', ?_⟩
  intro path s'' hsave hjson
  exact readDocument_of_saveTree hbranch ht' hjson hsave

/-! ### A yard -/

/-- A document that leaves out what can be left out, and writes the rest as it can be written too. -/
def yardDocument : Json :=
  .obj [("name", .str "Level"), ("children", .arr [
    .obj [("name", .str "Crate_1")],
    .obj [("type", .str "MeshInstance3D"), ("name", .str "Wall"),
      ("mesh", .obj [("surfaces", .arr [.obj [
        ("vertices", .arr [.int 0, .int 0, .int 0, .str "1.5", .int 0, .int 0, .int 0, .int 1, .int 0]),
        ("faces", .arr [.arr [.int 0, .int 1, .int 2]]),
        ("material", .obj [("name", .str "Brick"),
          ("resourcePath", .str "Materials//./brick.tres")])]])])]])]

/-- What it stands for. -/
def yard : Branch Float :=
  .node (.str "Level") Matrix.identity .plain [
    .node (.str "Crate_1") Matrix.identity .plain [],
    .node (.str "Wall") Matrix.identity
      (.meshInstance { mesh := some { surfaces := [{
        geometry := { vertices := [⟨0, 0, 0⟩, ⟨1.5, 0, 0⟩, ⟨0, 1, 0⟩], faces := [⟨0, 1, 2⟩] }
        material := some
          { name := .str "Brick", resourcePath := some { parts := ["Materials", "brick.tres"] } } }] } })
      []]

/-- A processor that makes collision bodies and unwraps meshes. -/
def yardProcessor : LevelProcessor Float :=
  { crateProcessor with passes := [.collision, .lightmap], tools := Tools.standard }

/-- The session with the planted yard, the one after it was turned into a level, and the one after that
level was saved. -/
def yardSession : Session Float :=
  ((plantScene yard).runIn { disk := crateDisk }).2

def yardLevel : Session Float :=
  ((yardProcessor.process ⟨0⟩).runIn yardSession).2

def yardFile : Path where
  anchor := .root false
  parts := ["home", "Level.json"]

def yardSaved : Session Float :=
  ((saveTree ⟨0⟩ yardFile).runIn yardLevel).2

theorem wellFormed_crateDisk : crateDisk.WellFormed where
  home := by
    show ∀ part ∈ ["home"], Path.IsName part
    simp [Path.IsName, Path.isPart]
  names := by simp [crateDisk, Path.IsName, Path.isPart]
  sizes := by
    intro e he content hfile
    rcases List.mem_cons.1 he with rfl | he
    · cases hfile
    · cases List.mem_singleton.1 he
      cases hfile
      decide +kernel

theorem roundTrip_of_import_yard :
    Document.decodeNode yardDocument = .ok yard ∧
      ((yardProcessor.process ⟨0⟩).runIn yardSession).1.toOption = some () ∧
      ((saveTree ⟨0⟩ yardFile).runIn yardLevel).1.toOption = some () ∧
      ∃ t', yardLevel.stage.branch? ⟨0⟩ = some t' ∧
        Document.decodeNode (Document.encodeNode t') = .ok t' ∧
        (Json.read (Json.print (Document.encode t')) = .ok (Document.encode t') →
          SceneFile.readDocument yardSaved.disk yardFile =
            ([], .ok { version := .str Document.version, root := t' })) := by
  have hread : Document.decodeNode yardDocument = .ok yard := rfl
  have hplant : (plantScene yard).runIn { disk := crateDisk } = (.ok ⟨0⟩, yardSession) := rfl
  have hrun : ((yardProcessor.process ⟨0⟩).runIn yardSession).1.toOption = some () := by
    decide +kernel
  have hsave : ((saveTree ⟨0⟩ yardFile).runIn yardLevel).1.toOption = some () := by
    decide +kernel
  have hunwrap : Lightmap.KeepsWritable yardProcessor.tools.unwrap := by
    intro mesh transform texel r hr
    exact Lightmap.writable_unwrap Lightmap.numbers_gridPacker {} mesh transform (.float texel) hr
  rcases roundTrip_of_import hread with ⟨-, -, himport⟩
  rcases himport yardProcessor rfl hunwrap _ _ _ ⟨0⟩ (savable_start wellFormed_crateDisk) hplant
    (.processed (runIn_eq_of_toOption hrun)) with ⟨-, t', hbranch, hback, hfile⟩
  exact ⟨hread, hrun, hsave, t', hbranch, hback, hfile yardFile yardSaved (runIn_eq_of_toOption hsave)⟩

end LevelPrep
