import LevelPrep.Proofs.Catalog.Ranking
import LevelPrep.Proofs.Level.Readiness
import LevelPrep.Proofs.Pass.Images
import LevelPrep.Proofs.Pass.Steady

/-!
# Matching what was matched before

What stands in a short name stands in every name that this one stands in, so the entry that a name is matched with
is the one that its own short name is matched with (`bestMatch?_shortName`), in either letter case.  Materials are
named after their entries: once the material pass was run, every surface has a material that is found for its own
name (`Rematched`), and running the pass again leaves all mesh instances as they are (`material_pass_again`).  That
needs the files of the catalog to be there, as they are when the catalogs have just been opened
(`suppliesMaterials_of_ofSettings`).
-/

namespace LevelPrep

/-! ## The name of a winner -/

section

variable {E : Type} {shortName : E → String} {caseSensitive : Bool} {entries : List E} {name : String}

theorem StandsIn.trans {word middle : String} (h : StandsIn caseSensitive word middle)
    (h' : StandsIn caseSensitive middle name) : StandsIn caseSensitive word name := by
  refine ⟨h.1, ?_⟩
  have hfirst := h.2
  have hlast := h'.2
  cases caseSensitive with
  | true =>
      rw [if_pos rfl] at hfirst hlast ⊢
      exact hfirst.trans hlast
  | false =>
      rw [if_neg Bool.false_ne_true] at hfirst hlast ⊢
      exact hfirst.trans hlast

theorem StandsIn.self {word : String} (h : StandsIn caseSensitive word name) : StandsIn caseSensitive word word := by
  refine ⟨h.1, ?_⟩
  split_ifs <;> exact List.infix_rfl

/-- The entry at the first place of the longest for a name is there for its own short name, too: what stands in that
stands in the name. -/
theorem bestMatch?_shortName {winner : E} (h : bestMatch? caseSensitive shortName entries name = some winner) :
    bestMatch? caseSensitive shortName entries (shortName winner) = some winner := by
  rcases bestMatch?_eq_some_iff.1 h with ⟨place, ⟨hlongest, hfirst⟩, hwinner⟩
  rcases hlongest with ⟨entry, hentry, hstands, hmax⟩
  cases hentry.symm.trans hwinner
  refine bestMatch?_eq_some_iff.2 ⟨place, ⟨⟨winner, hwinner, hstands.self, ?_⟩, ?_⟩, hwinner⟩
  · intro other hother hother'
    exact hmax other hother (hother'.trans hstands)
  · -- whatever is as long and stands in the short name was in the running for the name
    rintro place' ⟨entry', hentry', hstands', hmax'⟩
    refine hfirst ⟨entry', hentry', hstands'.trans hstands, fun other hother hother' => ?_⟩
    calc (shortName other).length ≤ (shortName winner).length := hmax other hother hother'
      _ ≤ (shortName entry').length := hmax' winner (List.mem_of_getElem? hwinner) hstands.self

end

/-! ## Sessions that have materials -/

variable {R : Type}

open Work SceneGraph

/-- A catalog of materials is open, and its files can be loaded: all of them are there, and the materials that were
loaded before are those of their entries. -/
structure Session.SuppliesMaterials (s : Session R) (catalog : Catalog) : Prop where
  opened : s.shelf.materialCatalog = .ok catalog
  kind : catalog.kind = .material
  listed : ∃ root, catalog.ListsDirectory root
  onDisk : ∀ entry ∈ catalog.entries, s.disk.isFile entry.path = .ok true
  kept : s.shelf.Holds s.stage.resources

variable {catalog : Catalog} {s s' t : Session R} {root x : NodeId}

/-- What a catalog lists when it is opened are files. -/
theorem Catalog.isFile_of_ofDirectory {disk : Disk} {kind : CatalogKind} {settings : CatalogSettings}
    (h : Catalog.ofDirectory disk kind settings = .ok catalog) :
    ∀ entry ∈ catalog.entries, disk.isFile entry.path = .ok true := by
  rcases Catalog.entries_of_ofDirectory h with ⟨root, -, hfiles⟩
  rw [hfiles]
  intro entry hentry
  rcases List.mem_map.1 hentry with ⟨name, hname, rfl⟩
  exact (CatalogSettings.mem_files.1 hname).2.1

/-- Catalogs that have just been opened supply their materials. -/
theorem Session.suppliesMaterials_of_ofSettings {settings : List (String × CatalogSettings)}
    (hshelf : Shelf.ofSettings s.disk settings = .ok s.shelf) (hcatalog : s.shelf.materialCatalog = .ok catalog) :
    s.SuppliesMaterials catalog where
  opened := hcatalog
  kind := Shelf.kind_of_materialCatalog hshelf hcatalog
  listed := Shelf.exists_listsDirectory hshelf hcatalog
  onDisk := by
    rcases (Shelf.of_ofSettings hshelf).2.2 _ catalog hcatalog with ⟨kind, config, -, -, hdirectory⟩
    exact Catalog.isFile_of_ofDirectory hdirectory
  kept := by
    intro name entry id _ hid
    rw [(Shelf.of_ofSettings hshelf).1] at hid
    cases hid

namespace Session.SuppliesMaterials

variable (h : s.SuppliesMaterials catalog)
include h

theorem caseSensitive : catalog.kind.caseSensitive = true := by
  rw [h.kind]
  rfl

theorem materialFor_eq (name : Json) : s.shelf.materialFor name = catalog.bestMatch name := by
  unfold Shelf.materialFor
  rw [h.opened]
  rfl

/-- Every material that a name is matched with can be had. -/
theorem supply_eq_some_iff {name : Json} {material : Material} : s.supply name = some material ↔
    ∃ found, s.shelf.materialFor name = .ok found ∧ material = replacementFor found := by
  rw [Session.supply_eq_some_iff]
  refine exists_congr fun found => and_congr_right fun hfound => and_iff_left_of_imp fun _ => ?_
  rintro entry rfl
  rw [h.materialFor_eq] at hfound
  exact h.onDisk entry (Catalog.mem_of_bestMatch hfound)

/-- What a name is matched with is what the material for it is matched with by its own name. -/
theorem materialFor_again {name : Json} {found : Option CatalogEntry} (hfound : s.shelf.materialFor name = .ok found) :
    s.shelf.materialFor (replacementFor found).name = .ok found := by
  rw [h.materialFor_eq] at hfound ⊢
  exact Catalog.bestMatch_replacementFor h.caseSensitive hfound

theorem supply_own_name {name : Json} {material : Material} (hsupply : s.supply name = some material) :
    s.supply material.name = some material := by
  rcases h.supply_eq_some_iff.1 hsupply with ⟨found, hfound, rfl⟩
  exact h.supply_eq_some_iff.2 ⟨found, h.materialFor_again hfound, rfl⟩

theorem fit (hs : s.InOrder) : Fit s where
  linked := hs.linked
  owned := hs.owned
  orderly :=
    { sound := hs.sound
      listed := by
        intro other hother
        cases h.opened.symm.trans hother
        exact h.listed
      holds := h.kept }
  onDisk := by
    intro name entry id hentry _
    rw [h.materialFor_eq] at hentry
    exact h.onDisk entry (Catalog.mem_of_bestMatch hentry)

end Session.SuppliesMaterials

/-! ## The pass, run twice -/

/-- The surface that is left of one: its material is that of what its name was matched with, or a blank one if that is
nothing, and the name of the new material is matched with the same. -/
def Rematched (shelf : Shelf) (surface surface' : Surface Geometry Material) : Prop :=
  ∃ found, shelf.materialFor surface.materialName = .ok found ∧
    surface' = { surface with material := some (replacementFor found) } ∧
    shelf.materialFor surface'.materialName = .ok found

/-- What is left of a mesh instance: its surfaces are matched, and nothing else is different. -/
structure MeshInstance.Rematched (shelf : Shelf) (i i' : MeshInstance Geometry Material) : Prop where
  shown : i'.mesh.isSome = i.mesh.isSome
  same : { i' with mesh := i.mesh } = i
  mesh : ∀ mesh mesh', i.mesh = some mesh → i'.mesh = some mesh' →
    { mesh' with surfaces := mesh.surfaces } = mesh ∧
      List.Forall₂ (LevelPrep.Rematched shelf) mesh.surfaces mesh'.surfaces

/-- What is drawn by the rules for materials is matched. -/
theorem Session.SuppliesMaterials.rematched (h : s.SuppliesMaterials catalog) {rules : Rules R}
    (hrules : rules.material = s.supply) {name : Json} {transform : Matrix R} {i i' : MeshInstance Geometry Material}
    (hdrawn : rules.dress name transform i = some i') : i.Rematched s.shelf i' := by
  rcases Rules.dress_eq_some_iff.1 hdrawn with ⟨hnone, rfl⟩ | ⟨mesh, dressed, hmesh, hdressed, rfl⟩
  · exact ⟨rfl, rfl, fun mesh _ hmesh _ => by cases hnone.symm.trans hmesh⟩
  · refine ⟨by rw [hmesh]; rfl, rfl, ?_⟩
    rintro _ _ hmesh' ⟨⟩
    cases hmesh.symm.trans hmesh'
    rcases redress_eq_some_iff.1 hdressed with ⟨surfaces, hall, rfl⟩
    refine ⟨rfl, hall.imp fun surface surface' hsurface => ?_⟩
    rcases hsurface with ⟨material, hmaterial, rfl⟩
    rw [hrules] at hmaterial
    rcases h.supply_eq_some_iff.1 hmaterial with ⟨found, hfound, rfl⟩
    exact ⟨found, hfound, rfl, h.materialFor_again hfound⟩

/-- Nodes that were drawn anew by rules that change nothing when they are followed again are drawn as they are. -/
theorem Overpainted.head?_again {f : Snapshot.Maker R} (h : Overpainted f root s t) (h' : Overpainted f root t s')
    (hagain : ∀ name transform payload payload', f name transform payload = some payload' →
      f name transform payload' = some payload') : s'.stage.head? x = t.stage.head? x := by
  by_cases hx : s.stage.graph.Within root x
  · rcases h.inside x hx with ⟨v, w, -, hvw, hw⟩
    rcases h'.inside x (h.repainted.within_iff.2 hx) with ⟨w', u, hw', hwu, hu⟩
    cases hw'.symm.trans hw
    rcases Option.map_eq_some_iff.1 hvw with ⟨payload, hpayload, rfl⟩
    have hsame : Snapshot.Head.remake f { v with payload := payload } = some { v with payload := payload } := by
      unfold Snapshot.Head.remake
      rw [hagain _ _ _ _ hpayload]
      rfl
    cases hwu.symm.trans hsame
    rw [hu, hw]
  · exact h'.outside x fun hwithin => hx (h.repainted.within_iff.1 hwithin)

/-- The materials that are shown in a tree are named by texts. -/
def Stage.NamesMaterials (stage : Stage R) (root : NodeId) : Prop :=
  ∀ x i mesh, stage.graph.Within root x → stage.figure? x = some i → i.mesh = some mesh →
    ∀ surface ∈ mesh.surfaces, ∃ text, surface.materialName = .str text

namespace Session.SuppliesMaterials

variable {rules : Rules R} (h : s.SuppliesMaterials catalog) (hrules : rules.material = s.supply)
include h hrules

/-- A mesh instance whose materials are named by texts can be given its materials. -/
theorem exists_dress (name : Json) (transform : Matrix R) {i : MeshInstance Geometry Material}
    (htexts : ∀ mesh, i.mesh = some mesh → ∀ surface ∈ mesh.surfaces, ∃ text, surface.materialName = .str text) :
    ∃ i', rules.dress name transform i = some i' := by
  cases hmesh : i.mesh with
  | none => exact ⟨i, Rules.dress_eq_some_iff.2 (Or.inl ⟨hmesh, rfl⟩)⟩
  | some mesh =>
      obtain ⟨surfaces, hsurfaces⟩ : ∃ surfaces, List.Forall₂ (fun surface surface' => ∃ material,
          rules.material surface.materialName = some material ∧
            surface' = { surface with material := some material }) mesh.surfaces surfaces := by
        refine exists_forall₂ fun surface hsurface => ?_
        rcases htexts mesh hmesh surface hsurface with ⟨text, htext⟩
        have hfound : s.shelf.materialFor surface.materialName =
            .ok (bestMatch? catalog.kind.caseSensitive CatalogEntry.shortName catalog.entries text) := by
          rw [h.materialFor_eq, htext]
          rfl
        exact ⟨_, _, by rw [hrules]; exact h.supply_eq_some_iff.2 ⟨_, hfound, rfl⟩, rfl⟩
      exact ⟨_, Rules.dress_eq_some_iff.2
        (Or.inr ⟨mesh, _, hmesh, redress_eq_some_iff.2 ⟨surfaces, hsurfaces, rfl⟩, rfl⟩)⟩

/-- A tree whose materials are named by texts can be drawn with its materials. -/
theorem exists_remake {d : Snapshot Geometry R} (hs : s.stage.graph.Linked) (hd : s.stage.snapshot? root = some d)
    (htexts : s.stage.NamesMaterials root) : ∃ d', d.remake rules.dress.maker = some d' := by
  refine Stage.exists_remake_of_heads hs hd fun x hx => ?_
  have hlt := hs.index_lt_of_within hx (Stage.index_lt_of_snapshot? hs hd)
  rcases Stage.exists_head?_iff.2 hlt with ⟨v, hv⟩
  obtain ⟨payload, hpayload⟩ : ∃ payload, rules.dress.maker v.name v.transform v.payload = some payload := by
    cases hp : v.payload with
    | meshInstance i =>
        have hfigure : s.stage.figure? x = some i := by
          rw [Stage.figure?_eq, hv, Option.bind_some, hp]
          rfl
        rcases h.exists_dress hrules v.name v.transform fun mesh hmesh => htexts x i mesh hx hfigure hmesh with
          ⟨i', hi'⟩
        exact ⟨.meshInstance i', Option.map_eq_some_iff.2 ⟨i', hi', rfl⟩⟩
    | plain | staticBody | collisionShape => exact ⟨_, rfl⟩
  exact ⟨v, { v with payload := payload }, hv, by rw [Snapshot.Head.remake, hpayload]; rfl⟩

/-- What was made of a payload by the rules for materials is made of it again. -/
theorem maker_again (name : Json) (transform : Matrix R) (payload payload' : Payload Geometry Material)
    (hmade : rules.dress.maker name transform payload = some payload') :
    rules.dress.maker name transform payload' = some payload' := by
  cases payload with
  | meshInstance i =>
      rcases Option.map_eq_some_iff.1 hmade with ⟨i', hi', rfl⟩
      have hdone : rules.Done .material name transform i' := by
        refine Rules.done_material_again (fun {_ _} hsupply => ?_) hi'
        rw [hrules] at hsupply ⊢
        exact h.supply_own_name hsupply
      exact Option.map_eq_some_iff.2 ⟨i', hdone, rfl⟩
  | plain | staticBody | collisionShape =>
      cases hmade
      rfl

end Session.SuppliesMaterials

variable [Zero R] [One R] [Add R] [Mul R]

/-- The rules that the material pass goes by: no mesh is baked. -/
def PassContext.materialRules (context : PassContext R) (s : Session R) : Rules R :=
  context.rules (fun _ _ _ => none) s

/-- The material pass succeeds exactly if all mesh instances can be given materials, and then has done that. -/
theorem settles_material {context : PassContext R} {d : Snapshot Geometry R} (hs : Fit s)
    (hd : s.stage.snapshot? root = some d) :
    Settles (PassKind.material.apply context root) s (∃ d', d.remake (context.materialRules s).dress.maker = some d')
      (Overpainted (context.materialRules s).dress.maker root s) :=
  settles_drawing nofun hs hd nofun

/-- The entry that a name is matched with is the one that its own short name is matched with, whatever the entries and
with or without regard to letter case.  So the material pass, on a tree of any session that supplies materials, gives
every surface a material that is matched with the same again, and changes no mesh instance when it is run a second
time.  It succeeds where names are texts, and succeeds again wherever it has succeeded. -/
theorem material_pass_again :
    (∀ {E : Type} (caseSensitive : Bool) (shortName : E → String) (entries : List E) (name : String) (winner : E),
      bestMatch? caseSensitive shortName entries name = some winner →
        bestMatch? caseSensitive shortName entries (shortName winner) = some winner) ∧
    ∀ (context : PassContext R) (root : NodeId) (s : Session R) (catalog : Catalog), s.InOrder →
      root.index < s.stage.graph.size → s.SuppliesMaterials catalog →
        (s.stage.NamesMaterials root → ∃ s', (PassKind.material.apply context root).runIn s = (.ok (), s')) ∧
        ∀ s', (PassKind.material.apply context root).runIn s = (.ok (), s') →
          (∀ x, s.stage.graph.Within root x →
            Option.Rel (MeshInstance.Rematched s.shelf) (s.stage.figure? x) (s'.stage.figure? x)) ∧
          ∃ s'', (PassKind.material.apply context root).runIn s' = (.ok (), s'') ∧
            ∀ x, s''.stage.figure? x = s'.stage.figure? x := by
  refine ⟨fun _ _ _ _ _ h => bestMatch?_shortName h, fun context root s catalog hs hroot h => ?_⟩
  have hfit := h.fit hs
  have hrules : (context.materialRules s).material = s.supply := rfl
  rcases Stage.exists_snapshot? hs.linked hroot with ⟨d, hd⟩
  refine ⟨fun htexts => (settles_material hfit hd).runs (h.exists_remake hrules hs.linked hd htexts), fun s' hrun => ?_⟩
  rcases (settles_material hfit hd).leaves s' hrun with ⟨-, hpainted⟩
  refine ⟨fun x hx => optionRel_mono (hpainted.inside x hx).figure? ?_, ?_⟩
  · rintro i i' - ⟨name, transform, hdressed⟩
    exact h.rematched hrules hdressed
  · -- the dump that the first run leaves is what the rules make of it
    rcases hpainted.dump hfit hd with ⟨d', hmade, hd'⟩
    have hsame : context.materialRules s' = context.materialRules s := hpainted.repainted.rules_eq
    have hagain : Settles (PassKind.material.apply context root) s' _ _ := settles_material hpainted.fit hd'
    rw [hsame] at hagain
    rcases hagain.exists_after ⟨d', Snapshot.remake_again (h.maker_again hrules) hmade⟩ with ⟨s'', hrun', hpainted'⟩
    refine ⟨s'', hrun', fun x => ?_⟩
    rw [Stage.figure?_eq, Stage.figure?_eq, hpainted.head?_again hpainted' (h.maker_again hrules)]

/-- A wall of old stone, with a surface that has no material and one whose material is not in the catalog. -/
def wallScene : Branch Float :=
  .node (.str "Wall") Matrix.identity (.meshInstance { mesh := some { surfaces := [
    { geometry := {}, material := some { name := .str "WetOldStone" } }, { geometry := {} },
    { geometry := {}, material := some { name := .str "Glass" } }] } }) []

/-- A disk with materials of which one is part of another's name, and two have one short name. -/
def wallDisk : Disk where
  home := { anchor := .root false, parts := ["home"] }
  entries := (["home", "Materials"], .directory) ::
    ["OldStone.tres", "OldStone.worn.tres", "Stone.tres"].map fun file =>
      (["home", "Materials", file], .file "".toUTF8)

/-- The materials of the disk in natural order. -/
def wallCatalog : Catalog where
  kind := .material
  settings := { root := .str "Materials", extension := .str ".tres" }
  entries := ["OldStone.tres", "OldStone.worn.tres", "Stone.tres"].map fun file =>
    { shortName := Text.before '.' file, assetId := file
      path := { anchor := .root false, parts := ["home", "Materials", file] } }

def wallContext : PassContext Float where
  scene := ⟨0⟩
  settings :=
    { levelIndicator := .str "Level"
      baseTexel := .float 0.2
      grammar := { indicator := .str "=", valueStart := .str "(", valueEnd := .str ")", keywords := [] }
      catalogs := [("material", { root := .str "Materials" })]
      passes := [.str "material"] }
  grammar := Grammar.default
  tools :=
    { loadScene := fun _ _ => ([], .error .malformed)
      unwrap := fun mesh _ _ r => (.ok mesh, r) }

/-- The session with the planted wall and the open catalog. -/
def wallSession : Session Float :=
  { ((plantScene wallScene).runIn { disk := wallDisk }).2 with shelf := { catalogs := [("material", wallCatalog)] } }

/-- The first of the two materials of one short name takes the place of the old stone, and stays. -/
theorem material_pass_again_wall :
    wallSession.InOrder ∧ wallSession.SuppliesMaterials wallCatalog ∧ wallSession.stage.NamesMaterials ⟨0⟩ ∧
      bestMatch? true CatalogEntry.shortName wallCatalog.entries "WetOldStone" = wallCatalog.entries.head? ∧
      bestMatch? true CatalogEntry.shortName wallCatalog.entries "OldStone" = wallCatalog.entries.head? ∧
      ∃ s' s'', (PassKind.material.apply wallContext ⟨0⟩).runIn wallSession = (.ok (), s') ∧
        (PassKind.material.apply wallContext ⟨0⟩).runIn s' = (.ok (), s'') ∧
        ∀ x, s''.stage.figure? x = s'.stage.figure? x := by
  have hin : wallSession.InOrder :=
    have hready := ready_of_plantScene (Session.inOrder_new wallDisk) (show (plantScene wallScene).runIn _ = _ from rfl)
    ⟨hready.linked, hready.sound, hready.owned⟩
  have hsupplies : wallSession.SuppliesMaterials wallCatalog := by
    refine ⟨rfl, rfl, ⟨{ anchor := .root false, parts := ["home", "Materials"] }, ?_⟩, ?_, ?_⟩
    · unfold Catalog.ListsDirectory
      decide +kernel
    · have hfiles : ∀ entry ∈ wallCatalog.entries, (wallSession.disk.isFile entry.path).toOption = some true := by
        decide +kernel
      exact fun entry hentry => toOption_eq_some_iff.1 (hfiles entry hentry)
    · intro name entry id _ hid
      cases hid
  have htexts : wallSession.stage.NamesMaterials ⟨0⟩ := by
    intro x i mesh hx hfigure hmesh surface hsurface
    have hroot : x ∈ wallSession.stage.graph.levelOrder ⟨0⟩ := (mem_levelOrder_iff hin.linked).2 hx
    have honly : wallSession.stage.graph.levelOrder ⟨0⟩ = [⟨0⟩] := by decide +kernel
    rw [honly, List.mem_singleton] at hroot
    subst hroot
    have hnames : ((wallSession.stage.figure? ⟨0⟩).bind (·.mesh)).map (fun m => m.surfaces.map (·.materialName)) =
        some (["WetOldStone", "", "Glass"].map Json.str) := rfl
    rw [hfigure, Option.bind_some, hmesh, Option.map_some] at hnames
    have hname := List.mem_map_of_mem (f := Surface.materialName) hsurface
    rw [Option.some.inj hnames] at hname
    rcases List.mem_map.1 hname with ⟨text, -, htext⟩
    exact ⟨text, htext.symm⟩
  have hold : bestMatch? true CatalogEntry.shortName wallCatalog.entries "WetOldStone" =
      wallCatalog.entries.head? := by decide +kernel
  obtain ⟨winner, hwinner, hname⟩ : ∃ winner, wallCatalog.entries.head? = some winner ∧
      winner.shortName = "OldStone" := ⟨_, rfl, by decide +kernel⟩
  rcases material_pass_again (R := Float) with ⟨hmatch, hpass⟩
  have hsame := hmatch true CatalogEntry.shortName wallCatalog.entries "WetOldStone" winner (hold.trans hwinner)
  rw [hname, ← hwinner] at hsame
  rcases hpass wallContext ⟨0⟩ wallSession wallCatalog hin (by decide +kernel) hsupplies with ⟨hruns, hagain⟩
  rcases hruns htexts with ⟨s', hrun⟩
  rcases hagain s' hrun with ⟨-, s'', hrun', hleft⟩
  exact ⟨hin, hsupplies, htexts, hold, hsame, s', s'', hrun, hrun', hleft⟩

end LevelPrep
