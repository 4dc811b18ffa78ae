import LevelPrep.Level.Conversion
import LevelPrep.Proofs.Mesh.Unwrapping
import LevelPrep.Proofs.Pass.Outcomes
import LevelPrep.Proofs.Pass.Repainting

/-!
# Rounds that draw by rules

Passes go by rules (`PassContext.rules`): what materials there are is told by the catalogs and the files
(`Session.supply`), and what is baked by a function that the unwrapper computes.  A round that asks about the
name of its node (`settles_questioned`) or bakes its mesh (`settles_bakeMesh`) succeeds exactly if the rules
make something of the node, and then draws it like this.
-/

namespace LevelPrep

variable {R : Type}

open Work SceneGraph

/-- The material that takes the place of one of the given name: the best match of the catalog, if its file is
there, or else a blank one. -/
def Session.supply (s : Session R) (name : Json) : Option Material :=
  (s.shelf.materialFor name).toOption.bind fun found =>
    match found with
    | none => some {}
    | some entry => (s.disk.isFile entry.path).toOption.bind fun isFile =>
      if isFile then some entry.material else none

theorem Session.supply_eq_some_iff {s : Session R} {name : Json} {material : Material} :
    s.supply name = some material ↔ ∃ found, s.shelf.materialFor name = .ok found ∧
      material = replacementFor found ∧ ∀ entry, found = some entry → s.disk.isFile entry.path = .ok true := by
  unfold supply
  cases s.shelf.materialFor name with
  | error fault => simp [Except.toOption]
  | ok found =>
      cases found with
      | none => simp [Except.toOption, replacementFor, eq_comm]
      | some entry =>
          rcases hfile : s.disk.isFile entry.path with fault | isFile
          · simp [Except.toOption, hfile]
          · cases isFile <;> simp [Except.toOption, hfile, replacementFor, eq_comm]

/-- The same files and the same catalogs supply the same materials. -/
theorem Session.supply_eq {s s' : Session R} (hdisk : s'.disk = s.disk)
    (hcatalogs : s'.shelf.catalogs = s.shelf.catalogs) : s'.supply = s.supply := by
  funext name
  unfold supply
  rw [hdisk, Shelf.materialFor_eq hcatalogs]

/-- What the passes of a context go by in a session. -/
def PassContext.rules (context : PassContext R) (bake : MeshValue → Matrix R → Float → Option MeshValue)
    (s : Session R) : Rules R where
  grammar := context.grammar
  texel := context.settings.texel
  bake := bake
  material := s.supply

variable {context : PassContext R} {bake : MeshValue → Matrix R → Float → Option MeshValue}
  {f : Drawer R} {id root : NodeId} {n : Node R} {i : MeshInstance GeometryId MaterialId}
  {s s' t t' : Session R} {d : Snapshot Geometry R}

theorem Repainted.rules_eq (h : Repainted s s') : context.rules bake s' = context.rules bake s := by
  unfold PassContext.rules
  rw [Session.supply_eq h.disk h.catalogs]

theorem exists_remade_iff (hn : s.stage.graph.node? id = some n) (hi : n.payload.meshInstance? = some i) :
    (∃ v, Remade f.maker (s.stage.head? id) v) ↔
      ∃ j, f n.name n.transform (s.stage.resources.figure i) = some j := by
  have hremake : Snapshot.Head.remake f.maker (s.stage.headOf n) =
      (f n.name n.transform (s.stage.resources.figure i)).map fun j =>
        { s.stage.headOf n with payload := .meshInstance j } := by
    unfold Snapshot.Head.remake
    show ((f.maker n.name n.transform (s.stage.payloadValue n)).map _) = _
    rw [Stage.payloadValue_of_meshInstance hi]
    show ((f n.name n.transform (s.stage.resources.figure i)).map _).map _ = _
    cases f n.name n.transform (s.stage.resources.figure i) <;> rfl
  constructor
  · rintro ⟨v, h, h', hh, hh', -⟩
    cases hh.symm.trans (Stage.head?_of_node? hn)
    rw [hremake] at hh'
    rcases Option.map_eq_some_iff.1 hh' with ⟨j, hj, -⟩
    exact ⟨j, hj⟩
  · rintro ⟨j, hj⟩
    exact ⟨_, s.stage.headOf n, _, Stage.head?_of_node? hn, by rw [hremake, hj]; rfl, rfl⟩

/-! ## Rounds that redraw a node -/

namespace Resources

variable (r : Resources) (g : Grammar) (name : Json)

theorem figure_asHidden : r.figure (i.asHidden g name) = (r.figure i).asHidden g name := by
  unfold MeshInstance.asHidden
  split_ifs <;> rfl

theorem figure_asLit : r.figure (i.asLit g name) = (r.figure i).asLit g name := by
  unfold MeshInstance.asLit
  split_ifs <;> rfl

theorem figure_asShadowing : r.figure (i.asShadowing g name) = (r.figure i).asShadowing g name :=
  rfl

theorem figure_asLayered : r.figure (i.asLayered g name) = (r.figure i).asLayered g name := by
  rw [MeshInstance.asLayered_eq, MeshInstance.asLayered_eq]
  rfl

end Resources

/-- A round that asks about the name of its node draws it if the question is answered. -/
theorem settles_questioned {β : Type} {question : Except Fault β} {round : Work R Unit}
    {change : MeshInstance GeometryId MaterialId → MeshInstance GeometryId MaterialId} (ht : Fit t)
    (hn : t.stage.graph.node? id = some n) (hi : n.payload.meshInstance? = some i)
    (h : Questioned question id change round t)
    (hmesh : ∀ mesh, (change i).mesh = some mesh → i.mesh = some mesh)
    (hdrawn : f n.name n.transform (t.stage.resources.figure i) =
      onAnswer question (t.stage.resources.figure (change i))) :
    Settles round t (∃ v, Remade f.maker (t.stage.head? id) v) (Painted f id t) := by
  refine h.settles.congr ?_ ?_
  · rw [exists_remade_iff hn hi, hdrawn]
    simp [onAnswer_eq_some_iff]
  · rintro t' hanswered ⟨journal, rfl⟩
    refine painted_of_modifyInstance ht hn hi rfl (repainted_of_modifyInstance rfl (.refl _) rfl rfl rfl)
      ht.orderly.holds ht.onDisk ?_ (hdrawn.trans (onAnswer_eq_some_iff.2 ⟨hanswered, rfl⟩))
    exact fun mesh hchanged => ht.orderly.sound.payload hn i mesh hi (hmesh mesh hchanged)

theorem name_of_node? {g : SceneGraph R} (hn : g.node? id = some n) : g.name id = n.name := by
  simp [SceneGraph.name, hn]

theorem settles_hideIfAsked (ht : Fit t) (hn : t.stage.graph.node? id = some n)
    (hi : n.payload.meshInstance? = some i) :
    Settles (Rendering.hideIfAsked context id) t
      (∃ v, Remade (context.rules bake s).hide.maker (t.stage.head? id) v)
      (Painted (context.rules bake s).hide id t) := by
  refine settles_questioned ht hn hi (questioned_hideIfAsked context id t) ?_ ?_
  · intro mesh hchanged
    rw [MeshInstance.mesh_asHidden] at hchanged
    split_ifs at hchanged
    exact hchanged
  · rw [name_of_node? hn, Resources.figure_asHidden]
    rfl

theorem settles_lightIfAsked (ht : Fit t) (hn : t.stage.graph.node? id = some n)
    (hi : n.payload.meshInstance? = some i) (hshown : (t.stage.resources.figure i).mesh.isSome = true) :
    Settles (Rendering.lightIfAsked context id) t
      (∃ v, Remade (context.rules bake s).light.maker (t.stage.head? id) v)
      (Painted (context.rules bake s).light id t) := by
  refine settles_questioned ht hn hi (questioned_lightIfAsked context id t) ?_ ?_
  · intro mesh hchanged
    rwa [MeshInstance.mesh_asLit] at hchanged
  · rw [name_of_node? hn, Resources.figure_asLit]
    unfold Rules.light
    rw [if_pos hshown]
    rfl

theorem settles_setShadow (ht : Fit t) (hn : t.stage.graph.node? id = some n)
    (hi : n.payload.meshInstance? = some i) :
    Settles (Rendering.setShadow context id) t
      (∃ v, Remade (context.rules bake s).shade.maker (t.stage.head? id) v)
      (Painted (context.rules bake s).shade id t) := by
  refine settles_questioned ht hn hi (questioned_setShadow context id t) (fun mesh hchanged => hchanged) ?_
  rw [name_of_node? hn, Resources.figure_asShadowing]
  rfl

theorem settles_setLayer (ht : Fit t) (hn : t.stage.graph.node? id = some n)
    (hi : n.payload.meshInstance? = some i) :
    Settles (Rendering.setLayer context id) t
      (∃ v, Remade (context.rules bake s).layer.maker (t.stage.head? id) v)
      (Painted (context.rules bake s).layer id t) := by
  refine settles_questioned ht hn hi (questioned_setLayer context id t) ?_ ?_
  · intro mesh hchanged
    rwa [MeshInstance.mesh_asLayered] at hchanged
  · rw [name_of_node? hn, Resources.figure_asLayered]
    rfl

/-! ## Rounds that make geometry -/

theorem bakeable_iff {mesh : LiveMesh} (hmesh : Mesh.Known s.stage.resources mesh)
    (hunwrap : Lightmap.Computes context.tools.unwrap bake) (himesh : i.mesh = some mesh) :
    Bakeable context n.name n.transform mesh s.stage.resources ↔
      ∃ j, (context.rules bake s').bakeMesh n.name n.transform (s.stage.resources.figure i) = some j := by
  -- the unwrapper is handed a copy, and a copy stands for the same value
  have hvalue := Lightmap.meshValue_rebuild hmesh
  have hcopied := (Resources.rebuild_spec hmesh).2.1
  have hfigure : (s.stage.resources.figure i).mesh = some (s.stage.resources.meshValue mesh) := by
    simp [Resources.figure, himesh]
  unfold Rules.bakeMesh
  simp only [hfigure]
  constructor
  · rintro ⟨⟨found, hfound⟩, base, unwrapped, hbase, hunwrapped⟩
    show ∃ j, ((onAnswer (context.grammar.nameValue n.name .texelMultiplier) ()).bind fun _ =>
      context.settings.texel.toOption.bind fun base => _) = some j
    rw [hfound, hbase]
    cases hbake : bake (s.stage.resources.meshValue mesh).bare n.transform
        (base * context.grammar.texelFactor n.name) with
    | some baked =>
        refine ⟨{ s.stage.resources.figure i with mesh := some baked }, ?_⟩
        show ((bake _ _ _).map _) = _
        rw [show bake (s.stage.resources.meshValue mesh).bare n.transform
          (base * (context.rules bake s').grammar.texelFactor n.name) = some baked from hbake]
        rfl
    | none =>
        rw [← hvalue] at hbake
        rcases hunwrap.refused hcopied hbake with ⟨fault, hfault⟩
        rw [hfault] at hunwrapped
        cases hunwrapped
  · rintro ⟨j, hj⟩
    rcases Option.bind_eq_some_iff.1 hj with ⟨⟨⟩, hanswer, hj⟩
    rcases Option.bind_eq_some_iff.1 hj with ⟨base, hbase, hj⟩
    rcases Option.map_eq_some_iff.1 hj with ⟨baked, hbaked, -⟩
    have hbase' : context.settings.texel = .ok base := by
      cases htexel : context.settings.texel with
      | error fault =>
          rw [show (context.rules bake s').texel = _ from htexel] at hbase
          cases hbase
      | ok base' =>
          rw [show (context.rules bake s').texel = _ from htexel] at hbase
          cases hbase
          rfl
    rw [← hvalue] at hbaked
    rcases hunwrap.made hcopied hbaked with ⟨unwrapped, hok, -⟩
    exact ⟨(onAnswer_eq_some_iff.1 hanswer).1, base, unwrapped, hbase', hok⟩

theorem settles_bakeMesh (ht : Fit t) (hn : t.stage.graph.node? id = some n)
    (hi : n.payload.meshInstance? = some i) (hunwrap : Lightmap.Computes context.tools.unwrap bake)
    (hshown : (t.stage.resources.figure i).mesh.isSome = true) :
    Settles (Rendering.bake context id) t
      (∃ v, Remade (context.rules bake s).bakeMesh.maker (t.stage.head? id) v)
      (Painted (context.rules bake s).bakeMesh id t) := by
  obtain ⟨mesh, himesh⟩ : ∃ mesh, i.mesh = some mesh := by
    simpa [Resources.figure, Option.isSome_iff_exists] using hshown
  have hmesh : t.stage.graph.mesh? id = some mesh := by
    rw [SceneGraph.mesh?, meshInstance?_of_node? hn, hi]
    exact himesh
  have hknown := ht.orderly.sound id mesh hmesh
  rcases Resources.rebuild_spec hknown with ⟨hext, hcopied, -⟩
  refine (settles_bake hn hmesh).congr ?_ ?_
  · rw [exists_remade_iff hn hi]
    exact bakeable_iff hknown hunwrap himesh
  · intro t' hable hbaked
    rcases (bakeable_iff hknown hunwrap himesh).1 hable with ⟨j, hj⟩
    cases hbaked with
    | noMesh hnone => cases hnone.symm.trans hmesh
    | @unwrapped _ _ unwrapped base texel made hnode hmesh' hbase htexel hrun journal =>
        cases hnode.symm.trans hn
        cases hmesh'.symm.trans hmesh
        subst htexel
        -- what the unwrapper has made is what is to be baked
        have hdrawn := hj
        unfold Rules.bakeMesh at hdrawn
        rw [show (t.stage.resources.figure i).mesh = some (t.stage.resources.meshValue mesh) by
          simp [Resources.figure, himesh]] at hdrawn
        rcases Option.bind_eq_some_iff.1 hdrawn with ⟨⟨⟩, -, hdrawn⟩
        rcases Option.bind_eq_some_iff.1 hdrawn with ⟨base', hbase', hdrawn⟩
        rcases Option.map_eq_some_iff.1 hdrawn with ⟨baked, hbaked, rfl⟩
        cases (show (Except.ok base : Except Fault Float).toOption = some base' from hbase ▸ hbase')
        rw [← Lightmap.meshValue_rebuild hknown] at hbaked
        rcases hunwrap.made hcopied hbaked with ⟨unwrapped', hok, hext', hknown', hvalue⟩
        rw [show t.stage.graph.name id = n.name from name_of_node? hn] at hrun
        rw [show (context.rules bake s).grammar = context.grammar from rfl, hrun] at hok hext' hknown' hvalue
        cases hok
        refine painted_of_modifyInstance ht hn hi rfl
          (repainted_of_modifyInstance rfl (hext.trans hext') rfl rfl rfl)
          (ht.orderly.holds.of_extends (hext.trans hext')) ht.onDisk ?_ (hj.trans ?_)
        · rintro _ ⟨⟩
          exact hknown'
        · simp [Resources.figure, hvalue]

end LevelPrep
