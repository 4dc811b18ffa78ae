import LevelPrep.Level.Conversion
import LevelPrep.Proofs.Pass.Looks
import LevelPrep.Proofs.Pass.Order
import LevelPrep.Proofs.Pass.Outcomes
import LevelPrep.Proofs.Reordering

/-!
# Passes behind the lightmap pass

The three last passes can be exchanged without any trace: whichever of them runs first, the sessions that they
leave together are the same, to the last resource and the last line of the journal (`commutes_late`).  Two of them
redraw nodes after a question about their names (`Asks`); the third one, which gives meshes their materials, is
`Unaware` of how nodes are drawn.  So where lightmaps are made, accepted orders of passes leave the same session
(`eq_of_stages`).
-/

namespace LevelPrep

variable {R : Type}

open Work SceneGraph

/-- The session that a step leaves if it succeeds. -/
def Work.result? (step : Work R Unit) (s : Session R) : Option (Session R) :=
  match step.runIn s with
  | (.ok _, s') => some s'
  | (.error _, _) => none

theorem Work.result?_eq_some_iff {step : Work R Unit} {s s' : Session R} :
    step.result? s = some s' ↔ step.runIn s = (.ok (), s') := by
  unfold result?
  rcases step.runIn s with ⟨fault | ⟨⟩, t⟩ <;> simp

/-- A loop takes its rounds one after another. -/
theorem Work.result?_forM {α : Type} (f : α → Work R Unit) (items : List α) (s : Session R) :
    (items.forM f).result? s = items.foldlM (fun t a => (f a).result? t) s := by
  induction items generalizing s with
  | nil => rfl
  | cons a items ih =>
      have hsplit : ((a :: items).forM f).runIn s = (f a >>= fun _ => items.forM f).runIn s := rfl
      rw [List.foldlM_cons, result?, hsplit, runIn_bind]
      unfold result?
      rcases (f a).runIn s with ⟨fault | ⟨⟩, t⟩
      · rfl
      · exact ih t

/-- The session with other nodes. -/
def Session.mapGraph (φ : SceneGraph R → SceneGraph R) (s : Session R) : Session R :=
  { s with stage := { s.stage with graph := φ s.stage.graph } }

/-! ## Nodes drawn in another way -/

namespace SceneGraph

variable {g g' g'' : SceneGraph R}

/-- Mesh instances in the same places under the same names. -/
structure Alike (g g' : SceneGraph R) : Prop where
  levelOrder : ∀ root, g'.levelOrder root = g.levelOrder root
  name : ∀ x, g'.name x = g.name x
  isInstance : ∀ x, (g'.meshInstance? x).isSome = (g.meshInstance? x).isSome

theorem Alike.refl (g : SceneGraph R) : g.Alike g :=
  ⟨fun _ => rfl, fun _ => rfl, fun _ => rfl⟩

theorem Alike.trans (h : g.Alike g') (h' : g'.Alike g'') : g.Alike g'' where
  levelOrder root := (h'.levelOrder root).trans (h.levelOrder root)
  name x := (h'.name x).trans (h.name x)
  isInstance x := (h'.isInstance x).trans (h.isInstance x)

theorem Alike.instances (h : g.Alike g') (root : NodeId) : g'.instances root = g.instances root := by
  unfold SceneGraph.instances
  rw [h.levelOrder]
  exact List.filter_congr fun x _ => h.isInstance x

theorem alike_modifyInstance (g : SceneGraph R) (id : NodeId)
    (change : MeshInstance GeometryId MaterialId → MeshInstance GeometryId MaterialId) :
    g.Alike (g.modifyInstance id change) where
  levelOrder := by
    have hsame := relabelled_modifyInstance g id change
    exact levelOrder_congr hsame.size_eq hsame.children_same
  name x := by
    unfold SceneGraph.name
    rw [node?_modifyInstance]
    split_ifs
    · cases g.node? x <;> rfl
    · rfl
  isInstance x := by
    unfold meshInstance?
    rw [node?_modifyInstance]
    split_ifs
    · cases g.node? x <;> simp
    · rfl

/-- Changes of two nodes, or changes of one node that commute, can be made in either order. -/
theorem modifyInstance_comm (g : SceneGraph R) {id other : NodeId}
    {f f' : MeshInstance GeometryId MaterialId → MeshInstance GeometryId MaterialId}
    (h : id = other → ∀ i, f' (f i) = f (f' i)) :
    (g.modifyInstance id f).modifyInstance other f' = (g.modifyInstance other f').modifyInstance id f := by
  unfold modifyInstance modify
  congr 1
  ext x hx
  · simp
  · simp only [Array.getElem_modify]
    by_cases hid : id.index = x <;> by_cases hother : other.index = x
    · have hsame : id = other := by
        cases id
        cases other
        simp_all
      simp [hid, hother, h hsame]
    all_goals simp [hid, hother]

/-- The graph with some nodes drawn in another way, each as its name asks for. -/
def redraw (change : Json → MeshInstance GeometryId MaterialId → MeshInstance GeometryId MaterialId)
    (ids : List NodeId) (g : SceneGraph R) : SceneGraph R :=
  ids.foldl (fun g id => g.modifyInstance id (change (g.name id))) g

variable {change other : Json → MeshInstance GeometryId MaterialId → MeshInstance GeometryId MaterialId}

theorem alike_redraw (change : Json → MeshInstance GeometryId MaterialId → MeshInstance GeometryId MaterialId)
    (ids : List NodeId) (g : SceneGraph R) : g.Alike (g.redraw change ids) := by
  induction ids generalizing g with
  | nil => exact .refl g
  | cons id ids ih => exact (alike_modifyInstance g id _).trans (ih _)

/-- A change that commutes with the redrawing of any node can be made before or after it. -/
theorem redraw_modifyInstance (g : SceneGraph R) (ids : List NodeId) (x : NodeId)
    {f : MeshInstance GeometryId MaterialId → MeshInstance GeometryId MaterialId}
    (h : ∀ name i, change name (f i) = f (change name i)) :
    (g.modifyInstance x f).redraw change ids = (g.redraw change ids).modifyInstance x f := by
  refine List.foldl_hom (fun g : SceneGraph R => g.modifyInstance x f) fun g id => ?_
  rw [(alike_modifyInstance g x f).name]
  exact modifyInstance_comm g fun _ => h _

theorem redraw_comm (g : SceneGraph R) (ids ids' : List NodeId)
    (h : ∀ name name' i, other name' (change name i) = change name (other name' i)) :
    (g.redraw change ids).redraw other ids' = (g.redraw other ids').redraw change ids := by
  symm
  refine List.foldl_hom (fun g : SceneGraph R => g.redraw other ids') fun g id => ?_
  rw [(alike_redraw other ids' g).name]
  exact (redraw_modifyInstance g ids' id fun name' i => h _ name' i).symm

/-- Redrawing that leaves meshes leaves the mesh of every node. -/
theorem mesh?_redraw (hmesh : ∀ name i, (change name i).mesh = i.mesh) (ids : List NodeId) (g : SceneGraph R)
    (x : NodeId) : (g.redraw change ids).mesh? x = g.mesh? x := by
  induction ids generalizing g with
  | nil => rfl
  | cons id ids ih =>
      refine (ih _).trans ?_
      unfold mesh?
      rw [meshInstance?_modifyInstance]
      split_ifs
      · cases g.meshInstance? x <;> simp [hmesh]
      · rfl

end SceneGraph

/-! ## Rounds that ask and redraw -/

/-- Rounds that ask about the names of their nodes and then draw them in another way. -/
def Asks {α : Type} (question : Json → Except Fault α)
    (change : Json → MeshInstance GeometryId MaterialId → MeshInstance GeometryId MaterialId)
    (round : NodeId → Work R Unit) : Prop :=
  ∀ id s, (round id).runIn s = answered (question (s.stage.graph.name id))
    (s.mapGraph (·.modifyInstance id (change (s.stage.graph.name id)))) s

variable {context : PassContext R} {root : NodeId} {s s' : Session R}

theorem asks_setShadow (context : PassContext R) :
    Asks (fun name => context.grammar.nameHas name .noShadow) (MeshInstance.asShadowing context.grammar)
      (Rendering.setShadow context) :=
  runIn_setShadow context

theorem asks_setLayer (context : PassContext R) :
    Asks (fun name => context.grammar.nameValue name .renderLayer) (MeshInstance.asLayered context.grammar)
      (Rendering.setLayer context) :=
  runIn_setLayer context

section

variable {α : Type} {question : Json → Except Fault α} {round : NodeId → Work R Unit}
  {change : Json → MeshInstance GeometryId MaterialId → MeshInstance GeometryId MaterialId}

theorem Asks.result?_eq_some_iff (h : Asks question change round) {id : NodeId} :
    (round id).result? s = some s' ↔ (∃ a, question (s.stage.graph.name id) = .ok a) ∧
      s' = s.mapGraph (·.modifyInstance id (change (s.stage.graph.name id))) := by
  rw [Work.result?_eq_some_iff, h id s]
  cases question (s.stage.graph.name id) <;> simp [answered, eq_comm]

/-- Such rounds succeed exactly if all their questions are answered, and then all their nodes are redrawn. -/
theorem Asks.forM_result?_eq_some_iff (h : Asks question change round) {ids : List NodeId} :
    (ids.forM round).result? s = some s' ↔
      (∀ id ∈ ids, ∃ a, question (s.stage.graph.name id) = .ok a) ∧ s' = s.mapGraph (redraw change ids) := by
  rw [Work.result?_forM]
  induction ids generalizing s with
  | nil =>
      show some s = some s' ↔ _
      simp [Session.mapGraph, redraw, eq_comm]
  | cons id ids ih =>
      -- redrawing a node changes no name, so all questions can be asked at the start
      have hname := (alike_modifyInstance s.stage.graph id (change (s.stage.graph.name id))).name
      rw [List.foldlM_cons, Option.bind_eq_bind, Option.bind_eq_some_iff, List.forall_mem_cons]
      simp only [h.result?_eq_some_iff, ih]
      constructor
      · rintro ⟨_, ⟨hfirst, rfl⟩, hrest, rfl⟩
        refine ⟨⟨hfirst, fun x hx => ?_⟩, rfl⟩
        rw [← hname x]
        exact hrest x hx
      · rintro ⟨⟨hfirst, hrest⟩, rfl⟩
        refine ⟨_, ⟨hfirst, rfl⟩, fun x hx => ?_, rfl⟩
        have hsame : ((s.mapGraph (·.modifyInstance id (change (s.stage.graph.name id)))).stage.graph.name x) =
            s.stage.graph.name x := hname x
        rw [hsame]
        exact hrest x hx

/-- A pass that goes through the mesh instances of a tree with such rounds. -/
theorem Asks.pass_result?_eq_some_iff (h : Asks question change round) {root : NodeId} :
    (do ((← Work.graph).instances root).forM round : Work R Unit).result? s = some s' ↔
      (∀ id ∈ s.stage.graph.instances root, ∃ a, question (s.stage.graph.name id) = .ok a) ∧
        s' = s.mapGraph (redraw change (s.stage.graph.instances root)) :=
  h.forM_result?_eq_some_iff

end

/-! ## Steps that do not look at how nodes are drawn -/

/-- A change of nodes that leaves their names, their places and their meshes, and that commutes with new meshes. -/
structure SceneGraph.Veil (φ : SceneGraph R → SceneGraph R) : Prop where
  alike : ∀ g : SceneGraph R, g.Alike (φ g)
  mesh? : ∀ g x, (φ g).mesh? x = g.mesh? x
  setMesh : ∀ g x mesh, (φ g).modifyInstance x (fun i => { i with mesh := mesh }) =
    φ (g.modifyInstance x fun i => { i with mesh := mesh })

theorem SceneGraph.veil_redraw
    {change : Json → MeshInstance GeometryId MaterialId → MeshInstance GeometryId MaterialId}
    (hmesh : ∀ name i, (change name i).mesh = i.mesh)
    (hset : ∀ name i mesh, change name { i with mesh := mesh } = { change name i with mesh := mesh })
    (ids : List NodeId) : Veil (redraw (R := R) change ids) where
  alike := alike_redraw change ids
  mesh? g x := mesh?_redraw hmesh ids g x
  setMesh g x mesh := (redraw_modifyInstance g ids x fun name i => hset name i mesh).symm

/-- A step that does the same whether or not the nodes were changed before. -/
def Unaware {α : Type} (φ : SceneGraph R → SceneGraph R) (step : Work R α) : Prop :=
  ∀ s, step.runIn (s.mapGraph φ) = ((step.runIn s).1, (step.runIn s).2.mapGraph φ)

namespace Unaware

variable {α β : Type} {φ : SceneGraph R → SceneGraph R} {step : Work R α} {next : α → Work R β}

theorem bind (h : Unaware φ step) (hnext : ∀ a, Unaware φ (next a)) : Unaware φ (step >>= next) := by
  intro s
  rw [runIn_bind, runIn_bind, h s]
  rcases step.runIn s with ⟨fault | a, t⟩
  · rfl
  · exact hnext a t

/-- A step that goes on with what it reads from the session, which is the same after the change. -/
theorem session_bind {next : Session R → Work R β} (hsame : ∀ s, next (s.mapGraph φ) = next s)
    (hnext : ∀ s, Unaware φ (next s)) : Unaware φ (Work.session >>= next) := by
  intro s
  rw [runIn_bind, runIn_bind, runIn_session, runIn_session]
  exact (congrArg (fun step : Work R β => step.runIn (s.mapGraph φ)) (hsame s)).trans (hnext s s)

theorem graph_bind {next : SceneGraph R → Work R β} (hsame : ∀ g, next (φ g) = next g)
    (hnext : ∀ g, Unaware φ (next g)) : Unaware φ (Work.graph >>= next) := by
  intro s
  rw [runIn_bind, runIn_bind, runIn_graph, runIn_graph]
  exact (congrArg (fun step : Work R β => step.runIn (s.mapGraph φ)) (hsame s.stage.graph)).trans
    (hnext s.stage.graph s)

theorem lift (outcome : Except Fault α) : Unaware φ (Work.lift outcome) := by
  intro s
  rw [runIn_lift, runIn_lift]

theorem onGraph {f : SceneGraph R → SceneGraph R} (h : ∀ g, f (φ g) = φ (f g)) :
    Unaware φ (Work.onGraph f) := by
  intro s
  rw [runIn_onGraph, runIn_onGraph]
  unfold Session.mapGraph
  simp only [h]

theorem forM {f : α → Work R Unit} {items : List α} (h : ∀ a ∈ items, Unaware φ (f a)) :
    Unaware φ (items.forM f) := by
  induction items with
  | nil => exact fun _ => rfl
  | cons a items ih =>
      rcases List.forall_mem_cons.1 h with ⟨hfirst, hrest⟩
      exact hfirst.bind fun _ => ih hrest

end Unaware

section

variable {φ : SceneGraph R → SceneGraph R}

theorem unaware_materialReplacement (name : Json) : Unaware φ (Work.materialReplacement name) := by
  unfold Work.materialReplacement
  refine Unaware.session_bind (fun _ => rfl) fun s => (Unaware.lift _).bind fun found => ?_
  cases found with
  | none => exact fun _ => rfl
  | some entry =>
      refine Unaware.session_bind (fun _ => rfl) fun s => ?_
      cases s.shelf.materials.lookup entry.assetId with
      | some id => exact fun _ => rfl
      | none =>
          have hload : Unaware φ (Work.loadMaterial entry : Work R MaterialId) := by
            refine Unaware.session_bind (fun _ => rfl) fun s => (Unaware.lift _).bind fun isFile => ?_
            cases isFile <;> exact fun _ => rfl
          exact hload.bind fun id _ => rfl

/-- Giving a surface its material does not depend on how nodes are drawn. -/
theorem unaware_replaceMaterial (hφ : Veil φ) (id : NodeId) (surface : Nat) :
    Unaware φ (Rendering.replaceMaterial id surface) := by
  unfold Rendering.replaceMaterial
  refine Unaware.graph_bind (fun g => ?_) fun g => ?_
  · rw [hφ.mesh?, (hφ.alike g).name]
  · cases g.mesh? id with
    | none => exact fun _ => rfl
    | some mesh =>
        refine Unaware.session_bind (fun _ => rfl) fun s => ?_
        refine (unaware_materialReplacement _).bind fun replacement => (Unaware.lift _).bind fun replaced => ?_
        have hset : Unaware φ (Work.onGraph fun g : SceneGraph R =>
            g.modifyInstance id fun i => { i with mesh := some replaced }) :=
          Unaware.onGraph fun g => hφ.setMesh g id (some replaced)
        exact hset.bind fun _ _ => rfl

theorem unaware_applyMaterial (hφ : Veil φ) (context : PassContext R) (root : NodeId) :
    Unaware φ (Rendering.applyMaterial context root) := by
  unfold Rendering.applyMaterial
  refine Unaware.graph_bind (fun g => ?_) fun g => Unaware.forM fun id _ => ?_
  · unfold SceneGraph.meshNodes
    simp only [hφ.mesh?, (hφ.alike g).levelOrder]
  · unfold Rendering.replaceMaterials
    refine Unaware.graph_bind (fun g => by rw [hφ.mesh?]) fun g => ?_
    cases g.mesh? id with
    | none => exact fun _ => rfl
    | some mesh => exact Unaware.forM fun surface _ => unaware_replaceMaterial hφ id surface

end

/-! ## Passes that can be exchanged -/

/-- Giving meshes their materials leaves mesh instances where they are. -/
theorem alike_of_applyMaterial (h : (Rendering.applyMaterial context root).runIn s = (.ok (), s')) :
    s.stage.graph.Alike s'.stage.graph := by
  refine forM_invariant (I := fun t => s.stage.graph.Alike t.stage.graph) (.refl _) ?_ (forM_of_graph h)
  intro id _ t t' ht hstep
  refine replaceMaterials_invariant (I := fun t => s.stage.graph.Alike t.stage.graph) ht ?_ hstep
  intro surface u u' hu hround
  cases hround with
  | noMesh => exact hu
  | @replaced _ _ _ v _ hmaterial =>
      have hgraph : v.stage.graph = u.stage.graph := by cases hmaterial <;> rfl
      rw [← hgraph] at hu
      exact hu.trans (alike_modifyInstance v.stage.graph id _)

section

variable {α β : Type} {question : Json → Except Fault α} {question' : Json → Except Fault β}
  {round round' : NodeId → Work R Unit}
  {change change' : Json → MeshInstance GeometryId MaterialId → MeshInstance GeometryId MaterialId}

/-- Two passes that ask and redraw can be exchanged if their changes commute. -/
theorem Asks.commutes (h : Asks question change round) (h' : Asks question' change' round')
    (hchange : ∀ name name' i, change' name' (change name i) = change name (change' name' i)) (root : NodeId) :
    Commutes (Work.result? do ((← Work.graph).instances root).forM round)
      (Work.result? do ((← Work.graph).instances root).forM round') := by
  intro s t t' ht ht'
  rcases h.pass_result?_eq_some_iff.1 ht with ⟨hasked, rfl⟩
  rcases h'.pass_result?_eq_some_iff.1 ht' with ⟨hasked', rfl⟩
  -- neither pass changes which nodes the other one goes through, nor their names
  have halike := alike_redraw change (s.stage.graph.instances root) s.stage.graph
  have halike' := alike_redraw change' (s.stage.graph.instances root) s.stage.graph
  refine ⟨_, h'.pass_result?_eq_some_iff.2 ⟨?_, rfl⟩, h.pass_result?_eq_some_iff.2 ⟨?_, ?_⟩⟩
  · intro id hid
    have hname : (s.mapGraph (redraw change (s.stage.graph.instances root))).stage.graph.name id =
      s.stage.graph.name id := halike.name id
    rw [hname]
    exact hasked' id (halike.instances root ▸ hid)
  · intro id hid
    have hname : (s.mapGraph (redraw change' (s.stage.graph.instances root))).stage.graph.name id =
      s.stage.graph.name id := halike'.name id
    rw [hname]
    exact hasked id (halike'.instances root ▸ hid)
  · have hids : (s.mapGraph (redraw change (s.stage.graph.instances root))).stage.graph.instances root =
      s.stage.graph.instances root := halike.instances root
    have hids' : (s.mapGraph (redraw change' (s.stage.graph.instances root))).stage.graph.instances root =
      s.stage.graph.instances root := halike'.instances root
    rw [hids, hids']
    unfold Session.mapGraph
    simp only [redraw_comm _ _ _ hchange]

/-- A pass that asks and redraws can be exchanged with the one that gives meshes their materials, if its changes
have nothing to do with meshes. -/
theorem Asks.commutes_material (h : Asks question change round) (hmesh : ∀ name i, (change name i).mesh = i.mesh)
    (hset : ∀ name i mesh, change name { i with mesh := mesh } = { change name i with mesh := mesh })
    (context : PassContext R) (root : NodeId) :
    Commutes (Work.result? do ((← Work.graph).instances root).forM round)
      (Work.result? (Rendering.applyMaterial context root)) := by
  intro s t t' ht ht'
  rcases h.pass_result?_eq_some_iff.1 ht with ⟨hasked, rfl⟩
  rw [Work.result?_eq_some_iff] at ht'
  have halike := alike_of_applyMaterial ht'
  have hrun := unaware_applyMaterial (veil_redraw hmesh hset (s.stage.graph.instances root)) context root s
  rw [ht'] at hrun
  refine ⟨_, Work.result?_eq_some_iff.2 hrun, h.pass_result?_eq_some_iff.2 ⟨?_, ?_⟩⟩
  · intro id hid
    rw [halike.instances] at hid
    rw [halike.name]
    exact hasked id hid
  · rw [halike.instances]

end

/-- The passes behind the lightmap pass can be exchanged. -/
theorem commutes_late {kind other : PassKind} (hkind : kind.stage = 3) (hother : other.stage = 3)
    (hne : kind ≠ other) (context : PassContext R) (root : NodeId) [Zero R] [One R] [Add R] [Mul R] :
    Commutes (Work.result? (kind.apply context root)) (Work.result? (other.apply context root)) := by
  have hshadow_layer : Commutes (Work.result? (Rendering.applyShadow context root))
      (Work.result? (Rendering.applyLayer context root)) :=
    (asks_setShadow context).commutes (asks_setLayer context)
      (fun _ _ _ => by rw [MeshInstance.asLayered_eq, MeshInstance.asLayered_eq]; rfl) root
  have hshadow_material : Commutes (Work.result? (Rendering.applyShadow context root))
      (Work.result? (Rendering.applyMaterial context root)) :=
    (asks_setShadow context).commutes_material (fun _ _ => rfl) (fun _ _ _ => rfl) context root
  have hlayer_material : Commutes (Work.result? (Rendering.applyLayer context root))
      (Work.result? (Rendering.applyMaterial context root)) :=
    (asks_setLayer context).commutes_material (fun name i => MeshInstance.mesh_asLayered context.grammar name i)
      (fun _ _ _ => by rw [MeshInstance.asLayered_eq, MeshInstance.asLayered_eq]) context root
  match kind, other with
  | .collision, _ | .renderRemoval, _ | .lightmap, _ => exact absurd hkind (by decide)
  | _, .collision | _, .renderRemoval | _, .lightmap => exact absurd hother (by decide)
  | .shadow, .renderLayer => exact hshadow_layer
  | .shadow, .material => exact hshadow_material
  | .renderLayer, .shadow => exact hshadow_layer.symm
  | .renderLayer, .material => exact hlayer_material
  | .material, .shadow => exact hshadow_material.symm
  | .material, .renderLayer => exact hlayer_material.symm
  | .shadow, .shadow | .renderLayer, .renderLayer | .material, .material => exact absurd rfl hne

/-- Where lightmaps are made, the same passes in two orders that are accepted leave the same session. -/
theorem eq_of_stages [Zero R] [One R] [Add R] [Mul R] {passes passes' : List PassKind} {t t' : Session R}
    (hperm : passes.Perm passes') (hnodup : passes.Nodup)
    (hordered : passes.Pairwise fun kind later => later ∉ kind.requires)
    (hordered' : passes'.Pairwise fun kind later => later ∉ kind.requires) (hlightmap : .lightmap ∈ passes)
    (h : (passes.forM fun kind => kind.apply context root).runIn s = (.ok (), t))
    (h' : (passes'.forM fun kind => kind.apply context root).runIn s = (.ok (), t')) : t = t' := by
  rw [← Work.result?_eq_some_iff, Work.result?_forM] at h h'
  refine foldlM_eq_of_perm (fun kind other => other.stage < kind.stage) hperm hnodup
    ((PassKind.pairwise_stage hordered hlightmap).imp fun h => Nat.not_lt.2 h)
    ((PassKind.pairwise_stage hordered' (hperm.subset hlightmap)).imp fun h => Nat.not_lt.2 h) ?_ h h'
  intro kind _ other _ hne hle hle'
  -- only the last stage has more than one pass
  have hstage : kind.stage = other.stage := Nat.le_antisymm (Nat.not_lt.1 hle) (Nat.not_lt.1 hle')
  have hlast : kind.stage = 3 := by
    cases kind <;> cases other <;> first | rfl | exact absurd rfl hne | exact absurd hstage (by decide)
  exact commutes_late hlast (hstage ▸ hlast) hne context root

end LevelPrep
