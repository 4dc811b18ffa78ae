import LevelPrep.Proofs.Level.Rendering
import LevelPrep.Proofs.Pass.Repainting

/-!
# Scenes that can be converted

A conversion relies on a scene that is `Ready`; the scene may have nodes that are marked to be taken out.  Every
planted scene is ready (`ready_of_plantScene`), and its dump is the planted branch (`snapshot?_of_plantScene`).
-/

namespace LevelPrep

variable {R : Type}

open Work SceneGraph

/-- A scene in order: linked nodes, good references, and owners that are there. -/
structure Ready (scene : NodeId) (s : Session R) : Prop where
  linked : s.stage.graph.Linked
  inside : scene.index < s.stage.graph.size
  sound : s.stage.Sound
  owned : s.stage.Owned

/-- A session is fit for passes once its catalogs have been opened. -/
theorem Ready.fit_opened {scene : NodeId} {s : Session R} {settings : List (String × CatalogSettings)}
    {shelf : Shelf} (h : Ready scene s) (hshelf : Shelf.ofSettings s.disk settings = .ok shelf)
    (journal : Array LogRecord) : Fit { s with shelf := shelf, journal := journal } where
  linked := h.linked
  owned := h.owned
  orderly := orderly_of_ofSettings h.sound hshelf
  onDisk := by
    intro name entry id _ hid
    rw [(Shelf.of_ofSettings hshelf).1] at hid
    cases hid

/-- A session in which a scene can be planted: what lives in it already is in order. -/
structure Session.InOrder (s : Session R) : Prop where
  linked : s.stage.graph.Linked
  sound : s.stage.Sound
  owned : s.stage.Owned

/-- Nothing lives in a new session. -/
theorem Session.inOrder_new (disk : Disk) : ({ disk := disk } : Session R).InOrder where
  linked := SceneGraph.Linked.empty
  sound := by
    intro x mesh hmesh
    cases hmesh
  owned := by
    intro x n owner hn
    cases hn

/-- A planted scene is ready. -/
theorem ready_of_plantScene {branch : Branch R} {scene : NodeId} {s s' : Session R} (hs : s.InOrder)
    (h : (plantScene branch).runIn s = (.ok scene, s')) : Ready scene s' := by
  have hopen := openScene_of_plantScene hs.linked h
  refine ⟨hopen.linked, hopen.inside, sound_of_plantScene hs.linked hs.sound h, ?_⟩
  have hplanted := (ownScene_of_plantScene hs.linked h).2
  intro x n owner hn howner
  by_cases hx : x.index < s.stage.graph.size
  · rw [hplanted.old x hx] at hn
    exact (hs.owned x n owner hn howner).trans_le hplanted.size_le
  · exact ((hplanted.new x n (Nat.not_lt.1 hx) hn).owner owner howner).2

/-- A planted scene is dumped as the branch, owned by its root. -/
theorem snapshot?_of_plantScene {branch : Branch R} {scene : NodeId} {s s' : Session R}
    (hs : s.stage.graph.Linked) (h : (plantScene branch).runIn s = (.ok scene, s')) :
    s'.stage.snapshot? scene = some branch.asScene := by
  rcases ownScene_of_plantScene hs h with ⟨hscene, hplanted⟩
  exact hscene.snapshot?_eq hplanted.linked

/-- A scene stays ready as long as its nodes keep their payloads and their owners. -/
theorem Ready.of_nodes {scene : NodeId} {s : Session R} (h : Ready scene s) {g : SceneGraph R} (hlinked : g.Linked)
    (hsize : g.size = s.stage.graph.size)
    (hnode : ∀ x n, g.node? x = some n →
      ∃ m, s.stage.graph.node? x = some m ∧ n.payload = m.payload ∧ n.owner = m.owner) :
    Ready scene { s with stage := { s.stage with graph := g } } := by
  refine ⟨hlinked, hsize ▸ h.inside, ?_, ?_⟩
  · intro x mesh hmesh
    refine h.sound x mesh ?_
    rcases Option.bind_eq_some_iff.1 hmesh with ⟨i, hi, himesh⟩
    rcases Option.bind_eq_some_iff.1 hi with ⟨n, hn, hpayload⟩
    rcases hnode x n hn with ⟨m, hm, hsame, -⟩
    exact Option.bind_eq_some_iff.2 ⟨i, Option.bind_eq_some_iff.2 ⟨m, hm, hsame ▸ hpayload⟩, himesh⟩
  · intro x n owner hn howner
    rcases hnode x n hn with ⟨m, hm, -, hsame⟩
    show owner.index < g.size
    rw [hsize]
    exact h.owned x m owner hm (hsame ▸ howner)

/-- A flush leaves a scene ready. -/
theorem Ready.flushed {scene : NodeId} {s : Session R} (h : Ready scene s) : Ready scene { s with
    stage := { s.stage with graph := (s.stage.graph.flush scene).2 } } := by
  have hcut := flush_spec h.linked h.inside
  refine h.of_nodes (hcut.linked h.linked) hcut.size_eq fun x n hn => ?_
  rw [hcut.node?_eq] at hn
  rcases Option.map_eq_some_iff.1 hn with ⟨m, hm, rfl⟩
  exact ⟨m, hm, rfl, rfl⟩

end LevelPrep
