import LevelPrep.Proofs.Catalog.Requests
import LevelPrep.Proofs.Level.Independence

/-!
# Histories of requests

After the catalogs have been opened, requests for assets mix with anything that may happen to the files, and with
changes of whatever is held outside of the shelf (`Happens`, `History`).  What is held is part of a `Situation`: it
starts with all that is there, and grows by what requests hand out and by what is made outside.  Nobody can change a
thing without a reference to it, or make it refer to something that nobody has a reference to (`Situation.Changes`).

A step makes something new or changes what is held (`Steps`), and does one of two things to the shelf: nothing, or
it keeps an asset under the name of an entry that had none (`ShelfStep`).  So the invariant is `Guarded`: the trees
that are kept for packaged scenes are there as they were planted, and no part of them is held.  From this follows, by
induction on the history, what a request is answered with (`retrieves_of_ofSettings`):

* the entry of a name never changes;
* until a request for an entry has succeeded, each of them goes to the file, and one that fails keeps nothing;
* from then on, the material of the entry is one and the same, and a packaged scene is a copy of what its file held
  then, whatever has become of the files and of the live things that were handed out;
* the tree that is copied is never handed out, and nothing happens to it.
-/

namespace LevelPrep

variable {R : Type}

open Work SceneGraph

/-! ## What may happen -/

/-- What may happen while catalogs are open: requests, with what came of them, and changes from outside. -/
inductive Happening where
  | asked (name : Json) (outcome : Except Fault Bool)
  | material (name : Json) (outcome : Except Fault MaterialId)
  | packedScene (name : Json) (outcome : Except Fault NodeId)
  | files
  | nodes

/-- A session, and the things that are referred to from outside of the shelf. -/
structure Situation (R : Type) where
  session : Session R
  held : Set Ref

/-- At first everything that is there may be referred to. -/
def Situation.start (s : Session R) : Situation R where
  session := s
  held := s.stage.things

/-- The situation after more things have been handed out or made. -/
def Situation.next (a : Situation R) (s : Session R) (given : Set Ref) : Situation R where
  session := s
  held := a.held ∪ given

/-- A stage after changes from outside: nothing vanishes, only what is held is changed, and what is new or changed
refers to things that are held or new. -/
structure Situation.Changes (a : Situation R) (stage : Stage R) : Prop where
  there : ∀ x ∈ a.session.stage.things, x ∈ stage.things
  same : ∀ x ∈ a.session.stage.things, x ∉ a.held → stage.thing? x = a.session.stage.thing? x
  refers : ∀ x, stage.thing? x ≠ a.session.stage.thing? x → ∀ y, stage.Refers x y →
    y ∈ a.held ∪ (stage.things \ a.session.stage.things)

/-- One thing happens. -/
inductive Happens [Zero R] [One R] (tools : Tools R) (a : Situation R) : Happening → Situation R → Prop
  /-- It is asked whether a name has a packaged scene. -/
  | asked (name : Json) :
      Happens tools a (.asked name ((a.session.shelf.packedSceneFor name).map (·.isSome))) a
  | material {s' : Session R} {name : Json} {outcome : Except Fault MaterialId}
      (hrun : (materialReplacement name).runIn a.session = (outcome, s')) :
      Happens tools a (.material name outcome) (a.next s' { x | ∃ id, outcome = .ok id ∧ x = .material id })
  /-- Who is handed the root of a tree holds all that the tree leads to. -/
  | packedScene {s' : Session R} {name : Json} {outcome : Except Fault NodeId}
      (hrun : (packedSceneReplacement tools name).runIn a.session = (outcome, s')) :
      Happens tools a (.packedScene name outcome)
        (a.next s' { x | ∃ id, outcome = .ok id ∧ s'.stage.Reaches (.node id) x })
  /-- Files are written, deleted and renamed. -/
  | files (disk : Disk) : Happens tools a .files { a with session := { a.session with disk := disk } }
  /-- Nodes, and what they refer to, are changed at will, and others are made. -/
  | nodes (stage : Stage R) (hchanges : a.Changes stage) :
      Happens tools a .nodes (a.next { a.session with stage := stage } (stage.things \ a.session.stage.things))

/-- One thing happens after another. -/
inductive History [Zero R] [One R] (tools : Tools R) (a : Situation R) : List Happening → Situation R → Prop
  | start : History tools a [] a
  | snoc {events : List Happening} {event : Happening} {b c : Situation R} (h : History tools a events b)
      (hstep : Happens tools b event c) : History tools a (events ++ [event]) c

/-- A request for a material that succeeded and went to the entry. -/
def Happening.GivesMaterial (shelf : Shelf) (entry : CatalogEntry) (event : Happening) : Prop :=
  ∃ name id, event = .material name (.ok id) ∧ shelf.materialFor name = .ok (some entry)

/-- A request for a packaged scene that succeeded and went to the entry. -/
def Happening.GivesScene (shelf : Shelf) (entry : CatalogEntry) (event : Happening) : Prop :=
  ∃ name id, event = .packedScene name (.ok id) ∧ shelf.packedSceneFor name = .ok (some entry)

/-! ## What nobody holds -/

namespace Situation

/-- What one step does to the things that are there, and to what is held of them. -/
structure Steps (a b : Situation R) : Prop where
  there : ∀ x ∈ a.session.stage.things, x ∈ b.session.stage.things
  same : ∀ x ∈ a.session.stage.things, x ∉ a.held → b.session.stage.thing? x = a.session.stage.thing? x
  held : a.held ⊆ b.held
  given : ∀ x ∈ b.held, x ∉ a.held → x ∈ b.session.stage.things \ a.session.stage.things
  refers : ∀ x ∈ b.held, b.session.stage.thing? x ≠ a.session.stage.thing? x →
    ∀ y, b.session.stage.Refers x y → y ∈ b.held

/-- What nobody holds stays as it is, and nobody comes to hold it. -/
structure Leaves (a b : Situation R) : Prop where
  there : ∀ x ∈ a.session.stage.things, x ∈ b.session.stage.things
  same : ∀ x ∈ a.session.stage.things, x ∉ a.held → b.session.stage.thing? x = a.session.stage.thing? x ∧ x ∉ b.held

/-- A tree that shows the branch is there as it was planted, and no part of it is held. -/
structure Hides (a : Situation R) (branch : Branch R) (kept : NodeId) : Prop where
  stores : a.session.stage.Stores branch kept
  apart : ∀ x, a.session.stage.Reaches (.node kept) x → x ∉ a.held

/-- What is held is there, the materials of the shelf are, and no part of its packaged scenes is held. -/
structure Guarded (a : Situation R) : Prop where
  there : ∀ x ∈ a.held, x ∈ a.session.stage.things
  materials : ∀ key id, a.session.shelf.materials.lookup key = some id → .material id ∈ a.held
  scenes : ∀ key kept, a.session.shelf.packedScenes.lookup key = some kept → ∃ branch, a.Hides branch kept

/-- Who follows references from what is held comes to nothing else. -/
def Closed (a : Situation R) : Prop :=
  ∀ x ∈ a.held, ∀ y, a.session.stage.Refers x y → y ∈ a.held

variable {a b c : Situation R} {branch : Branch R} {kept : NodeId}

theorem Leaves.refl (a : Situation R) : Leaves a a :=
  ⟨fun _ hx => hx, fun _ _ hx => ⟨rfl, hx⟩⟩

theorem Leaves.trans (h : Leaves a b) (h' : Leaves b c) : Leaves a c where
  there x hx := h'.there x (h.there x hx)
  same x hx hout := by
    rcases h.same x hx hout with ⟨hsame, hout'⟩
    rcases h'.same x (h.there x hx) hout' with ⟨hsame', hout''⟩
    exact ⟨hsame'.trans hsame, hout''⟩

theorem Steps.leaves (h : Steps a b) : Leaves a b :=
  ⟨h.there, fun x hx hout => ⟨h.same x hx hout, fun hin => (h.given x hin hout).2 hx⟩⟩

/-- A request hands out new things that lead to new things only, or things that were held before. -/
theorem Steps.of_left (a : Situation R) {s : Session R} {given : Set Ref}
    (hleft : ∀ x ∈ a.session.stage.things, s.stage.thing? x = a.session.stage.thing? x)
    (hgiven : ∀ x ∈ given, x ∉ a.held → x ∈ s.stage.things \ a.session.stage.things)
    (hheld : ∀ x ∈ a.held, x ∈ a.session.stage.things)
    (hclosed : ∀ x ∈ given, ∀ y, s.stage.Refers x y → y ∈ given) : Steps a (a.next s given) where
  there x hx := Stage.mem_things_of_eq hx (hleft x hx)
  same x hx _ := hleft x hx
  held := Set.subset_union_left
  given x hx hout := hgiven x (hx.resolve_left hout) hout
  refers x hx hchanged y hy :=
    Or.inr (hclosed x (hx.resolve_left fun hin => hchanged (hleft x (hheld x hin))) y hy)

theorem Steps.of_same (hstage : b.session.stage = a.session.stage) (hheld : b.held = a.held) : Steps a b where
  there x hx := hstage ▸ hx
  same x _ _ := by rw [hstage]
  held := hheld.ge
  given x hx hout := absurd (hheld ▸ hx) hout
  refers x _ hchanged := absurd (by rw [hstage]) hchanged

/-- What is hidden stays hidden. -/
theorem Hides.of_leaves (h : a.Hides branch kept) (hleaves : Leaves a b) : b.Hides branch kept := by
  have hkept : ∀ x, a.session.stage.Reaches (.node kept) x →
      b.session.stage.thing? x = a.session.stage.thing? x ∧ x ∉ b.held := fun x hx =>
    hleaves.same x (h.stores.mem_things hx) (h.apart x hx)
  refine ⟨h.stores.of_same fun x hx => (hkept x hx).1, fun x hx => (hkept x ?_).2⟩
  rwa [Stage.reaches_congr fun x hx => (hkept x hx).1] at hx

/-- Who holds references to the things that one may come to, holds them after a step. -/
theorem Closed.of_steps (h : a.Closed) (hsteps : Steps a b) : b.Closed := by
  intro x hx y hy
  by_cases hsame : b.session.stage.thing? x = a.session.stage.thing? x
  · have hheld : x ∈ a.held := by
      by_contra hout
      rcases hsteps.given x hx hout with ⟨hthere, hnew⟩
      exact hnew (Stage.mem_things_of_eq hthere hsame.symm)
    rcases hy with ⟨t, ht, hy⟩
    exact hsteps.held (h x hheld y ⟨t, hsame ▸ ht, hy⟩)
  · exact hsteps.refers x hx hsame y hy

end Situation

/-! ## What a step makes of the shelf -/

/-- The shelf after one thing has happened: it is as it was, or an asset is kept for an entry that had none.  A material
is then held as well, while the tree of a packaged scene is hidden. -/
inductive ShelfStep (a : Situation R) : Happening → Situation R → Prop
  | same (event : Happening) {b : Situation R} (hshelf : b.session.shelf = a.session.shelf) : ShelfStep a event b
  | material {b : Situation R} {name : Json} {entry : CatalogEntry} {id : MaterialId}
      (hentry : a.session.shelf.materialFor name = .ok (some entry))
      (hnew : a.session.shelf.materials.lookup entry.assetId = none)
      (hshelf : b.session.shelf =
        { a.session.shelf with materials := (entry.assetId, id) :: a.session.shelf.materials })
      (hheld : .material id ∈ b.held) : ShelfStep a (.material name (.ok id)) b
  | packedScene {b : Situation R} {name : Json} {entry : CatalogEntry} {id kept : NodeId} {branch : Branch R}
      (hentry : a.session.shelf.packedSceneFor name = .ok (some entry))
      (hnew : a.session.shelf.packedScenes.lookup entry.assetId = none)
      (hshelf : b.session.shelf =
        { a.session.shelf with packedScenes := (entry.assetId, kept) :: a.session.shelf.packedScenes })
      (hhides : b.Hides branch kept) : ShelfStep a (.packedScene name (.ok id)) b

/-- What is under a key stays there when something is kept under a key that had nothing. -/
theorem lookup_cons_of_new {α : Type} {entries : List (String × α)} {key other : String} {value added : α}
    (hkept : entries.lookup key = some value) (hnew : entries.lookup other = none) :
    ((other, added) :: entries).lookup key = some value := by
  have hne : key ≠ other := by
    rintro rfl
    cases hkept.symm.trans hnew
  rwa [List.lookup_cons, beq_false_of_ne hne]

namespace ShelfStep

variable {a b : Situation R} {event : Happening} {entry : CatalogEntry}

theorem catalogs_eq (h : ShelfStep a event b) : b.session.shelf.catalogs = a.session.shelf.catalogs := by
  cases h with
  | same _ hshelf | material _ _ hshelf | packedScene _ _ hshelf => rw [hshelf]

/-- A request that fails keeps nothing. -/
theorem eq_of_error {name : Json} {fault : Fault} (h : ShelfStep a event b)
    (hevent : event = .material name (.error fault) ∨ event = .packedScene name (.error fault)) :
    b.session.shelf = a.session.shelf := by
  rcases hevent with rfl | rfl <;> cases h <;> assumption

/-- What is kept stays. -/
theorem material_kept (h : ShelfStep a event b) {key : String} {id : MaterialId}
    (hkept : a.session.shelf.materials.lookup key = some id) : b.session.shelf.materials.lookup key = some id := by
  cases h with
  | same _ hshelf | packedScene _ _ hshelf => rwa [hshelf]
  | material hentry hnew hshelf =>
      rw [hshelf]
      exact lookup_cons_of_new hkept hnew

theorem scene_kept (h : ShelfStep a event b) {key : String} {kept : NodeId}
    (hkept : a.session.shelf.packedScenes.lookup key = some kept) :
    b.session.shelf.packedScenes.lookup key = some kept := by
  cases h with
  | same _ hshelf | material _ _ hshelf => rwa [hshelf]
  | packedScene hentry hnew hshelf =>
      rw [hshelf]
      exact lookup_cons_of_new hkept hnew

/-- A material is kept for an entry by a request that goes to the entry, as no other entry has its name. -/
theorem material_new (h : ShelfStep a event b) (hlisted : a.session.shelf.Listed) {name : Json}
    (hentry : a.session.shelf.materialFor name = .ok (some entry))
    (hnew : a.session.shelf.materials.lookup entry.assetId = none)
    (hevent : ¬ event.GivesMaterial a.session.shelf entry) :
    b.session.shelf.materials.lookup entry.assetId = none := by
  cases h with
  | same _ hshelf | packedScene _ _ hshelf => rwa [hshelf]
  | @material _ name' entry' id hentry' _ hshelf =>
      have hne : entry.assetId ≠ entry'.assetId := by
        intro hid
        have hsame := hlisted.eq_of_assetId hentry hentry' hid
        exact hevent ⟨name', id, rfl, hsame ▸ hentry'⟩
      rw [hshelf]
      show List.lookup entry.assetId ((entry'.assetId, id) :: a.session.shelf.materials) = none
      rwa [List.lookup_cons, beq_false_of_ne hne]

/-- A packaged scene is kept for an entry by a request that goes to the entry. -/
theorem scene_new (h : ShelfStep a event b) (hlisted : a.session.shelf.ListsScenes) {name : Json}
    (hentry : a.session.shelf.packedSceneFor name = .ok (some entry))
    (hnew : a.session.shelf.packedScenes.lookup entry.assetId = none)
    (hevent : ¬ event.GivesScene a.session.shelf entry) :
    b.session.shelf.packedScenes.lookup entry.assetId = none := by
  cases h with
  | same _ hshelf | material _ _ hshelf => rwa [hshelf]
  | @packedScene _ name' entry' id kept branch hentry' _ hshelf =>
      have hne : entry.assetId ≠ entry'.assetId := by
        intro hid
        have hsame := hlisted.eq_of_assetId hentry hentry' hid
        exact hevent ⟨name', id, rfl, hsame ▸ hentry'⟩
      rw [hshelf]
      show List.lookup entry.assetId ((entry'.assetId, kept) :: a.session.shelf.packedScenes) = none
      rwa [List.lookup_cons, beq_false_of_ne hne]

end ShelfStep

/-! ## What a step makes of a guarded situation -/

/-- A step keeps a situation guarded. -/
theorem Situation.Guarded.of_steps {a b : Situation R} {event : Happening} (ha : a.Guarded) (hsteps : a.Steps b)
    (hshelf : ShelfStep a event b) : b.Guarded := by
  have hleaves := hsteps.leaves
  have hscenes : ∀ key kept, a.session.shelf.packedScenes.lookup key = some kept → ∃ branch, b.Hides branch kept := by
    intro key kept hkept
    rcases ha.scenes key kept hkept with ⟨branch, hhides⟩
    exact ⟨branch, hhides.of_leaves hleaves⟩
  refine ⟨fun x hx => ?_, fun key id hkept => ?_, fun key kept hkept => ?_⟩
  · by_cases hin : x ∈ a.held
    · exact hleaves.there x (ha.there x hin)
    · exact (hsteps.given x hx hin).1
  · cases hshelf with
    | same _ heq | packedScene _ _ heq =>
        rw [heq] at hkept
        exact hsteps.held (ha.materials key id hkept)
    | material hentry hnew heq hheld =>
        rw [heq, List.lookup_cons] at hkept
        split at hkept
        · exact Option.some.inj hkept ▸ hheld
        · exact hsteps.held (ha.materials key id hkept)
  · cases hshelf with
    | same _ heq | material _ _ heq =>
        rw [heq] at hkept
        exact hscenes key kept hkept
    | packedScene hentry hnew heq hhides =>
        rw [heq, List.lookup_cons] at hkept
        split at hkept
        · exact Option.some.inj hkept ▸ ⟨_, hhides⟩
        · exact hscenes key kept hkept

section

variable {a : Situation R} {name : Json} {branch : Branch R}

theorem step_of_materialReplacement (ha : a.Guarded) {outcome : Except Fault MaterialId} {s : Session R}
    (hrun : (materialReplacement name).runIn a.session = (outcome, s)) :
    a.Steps (a.next s { x | ∃ id, outcome = .ok id ∧ x = .material id }) ∧
      ShelfStep a (.material name outcome) (a.next s { x | ∃ id, outcome = .ok id ∧ x = .material id }) := by
  -- a material that was added is new, and refers to nothing
  have hadded : ∀ (m : Material) (t : Session R), t.stage.graph = a.session.stage.graph →
      t.stage.resources = (a.session.stage.resources.addMaterial m).2 →
      a.Steps (a.next t { x | ∃ id, (.ok (a.session.stage.resources.addMaterial m).1 : Except Fault MaterialId) =
        .ok id ∧ x = .material id }) := by
    intro m t hgraph hresources
    have hadds : a.session.stage.Adds t.stage := by
      refine ⟨hresources ▸ .addMaterial _ m, hgraph ▸ Nat.le_refl _, fun x _ => by rw [hgraph]⟩
    refine .of_left a (fun x => hadds.thing?_eq) ?_ ha.there ?_
    · rintro _ ⟨_, ⟨⟩, rfl⟩ -
      refine ⟨Stage.material_mem_things.2 ?_, fun hin => ?_⟩
      · rw [hresources]
        simp [Resources.addMaterial]
      · exact absurd (Stage.material_mem_things.1 hin) (Nat.lt_irrefl _)
    · rintro _ ⟨_, ⟨⟩, rfl⟩ y hy
      exact absurd hy Stage.not_refers_material
  rcases cases_of_materialReplacement name a.session with ⟨-, id, t, hok⟩ | ⟨-, fault, herror⟩
  · cases hok.symm.trans hrun
    cases takesMaterial_of_materialReplacement hrun with
    | blank => exact ⟨hadded _ _ rfl rfl, .same _ rfl⟩
    | kept hentry hkept =>
        refine ⟨.of_left a (fun _ _ => rfl) ?_ ha.there ?_, .same _ rfl⟩
        · rintro _ ⟨_, ⟨⟩, rfl⟩ hout
          exact absurd (ha.materials _ _ hkept) hout
        · rintro _ ⟨_, ⟨⟩, rfl⟩ y hy
          exact absurd hy Stage.not_refers_material
    | loaded hentry hnew => exact ⟨hadded _ _ rfl rfl, .material hentry hnew rfl (Or.inr ⟨_, rfl, rfl⟩)⟩
  · cases herror.symm.trans hrun
    refine ⟨.of_same rfl ?_, .same _ rfl⟩
    simp [Situation.next]

/-- A tree that leads neither to what was there nor to what is handed out is hidden. -/
theorem Situation.Guarded.hides (ha : a.Guarded) {id kept : NodeId} {s : Session R}
    (hstores : s.stage.Stores branch kept)
    (hapart : ∀ x, s.stage.Reaches (.node kept) x → x ∉ a.session.stage.things ∧ ¬ s.stage.Reaches (.node id) x) :
    (a.next s { x | ∃ id', (.ok id : Except Fault NodeId) = .ok id' ∧ s.stage.Reaches (.node id') x }).Hides
      branch kept := by
  refine ⟨hstores, fun x hx hheld => ?_⟩
  rcases hheld with hheld | ⟨_, ⟨⟩, hin⟩
  · exact (hapart x hx).1 (ha.there x hheld)
  · exact (hapart x hx).2 hin

theorem Situation.Guarded.keepsScenes (ha : a.Guarded) : a.session.KeepsScenes := by
  intro key kept hkept
  rcases ha.scenes key kept hkept with ⟨branch, hhides⟩
  exact ⟨branch, hhides.stores⟩

end

variable [Zero R] [One R] {tools : Tools R} {a b c : Situation R} {event : Happening} {events : List Happening}
  {name : Json} {entry : CatalogEntry} {branch : Branch R}

theorem step_of_packedSceneReplacement (ha : a.Guarded) {outcome : Except Fault NodeId} {s : Session R}
    (hrun : (packedSceneReplacement tools name).runIn a.session = (outcome, s)) :
    a.Steps (a.next s { x | ∃ id, outcome = .ok id ∧ s.stage.Reaches (.node id) x }) ∧
      ShelfStep a (.packedScene name outcome)
        (a.next s { x | ∃ id, outcome = .ok id ∧ s.stage.Reaches (.node id) x }) := by
  have hmade : ∀ id, a.session.stage.Makes id s.stage →
      a.Steps (a.next s { x | ∃ id', (.ok id : Except Fault NodeId) = .ok id' ∧ s.stage.Reaches (.node id') x }) := by
    intro id hmakes
    refine .of_left a hmakes.left ?_ ha.there ?_
    · rintro x ⟨_, ⟨⟩, hx⟩ -
      exact hmakes.fresh x hx
    · rintro x ⟨_, ⟨⟩, hx⟩ y hy
      exact ⟨id, rfl, hx.refers hy⟩
  cases answers_of_packedSceneReplacement ha.keepsScenes hrun with
  | refused hshelf hstage =>
      refine ⟨.of_same hstage ?_, .same _ hshelf⟩
      simp [Situation.next]
  | given hshelf hmakes => exact ⟨hmade _ hmakes, .same _ hshelf⟩
  | loaded hentry hnew hshelf hmakes hstores hapart =>
      exact ⟨hmade _ hmakes, .packedScene hentry hnew hshelf (ha.hides hstores hapart)⟩

/-- What one step does to what is there and to the shelf. -/
theorem Happens.step (h : Happens tools a event b) (ha : a.Guarded) : a.Steps b ∧ ShelfStep a event b := by
  cases h with
  | asked | files => exact ⟨.of_same rfl rfl, .same _ rfl⟩
  | material hrun => exact step_of_materialReplacement ha hrun
  | packedScene hrun => exact step_of_packedSceneReplacement ha hrun
  | nodes stage hchanges =>
      refine ⟨⟨hchanges.there, hchanges.same, Set.subset_union_left, fun x hx hout => hx.resolve_left hout,
        fun x _ => hchanges.refers x⟩, .same _ rfl⟩

/-- What a request for a packaged scene gives was made for it. -/
theorem Happens.makes {id : NodeId} (h : Happens tools a (.packedScene name (.ok id)) b) (ha : a.Guarded) :
    a.session.stage.Makes id b.session.stage := by
  cases h with
  | packedScene hrun =>
      cases answers_of_packedSceneReplacement ha.keepsScenes hrun with
      | given _ hmakes | loaded _ _ _ hmakes => exact hmakes

/-! ## What a history makes of it -/

namespace History

theorem guarded (h : History tools a events b) (ha : a.Guarded) : b.Guarded := by
  induction h with
  | start => exact ha
  | snoc _ hstep ih =>
      rcases hstep.step ih with ⟨hsteps, hshelf⟩
      exact ih.of_steps hsteps hshelf

/-- What every step from a guarded situation preserves holds in the end. -/
theorem invariant (h : History tools a events b) (ha : a.Guarded) {I : Situation R → Prop} (hstart : I a)
    (hround : ∀ b event c, I b → b.Steps c → ShelfStep b event c → I c) : I b := by
  induction h with
  | start => exact hstart
  | snoc h hstep ih =>
      rcases hstep.step (h.guarded ha) with ⟨hsteps, hshelf⟩
      exact hround _ _ _ ih hsteps hshelf

theorem leaves (h : History tools a events b) (ha : a.Guarded) : a.Leaves b :=
  h.invariant ha (.refl a) fun _ _ _ hleaves hsteps _ => hleaves.trans hsteps.leaves

theorem closed (h : History tools a events b) (ha : a.Guarded) (hclosed : a.Closed) : b.Closed :=
  h.invariant ha hclosed fun _ _ _ hclosed hsteps _ => hclosed.of_steps hsteps

theorem catalogs_eq (h : History tools a events b) (ha : a.Guarded) :
    b.session.shelf.catalogs = a.session.shelf.catalogs :=
  h.invariant ha (I := fun b => b.session.shelf.catalogs = a.session.shelf.catalogs) rfl
    fun _ _ _ hsame _ hshelf => hshelf.catalogs_eq.trans hsame

theorem material_kept (h : History tools a events b) (ha : a.Guarded) {key : String} {id : MaterialId}
    (hkept : a.session.shelf.materials.lookup key = some id) : b.session.shelf.materials.lookup key = some id :=
  h.invariant ha (I := fun b => b.session.shelf.materials.lookup key = some id) hkept
    fun _ _ _ hkept _ hshelf => hshelf.material_kept hkept

theorem scene_kept (h : History tools a events b) (ha : a.Guarded) {key : String} {kept : NodeId}
    (hkept : a.session.shelf.packedScenes.lookup key = some kept) :
    b.session.shelf.packedScenes.lookup key = some kept :=
  h.invariant ha (I := fun b => b.session.shelf.packedScenes.lookup key = some kept) hkept
    fun _ _ _ hkept _ hshelf => hshelf.scene_kept hkept

theorem packedSceneFor_eq (h : History tools a events b) (ha : a.Guarded) :
    b.session.shelf.packedSceneFor = a.session.shelf.packedSceneFor :=
  Shelf.packedSceneFor_eq (h.catalogs_eq ha)

theorem materialFor_eq (h : History tools a events b) (ha : a.Guarded) :
    b.session.shelf.materialFor = a.session.shelf.materialFor :=
  Shelf.materialFor_eq (h.catalogs_eq ha)

/-- No material is kept for an entry before a request for it has succeeded. -/
theorem material_new (h : History tools a events b) (ha : a.Guarded) (hlisted : a.session.shelf.Listed)
    (hnone : a.session.shelf.materials = []) (hentry : a.session.shelf.materialFor name = .ok (some entry))
    (hevents : ∀ event ∈ events, ¬ event.GivesMaterial a.session.shelf entry) :
    b.session.shelf.materials.lookup entry.assetId = none := by
  induction h with
  | start => simp [hnone]
  | @snoc events event b c h hstep ih =>
      have hbefore := ih fun other hother => hevents other (List.mem_append_left _ hother)
      have hlast := hevents event (by simp)
      have hfor := h.materialFor_eq ha
      refine (hstep.step (h.guarded ha)).2.material_new (hlisted.of_catalogs (h.catalogs_eq ha)) (hfor ▸ hentry)
        hbefore ?_
      unfold Happening.GivesMaterial
      rw [hfor]
      exact hlast

/-- No packaged scene is kept for an entry before a request for it has succeeded. -/
theorem scene_new (h : History tools a events b) (ha : a.Guarded) (hlisted : a.session.shelf.ListsScenes)
    (hnone : a.session.shelf.packedScenes = []) (hentry : a.session.shelf.packedSceneFor name = .ok (some entry))
    (hevents : ∀ event ∈ events, ¬ event.GivesScene a.session.shelf entry) :
    b.session.shelf.packedScenes.lookup entry.assetId = none := by
  induction h with
  | start => simp [hnone]
  | @snoc events event b c h hstep ih =>
      have hbefore := ih fun other hother => hevents other (List.mem_append_left _ hother)
      have hlast := hevents event (by simp)
      have hfor := h.packedSceneFor_eq ha
      refine (hstep.step (h.guarded ha)).2.scene_new (hlisted.of_catalogs (h.catalogs_eq ha)) (hfor ▸ hentry)
        hbefore ?_
      unfold Happening.GivesScene
      rw [hfor]
      exact hlast

/-- Whatever has happened since a tree was hidden on the shelf, requests for its entry give instances of it. -/
theorem exists_instance (h : History tools a events b) (ha : a.Guarded) {kept : NodeId}
    (hkept : a.session.shelf.packedScenes.lookup entry.assetId = some kept) (hhides : a.Hides branch kept)
    (hentry : a.session.shelf.packedSceneFor name = .ok (some entry)) :
    ∃ id c, Happens tools b (.packedScene name (.ok id)) c ∧
      b.session.stage.InstanceOf (branch.rename (replacedName name)) id c.session.stage := by
  have hentry' : b.session.shelf.packedSceneFor name = .ok (some entry) := h.packedSceneFor_eq ha ▸ hentry
  have hstores := (hhides.of_leaves (h.leaves ha)).stores
  obtain ⟨id, s, hok, -, hinstance⟩ := exists_instance_of_kept tools hentry' (h.scene_kept ha hkept) hstores
  exact ⟨id, _, .packedScene hok, hinstance⟩

end History

/-! ## Answers -/

/-- How requests are answered after the catalogs have been opened, whatever has happened since. -/
structure Retrieves (tools : Tools R) (start : Session R) : Prop where
  /-- The entry of a name is the same at all times. -/
  resolved : ∀ events a, History tools (.start start) events a → ∀ name,
    a.session.shelf.packedSceneFor name = start.shelf.packedSceneFor name ∧
      a.session.shelf.materialFor name = start.shelf.materialFor name
  /-- As long as no request for the material of an entry has succeeded, a request goes to the file. -/
  materialLoaded : ∀ events a, History tools (.start start) events a → ∀ name entry,
    start.shelf.materialFor name = .ok (some entry) →
    (∀ event ∈ events, ¬ event.GivesMaterial start.shelf entry) →
      (a.session.disk.isFile entry.path = .ok true ∧
        ∃ id s', (materialReplacement name).runIn a.session = (.ok id, s') ∧
          s'.stage.resources.material id = entry.material) ∨
      a.session.disk.isFile entry.path ≠ .ok true ∧
        ∃ fault, (materialReplacement name).runIn a.session = (.error fault, a.session)
  /-- Once a request for the material of an entry has succeeded, every request for it gives the same material, and
  does nothing else. -/
  materialKept : ∀ events a, History tools (.start start) events a → ∀ name entry id b,
    start.shelf.materialFor name = .ok (some entry) → Happens tools a (.material name (.ok id)) b →
      ∀ later c, History tools b later c → ∀ name', start.shelf.materialFor name' = .ok (some entry) →
        (materialReplacement name').runIn c.session = (.ok id, c.session)
  /-- As long as no request for the packaged scene of an entry has succeeded, a request fails if the file cannot be
  loaded.  If it can, the request and all later ones for the entry give instances of what was loaded. -/
  scene : ∀ events a, History tools (.start start) events a → ∀ name entry,
    start.shelf.packedSceneFor name = .ok (some entry) →
    (∀ event ∈ events, ¬ event.GivesScene start.shelf entry) →
      match (tools.loadScene a.session.disk entry.path).2 with
      | .error fault => ∃ b, Happens tools a (.packedScene name (.error fault)) b
      | .ok branch => ∃ id b, Happens tools a (.packedScene name (.ok id)) b ∧
          a.session.stage.InstanceOf (branch.rename (replacedName name)) id b.session.stage ∧
          ∀ later c, History tools b later c → ∀ name', start.shelf.packedSceneFor name' = .ok (some entry) →
            ∃ id' d, Happens tools c (.packedScene name' (.ok id')) d ∧
              c.session.stage.InstanceOf (branch.rename (replacedName name')) id' d.session.stage
  /-- Nothing that was there at any earlier time is part of what a request for a packaged scene gives, nor is any part
  of a tree that is kept. -/
  apart : ∀ events a, History tools (.start start) events a → ∀ later b, History tools a later b → ∀ name id c,
    Happens tools b (.packedScene name (.ok id)) c → ∀ x, c.session.stage.Reaches (.node id) x →
      x ∉ a.session.stage.things ∧
        ∀ key kept, c.session.shelf.packedScenes.lookup key = some kept → ¬ c.session.stage.Reaches (.node kept) x
  /-- Once a tree is kept it is kept for good and hangs nowhere; all that it leads to stays as it is, and nobody comes
  to hold any of it. -/
  hidden : ∀ events a, History tools (.start start) events a → ∀ key kept,
    a.session.shelf.packedScenes.lookup key = some kept → ∀ later b, History tools a later b →
      b.session.shelf.packedScenes.lookup key = some kept ∧ b.session.stage.graph.parent? kept = none ∧
        ∀ x, a.session.stage.Reaches (.node kept) x →
          b.session.stage.thing? x = a.session.stage.thing? x ∧ x ∉ b.held
  /-- Nor does anybody come to it by following references, if none led to something that was not there at the start. -/
  unreached : (Situation.start start).Closed → ∀ events a, History tools (.start start) events a → ∀ key kept,
    a.session.shelf.packedScenes.lookup key = some kept → ∀ x ∈ a.held, ∀ y, a.session.stage.Reaches x y →
      ¬ a.session.stage.Reaches (.node kept) y
  /-- A request that fails keeps nothing. -/
  failed : ∀ events a, History tools (.start start) events a → ∀ name fault b,
    Happens tools a (.material name (.error fault)) b ∨ Happens tools a (.packedScene name (.error fault)) b →
      b.session.shelf = a.session.shelf

/-- However requests mix with changes of files and of what is held, they are answered like this. -/
theorem retrieves_of_ofSettings (tools : Tools R) {disk : Disk} {settings : List (String × CatalogSettings)}
    {start : Session R} (hopen : Shelf.ofSettings disk settings = .ok start.shelf) : Retrieves tools start := by
  rcases Shelf.of_ofSettings hopen with ⟨hmaterials, hscenes, -⟩
  have hlisted : start.shelf.Listed := fun _ hcatalog => Shelf.exists_listsDirectory hopen hcatalog
  have hlists : start.shelf.ListsScenes := fun _ hcatalog => Shelf.exists_listsDirectory hopen hcatalog
  have hguarded : (Situation.start start).Guarded := by
    refine ⟨fun x hx => hx, fun key id hkept => ?_, fun key kept hkept => ?_⟩
    · change start.shelf.materials.lookup key = some id at hkept
      rw [hmaterials] at hkept
      cases hkept
    · change start.shelf.packedScenes.lookup key = some kept at hkept
      rw [hscenes] at hkept
      cases hkept
  constructor
  case resolved =>
    intro events a h name
    exact ⟨by rw [h.packedSceneFor_eq hguarded]; rfl, by rw [h.materialFor_eq hguarded]; rfl⟩
  case materialLoaded =>
    intro events a h name entry hentry hevents
    have hnew := h.material_new hguarded hlisted hmaterials hentry hevents
    exact runIn_materialReplacement_of_new (h.materialFor_eq hguarded ▸ hentry) hnew
  case materialKept =>
    intro events a h name entry id b hentry hstep later c hlater name' hentry'
    have hall := h.snoc hstep
    have hb := hall.guarded hguarded
    cases hstep with
    | material hrun =>
        have hkept := material_kept_of_ok (h.materialFor_eq hguarded ▸ hentry) hrun
        refine runIn_materialReplacement_of_kept ?_ (hlater.material_kept hb hkept)
        rw [hlater.materialFor_eq hb, hall.materialFor_eq hguarded]
        exact hentry'
  case scene =>
    intro events a h name entry hentry hevents
    have hnew := h.scene_new hguarded hlists hscenes hentry hevents
    have hentry₁ : a.session.shelf.packedSceneFor name = .ok (some entry) := h.packedSceneFor_eq hguarded ▸ hentry
    cases hload : (tools.loadScene a.session.disk entry.path).2 with
    | error fault =>
        obtain ⟨s', herror, -⟩ := exists_of_refused hentry₁ hnew hload
        exact ⟨_, .packedScene herror⟩
    | ok branch =>
        obtain ⟨kept, id, s', hok, hshelf, hinstance, hstores, hapart⟩ :=
          exists_instance_of_loaded hentry₁ hnew hload
        have hstep : Happens tools a (.packedScene name (.ok id)) _ := .packedScene hok
        refine ⟨id, _, hstep, hinstance, fun later c hlater name' hentry' => ?_⟩
        have hall := h.snoc hstep
        have hb := hall.guarded hguarded
        have hkept : s'.shelf.packedScenes.lookup entry.assetId = some kept := by simp [hshelf]
        exact hlater.exists_instance hb hkept ((h.guarded hguarded).hides hstores hapart)
          (hall.packedSceneFor_eq hguarded ▸ hentry')
  case apart =>
    intro events a h later b hlater name id c hstep x hx
    have ha := h.guarded hguarded
    have hb := hlater.guarded ha
    have hc := hb.of_steps (hstep.step hb).1 (hstep.step hb).2
    constructor
    · exact fun hin => ((hstep.makes hb).fresh x hx).2 ((hlater.leaves ha).there x hin)
    · intro key kept hkept hshared
      rcases hc.scenes key kept hkept with ⟨branch, hhides⟩
      refine hhides.apart x hshared ?_
      cases hstep with
      | packedScene hrun => exact Or.inr ⟨id, rfl, hx⟩
  case hidden =>
    intro events a h key kept hkept later b hlater
    have ha := h.guarded hguarded
    rcases ha.scenes key kept hkept with ⟨branch, hhides⟩
    have hleaves := hlater.leaves ha
    exact ⟨hlater.scene_kept ha hkept, (hhides.of_leaves hleaves).stores.ownScene.parent?_eq,
      fun x hx => hleaves.same x (hhides.stores.mem_things hx) (hhides.apart x hx)⟩
  case unreached =>
    intro hclosed events a h key kept hkept x hx y hy hshared
    rcases (h.guarded hguarded).scenes key kept hkept with ⟨branch, hhides⟩
    exact hhides.apart y hshared (hy.mem_of_closed (h.closed hguarded hclosed) hx)
  case failed =>
    intro events a h name fault b hstep
    have ha := h.guarded hguarded
    rcases hstep with hmaterial | hscene
    · exact (hmaterial.step ha).2.eq_of_error (Or.inl rfl)
    · exact (hscene.step ha).2.eq_of_error (Or.inr rfl)

/-- The depot with its catalogs opened. -/
def depotStart : Session Float where
  disk := depotDisk
  shelf := ((Shelf.ofSettings depotDisk depotSettings.catalogs).toOption).getD {}

theorem retrieves_of_ofSettings_depot :
    Shelf.ofSettings depotDisk depotSettings.catalogs = .ok depotStart.shelf ∧
      ((packedSceneReplacement depotTools (.str "Crate_1")).runIn depotStart).1.toOption = some ⟨1⟩ ∧
      ((materialReplacement (.str "OldStone")).runIn depotStart).1.toOption = some ⟨0⟩ ∧
      Retrieves depotTools depotStart := by
  have hopens : (Shelf.ofSettings depotDisk depotSettings.catalogs).toOption.isSome = true := by
    decide +kernel
  have hopen : Shelf.ofSettings depotDisk depotSettings.catalogs = .ok depotStart.shelf := by
    unfold depotStart
    cases h : Shelf.ofSettings depotDisk depotSettings.catalogs with
    | error fault =>
        rw [h] at hopens
        cases hopens
    | ok shelf => rfl
  have hscene : ((packedSceneReplacement depotTools (.str "Crate_1")).runIn depotStart).1.toOption = some ⟨1⟩ := by
    decide +kernel
  have hmaterial : ((materialReplacement (.str "OldStone")).runIn depotStart).1.toOption = some ⟨0⟩ := by
    decide +kernel
  exact ⟨hopen, hscene, hmaterial, retrieves_of_ofSettings depotTools hopen⟩

end LevelPrep
