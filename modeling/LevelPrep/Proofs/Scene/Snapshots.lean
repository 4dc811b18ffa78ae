import LevelPrep.Proofs.Outcome
import LevelPrep.Scene.Branch

/-!
# Trees as values, changed

What a program does to a live tree is told by what it does to the value of the tree.  A snapshot is a
`Snapshot.Head` with children; trees are dealt with by induction over the children (`Snapshot.induction`).

* `remake`: every payload is made anew, unless one of them cannot be;
* `queue`, `flushed`: a tree is marked, and the marked trees are left out;
* `remake_andThen`, `remake_again`, `remake_flushed`, `flushed_flushed`: how these go together.
-/

namespace LevelPrep

/-! ## Lists of results that may be missing -/

/-- A list of results is there exactly if each of them is. -/
theorem mapM_eq_some_iff {α β : Type} {f : α → Option β} {items : List α} {results : List β} :
    items.mapM f = some results ↔ List.Forall₂ (fun a b => f a = some b) items results := by
  induction items generalizing results with
  | nil =>
      rw [List.mapM_nil, List.forall₂_nil_left_iff]
      exact ⟨fun h => (Option.some.inj h).symm, fun h => h ▸ rfl⟩
  | cons a items ih =>
      rw [List.mapM_cons, List.forall₂_cons_left_iff]
      constructor
      · intro h
        rcases Option.bind_eq_some_iff.1 h with ⟨b, hb, h'⟩
        rcases Option.bind_eq_some_iff.1 h' with ⟨rest, hrest, hlast⟩
        exact ⟨b, rest, hb, ih.1 hrest, (Option.some.inj hlast).symm⟩
      · rintro ⟨b, rest, hb, hrest, rfl⟩
        rw [hb, ih.2 hrest]
        rfl

theorem exists_forall₂ {α β : Type} {P : α → β → Prop} {items : List α} (h : ∀ a ∈ items, ∃ b, P a b) :
    ∃ results, List.Forall₂ P items results := by
  induction items with
  | nil => exact ⟨[], .nil⟩
  | cons a items ih =>
      rcases h a List.mem_cons_self with ⟨b, hb⟩
      rcases ih fun c hc => h c (List.mem_cons_of_mem a hc) with ⟨results, hresults⟩
      exact ⟨b :: results, .cons hb hresults⟩

theorem exists_mapM_iff {α β : Type} {f : α → Option β} {items : List α} :
    (∃ results, items.mapM f = some results) ↔ ∀ a ∈ items, ∃ b, f a = some b := by
  constructor
  · rintro ⟨results, hresults⟩
    have hall := mapM_eq_some_iff.1 hresults
    clear hresults
    induction hall with
    | nil => simp
    | cons hhead _ ih => exact List.forall_mem_cons.2 ⟨⟨_, hhead⟩, ih⟩
  · intro h
    rcases exists_forall₂ h with ⟨results, hresults⟩
    exact ⟨results, mapM_eq_some_iff.2 hresults⟩

theorem mapM_congr {α β : Type} {f g : α → Option β} {items : List α} (h : ∀ a ∈ items, f a = g a) :
    items.mapM f = items.mapM g := by
  induction items with
  | nil => rfl
  | cons a items ih =>
      rw [List.mapM_cons, List.mapM_cons, h a List.mem_cons_self,
        ih fun b hb => h b (List.mem_cons_of_mem a hb)]

/-- Two loops that may fail are one loop. -/
theorem mapM_bind_mapM {α β γ : Type} (f : α → Option β) (g : β → Option γ) (items : List α) :
    (items.mapM f).bind (·.mapM g) = items.mapM fun a => (f a).bind g := by
  induction items with
  | nil => rfl
  | cons a items ih =>
      rw [List.mapM_cons, List.mapM_cons, ← ih]
      cases f a with
      | none => rfl
      | some b =>
          cases items.mapM f with
          | none => cases hb : g b <;> simp [hb]
          | some rest =>
              show (b :: rest).mapM g = _
              rw [List.mapM_cons]
              rfl

namespace Snapshot

variable {R : Type}

/-- A node of a tree without its children. -/
structure Head (R : Type) where
  name : Json
  transform : Matrix R
  payload : Payload Geometry Material
  owner : Option Json
  queued : Bool

/-- The tree of a node and its children. -/
def Head.node (h : Head R) (children : List (Snapshot Geometry R)) : Snapshot Geometry R :=
  .node h.name h.transform h.payload h.owner h.queued children

/-- The node at the root. -/
def head : Snapshot Geometry R → Head R
  | .node name transform payload owner queued _ => { name, transform, payload, owner, queued }

/-- The trees right below the root. -/
def children : Snapshot Geometry R → List (Snapshot Geometry R)
  | .node _ _ _ _ _ children => children

@[simp] theorem head_node (h : Head R) (cs : List (Snapshot Geometry R)) : (h.node cs).head = h :=
  rfl

@[simp] theorem children_node (h : Head R) (cs : List (Snapshot Geometry R)) :
    (h.node cs).children = cs :=
  rfl

@[simp] theorem node_head (d : Snapshot Geometry R) : d.head.node d.children = d := by
  cases d
  rfl

theorem node_inj {h h' : Head R} {cs cs' : List (Snapshot Geometry R)} :
    h.node cs = h'.node cs' ↔ h = h' ∧ cs = cs' := by
  constructor
  · intro heq
    exact ⟨congrArg head heq, congrArg children heq⟩
  · rintro ⟨rfl, rfl⟩
    rfl

mutual

theorem holds_of_step {P : Snapshot Geometry R → Prop}
    (step : ∀ (h : Head R) (cs : List (Snapshot Geometry R)), (∀ c ∈ cs, P c) → P (h.node cs)) :
    ∀ d : Snapshot Geometry R, P d
  | .node name transform payload owner queued children =>
      step { name, transform, payload, owner, queued } children (allHold_of_step step children)

theorem allHold_of_step {P : Snapshot Geometry R → Prop}
    (step : ∀ (h : Head R) (cs : List (Snapshot Geometry R)), (∀ c ∈ cs, P c) → P (h.node cs)) :
    ∀ cs : List (Snapshot Geometry R), ∀ c ∈ cs, P c
  | [] => by simp
  | d :: rest => List.forall_mem_cons.2 ⟨holds_of_step step d, allHold_of_step step rest⟩

end

/-- What holds of a tree as soon as it holds of the trees right below its root holds of every tree. -/
@[elab_as_elim]
theorem induction {P : Snapshot Geometry R → Prop} (d : Snapshot Geometry R)
    (step : ∀ (h : Head R) (cs : List (Snapshot Geometry R)), (∀ c ∈ cs, P c) → P (h.node cs)) : P d :=
  holds_of_step step d

/-! ## New payloads -/

/-- What is made of the payload of a node of the given name and transform, if anything can be. -/
abbrev Maker (R : Type) :=
  Json → Matrix R → Payload Geometry Material → Option (Payload Geometry Material)

/-- The node with the payload that is made of its own. -/
def Head.remake (f : Maker R) (h : Head R) : Option (Head R) :=
  (f h.name h.transform h.payload).map fun payload => { h with payload := payload }

mutual

/-- The tree with every payload made anew. -/
def remake (f : Maker R) : Snapshot Geometry R → Option (Snapshot Geometry R)
  | .node name transform payload owner queued children =>
    (Head.remake f { name, transform, payload, owner, queued }).bind fun h =>
      (remakeAll f children).map h.node

/-- The trees with every payload made anew. -/
def remakeAll (f : Maker R) : List (Snapshot Geometry R) → Option (List (Snapshot Geometry R))
  | [] => some []
  | d :: rest => (remake f d).bind fun d' => (remakeAll f rest).map fun rest' => d' :: rest'

end

theorem remakeAll_eq (f : Maker R) (cs : List (Snapshot Geometry R)) :
    remakeAll f cs = cs.mapM (remake f) := by
  induction cs with
  | nil => rfl
  | cons d rest ih =>
      rw [remakeAll, List.mapM_cons, ih]
      cases remake f d <;> cases rest.mapM (remake f) <;> rfl

theorem remake_node (f : Maker R) (h : Head R) (cs : List (Snapshot Geometry R)) :
    (h.node cs).remake f = (h.remake f).bind fun h' => (cs.mapM (remake f)).map h'.node := by
  rw [← remakeAll_eq]
  rfl

theorem remake_eq_some_iff {f : Maker R} {h : Head R} {cs : List (Snapshot Geometry R)}
    {d : Snapshot Geometry R} : (h.node cs).remake f = some d ↔
      ∃ h' cs', h.remake f = some h' ∧ List.Forall₂ (fun c c' => c.remake f = some c') cs cs' ∧
        d = h'.node cs' := by
  rw [remake_node]
  constructor
  · intro hd
    rcases Option.bind_eq_some_iff.1 hd with ⟨h', hh', hd'⟩
    rcases Option.map_eq_some_iff.1 hd' with ⟨cs', hcs', rfl⟩
    exact ⟨h', cs', hh', mapM_eq_some_iff.1 hcs', rfl⟩
  · rintro ⟨h', cs', hh', hcs', rfl⟩
    rw [hh', Option.bind_some, mapM_eq_some_iff.2 hcs']
    rfl

/-- One way of making payloads after another. -/
def Maker.andThen (f g : Maker R) : Maker R := fun name transform payload =>
  (f name transform payload).bind (g name transform)

theorem Head.remake_andThen (f g : Maker R) (h : Head R) :
    h.remake (f.andThen g) = (h.remake f).bind (Head.remake g) := by
  unfold Head.remake Maker.andThen
  cases f h.name h.transform h.payload with
  | none => rfl
  | some payload => cases g h.name h.transform payload <;> rfl

/-- Making all payloads anew twice is making each anew twice. -/
theorem remake_andThen (f g : Maker R) (d : Snapshot Geometry R) :
    d.remake (f.andThen g) = (d.remake f).bind (remake g) := by
  induction d using induction with
  | step h cs ih =>
      have hcs : cs.mapM (remake (f.andThen g)) = (cs.mapM (remake f)).bind (·.mapM (remake g)) := by
        rw [mapM_bind_mapM]
        exact mapM_congr ih
      rw [remake_node, remake_node, Head.remake_andThen, hcs]
      cases h.remake f with
      | none => rfl
      | some h' =>
          cases hcs' : cs.mapM (remake f) with
          | none => cases hh' : h'.remake g <;> simp [hh']
          | some cs' =>
              show _ = (h'.node cs').remake g
              rw [remake_node]
              rfl

/-- A way of making payloads that leaves every payload as it is leaves the tree as it is. -/
theorem remake_eq_self {f : Maker R} (hf : ∀ name transform payload, f name transform payload = some payload)
    (d : Snapshot Geometry R) : d.remake f = some d := by
  induction d using induction with
  | step h cs ih =>
      have hcs : cs.mapM (remake f) = some cs :=
        mapM_eq_some_iff.2 (List.forall₂_same.2 ih)
      rw [remake_node, hcs]
      show ((f h.name h.transform h.payload).map _).bind _ = _
      rw [hf]
      rfl

/-- Where every new payload would be made anew just as it is, so would the whole tree. -/
theorem remake_again {f : Maker R}
    (hf : ∀ name transform payload payload', f name transform payload = some payload' →
      f name transform payload' = some payload') {d d' : Snapshot Geometry R} (h : d.remake f = some d') :
    d'.remake f = some d' := by
  induction d using induction generalizing d' with
  | step hd cs ih =>
      rcases remake_eq_some_iff.1 h with ⟨h', cs', hh', hcs', rfl⟩
      have hhead : h'.remake f = some h' := by
        rcases Option.map_eq_some_iff.1 hh' with ⟨payload, hpayload, rfl⟩
        unfold Head.remake
        rw [hf _ _ _ _ hpayload]
        rfl
      have hchildren : List.Forall₂ (fun c c' => c.remake f = some c') cs' cs' := by
        rw [List.forall₂_same]
        intro c' hc'
        rcases exists_of_mem_results hcs' hc' with ⟨c, hc, hmade⟩
        exact ih c hc hmade
      exact remake_eq_some_iff.2 ⟨h', cs', hhead, hchildren, rfl⟩

/-! ## Marks -/

/-- Whether the tree is to be left out. -/
def isQueued (d : Snapshot Geometry R) : Bool :=
  d.head.queued

/-- The tree marked to be left out. -/
def queue (d : Snapshot Geometry R) : Snapshot Geometry R :=
  Head.node { d.head with queued := true } d.children

@[simp] theorem isQueued_queue (d : Snapshot Geometry R) : d.queue.isQueued = true :=
  rfl

mutual

/-- The tree without the marked trees below its root. -/
def flushed : Snapshot Geometry R → Snapshot Geometry R
  | .node name transform payload owner queued children =>
    .node name transform payload owner queued (flushedAll children)

/-- The trees that are not marked, each without the marked trees below its root. -/
def flushedAll : List (Snapshot Geometry R) → List (Snapshot Geometry R)
  | [] => []
  | d :: rest => if d.isQueued then flushedAll rest else flushed d :: flushedAll rest

end

theorem flushedAll_eq (cs : List (Snapshot Geometry R)) :
    flushedAll cs = (cs.filter fun c => !c.isQueued).map flushed := by
  induction cs with
  | nil => rfl
  | cons d rest ih =>
      rw [flushedAll, ih]
      cases hd : d.isQueued <;> simp [hd]

theorem flushed_node (h : Head R) (cs : List (Snapshot Geometry R)) :
    (h.node cs).flushed = h.node ((cs.filter fun c => !c.isQueued).map flushed) := by
  rw [← flushedAll_eq]
  rfl

@[simp] theorem head_flushed (d : Snapshot Geometry R) : d.flushed.head = d.head := by
  cases d
  rfl

@[simp] theorem isQueued_flushed (d : Snapshot Geometry R) : d.flushed.isQueued = d.isQueued := by
  unfold isQueued
  rw [head_flushed]

/-- Nothing is left to leave out. -/
theorem flushed_flushed (d : Snapshot Geometry R) : d.flushed.flushed = d.flushed := by
  induction d using induction with
  | step h cs ih =>
      rw [flushed_node, flushed_node, List.filter_map, List.map_map, List.filter_filter]
      refine congrArg h.node ?_
      simp only [Function.comp_def, isQueued_flushed, Bool.and_self]
      exact List.map_congr_left fun c hc => ih c (List.mem_filter.1 hc).1

theorem head_of_remake {f : Maker R} {d d' : Snapshot Geometry R} (h : d.remake f = some d') :
    d.head.remake f = some d'.head := by
  rw [← node_head d] at h
  rcases remake_eq_some_iff.1 h with ⟨h', cs', hh', -, rfl⟩
  exact hh'

/-- New payloads do not mark a tree. -/
theorem isQueued_of_remake {f : Maker R} {d d' : Snapshot Geometry R} (h : d.remake f = some d') :
    d'.isQueued = d.isQueued := by
  rcases Option.map_eq_some_iff.1 (head_of_remake h) with ⟨payload, -, hhead⟩
  unfold isQueued
  rw [← hhead]

/-- Where all payloads can be made anew, those that are left can be, with the same results. -/
theorem remake_flushed {f : Maker R} {d d' : Snapshot Geometry R} (h : d.remake f = some d') :
    d.flushed.remake f = some d'.flushed := by
  induction d using induction generalizing d' with
  | step hd cs ih =>
      rcases remake_eq_some_iff.1 h with ⟨h', cs', hh', hcs', rfl⟩
      rw [flushed_node, flushed_node, remake_eq_some_iff]
      refine ⟨h', _, hh', ?_, rfl⟩
      rw [List.forall₂_map_left_iff, List.forall₂_map_right_iff]
      clear h hh'
      induction hcs' with
      | nil => exact .nil
      | @cons c c' rest rest' hc _ ihrest =>
          have hmark := isQueued_of_remake hc
          have hrest := ihrest fun other hother => ih other (List.mem_cons_of_mem c hother)
          cases hq : c.isQueued with
          | true => simpa [hq, hmark] using hrest
          | false => simpa [hq, hmark] using ⟨ih c List.mem_cons_self hc, hrest⟩

end Snapshot

end LevelPrep
