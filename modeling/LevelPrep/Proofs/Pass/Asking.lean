import LevelPrep.Proofs.Attribute.Bracketed
import LevelPrep.Proofs.Attribute.Written
import LevelPrep.Proofs.Pass.Outcomes

/-!
# What names ask of the collision pass

The pass asks a name for its attributes twice, for one of them and for all at once.  Both tell the same
(`Grammar.contains_iff_carries`), so what a body is made of depends on what the name carries: its bits
(`Grammar.asksBits_of_nameAttributes`) and its shape (`Grammar.asksShape_of_shapeOf`).  `Unfit` are the mesh instances
that no body can be made for.
-/

namespace LevelPrep

/-- The results of a list of which some items give none are the results that there are. -/
theorem mem_of_filterMapM {ε α β : Type} {f : α → Except ε (Option β)} {items : List α} {results : List β}
    (h : items.filterMapM f = .ok results) {b : β} : b ∈ results ↔ ∃ a ∈ items, f a = .ok (some b) := by
  induction items generalizing results with
  | nil =>
      cases h
      simp
  | cons a items ih =>
      rw [List.filterMapM_cons] at h
      rcases bind_eq_ok_iff.1 h with ⟨b?, hb, hrest⟩
      cases b? with
      | none => simp [ih hrest, hb]
      | some c =>
          rcases bind_eq_ok_iff.1 hrest with ⟨rest, htail, hlast⟩
          cases hlast
          simp [ih htail, hb, eq_comm]

namespace Grammar

variable {g : Grammar} {name : Json} {kind : AttributeKind} {a : NodeAttributes}

/-! ## Carried attributes -/

theorem carries_iff : g.carries name kind = true ↔ g.nameHas name kind = .ok true := by
  unfold carries
  cases g.nameHas name kind <;> simp

/-- Only configured kinds are carried. -/
theorem mem_kinds_of_carries (h : g.carries name kind = true) : kind ∈ g.kinds := by
  by_contra hnot
  have hmarker := Separable.marker?_eq_none hnot
  rw [carries_iff] at h
  cases name with
  | str text =>
      have hhas : g.has text kind = false := by
        cases hvalue : kind.hasValue <;> simp [has, hvalue, literal?, opening?, hmarker]
      simp [nameHas, hhas] at h
  | _ => simp [nameHas, hmarker] at h

/-- Only texts carry numbers. -/
theorem exists_text_of_carries (h : g.carries name kind = true) (hvalue : kind.hasValue = true) :
    ∃ text, name = .str text := by
  cases name with
  | str text => exact ⟨text, rfl⟩
  | _ =>
      exfalso
      rw [carries_iff] at h
      unfold nameHas at h
      cases hmarker : g.marker? kind <;> simp [hmarker, hvalue] at h

/-- An attribute of a name that is no text, as the parser returns it. -/
def flagToken (g : Grammar) (name : Json) (kind : AttributeKind) :
    Except Fault (Option (AttributeKind × Option AttributeValue)) := do
  if ← g.nameHas name kind then return some (kind, none) else return none

theorem flagToken_eq_some_iff {found : AttributeKind × Option AttributeValue} :
    g.flagToken name kind = .ok (some found) ↔ g.nameHas name kind = .ok true ∧ found = (kind, none) := by
  unfold flagToken
  rcases g.nameHas name kind with fault | ⟨_ | _⟩
  · exact ⟨nofun, nofun⟩
  · exact ⟨nofun, nofun⟩
  · constructor
    · intro h
      cases h
      exact ⟨rfl, rfl⟩
    · rintro ⟨-, rfl⟩
      rfl

theorem contains_of_flagTokens {tokens : List (AttributeKind × Option AttributeValue)}
    (h : g.kinds.filterMapM (g.flagToken name) = .ok tokens) :
    ({ tokens } : NodeAttributes).contains kind = true ↔ g.carries name kind = true := by
  rw [NodeAttributes.contains, List.any_eq_true]
  simp only [mem_of_filterMapM h, flagToken_eq_some_iff]
  constructor
  · rintro ⟨_, ⟨k, -, hhas, rfl⟩, heq⟩
    exact carries_iff.2 (of_decide_eq_true heq ▸ hhas)
  · intro hcarries
    exact ⟨_, ⟨kind, mem_kinds_of_carries hcarries, carries_iff.1 hcarries, rfl⟩, by simp⟩

/-- Asking for all attributes of a name tells the same as asking for one. -/
theorem contains_iff_carries (h : g.nameAttributes name = .ok a) :
    a.contains kind = true ↔ g.carries name kind = true := by
  cases name with
  | str text =>
      rw [contains_iff_has h]
      constructor
      · rintro ⟨-, hhas⟩
        rw [carries_iff, nameHas, hhas]
      · intro hcarries
        refine ⟨mem_kinds_of_carries hcarries, ?_⟩
        rw [carries_iff] at hcarries
        exact Except.ok.inj hcarries
  | _ =>
      rcases bind_eq_ok_iff.1 h with ⟨tokens, htokens, heq⟩
      cases heq
      exact contains_of_flagTokens htokens

/-! ## Bits -/

/-- The bits that a name asks for: the number that it carries, and one if it carries none. -/
inductive AsksBits (g : Grammar) (name : Json) (kind : AttributeKind) : Int → Prop
  | carried {n : Nat} (hcarries : g.carries name kind = true)
      (hvalue : g.nameValue name kind = .ok (some (.mask n))) (hle : n ≤ maxMask) : AsksBits g name kind n
  | bare (hbare : g.carries name kind = false) : AsksBits g name kind 1

/-- The number of a kind with a mask is a mask, if there is one. -/
theorem exists_mask_of_value {text : String} {n : Nat} {v : AttributeValue}
    (hdefault : kind.defaultValue? = some (.mask n)) (h : g.value text kind = .ok (some v)) : ∃ m, v = .mask m := by
  have hvalue := hasValue_of_default hdefault
  cases hliteral : g.literal? kind text with
  | none => simp [value_of_absent fun _ => hliteral] at h
  | some literal =>
      by_cases hlong : g.Overlong text kind literal
      · simp [hlong.value_eq] at h
      · rcases value_of_not_overlong hvalue hliteral hlong with ⟨w, hw, hdenotes⟩
        cases h.symm.trans hw
        cases hdenotes with
        | mask | noMask => exact ⟨_, rfl⟩
        | factor hfactor | noFactor hfactor => cases hdefault.symm.trans hfactor

theorem lookup_isSome (a : NodeAttributes) (kind : AttributeKind) :
    (a.tokens.lookup kind).isSome = a.contains kind := by
  rw [Bool.eq_iff_iff, List.lookup_isSome_iff, NodeAttributes.contains, List.any_eq_true]
  refine exists_congr fun token => and_congr_right fun _ => ?_
  rw [beq_iff_eq, decide_eq_true_iff, eq_comm]

/-- The bits of a body are those that the name of its mesh instance asks for. -/
theorem asksBits_of_nameAttributes {n : Nat} (h : g.nameAttributes name = .ok a)
    (hdefault : kind.defaultValue? = some (.mask n)) : g.AsksBits name kind (Collision.bits a kind) := by
  have hvalue := hasValue_of_default hdefault
  have hfound : (a.tokens.lookup kind).isSome = true ↔ g.carries name kind = true := by
    rw [lookup_isSome, contains_iff_carries h]
  cases hlookup : a.tokens.lookup kind with
  | none =>
      have hbits : Collision.bits a kind = 1 := by
        simp [Collision.bits, NodeAttributes.mask?, NodeAttributes.value?, hlookup]
      rw [hbits]
      refine .bare (Bool.eq_false_iff.2 fun hcarries => ?_)
      simp [hlookup] at hfound
      exact absurd hcarries (by simp [hfound])
  | some v? =>
      have hcarries : g.carries name kind = true := hfound.1 (by simp [hlookup])
      rcases exists_text_of_carries hcarries hvalue with ⟨text, rfl⟩
      rcases List.lookup_eq_some_iff.1 hlookup with ⟨front, back, heq, -⟩
      rcases (mem_tokens_iff h).1 (by simp [heq] : (kind, v?) ∈ a.tokens) with ⟨-, hhas, hread⟩
      -- the kind is there, so it has a number, and this is a mask
      cases v? with
      | none =>
          have hnot := (value_eq_none_iff hvalue).1 hread
          cases hhas.symm.trans hnot
      | some v =>
          rcases exists_mask_of_value hdefault hread with ⟨m, rfl⟩
          have hbits : Collision.bits a kind = m := by
            simp [Collision.bits, NodeAttributes.mask?, NodeAttributes.value?, hlookup]
          rw [hbits]
          exact .carried hcarries hread (le_maxMask_of_value hread)

end Grammar

/-! ## Shapes -/

/-- The shape that a name asks for: the convex shape of the mesh if it carries that attribute, and otherwise all the
triangles of the mesh. -/
inductive Grammar.AsksShape (g : Grammar) (name : Json) (mesh : LiveMesh) (r : Resources) : Shape → Prop
  | convex {points : List Point} (hcarries : g.carries name .convexCollision = true)
      (hhull : mesh.convexShape r = .ok (.convex points)) : AsksShape g name mesh r (.convex points)
  | concave {corners : List Point} (hbare : g.carries name .convexCollision = false)
      (hcorners : mesh.corners r = .ok corners) : AsksShape g name mesh r (.concave corners)

/-- A mesh instance that no body can be made for, and the fault: its name cannot be read, it has no mesh, or the shape
that its name asks for cannot be made of the mesh. -/
inductive Unfit {R : Type} (g : Grammar) (s : Session R) (x : NodeId) : Fault → Prop
  | unreadable {fault : Fault} (hname : g.nameAttributes (s.stage.graph.name x) = .error fault) : Unfit g s x fault
  | noMesh {a : NodeAttributes} (hname : g.nameAttributes (s.stage.graph.name x) = .ok a)
      (hmesh : s.stage.graph.mesh? x = none) : Unfit g s x (.noMesh (s.stage.graph.name x).display)
  | hull {a : NodeAttributes} {mesh : LiveMesh} {fault : Fault}
      (hname : g.nameAttributes (s.stage.graph.name x) = .ok a) (hmesh : s.stage.graph.mesh? x = some mesh)
      (hcarries : g.carries (s.stage.graph.name x) .convexCollision = true)
      (hhull : mesh.convexShape s.stage.resources = .error fault) : Unfit g s x fault
  | triangles {a : NodeAttributes} {mesh : LiveMesh} {fault : Fault}
      (hname : g.nameAttributes (s.stage.graph.name x) = .ok a) (hmesh : s.stage.graph.mesh? x = some mesh)
      (hbare : g.carries (s.stage.graph.name x) .convexCollision = false)
      (hcorners : mesh.corners s.stage.resources = .error fault) : Unfit g s x fault

section

variable {R : Type} {g : Grammar} {s : Session R} {x : NodeId} {a : NodeAttributes}

theorem exists_points_of_convexShape {mesh : LiveMesh} {r : Resources} {shape : Shape}
    (h : mesh.convexShape r = .ok shape) : ∃ points, shape = .convex points := by
  unfold LiveMesh.convexShape at h
  split at h
  · cases h
  · rcases map_eq_ok_iff.1 h with ⟨points, -, rfl⟩
    exact ⟨points, rfl⟩

/-- The shape of a mesh instance is the one that its name asks for. -/
theorem asksShape_of_shapeOf (hname : g.nameAttributes (s.stage.graph.name x) = .ok a) {shape : Shape}
    (h : Collision.shapeOf s.stage.graph s.stage.resources a x = .ok shape) :
    ∃ mesh, s.stage.graph.mesh? x = some mesh ∧
      g.AsksShape (s.stage.graph.name x) mesh s.stage.resources shape := by
  unfold Collision.shapeOf at h
  cases hmesh : s.stage.graph.mesh? x with
  | none =>
      rw [hmesh] at h
      cases h
  | some mesh =>
      simp only [hmesh] at h
      refine ⟨mesh, rfl, ?_⟩
      split_ifs at h with hconvex
      · rcases exists_points_of_convexShape h with ⟨points, rfl⟩
        exact .convex ((Grammar.contains_iff_carries hname).1 hconvex) h
      · rcases map_eq_ok_iff.1 h with ⟨corners, hcorners, rfl⟩
        exact .concave (Bool.eq_false_iff.2 fun hcarries =>
          hconvex ((Grammar.contains_iff_carries hname).2 hcarries)) hcorners

theorem unfit_of_shapeOf (hname : g.nameAttributes (s.stage.graph.name x) = .ok a) {fault : Fault}
    (h : Collision.shapeOf s.stage.graph s.stage.resources a x = .error fault) : Unfit g s x fault := by
  unfold Collision.shapeOf at h
  cases hmesh : s.stage.graph.mesh? x with
  | none =>
      rw [hmesh] at h
      cases h
      exact .noMesh hname hmesh
  | some mesh =>
      simp only [hmesh] at h
      -- a convex hull and a list of triangles are refused for reasons of their own
      split_ifs at h with hconvex
      · exact .hull hname hmesh ((Grammar.contains_iff_carries hname).1 hconvex) h
      · cases hcorners : mesh.corners s.stage.resources with
        | ok corners =>
            rw [hcorners] at h
            cases h
        | error fault' =>
            rw [hcorners] at h
            cases h
            exact .triangles hname hmesh (Bool.eq_false_iff.2 fun hcarries =>
              hconvex ((Grammar.contains_iff_carries hname).2 hcarries)) hcorners

/-- Whether a body can be made is told by the name, the mesh and the resources. -/
theorem Unfit.congr {t : Session R} {fault : Fault} (h : Unfit g s x fault)
    (hname : t.stage.graph.name x = s.stage.graph.name x) (hmesh : t.stage.graph.mesh? x = s.stage.graph.mesh? x)
    (hresources : t.stage.resources = s.stage.resources) : Unfit g t x fault := by
  cases h with
  | unreadable hread => exact .unreadable (hname ▸ hread)
  | noMesh hread hnone =>
      rw [← hname]
      exact .noMesh (hname ▸ hread) (hmesh ▸ hnone)
  | hull hread hsome hcarries hhull =>
      exact .hull (hname ▸ hread) (hmesh ▸ hsome) (hname ▸ hcarries) (hresources ▸ hhull)
  | triangles hread hsome hbare hcorners =>
      exact .triangles (hname ▸ hread) (hmesh ▸ hsome) (hname ▸ hbare) (hresources ▸ hcorners)

/-- Where no body can be made, the mesh has not the shape that is asked for, or there is no mesh or no readable name. -/
theorem Unfit.not_asksShape {fault : Fault} (h : Unfit g s x fault) {mesh : LiveMesh} {shape : Shape}
    (hname : g.nameAttributes (s.stage.graph.name x) = .ok a) (hmesh : s.stage.graph.mesh? x = some mesh) :
    ¬ g.AsksShape (s.stage.graph.name x) mesh s.stage.resources shape := by
  intro hshape
  cases h with
  | unreadable hname' => cases hname.symm.trans hname'
  | noMesh _ hmesh' => cases hmesh.symm.trans hmesh'
  | hull _ hmesh' hcarries hhull =>
      cases hmesh.symm.trans hmesh'
      cases hshape with
      | convex _ hok => cases hhull.symm.trans hok
      | concave hbare => cases hcarries.symm.trans hbare
  | triangles _ hmesh' hbare hcorners =>
      cases hmesh.symm.trans hmesh'
      cases hshape with
      | convex hcarries => cases hcarries.symm.trans hbare
      | concave _ hok => cases hcorners.symm.trans hok

end

end LevelPrep
