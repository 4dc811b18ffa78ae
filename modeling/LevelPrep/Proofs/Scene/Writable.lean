import LevelPrep.Proofs.Disk.Spelling
import LevelPrep.Proofs.Json.Rows
import LevelPrep.Scene.Document

/-!
# What a document can hold

Documents number vertices with 64 bits and spell the files of materials as normal paths.  A tree that asks for
no more is `Writable`.

* `writable_of_decodeNode`: what is read from a document is writable.
-/

namespace LevelPrep

/-! ## Parts of trees -/

/-- An integer of 64 bits. -/
def IsIndex (n : Int) : Prop :=
  -(Number.twoPow 63 : Int) ≤ n ∧ n < Number.twoPow 63

structure Face.Writable (face : Face) : Prop where
  a : IsIndex face.a
  b : IsIndex face.b
  c : IsIndex face.c

def Geometry.Writable (g : Geometry) : Prop :=
  ∀ face ∈ g.faces, face.Writable

def Material.Writable (m : Material) : Prop :=
  ∀ path, m.resourcePath = some path → path.Normal

structure Surface.Writable (s : Surface Geometry Material) : Prop where
  geometry : s.geometry.Writable
  material : ∀ m, s.material = some m → m.Writable

def Mesh.Writable (mesh : MeshValue) : Prop :=
  ∀ s ∈ mesh.surfaces, s.Writable

def Payload.Writable : Payload Geometry Material → Prop
  | .meshInstance i => ∀ mesh, i.mesh = some mesh → mesh.Writable
  | _ => True

mutual

/-- Everything in the tree can be written. -/
def Tree.Writable {R : Type} : Branch R → Prop
  | .node _ _ payload children => payload.Writable ∧ Tree.AllWritable children

def Tree.AllWritable {R : Type} : List (Branch R) → Prop
  | [] => True
  | branch :: rest => Tree.Writable branch ∧ Tree.AllWritable rest

end

/-! ## What is read -/

namespace Document

theorem isIndex_of_asIndex {value : Json} {n : Int} (h : value.asIndex = .ok n) : IsIndex n := by
  rcases bind_eq_ok_iff.1 h with ⟨m, -, hrange⟩
  split_ifs at hrange with hm
  cases hrange
  exact hm

/-- The values of a grid are read one by one. -/
theorem exists_of_mem_grid {α : Type} {read : Json → Except Fault α} {value : Json} {grid : Json.Grid α}
    (h : value.grid read = .ok grid) {a : α} (ha : a ∈ grid.values) : ∃ leaf, read leaf = .ok a := by
  unfold Json.grid at h
  split_ifs at h
  rcases bind_eq_ok_iff.1 h with ⟨values, hvalues, hlast⟩
  cases hlast
  rcases exists_of_mem_results (forall₂_of_mapM hvalues) ha with ⟨leaf, -, hleaf⟩
  exact ⟨leaf, hleaf⟩

theorem writable_of_facesOf? {numbers : List Int} {faces : List Face} (h : facesOf? numbers = some faces)
    (hnumbers : ∀ n ∈ numbers, IsIndex n) : ∀ face ∈ faces, face.Writable := by
  induction numbers using facesOf?.induct generalizing faces with
  | case1 =>
      cases h
      simp
  | case2 a b c rest ih =>
      rcases Option.map_eq_some_iff.1 h with ⟨others, hothers, rfl⟩
      intro face hface
      rcases List.mem_cons.1 hface with rfl | hmem
      · exact ⟨hnumbers a (by simp), hnumbers b (by simp), hnumbers c (by simp)⟩
      · exact ih hothers (fun n hn => hnumbers n (by simp [hn])) face hmem
  | case3 numbers hnil hcons =>
      unfold facesOf? at h
      split at h
      · exact absurd rfl hnil
      · exact absurd rfl (hcons _ _ _ _)
      · cases h

theorem writable_of_decodeFaces {value : Json} {faces : List Face} (h : decodeFaces value = .ok faces) :
    ∀ face ∈ faces, face.Writable := by
  rcases bind_eq_ok_iff.1 h with ⟨numbers, hnumbers, hfill⟩
  rcases bind_eq_ok_iff.1 hnumbers with ⟨grid, hgrid, hlast⟩
  cases hlast
  unfold fill at hfill
  split at hfill
  · next filled hfilled =>
      cases hfill
      refine writable_of_facesOf? hfilled fun n hn => ?_
      rcases exists_of_mem_grid hgrid hn with ⟨leaf, hleaf⟩
      exact isIndex_of_asIndex hleaf
  · cases hfill

theorem normal_of_asPath {value : Json} {path : Path} (h : value.asPath = .ok path) : path.Normal := by
  cases value with
  | str s =>
      cases h
      exact Path.normal_ofText s
  | _ => cases h

theorem writable_of_decodeMaterial {value : Json} {material : Material}
    (h : decodeMaterial value = .ok (some material)) : material.Writable := by
  cases value with
  | obj fields =>
      intro path hpath
      simp only [decodeMaterial] at h
      split_ifs at h
      · rcases bind_eq_ok_iff.1 h with ⟨path?, hpath?, hlast⟩
        rcases map_eq_ok_iff.1 hpath? with ⟨found, hfound, rfl⟩
        cases hlast
        cases hpath
        exact normal_of_asPath hfound
      · cases h
        cases hpath
  | str name =>
      cases h
      intro path hpath
      cases hpath
  | _ => cases h

theorem writable_of_decodeSurface {value : Json} {s : Surface Geometry Material}
    (h : decodeSurface value = .ok s) : s.Writable := by
  rcases bind_eq_ok_iff.1 h with ⟨_, -, h⟩
  rcases bind_eq_ok_iff.1 h with ⟨vertices, -, h⟩
  rcases bind_eq_ok_iff.1 h with ⟨_, -, h⟩
  rcases bind_eq_ok_iff.1 h with ⟨faces, hfaces, h⟩
  rcases bind_eq_ok_iff.1 h with ⟨material, hmaterial, h⟩
  rcases bind_eq_ok_iff.1 h with ⟨uv, -, hlast⟩
  cases hlast
  refine ⟨writable_of_decodeFaces hfaces, ?_⟩
  rintro m rfl
  exact writable_of_decodeMaterial hmaterial

theorem writable_of_decodeMesh {value : Json} {mesh : MeshValue} (h : decodeMesh value = .ok mesh) :
    mesh.Writable := by
  rcases bind_eq_ok_iff.1 h with ⟨fields, -, h⟩
  rcases bind_eq_ok_iff.1 h with ⟨items, -, h⟩
  rcases bind_eq_ok_iff.1 h with ⟨surfaces, hsurfaces, h⟩
  rcases bind_eq_ok_iff.1 h with ⟨hint, -, hlast⟩
  cases hlast
  intro s hs
  rcases exists_of_mem_results (forall₂_of_mapM hsurfaces) hs with ⟨item, -, hitem⟩
  exact writable_of_decodeSurface hitem

/-- A field that may be missing is read from what is there. -/
theorem exists_of_optionalField {α : Type} {fields : List (String × Json)} {key : String}
    {read : Json → Except Fault α} {a : α} (h : optionalField fields key read = .ok (some a)) :
    ∃ value, read value = .ok a := by
  unfold optionalField at h
  split at h
  · cases h
  · cases h
  · next value _ _ =>
      rcases map_eq_ok_iff.1 h with ⟨found, hfound, hsome⟩
      cases hsome
      exact ⟨value, hfound⟩

theorem writable_of_decodePayload {fields : List (String × Json)} {type : NodeType}
    {payload : Payload Geometry Material} (h : decodePayload fields type = .ok payload) :
    payload.Writable := by
  cases type with
  | meshInstance =>
      rcases bind_eq_ok_iff.1 h with ⟨mesh?, hmesh?, h⟩
      rcases bind_eq_ok_iff.1 h with ⟨castShadow, -, h⟩
      rcases bind_eq_ok_iff.1 h with ⟨giMode, -, h⟩
      rcases bind_eq_ok_iff.1 h with ⟨layers, -, hlast⟩
      cases hlast
      rintro mesh rfl
      rcases exists_of_optionalField hmesh? with ⟨value, hvalue⟩
      exact writable_of_decodeMesh hvalue
  | plain =>
      cases h
      trivial
  | staticBody =>
      rcases bind_eq_ok_iff.1 h with ⟨layer, -, h⟩
      rcases bind_eq_ok_iff.1 h with ⟨mask, -, hlast⟩
      cases hlast
      trivial
  | collisionShape =>
      rcases bind_eq_ok_iff.1 h with ⟨shape, -, hlast⟩
      cases hlast
      trivial

theorem writable_of_decodeHead {fields : List (String × Json)} {head : NodeHead}
    (h : decodeHead fields = .ok head) : head.payload.Writable := by
  rcases bind_eq_ok_iff.1 h with ⟨type, -, h⟩
  dsimp only at h
  split at h
  all_goals
    rcases bind_eq_ok_iff.1 h with ⟨transform, -, h⟩
    rcases bind_eq_ok_iff.1 h with ⟨payload, hpayload, hlast⟩
    cases hlast
    exact writable_of_decodePayload hpayload

mutual

/-- What is read from a document can be written again. -/
theorem writable_of_decodeNode : ∀ {value : Json} {t : Branch Float}, decodeNode value = .ok t → t.Writable
  | .obj fields, t, h => by
      rcases bind_eq_ok_iff.1 h with ⟨head, hhead, h⟩
      rcases bind_eq_ok_iff.1 h with ⟨children, hchildren, hlast⟩
      cases hlast
      exact ⟨writable_of_decodeHead hhead, writable_of_decodeChildren hchildren⟩
  | .null, _, h | .bool _, _, h | .int _, _, h | .float _, _, h | .str _, _, h | .arr _, _, h => by
      cases h

theorem writable_of_decodeChildren : ∀ {fields : List (String × Json)} {children : List (Branch Float)},
    decodeChildren fields = .ok children → Tree.AllWritable children
  | [], _, h => by
      cases h
      trivial
  | (key, value) :: rest, children, h => by
      unfold decodeChildren at h
      split_ifs at h
      · split at h
        · next items => exact writable_of_decodeNodes h
        · rcases bind_eq_ok_iff.1 h with ⟨members, -, h⟩
          cases members with
          | nil =>
              cases h
              trivial
          | cons => cases h
      · exact writable_of_decodeChildren h

theorem writable_of_decodeNodes : ∀ {items : List Json} {branches : List (Branch Float)},
    decodeNodes items = .ok branches → Tree.AllWritable branches
  | [], _, h => by
      cases h
      trivial
  | item :: rest, branches, h => by
      rcases bind_eq_ok_iff.1 h with ⟨branch, hbranch, h⟩
      rcases bind_eq_ok_iff.1 h with ⟨others, hothers, hlast⟩
      cases hlast
      exact ⟨writable_of_decodeNode hbranch, writable_of_decodeNodes hothers⟩

end

end Document

end LevelPrep
