import LevelPrep.Proofs.Scene.Writable

/-!
# Documents read back

Reading undoes writing: a writable tree is read back as it was (`decodeNode_encodeNode`).  As everything that
is read is writable, writing and reading again changes nothing, however freely the first document was written.
-/

namespace LevelPrep

@[simp] theorem ShadowCasting.ofWord?_word (mode : ShadowCasting) : ofWord? mode.word = some mode := by
  cases mode <;> rfl

@[simp] theorem GIMode.ofWord?_word (mode : GIMode) : ofWord? mode.word = some mode := by
  cases mode <;> rfl

@[simp] theorem NodeType.ofWord?_word (type : NodeType) : ofWord? type.word = some type := by
  cases type <;> rfl

namespace Document

open Json

/-! ## Numbers -/

theorem asIndex_int {n : Int} (h : IsIndex n) : (Json.int n).asIndex = .ok n :=
  bind_eq_ok_iff.2 ⟨n, rfl, if_pos h⟩

theorem numbers_eq (value : Json) : value.numbers = (value.grid asNumber).map Grid.values := by
  unfold numbers
  cases value.grid asNumber <;> rfl

theorem indices_eq (value : Json) : value.indices = (value.grid asIndex).map Grid.values := by
  unfold indices
  cases value.grid asIndex <;> rfl

theorem numbers_rows (size : Nat) (rows : List (List Float)) (hsize : ∀ values ∈ rows, values.length = size) :
    (Json.arr (rows.map (row .float))).numbers = .ok rows.flatten := by
  rw [numbers_eq]
  exact values_grid_rows (fun _ => rfl) (fun _ _ => rfl) hsize

theorem indices_rows (size : Nat) {rows : List (List Int)} (hsize : ∀ values ∈ rows, values.length = size)
    (hindex : ∀ n ∈ rows.flatten, IsIndex n) :
    (Json.arr (rows.map (row .int))).indices = .ok rows.flatten := by
  rw [indices_eq]
  exact values_grid_rows (fun _ => rfl) (fun n hn => asIndex_int (hindex n hn)) hsize

/-! ## Geometry -/

theorem pointsOf?_flatten (points : List Point) :
    pointsOf? (points.map fun p => [p.x, p.y, p.z]).flatten = some points := by
  induction points with
  | nil => rfl
  | cons p rest ih => simp [pointsOf?, ih]

theorem facesOf?_flatten (faces : List Face) :
    facesOf? (faces.map fun f => [f.a, f.b, f.c]).flatten = some faces := by
  induction faces with
  | nil => rfl
  | cons f rest ih => simp [facesOf?, ih]

theorem pairsOf?_flatten (uv : List (Float × Float)) :
    pairsOf? (uv.map fun p => [p.1, p.2]).flatten = some uv := by
  induction uv with
  | nil => rfl
  | cons p rest ih => simp [pairsOf?, ih]

@[simp] theorem decodePoints_encodePoints (points : List Point) :
    decodePoints (encodePoints points) = .ok points := by
  have hrows : encodePoints points = .arr ((points.map fun p => [p.x, p.y, p.z]).map (row .float)) := by
    simp [encodePoints, row]
  have hnumbers := numbers_rows 3 (points.map fun p => [p.x, p.y, p.z]) (by simp)
  rw [hrows, decodePoints, hnumbers]
  show fill "(3)" pointsOf? _ = _
  rw [fill, pointsOf?_flatten]

theorem decodeFaces_encodeFaces {faces : List Face} (h : ∀ face ∈ faces, face.Writable) :
    decodeFaces (encodeFaces faces) = .ok faces := by
  have hrows : encodeFaces faces = .arr ((faces.map fun f => [f.a, f.b, f.c]).map (row .int)) := by
    simp [encodeFaces, row]
  have hindex : ∀ n ∈ (faces.map fun f => [f.a, f.b, f.c]).flatten, IsIndex n := by
    intro n hn
    rcases List.mem_flatten.1 hn with ⟨values, hvalues, hn⟩
    rcases List.mem_map.1 hvalues with ⟨face, hface, rfl⟩
    rcases h face hface with ⟨ha, hb, hc⟩
    simp only [List.mem_cons, List.not_mem_nil, or_false] at hn
    rcases hn with rfl | rfl | rfl <;> assumption
  have hnumbers := indices_rows 3 (by simp) hindex
  rw [hrows, decodeFaces, hnumbers]
  show fill "(3)" facesOf? _ = _
  rw [fill, facesOf?_flatten]

@[simp] theorem decodeUv_encodeUv (uv : List (Float × Float)) : decodeUv (encodeUv uv) = .ok uv := by
  have hrows : encodeUv uv = .arr ((uv.map fun p => [p.1, p.2]).map (row .float)) := by
    simp [encodeUv, row]
  have hnumbers := numbers_rows 2 (uv.map fun p => [p.1, p.2]) (by simp +contextual [eq_comm])
  rw [hrows, decodeUv, hnumbers]
  show fill "(2)" pairsOf? _ = _
  rw [fill, pairsOf?_flatten]

@[simp] theorem decodeTransform_encodeTransform (m : Matrix Float) :
    decodeTransform (encodeTransform m) = .ok m := by
  have hrows : encodeTransform m = .arr ((m.rows.map Row.toList).map (row .float)) := by
    rw [List.map_map]
    rfl
  have hnumbers := numbers_rows 4 (m.rows.map Row.toList) (by simp [Row.toList])
  rw [hrows, decodeTransform, hnumbers]
  rfl

/-! ## Meshes -/

theorem decodeMaterial_encodeMaterial {material : Option Material}
    (h : ∀ m, material = some m → m.Writable) :
    decodeMaterial (encodeOption encodeMaterial material) = .ok material := by
  cases material with
  | none => rfl
  | some m =>
      rcases m with ⟨name, path?⟩
      cases path? with
      | none => rfl
      | some path =>
          have hpath : path.Normal := h _ rfl path rfl
          have hset : (Json.str path.text).isSet = true := by
            simp [isSet, Path.text_ne_empty hpath]
          simp [encodeOption, encodeMaterial, decodeMaterial, List.lookup_cons, hset, asPath,
            Path.ofText_text hpath]

theorem decodeSurface_encodeSurface {s : Surface Geometry Material} (h : s.Writable) :
    decodeSurface (encodeSurface geometryFields s) = .ok s := by
  rcases s with ⟨⟨vertices, faces⟩, material, uv⟩
  have hfaces : decodeFaces (encodeFaces faces) = .ok faces := decodeFaces_encodeFaces h.geometry
  have hmaterial := decodeMaterial_encodeMaterial h.material
  simp only at hmaterial
  cases uv <;>
    simp [encodeSurface, geometryFields, decodeSurface, field, get?, List.lookup_cons, hfaces, hmaterial]

theorem decodeMesh_encodeMesh {mesh : MeshValue} (h : mesh.Writable) :
    decodeMesh (encodeMesh geometryFields mesh) = .ok mesh := by
  rcases mesh with ⟨name, surfaces, hint⟩
  have hsurfaces : (surfaces.map (encodeSurface geometryFields)).mapM decodeSurface = .ok surfaces := by
    refine mapM_of_forall₂ ?_
    rw [List.forall₂_map_left_iff]
    exact List.forall₂_same.2 fun s hs => decodeSurface_encodeSurface (h s hs)
  cases hint <;> simp [encodeMesh, decodeMesh, asObject, List.lookup_cons, members, hsurfaces]

@[simp] theorem decodeShape_encodeShape (shape : Shape) : decodeShape (encodeShape shape) = .ok shape := by
  cases shape <;> simp [encodeShape, decodeShape, asObject, field, List.lookup_cons]

/-! ## Nodes -/

/-- A part that may be missing is read back from its field. -/
theorem optionalField_encodeOption {α : Type} (encode : α → Json) {fields : List (String × Json)}
    {key : String} {read : Json → Except Fault α} {part : Option α}
    (hkey : fields.lookup key = some (encodeOption encode part)) (hnull : ∀ a, encode a ≠ .null)
    (hread : ∀ a, part = some a → read (encode a) = .ok a) :
    optionalField fields key read = .ok part := by
  unfold optionalField
  rw [hkey]
  cases part with
  | none => rfl
  | some a =>
      simp only [encodeOption]
      split
      · next hnone => cases hnone
      · next hnone => exact absurd (Option.some.inj hnone) (hnull a)
      · next value _ hvalue =>
          rw [← Option.some.inj hvalue, hread a rfl]
          rfl

section

variable (name : Json) (transform : Matrix Float) {payload : Payload Geometry Material} (children : Json)

/-- The fields of a node. -/
def nodeFields (name : Json) (transform : Matrix Float) (payload : Payload Geometry Material)
    (children : Json) : List (String × Json) :=
  encodeHead geometryFields name transform payload ++ [("children", children)]

theorem decodeType_nodeFields (payload : Payload Geometry Material) :
    decodeType (nodeFields name transform payload children) = .ok payload.type := by
  simp [decodeType, nodeFields, encodeHead]

theorem decodePayload_nodeFields (h : payload.Writable) :
    decodePayload (nodeFields name transform payload children) payload.type = .ok payload := by
  cases payload with
  | plain => rfl
  | meshInstance i =>
      have hmesh : optionalField (nodeFields name transform (.meshInstance i) children) "mesh" decodeMesh =
          .ok i.mesh := by
        refine optionalField_encodeOption (encodeMesh geometryFields) ?_ ?_ ?_
        · simp [nodeFields, encodeHead, encodePayload, List.lookup_cons]
        · intro mesh hnull
          cases hnull
        · intro mesh hmesh
          exact decodeMesh_encodeMesh (h mesh hmesh)
      unfold decodePayload
      simp only [Payload.type, hmesh, ok_bind]
      simp [wordField, integerField, nodeFields, encodeHead, encodePayload, List.lookup_cons, asInteger, isSet]
  | staticBody layer mask =>
      simp [decodePayload, Payload.type, integerField, nodeFields, encodeHead, encodePayload, List.lookup_cons,
        asInteger]
  | collisionShape shape =>
      have hshape : optionalField (nodeFields name transform (.collisionShape shape) children) "shape"
          decodeShape = .ok shape := by
        refine optionalField_encodeOption encodeShape ?_ ?_ ?_
        · simp [nodeFields, encodeHead, encodePayload, List.lookup_cons]
        · intro shape hnull
          cases shape <;> cases hnull
        · intro shape _
          exact decodeShape_encodeShape shape
      simp [decodePayload, Payload.type, hshape]

theorem decodeHead_nodeFields (h : payload.Writable) :
    decodeHead (nodeFields name transform payload children) = .ok { name, transform, payload } := by
  have htype := decodeType_nodeFields name transform children payload
  have hpayload := decodePayload_nodeFields name transform children h
  have hname : (nodeFields name transform payload children).lookup "name" = some name := by
    simp [nodeFields, encodeHead, List.lookup_cons]
  have htransform : (nodeFields name transform payload children).lookup "transform" =
      some (encodeTransform transform) := by
    simp [nodeFields, encodeHead, List.lookup_cons]
  simp [decodeHead, htype, hname, htransform, hpayload]

theorem decodeChildren_nodeFields (payload : Payload Geometry Material) (items : List Json) :
    decodeChildren (nodeFields name transform payload (.arr items)) = decodeNodes items := by
  cases payload <;> simp [nodeFields, encodeHead, encodePayload, decodeChildren]

end

mutual

/-- A writable tree is read back as it was. -/
theorem decodeNode_encodeNode : ∀ {t : Branch Float}, t.Writable → decodeNode (encodeNode t) = .ok t
  | .node name transform payload children, h => by
      have hhead := decodeHead_nodeFields name transform (.arr (encodeNodes children)) h.1
      have hchildren := decodeChildren_nodeFields name transform payload (encodeNodes children)
      rw [decodeNodes_encodeNodes h.2] at hchildren
      show decodeNode (.obj (nodeFields name transform payload (.arr (encodeNodes children)))) = _
      rw [decodeNode, hhead, hchildren]
      rfl

theorem decodeNodes_encodeNodes : ∀ {branches : List (Branch Float)}, Tree.AllWritable branches →
    decodeNodes (encodeNodes branches) = .ok branches
  | [], _ => rfl
  | branch :: rest, h => by
      rw [encodeNodes, decodeNodes, decodeNode_encodeNode h.1, decodeNodes_encodeNodes h.2]
      rfl

end

/-- The document of a writable tree is read without warnings. -/
theorem decode_encode {t : Branch Float} (h : t.Writable) :
    decode (encode t) = ([], .ok { version := .str version, root := t }) := by
  have hroot := decodeNode_encodeNode h
  rcases t with ⟨name, transform, payload, children⟩
  simp only [encodeNode] at hroot
  simp [decode, encode, encodeNode, List.lookup_cons, hroot, Except.map]

end Document

end LevelPrep
