import LevelPrep.Proofs.Disk.Files
import LevelPrep.Proofs.Mesh.Numbering
import LevelPrep.Scene.File

/-!
# What scene files hold

Whatever is loaded from a scene file can be written as a document (`writable_of_load`).  In files of plain
geometry every corner is checked to be one of the vertices, and no file has lines for too many of these.
-/

namespace LevelPrep

open Text

/-! ## The lengths of texts -/

theorem length_trim_le (drops : Char → Bool) (text : List Char) : (trim drops text).length ≤ text.length := by
  unfold trim
  rw [List.length_reverse]
  refine Nat.le_trans (List.dropWhile_suffix drops).length_le ?_
  rw [List.length_reverse]
  exact (List.dropWhile_suffix drops).length_le

/-- A text of shorter pieces is not longer. -/
theorem length_intercalate_map_le (separator : Char) {f : List Char → List Char}
    (hf : ∀ piece, (f piece).length ≤ piece.length) (pieces : List (List Char)) :
    ([separator].intercalate (pieces.map f)).length ≤ ([separator].intercalate pieces).length := by
  induction pieces with
  | nil => exact Nat.le_refl _
  | cons piece rest ih =>
      have hpiece := hf piece
      cases rest with
      | nil => simpa using hpiece
      | cons next rest =>
          simp only [List.map_cons] at ih
          simp only [List.map_cons, List.intercalate_cons_cons, List.length_append, List.length_singleton]
          omega

theorem length_afterFirst?_le {word text rest : List Char} (h : afterFirst? word text = some rest) :
    rest.length ≤ text.length := by
  induction text with
  | nil =>
      unfold afterFirst? at h
      split_ifs at h
      cases h
      exact Nat.le_refl _
  | cons c tail ih =>
      unfold afterFirst? at h
      split_ifs at h
      · cases h
        rw [List.length_drop]
        exact Nat.sub_le _ _
      · exact Nat.le_succ_of_le (ih h)

/-- A text has no more lines that are not blank than characters beside those that end lines. -/
theorem length_filter_lines_le (keeps : List Char → Bool) (hkeeps : keeps [] = false) (text : List Char) :
    ((lines text).filter keeps).length ≤ text.countP (· != '\n') := by
  refine Nat.le_trans ?_ (countP_splitAt_le '\n' text)
  rw [← List.countP_eq_length_filter]
  refine List.countP_mono_left fun line _ hline => ?_
  cases line with
  | nil =>
      rw [hkeeps] at hline
      cases hline
  | cons => rfl

/-! ## Triangles -/

theorem isSome_place?_of_vertex {g : Geometry} {index : Int} {p : Point} (h : g.vertex index = .ok p) :
    (place? g.vertices.length index).isSome = true := by
  unfold Geometry.vertex itemAt at h
  cases hplace : place? g.vertices.length index with
  | some place => rfl
  | none =>
      rw [hplace] at h
      cases h

theorem Geometry.refers_of_corners {g : Geometry} {corners : List Point} (h : g.corners = .ok corners) :
    g.Refers := by
  rcases bind_eq_ok_iff.1 h with ⟨triples, htriples, -⟩
  intro face hface
  rcases exists_result_of_mem (forall₂_of_mapM htriples) hface with ⟨triple, -, htriple⟩
  rcases bind_eq_ok_iff.1 htriple with ⟨a, ha, h⟩
  rcases bind_eq_ok_iff.1 h with ⟨b, hb, h⟩
  rcases bind_eq_ok_iff.1 h with ⟨c, hc, -⟩
  exact ⟨isSome_place?_of_vertex ha, isSome_place?_of_vertex hb, isSome_place?_of_vertex hc⟩

/-! ## OFF files -/

namespace OffFile

theorem refers_of_checkFaces {g : Geometry} (h : checkFaces g = .ok ()) : g.Refers := by
  unfold checkFaces at h
  split_ifs at h with hall
  intro face hface
  have hface := List.all_eq_true.1 hall face hface
  simpa using hface

theorem length_of_pointsOf? {numbers : List Float} {points : List Point}
    (h : Document.pointsOf? numbers = some points) : numbers.length = 3 * points.length := by
  induction numbers using Document.pointsOf?.induct generalizing points with
  | case1 =>
      cases h
      rfl
  | case2 x y z rest ih =>
      rcases Option.map_eq_some_iff.1 h with ⟨others, hothers, rfl⟩
      have hrest := ih hothers
      simp only [List.length_cons]
      omega
  | case3 numbers hnil hcons =>
      unfold Document.pointsOf? at h
      split at h
      · exact absurd rfl hnil
      · exact absurd rfl (hcons _ _ _ _)
      · cases h

/-- Three numbers at most are taken from a line. -/
theorem length_leavesOf_le (rows : List (List (List Char))) :
    (Json.leavesOf (rows.map fun words : List (List Char) =>
      Json.arr ((words.take 3).map fun word => .str (String.ofList word)))).length ≤ 3 * rows.length := by
  induction rows with
  | nil => exact Nat.le_refl _
  | cons words rest ih =>
      have hrow : (Json.arr ((words.take 3).map fun word => .str (String.ofList word))).leaves =
          (words.take 3).map fun word => .str (String.ofList word) :=
        Json.leaves_row (fun _ => rfl) (words.take 3)
      have htake := List.length_take_le 3 words
      rw [List.map_cons, Json.leavesOf, List.length_append, hrow, List.length_map, List.length_cons]
      omega

/-- There are no more points than lines. -/
theorem length_points_le {count : Nat} {rows : List (List (List Char))} {found : List Point}
    (h : points count rows = .ok found) : found.length ≤ rows.length := by
  rcases bind_eq_ok_iff.1 h with ⟨numbers, hnumbers, hfound⟩
  split at hfound
  · next filled hfilled =>
      cases hfound
      have hpoints := length_of_pointsOf? (Option.filter_eq_some_iff.1 hfilled).1
      rcases bind_eq_ok_iff.1 hnumbers with ⟨grid, hgrid, hlast⟩
      cases hlast
      have hvalues := Json.length_values_grid hgrid
      have hleaves := length_leavesOf_le rows
      rw [Json.leaves] at hvalues
      omega
  · cases hfound

theorem writable_of_readLines {rows : List (List (List Char))} {g : Geometry}
    (h : readLines rows = .ok g) (hsize : rows.length ≤ maxVertices) : g.Writable := by
  cases rows with
  | nil => cases h
  | cons counts rest =>
      rcases bind_eq_ok_iff.1 h with ⟨found, -, h⟩
      split at h
      · next vertexCount faceCount _ =>
          rcases bind_eq_ok_iff.1 h with ⟨vertices, hvertices, h⟩
          rcases bind_eq_ok_iff.1 h with ⟨written, -, h⟩
          rcases bind_eq_ok_iff.1 h with ⟨faces, -, h⟩
          rcases bind_eq_ok_iff.1 h with ⟨⟨⟩, hcheck, hlast⟩
          cases hlast
          have hle := length_points_le hvertices
          have htake := List.length_take_le' vertexCount.toNat rest
          rw [List.length_cons] at hsize
          have hfew : vertices.length ≤ maxVertices := by omega
          exact ((refers_of_checkFaces hcheck).writable hfew).cleaned hfew
      · cases h

theorem writable_of_read {text : String} {g : Geometry} (h : read text = .ok g)
    (hsize : text.toList.length < Disk.maxFile) : g.Writable := by
  unfold read at h
  dsimp only at h
  split at h
  · cases h
  · next body hbody =>
      refine writable_of_readLines h (Nat.le_of_lt (Nat.lt_of_le_of_lt ?_ hsize))
      have hbare : (("\n".toList).intercalate ((lines text.toList).map withoutComment)).length ≤
          text.toList.length := by
        have hshorter := length_intercalate_map_le '\n' (f := withoutComment)
          (fun line => (List.takeWhile_prefix _).length_le) (lines text.toList)
        rwa [lines, intercalate_splitAt] at hshorter
      have hrows := length_filter_lines_le (fun line => !(words line).isEmpty) rfl
        (body.map fun c => if endsLine c then '\n' else c)
      have hchars := List.countP_le_length (p := (· != '\n'))
        (l := body.map fun c => if endsLine c then '\n' else c)
      have hbody := length_afterFirst?_le hbody
      rw [List.length_map] at hchars
      rw [List.filter_map, List.length_map]
      exact Nat.le_trans hrows (Nat.le_trans hchars (Nat.le_trans hbody hbare))

end OffFile

/-! ## OBJ files -/

namespace ObjFile

theorem length_lineFeeds_le (text : List Char) : (lineFeeds text).length ≤ text.length := by
  induction text using lineFeeds.induct with
  | case1 rest ih =>
      rw [lineFeeds]
      simp only [List.length_cons]
      omega
  | case2 c rest hreturn ih =>
      rw [lineFeeds]
      · simp only [List.length_cons]
        omega
      · exact hreturn
  | case3 => exact Nat.le_refl _

theorem length_joined_le (text : List Char) : (joined text).length ≤ text.length := by
  induction text using joined.induct with
  | case1 rest ih =>
      rw [joined]
      simp only [List.length_cons]
      omega
  | case2 c rest hslash ih =>
      rw [joined]
      · simp only [List.length_cons]
        omega
      · exact hslash
  | case3 => exact Nat.le_refl _

theorem countP_prepared_le (text : List Char) : (prepared text).countP (· != '\n') ≤ text.length := by
  have htrim := length_trim_le isSpace text
  have hfeeds := length_lineFeeds_le (trimSpaces text)
  have hjoined := length_joined_le (lineFeeds (trimSpaces text))
  have hcount := List.countP_le_length (p := (· != '\n')) (l := joined (lineFeeds (trimSpaces text)))
  unfold trimSpaces at hfeeds hjoined hcount
  simp only [prepared, trimSpaces, List.countP_append, List.countP_cons, List.countP_nil]
  simp
  omega

theorem length_rowsOf {α : Type} (size count : Nat) (values : List α) :
    (rowsOf size count values).length = count := by
  induction count generalizing values with
  | zero => rfl
  | succ count ih => rw [rowsOf, List.length_cons, ih]

/-- There are no more vertices than lines. -/
theorem length_vertices_le {text : List Char} {found : List Point} (h : vertices text = .ok found) :
    found.length ≤ text.countP (· != '\n') := by
  have hrows : (vertexRows text).length ≤ text.countP (· != '\n') := by
    have hlines := length_filter_lines_le (fun line => "v ".toList.isPrefixOf line) rfl text
    have hcount : (vertexRows text).length =
        ((lines text).filter fun line => "v ".toList.isPrefixOf line).length := by
      unfold vertexRows
      rw [List.length_filterMap_eq_countP, ← List.countP_eq_length_filter]
      refine List.countP_congr fun line _ => ?_
      cases "v ".toList.isPrefixOf line <;> simp
    omega
  have hlen := (forall₂_of_mapM h).length_eq
  rw [← hlen]
  split
  · rwa [length_rowsOf]
  · rwa [List.length_map]

theorem writable_of_geometry {points : List Point} {part : Part} {g : Geometry}
    (h : geometry points part = .ok g) (hsize : points.length ≤ maxVertices) : g.Writable := by
  unfold geometry at h
  split_ifs at h
  · cases h
  · rcases bind_eq_ok_iff.1 h with ⟨faces, -, h⟩
    rcases bind_eq_ok_iff.1 h with ⟨corners, hcorners, hlast⟩
    cases hlast
    split_ifs
    · intro face hface
      cases hface
    · exact ((Geometry.refers_of_corners hcorners).writable hsize).cleaned hsize

/-- What a file shows can be written. -/
def Contents.Writable : Contents → Prop
  | .meshes named => ∀ part ∈ named, part.2.Writable
  | _ => True

theorem writable_of_foldlM {points : List Point} (hsize : points.length ≤ maxVertices)
    {name : List (String × Geometry) → Part → String} {parts : List Part} {named named' : List (String × Geometry)}
    (hnamed : ∀ part ∈ named, part.2.Writable)
    (h : parts.foldlM (fun named part => do
      return named ++ [(name named part, ← geometry points part)]) named = .ok named') :
    ∀ part ∈ named', part.2.Writable := by
  induction parts generalizing named with
  | nil =>
      cases h
      exact hnamed
  | cons part rest ih =>
      rw [List.foldlM_cons] at h
      rcases bind_eq_ok_iff.1 h with ⟨more, hmore, hrest⟩
      rcases bind_eq_ok_iff.1 hmore with ⟨g, hg, hlast⟩
      cases hlast
      refine ih (fun other hother => ?_) hrest
      rcases List.mem_append.1 hother with hold | hnew
      · exact hnamed other hold
      · rw [List.mem_singleton.1 hnew]
        exact writable_of_geometry hg hsize

theorem writable_of_read {fileName text : String} {contents : Contents} (h : read fileName text = .ok contents)
    (hsize : text.toList.length < Disk.maxFile) : contents.Writable := by
  rcases bind_eq_ok_iff.1 h with ⟨points, hpoints, h⟩
  have hle := length_vertices_le hpoints
  have hprepared := countP_prepared_le text.toList
  have hfew : points.length ≤ maxVertices :=
    Nat.le_of_lt (Nat.lt_of_le_of_lt (Nat.le_trans hle hprepared) hsize)
  dsimp only at h
  split_ifs at h
  · cases h
    trivial
  · cases h
    trivial
  · rcases bind_eq_ok_iff.1 h with ⟨named, hnamed, hlast⟩
    cases hlast
    exact writable_of_foldlM hfew (by simp) hnamed

end ObjFile

/-! ## Scene files -/

namespace SceneFile

theorem writable_meshBranch (name : String) {geometry : Geometry} (h : geometry.Writable) :
    (meshBranch name geometry).Writable := by
  refine ⟨?_, trivial⟩
  rintro mesh ⟨⟩ s hs
  rw [List.mem_singleton.1 hs]
  exact ⟨h, by simp⟩

theorem allWritable_of_forall {R : Type} {branches : List (Branch R)}
    (h : ∀ branch ∈ branches, branch.Writable) : Tree.AllWritable branches := by
  induction branches with
  | nil => trivial
  | cons branch rest ih =>
      exact ⟨h branch List.mem_cons_self, ih fun other hother => h other (List.mem_cons_of_mem branch hother)⟩

theorem allWritable_objBranches (path : Path) {contents : ObjFile.Contents} (h : contents.Writable) :
    Tree.AllWritable (objBranches path contents) := by
  cases contents with
  | nothing => trivial
  | points => exact ⟨⟨trivial, trivial⟩, trivial⟩
  | meshes named =>
      refine allWritable_of_forall fun branch hbranch => ?_
      rcases List.mem_map.1 hbranch with ⟨part, hpart, rfl⟩
      exact writable_meshBranch part.1 (h part hpart)

theorem writable_of_decode {value : Json} {contents : Document.Contents}
    (h : (Document.decode value).2 = .ok contents) : contents.root.Writable := by
  cases value with
  | obj fields =>
      unfold Document.decode at h
      by_cases hformat : ((fields.lookup "format").getD .null == .str Document.format) = true
      · simp only [hformat, if_true] at h
        split at h
        · cases h
        · rcases map_eq_ok_iff.1 h with ⟨root, hroot, rfl⟩
          exact Document.writable_of_decodeNode hroot
      · simp only [hformat] at h
        cases h
  | _ => cases h

variable {disk : Disk} {path : Path} {branch : Branch Float}

theorem writable_of_readDocument {contents : Document.Contents}
    (h : (readDocument disk path).2 = .ok contents) : contents.root.Writable := by
  unfold readDocument at h
  split at h
  · exact writable_of_decode h
  · cases h

theorem writable_of_readAs (hdisk : disk.WellFormed) {format : String}
    (h : (readAs disk path format).2 = .ok branch) : branch.Writable := by
  unfold readAs at h
  split_ifs at h
  · rcases map_eq_ok_iff.1 h with ⟨contents, hcontents, rfl⟩
    exact writable_of_readDocument hcontents
  · rcases bind_eq_ok_iff.1 h with ⟨text, htext, h⟩
    rcases bind_eq_ok_iff.1 h with ⟨geometry, hgeometry, hlast⟩
    cases hlast
    have hwritable := OffFile.writable_of_read hgeometry (hdisk.length_readPlain_lt htext)
    exact ⟨trivial, writable_meshBranch path.name hwritable, trivial⟩
  · rcases bind_eq_ok_iff.1 h with ⟨text, htext, h⟩
    rcases bind_eq_ok_iff.1 h with ⟨contents, hcontents, hlast⟩
    cases hlast
    have hwritable := ObjFile.writable_of_read hcontents (hdisk.length_readPlain_lt htext)
    exact ⟨trivial, allWritable_objBranches path hwritable⟩

/-- Every tree that is loaded can be written. -/
theorem writable_of_load (hdisk : disk.WellFormed) (h : (load disk path).2 = .ok branch) : branch.Writable := by
  unfold load at h
  split at h
  · exact writable_of_readAs hdisk h
  · cases h
  · cases h

end SceneFile

end LevelPrep
