import LevelPrep.Mesh.Basic

/-!
# Faces of more corners

Meshes are made of triangles.  A face of four corners is cut in two, and a larger one into a fan around
its first corner; a face of fewer than three corners has no triangles.
-/

namespace LevelPrep

/-- The values in rows of the given size. -/
def rowsOf {α : Type} (size : Nat) : (count : Nat) → List α → List (List α)
  | 0, _ => []
  | count + 1, values => values.take size :: rowsOf size count (values.drop size)

/-- The triangles from the first of the corners to each two that follow one another. -/
def fan : List Int → List Face
  | first :: rest => (rest.zip (rest.drop 1)).map fun (b, c) => ⟨first, b, c⟩
  | [] => []

/-- The triangles of one face; the second half of a quadrangle starts at its third corner. -/
def triangles : List Int → List Face
  | [a, b, c, d] => [⟨a, b, c⟩, ⟨c, d, a⟩]
  | corners => fan corners

/-- The triangles of faces: triangles first, then the first and the second halves of quadrangles, then
the fans of larger faces. -/
def triangulate (faces : List (List Int)) : List Face :=
  let quads := (faces.filter (·.length = 4)).map triangles
  (faces.filter (·.length = 3)).flatMap triangles ++ quads.flatMap (·.take 1) ++
    quads.flatMap (·.drop 1) ++ (faces.filter (·.length > 4)).flatMap triangles

end LevelPrep
