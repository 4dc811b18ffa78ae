import LevelPrep.Fault
import LevelPrep.Matrix
import LevelPrep.Mesh.Hull

/-!
# Nearly rigid matrices

Products of many rotations drift away from rotations.  `settle` takes a matrix whose turning part is
orthogonal up to such a drift for the rigid motion next to it, and leaves all others alone: those that
are orthogonal as well as doubles can be, and those that scale or shear on purpose.

The orthogonal matrix next to a nearly orthogonal one is found in integers of a common small unit: one
step of `approach` squares the distance to it.
-/

namespace LevelPrep.Rigid

open Hull (Lattice)

/-- The largest of the values; no number if one of them is none. -/
def maxOf (values : List Float) : Float :=
  values.foldl (fun best x => if best.isNaN || x.isNaN then 0.0 / 0.0 else if x > best then x else best)
    (-1.0 / 0.0)

/-- The entries that turn, row by row. -/
def turning (m : Matrix Float) : List Point :=
  [⟨m.r0.a, m.r0.b, m.r0.c⟩, ⟨m.r1.a, m.r1.b, m.r1.c⟩, ⟨m.r2.a, m.r2.b, m.r2.c⟩]

/-- How far rows are from being orthogonal and of length one. -/
def deviation (rows : List Point) : Float :=
  maxOf (rows.zipIdx.flatMap fun (p, i) => rows.zipIdx.map fun (q, j) =>
    Float.abs ((if i = j then 1.0 else 0.0) - (p.x * q.x + p.y * q.y + p.z * q.z)))

/-- A drift below this is none. -/
def leastDrift : Float := 1e-13

/-- From this on it is no drift. -/
def mostDrift : Float := 1e-5

/-! ## The orthogonal matrix next to another -/

/-- How many units make one. -/
def unit : Int :=
  Number.twoPow 1152

/-- A double in units; what is smaller than a unit is dropped. -/
def toUnits (x : Float) : Int :=
  match Number.Form.ofFloat x with
  | .finite negative mantissa exponent =>
    let (num, den) := Number.scaleDown mantissa 1 (-exponent)
    let magnitude : Int := (num * unit.toNat / den : Nat)
    if negative then -magnitude else magnitude
  | _ => 0

/-- The double nearest to a number of units. -/
def ofUnits (n : Int) : Float :=
  Number.nearest (n < 0) n.natAbs unit.toNat

/-- One step from nearly orthogonal rows towards the orthogonal ones next to them: each row is taken
one and a half times, less half of its share in all rows. -/
def approach (rows : List Lattice) : List Lattice :=
  rows.map fun r =>
    let pull (coordinate : Lattice → Int) : Int :=
      rows.foldl (fun total s => total + r.dot s * coordinate s) 0
    let square := unit * unit
    ⟨(3 * r.x * square - pull Lattice.x) / (2 * square),
      (3 * r.y * square - pull Lattice.y) / (2 * square),
      (3 * r.z * square - pull Lattice.z) / (2 * square)⟩

/-- The orthogonal rows next to nearly orthogonal ones. -/
def orthogonal (rows : List Point) : List Point :=
  let scaled := rows.map fun p => (⟨toUnits p.x, toUnits p.y, toUnits p.z⟩ : Lattice)
  let refined := (List.range 8).foldl (fun rows _ => approach rows) scaled
  refined.map fun r => ⟨ofUnits r.x, ofUnits r.y, ofUnits r.z⟩

/-! ## Rigid motions -/

/-- The rigid motion with the turning part next to that of a matrix and with its shift. -/
def motion (m : Matrix Float) : Matrix Float :=
  let row (p : Point) (shift : Float) : Row Float := ⟨p.x, p.y, p.z, shift⟩
  match orthogonal (turning m) with
  | [p, q, r] => ⟨row p m.r0.d, row q m.r1.d, row r m.r2.d, ⟨0, 0, 0, 1⟩⟩
  | _ => m

/-- Whether an entry stays near what it was. -/
def isNear (settled x : Float) : Bool :=
  settled == x || (x.isFinite && Float.abs (settled - x) ≤ mostDrift + 1e-5 * x.abs)

/-- The entries of a matrix, row by row. -/
def entries (m : Matrix Float) : List Float :=
  m.rows.flatMap Row.toList

/-- Takes away the drift of a matrix that is nearly rigid; all of its entries have to stay near. -/
def settle (m : Matrix Float) : Except Fault (Matrix Float) :=
  let drift := deviation (turning m)
  if drift > leastDrift ∧ drift < mostDrift then
    if ((entries (motion m)).zip (entries m)).all fun (settled, x) => isNear settled x then
      .ok (motion m)
    else .error .notRigid
  else .ok m

/-- Whether two matrices are equal up to a shift of all their entries that rounding explains. -/
def sameMatrix (m n : Matrix Float) : Bool :=
  let gaps := ((entries m).zip (entries n)).map fun (x, y) => x - y
  maxOf gaps + maxOf (gaps.map fun gap => -gap) < 1e-8

end LevelPrep.Rigid
