import LevelPrep.Mesh.Basic

/-!
# Convex hulls

The hull of points is given by its corners, in lexicographic order.  Everything is computed in
integers, so no rounding decides: the coordinates are brought to a common unit first.  A plane through
a point supports the hull if all points lie on one side of it, and a point is a corner exactly if the
normals of the supporting planes through it span the space.
-/

namespace LevelPrep.Hull

/-- A point or a direction in integer coordinates. -/
structure Lattice where
  x : Int
  y : Int
  z : Int
deriving DecidableEq, Repr

def Lattice.sub (p q : Lattice) : Lattice :=
  ⟨p.x - q.x, p.y - q.y, p.z - q.z⟩

def Lattice.cross (p q : Lattice) : Lattice :=
  ⟨p.y * q.z - p.z * q.y, p.z * q.x - p.x * q.z, p.x * q.y - p.y * q.x⟩

def Lattice.dot (p q : Lattice) : Int :=
  p.x * q.x + p.y * q.y + p.z * q.z

def Lattice.isZero (p : Lattice) : Bool :=
  p.x == 0 && p.y == 0 && p.z == 0

/-- Whether a point comes before another in lexicographic order. -/
def Lattice.before (p q : Lattice) : Bool :=
  p.x < q.x || (p.x == q.x && (p.y < q.y || (p.y == q.y && p.z < q.z)))

/-- A finite coordinate in units of the smallest positive double. -/
def units? (x : Float) : Option Int :=
  match Number.Form.ofFloat x with
  | .finite negative mantissa exponent =>
    let magnitude : Int := (mantissa * Number.twoPow (exponent + 1074).toNat : Nat)
    some (if negative then -magnitude else magnitude)
  | _ => none

/-- The point in integer coordinates, if all its coordinates are finite. -/
def lattice? (p : Point) : Option Lattice := do
  return ⟨← units? p.x, ← units? p.y, ← units? p.z⟩

/-- The greatest common divisor of all coordinates. -/
def unitOf (points : List Lattice) : Nat :=
  points.foldl (fun g p => Nat.gcd (Nat.gcd (Nat.gcd g p.x.natAbs) p.y.natAbs) p.z.natAbs) 0

/-- The point measured in a larger unit that divides its coordinates. -/
def Lattice.rescale (unit : Nat) (p : Lattice) : Lattice :=
  ⟨p.x / unit, p.y / unit, p.z / unit⟩

/-- Whether all points lie on one side of the plane through `p`. -/
def supports (points : List Lattice) (p normal : Lattice) : Bool :=
  !normal.isZero &&
    ((points.all fun s => decide (normal.dot (s.sub p) ≤ 0)) ||
      points.all fun s => decide (0 ≤ normal.dot (s.sub p)))

/-- The ways to take one item of a list together with those behind it. -/
def choices {α : Type} : List α → List (α × List α)
  | [] => []
  | item :: rest => (item, rest) :: choices rest

/-- The planes through three points that support the hull: a point on each, and its normal. -/
def planesInSpace (points : List Lattice) : List (Lattice × Lattice) :=
  (choices points).flatMap fun (p, afterP) =>
    (choices afterP).flatMap fun (q, afterQ) =>
      (afterQ.map fun r => (p, (q.sub p).cross (r.sub p))).filter fun plane =>
        supports points plane.1 plane.2

/-- For points in a plane of the given normal: that plane, and the planes through two points that stand
upright on it and support the hull. -/
def planesInPlane (points : List Lattice) (normal : Lattice) : List (Lattice × Lattice) :=
  let upright := (choices points).flatMap fun (p, afterP) =>
    afterP.map fun q => (p, normal.cross (q.sub p))
  points.map (·, normal) ++ upright.filter fun plane => supports points plane.1 plane.2

/-- A direction at a right angle to another. -/
def Lattice.perpendicular (p : Lattice) : Lattice :=
  if p.x == 0 && p.y == 0 then ⟨1, 0, 0⟩ else ⟨-p.y, p.x, 0⟩

/-- For points on a line of the given direction: two planes through the line, and the planes across it
that support the hull. -/
def planesOnLine (points : List Lattice) (direction : Lattice) : List (Lattice × Lattice) :=
  let side := direction.perpendicular
  points.flatMap (fun p => [(p, side), (p, direction.cross side)]) ++
    (points.map (·, direction)).filter fun plane => supports points plane.1 plane.2

/-- Whether the directions span the space. -/
def spanSpace (directions : List Lattice) : Bool :=
  match directions.find? fun n => !n.isZero with
  | none => false
  | some first =>
    match directions.find? fun n => !(first.cross n).isZero with
    | none => false
    | some second => directions.any fun n => (first.cross second).dot n != 0

/-- Whether a point is a corner of the hull that has the given supporting planes. -/
def isCorner (planes : List (Lattice × Lattice)) (p : Lattice) : Bool :=
  spanSpace ((planes.filter fun (q, normal) => normal.dot (p.sub q) == 0).map (·.2))

/-- Supporting planes of the hull, enough to tell its corners. -/
def planes (points : List Lattice) : List (Lattice × Lattice) :=
  match points with
  | [] => []
  | p :: rest =>
    let directions := rest.map (·.sub p)
    match directions.find? fun d => !d.isZero with
    | none => []
    | some first =>
      match directions.find? fun d => !(first.cross d).isZero with
      | none => planesOnLine points first
      | some second =>
        if spanSpace directions then planesInSpace points
        else planesInPlane points (first.cross second)

/-- The points without repetitions. -/
def distinct : List (Lattice × Point) → List (Lattice × Point)
  | [] => []
  | p :: rest => p :: (distinct rest).filter (·.1 ≠ p.1)

/-- The corners of the hull of the points, in lexicographic order.  A hull takes at least four points,
counted as often as they are given, and two different ones. -/
def corners (points : List Point) : Except Fault (List Point) :=
  if points.isEmpty then .error .noPoints
  else if points.any fun p => p.x.isNaN || p.y.isNaN || p.z.isNaN then .error .undefinedPoint
  else if points.length < 4 then .error (.fewPoints points.length)
  else
    match points.mapM fun p => (lattice? p).map fun l => (l, p) with
    | none => .error .flatHull
    | some placed =>
      let different := distinct placed
      if different.length < 2 then .error .flatHull
      else
        let unit := unitOf (different.map (·.1))
        let scaled := different.map fun (l, p) => (l.rescale unit, p)
        let planes := planes (scaled.map (·.1))
        let found := scaled.filter fun (l, _) => isCorner planes l
        .ok ((found.mergeSort fun a b => !b.1.before a.1).map (·.2))

end LevelPrep.Hull
