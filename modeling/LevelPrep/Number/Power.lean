/-!
# Powers of two and ten

The bases of the two notations of numbers.
-/

namespace LevelPrep.Number

/-- Two to the power of `n`. -/
def twoPow (n : Nat) : Nat :=
  Nat.pow 2 n

/-- Ten to the power of `n`. -/
def tenPow (n : Nat) : Nat :=
  Nat.pow 10 n

end LevelPrep.Number
