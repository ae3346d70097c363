import SceneFrames.Geometry.Pose

/-!
Poses that are equal up to a tolerance. Rotations are compared through their matrices, so that
opposite quaternions are equal.
-/

namespace SceneFrames

universe u

/-- Scalars that can be compared. -/
class OrderedScalar (R : Type u) extends Scalar R where
  abs : R → R
  le : R → R → Bool
  same : R → R → Bool
  isFinite : R → Bool

instance : OrderedScalar Float where
  abs := Float.abs
  le a b := a ≤ b
  same a b := a == b
  isFinite := Float.isFinite

section

variable {R : Type u} [OrderedScalar R]

/-- Two numbers differ by at most the tolerance, or are equal; nothing is within any distance
of an infinite number but itself. -/
def closeTo (tolerance x y : R) : Bool :=
  (OrderedScalar.le (OrderedScalar.abs (x - y)) tolerance && OrderedScalar.isFinite y) ||
    OrderedScalar.same x y

/-- Two lists of numbers are close place by place. -/
def allClose (tolerance : R) (xs ys : List R) : Bool :=
  (xs.zip ys).all fun p => closeTo tolerance p.1 p.2

/-- Positions and rotation matrices are close place by place. -/
def Pose.isClose (tolerance : R) (p q : Pose R) : Bool :=
  allClose tolerance p.coordinates q.coordinates

end

/-- The tolerance of the equality of poses. -/
def poseTolerance : Float := 1e-9

/-- Poses are equal when they are close up to the usual tolerance. -/
def Pose.equals (p q : Pose Float) : Bool := Pose.isClose poseTolerance p q

end SceneFrames
