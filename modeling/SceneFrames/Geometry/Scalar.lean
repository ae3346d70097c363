/-!
Scalars: the numbers that coordinates are made of. The rules of rotations and poses are stated
once, for any scalars, so that they run on floating-point numbers and can be reasoned about
over an exact field.
-/

namespace SceneFrames

universe u

/-- Numbers with the operations that rotations need. -/
class Scalar (R : Type u) extends Zero R, One R, Add R, Sub R, Neg R, Mul R, Div R where
  sqrt : R → R
  sin : R → R
  cos : R → R

namespace Scalar

/-- Two. -/
def two {R : Type u} [Scalar R] : R := 1 + 1

end Scalar

instance : Scalar Float where
  zero := 0.0
  one := 1.0
  sqrt := Float.sqrt
  sin := Float.sin
  cos := Float.cos

end SceneFrames
