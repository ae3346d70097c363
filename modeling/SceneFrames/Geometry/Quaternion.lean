import SceneFrames.Geometry.Vector

/-!
Rotations as unit quaternions: products, inverses, and the matrix of a rotation. Opposite
quaternions are the same rotation, and have the same matrix.
-/

namespace SceneFrames

universe u

/-- A quaternion by its vector part and its scalar part `w`. -/
@[ext] structure Quaternion (R : Type u) where
  x : R
  y : R
  z : R
  w : R
  deriving Repr, BEq

namespace Quaternion

variable {R : Type u} [Scalar R]

/-- The rotation that moves nothing. -/
def identity : Quaternion R := ⟨0, 0, 0, 1⟩

/-- The product: the rotation `q` first, then `p`. -/
def mul (p q : Quaternion R) : Quaternion R where
  x := p.w * q.x + q.w * p.x + (p.y * q.z - p.z * q.y)
  y := p.w * q.y + q.w * p.y + (p.z * q.x - p.x * q.z)
  z := p.w * q.z + q.w * p.z + (p.x * q.y - p.y * q.x)
  w := p.w * q.w - p.x * q.x - p.y * q.y - p.z * q.z

/-- The opposite rotation. -/
def conj (q : Quaternion R) : Quaternion R := ⟨-q.x, -q.y, -q.z, q.w⟩

/-- The sum of the squares of the components. -/
def normSq (q : Quaternion R) : R := q.x * q.x + q.y * q.y + q.z * q.z + q.w * q.w

/-- The length. -/
def norm (q : Quaternion R) : R := Scalar.sqrt q.normSq

/-- The quaternion of length one in the same direction. -/
def normalize (q : Quaternion R) : Quaternion R :=
  ⟨q.x / q.norm, q.y / q.norm, q.z / q.norm, q.w / q.norm⟩

/-- The rotation by `q` first, then by `p`, brought back to length one. -/
def compose (p q : Quaternion R) : Quaternion R := (p.mul q).normalize

/-- The matrix of the rotation. -/
def toMatrix (q : Quaternion R) : Matrix3 R :=
  let xx := q.x * q.x
  let yy := q.y * q.y
  let zz := q.z * q.z
  let ww := q.w * q.w
  let xy := q.x * q.y
  let zw := q.z * q.w
  let xz := q.x * q.z
  let yw := q.y * q.w
  let yz := q.y * q.z
  let xw := q.x * q.w
  { row0 := ⟨xx - yy - zz + ww, Scalar.two * (xy - zw), Scalar.two * (xz + yw)⟩
    row1 := ⟨Scalar.two * (xy + zw), -xx + yy - zz + ww, Scalar.two * (yz - xw)⟩
    row2 := ⟨Scalar.two * (xz - yw), Scalar.two * (yz + xw), -xx - yy + zz + ww⟩ }

/-- The vector after the rotation. -/
def rotate (q : Quaternion R) (v : Vec3 R) : Vec3 R := q.toMatrix.apply v

/-- The rotation about the first axis. -/
def aboutX (angle : R) : Quaternion R :=
  ⟨Scalar.sin (angle / Scalar.two), 0, 0, Scalar.cos (angle / Scalar.two)⟩

/-- The rotation about the second axis. -/
def aboutY (angle : R) : Quaternion R :=
  ⟨0, Scalar.sin (angle / Scalar.two), 0, Scalar.cos (angle / Scalar.two)⟩

/-- The rotation about the third axis. -/
def aboutZ (angle : R) : Quaternion R :=
  ⟨0, 0, Scalar.sin (angle / Scalar.two), Scalar.cos (angle / Scalar.two)⟩

/-- The rotation by roll, pitch and yaw: about the first axis, then the second, then the third,
all of them fixed. -/
def ofRollPitchYaw (angles : Vec3 R) : Quaternion R :=
  (aboutZ angles.z).mul ((aboutY angles.y).mul (aboutX angles.x))

end Quaternion

end SceneFrames
