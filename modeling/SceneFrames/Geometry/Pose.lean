import SceneFrames.Geometry.Quaternion

/-!
Rigid poses: where a frame stands and how it is turned, seen from a base frame. A pose maps
coordinates in its frame to coordinates in the base frame, and poses compose as the maps do.
-/

namespace SceneFrames

universe u

/-- What a frame graph needs of poses: composition, inverses, and the pose that moves
nothing. -/
class RigidMotion (P : Type u) where
  identity : P
  compose : P → P → P
  inverse : P → P

/-- The position and the rotation of a frame in its base frame. -/
@[ext] structure Pose (R : Type u) where
  position : Vec3 R
  rotation : Quaternion R
  deriving Repr, BEq

namespace Pose

variable {R : Type u} [Scalar R]

/-- The pose of the base frame itself. -/
def identity : Pose R := ⟨Vec3.zero, Quaternion.identity⟩

/-- The pose from a position and roll, pitch and yaw angles. -/
def ofRollPitchYaw (position angles : Vec3 R) : Pose R :=
  ⟨position, Quaternion.ofRollPitchYaw angles⟩

/-- The pose `q`, which is given in the frame of `p`, in the base frame of `p`. -/
def compose (p q : Pose R) : Pose R :=
  ⟨p.position + p.rotation.rotate q.position, p.rotation.compose q.rotation⟩

/-- The pose of the base frame in the frame. -/
def inverse (p : Pose R) : Pose R :=
  ⟨-(p.rotation.conj.rotate p.position), p.rotation.conj⟩

/-- A point given in the frame, in the base frame. -/
def transform (p : Pose R) (point : Vec3 R) : Vec3 R := p.rotation.rotate point + p.position

instance : RigidMotion (Pose R) where
  identity := identity
  compose := compose
  inverse := inverse

/-- The twelve numbers of a pose: its position, and its matrix row by row. -/
def coordinates (p : Pose R) : List R := p.position.toList ++ p.rotation.toMatrix.toList

/-- The homogeneous matrix row by row. -/
def homogeneous (p : Pose R) : List R :=
  let m := p.rotation.toMatrix
  m.row0.toList ++ [p.position.x] ++ m.row1.toList ++ [p.position.y] ++
    m.row2.toList ++ [p.position.z] ++ [0, 0, 0, 1]

end Pose

end SceneFrames
