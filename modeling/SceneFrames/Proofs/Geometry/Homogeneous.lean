import SceneFrames.Proofs.Geometry.RigidMotion
import Mathlib.Data.Matrix.Mul
import Mathlib.LinearAlgebra.Matrix.Notation

/-!
Poses as homogeneous matrices.

A point has the homogeneous coordinates `x, y, z, 1`, and a direction `x, y, z, 0`. The matrix of a
pose takes points to the points that the pose transforms them to, and directions to the rotated
ones. A matrix with four columns is known by what it does to three directions and to one point; so
the matrix of a composition is the product of the matrices, because transforming by a composition
is transforming twice.
-/

namespace SceneFrames

open Matrix

namespace Vec3

/-- Homogeneous coordinates. Points have the last coordinate one, and directions have zero. -/
def extended (v : Vec3 ℝ) (w : ℝ) : Fin 4 → ℝ := ![v.x, v.y, v.z, w]

lemma single_eq_extended (i : Fin 3) : ∃ v : Vec3 ℝ, Pi.single i.castSucc 1 = v.extended 0 := by
  fin_cases i
  · exact ⟨⟨1, 0, 0⟩, by ext j; fin_cases j <;> rfl⟩
  · exact ⟨⟨0, 1, 0⟩, by ext j; fin_cases j <;> rfl⟩
  · exact ⟨⟨0, 0, 1⟩, by ext j; fin_cases j <;> rfl⟩

lemma single_last_eq_extended : Pi.single (Fin.last 3) 1 = (zero : Vec3 ℝ).extended 1 := by
  ext j
  fin_cases j <;> rfl

end Vec3

/-- A matrix is known by what it does to directions and to one point. -/
lemma matrix_ext {A B : Matrix (Fin 4) (Fin 4) ℝ}
    (hdirection : ∀ v : Vec3 ℝ, A *ᵥ v.extended 0 = B *ᵥ v.extended 0)
    (hpoint : A *ᵥ (Vec3.zero : Vec3 ℝ).extended 1 = B *ᵥ (Vec3.zero : Vec3 ℝ).extended 1) :
    A = B := by
  refine Matrix.ext_of_mulVec_single fun i => ?_
  induction i using Fin.lastCases with
  | last => rw [Vec3.single_last_eq_extended, hpoint]
  | cast i =>
    obtain ⟨v, hv⟩ := Vec3.single_eq_extended i
    rw [hv, hdirection]

namespace Pose

lemma length_homogeneous (p : Pose ℝ) : p.homogeneous.length = 16 := rfl

/-- The homogeneous matrix, read row by row. -/
noncomputable def matrix (p : Pose ℝ) : Matrix (Fin 4) (Fin 4) ℝ :=
  .of fun i j => p.homogeneous.get ⟨4 * i + j, by rw [length_homogeneous]; omega⟩

lemma matrix_eq (p : Pose ℝ) : p.matrix =
    !![p.rotation.toMatrix.row0.x, p.rotation.toMatrix.row0.y, p.rotation.toMatrix.row0.z,
        p.position.x;
      p.rotation.toMatrix.row1.x, p.rotation.toMatrix.row1.y, p.rotation.toMatrix.row1.z,
        p.position.y;
      p.rotation.toMatrix.row2.x, p.rotation.toMatrix.row2.y, p.rotation.toMatrix.row2.z,
        p.position.z;
      0, 0, 0, 1] := by
  ext i j
  fin_cases i <;> fin_cases j <;> rfl

lemma matrix_mulVec (p : Pose ℝ) (v : Vec3 ℝ) (w : ℝ) : p.matrix *ᵥ v.extended w =
    (⟨(p.rotation.rotate v).x + w * p.position.x, (p.rotation.rotate v).y + w * p.position.y,
      (p.rotation.rotate v).z + w * p.position.z⟩ : Vec3 ℝ).extended w := by
  rw [matrix_eq]
  ext i
  fin_cases i <;>
    simp [Vec3.extended, Matrix.mulVec, dotProduct, Fin.sum_univ_four, Quaternion.rotate,
      Matrix3.apply, Vec3.dot] <;> ring

/-- Points are transformed. -/
lemma matrix_mulVec_point (p : Pose ℝ) (v : Vec3 ℝ) :
    p.matrix *ᵥ v.extended 1 = (p.transform v).extended 1 := by
  rw [matrix_mulVec]
  simp only [one_mul]
  rfl

/-- Directions are rotated. -/
lemma matrix_mulVec_direction (p : Pose ℝ) (v : Vec3 ℝ) :
    p.matrix *ᵥ v.extended 0 = (p.rotation.rotate v).extended 0 := by
  rw [matrix_mulVec]
  simp only [zero_mul, add_zero]

end Pose

namespace UnitPose

variable (a b c : UnitPose) (v : Vec3 ℝ)

lemma transform_compose :
    (compose a b).pose.transform v = a.pose.transform (b.pose.transform v) := by
  simp only [Pose.transform, compose_pose, Quaternion.rotate_mul, Quaternion.rotate_add]
  ext <;> simp only [Vec3.add_x, Vec3.add_y, Vec3.add_z] <;> ring

lemma rotate_compose : (compose a b).pose.rotation.rotate v =
    a.pose.rotation.rotate (b.pose.rotation.rotate v) := by
  rw [compose_pose, Quaternion.rotate_mul]

lemma transform_identity : identity.pose.transform v = v := by
  show Quaternion.identity.rotate v + Vec3.zero = v
  rw [Quaternion.rotate_identity]
  ext <;> simp

/-- Moving a point there and back. -/
lemma transform_inverse_transform : (inverse a).pose.transform (a.pose.transform v) = v := by
  rw [← transform_compose, UnitPose.inverse_compose, transform_identity]

/-- The matrix of a composition acts on directions and on points as the two matrices do. -/
lemma matrix_compose : (compose a b).pose.matrix = a.pose.matrix * b.pose.matrix := by
  refine matrix_ext (fun v => ?_) ?_
  · calc (compose a b).pose.matrix *ᵥ v.extended 0
        = (a.pose.rotation.rotate (b.pose.rotation.rotate v)).extended 0 := by
          rw [Pose.matrix_mulVec_direction, rotate_compose]
      _ = a.pose.matrix *ᵥ (b.pose.matrix *ᵥ v.extended 0) := by
          rw [Pose.matrix_mulVec_direction, Pose.matrix_mulVec_direction]
      _ = (a.pose.matrix * b.pose.matrix) *ᵥ v.extended 0 := mulVec_mulVec ..
  · calc (compose a b).pose.matrix *ᵥ (Vec3.zero : Vec3 ℝ).extended 1
        = (a.pose.transform (b.pose.transform Vec3.zero)).extended 1 := by
          rw [Pose.matrix_mulVec_point, transform_compose]
      _ = a.pose.matrix *ᵥ (b.pose.matrix *ᵥ (Vec3.zero : Vec3 ℝ).extended 1) := by
          rw [Pose.matrix_mulVec_point, Pose.matrix_mulVec_point]
      _ = (a.pose.matrix * b.pose.matrix) *ᵥ (Vec3.zero : Vec3 ℝ).extended 1 := mulVec_mulVec ..

lemma matrix_identity : identity.pose.matrix = 1 := by
  refine matrix_ext (fun v => ?_) ?_
  · rw [Pose.matrix_mulVec_direction, one_mulVec]
    exact congrArg (·.extended 0) (Quaternion.rotate_identity v)
  · rw [Pose.matrix_mulVec_point, transform_identity, one_mulVec]

/-- **Poses are a group of homogeneous matrices.** In exact arithmetic poses with unit quaternions
are a group under composition. Their matrices multiply as they compose, and the maps of points
that they stand for are composed with them. The matrix of a pose takes a point where the pose
does. -/
theorem group_of_matrices :
    (compose a b).pose.matrix = a.pose.matrix * b.pose.matrix ∧
      identity.pose.matrix = 1 ∧
      compose (compose a b) c = compose a (compose b c) ∧
      compose identity a = a ∧ compose a identity = a ∧
      compose a (inverse a) = identity ∧ compose (inverse a) a = identity ∧
      inverse (inverse a) = a ∧
      inverse (compose a b) = compose (inverse b) (inverse a) ∧
      (compose a b).pose.transform v = a.pose.transform (b.pose.transform v) ∧
      (inverse a).pose.transform (a.pose.transform v) = v ∧
      a.pose.matrix *ᵥ v.extended 1 = (a.pose.transform v).extended 1 :=
  ⟨matrix_compose a b, matrix_identity, UnitPose.compose_assoc a b c,
    UnitPose.identity_compose a, LawfulRigidMotion.compose_identity a,
    LawfulRigidMotion.compose_inverse a, UnitPose.inverse_compose a,
    LawfulRigidMotion.inverse_inverse a, LawfulRigidMotion.inverse_compose_rev a b,
    transform_compose a b v, transform_inverse_transform a v, Pose.matrix_mulVec_point a.pose v⟩

end UnitPose

end SceneFrames
