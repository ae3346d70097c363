import SceneFrames.Geometry.Pose
import Mathlib.Analysis.Real.Sqrt
import Mathlib.Analysis.SpecialFunctions.Trigonometric.Basic
import Mathlib.Tactic.Ring
import Mathlib.Tactic.LinearCombination
import Mathlib.Algebra.Group.MinimalAxioms

/-!
Poses in exact arithmetic.

Rigid motions are lawful when they form a group under composition. Over the reals the poses whose
rotations have length one are: the product of unit quaternions needs no correction of its
length, and rotating by a product is rotating twice.
-/

namespace SceneFrames

/-- Rigid motions whose operations are those of a group. -/
class LawfulRigidMotion (P : Type*) [RigidMotion P] : Prop where
  compose_assoc : ∀ p q r : P, RigidMotion.compose (RigidMotion.compose p q) r =
    RigidMotion.compose p (RigidMotion.compose q r)
  identity_compose : ∀ p : P, RigidMotion.compose RigidMotion.identity p = p
  inverse_compose : ∀ p : P, RigidMotion.compose (RigidMotion.inverse p) p = RigidMotion.identity

namespace LawfulRigidMotion

open RigidMotion

variable {P : Type*} [RigidMotion P] [LawfulRigidMotion P]

/-- The group of lawful rigid motions. -/
abbrev group (P : Type*) [RigidMotion P] [LawfulRigidMotion P] : Group P :=
  letI : Mul P := ⟨compose⟩
  letI : One P := ⟨identity⟩
  letI : Inv P := ⟨inverse⟩
  Group.ofLeftAxioms compose_assoc identity_compose inverse_compose

lemma inverse_compose_cancel (p q : P) : compose (inverse p) (compose p q) = q :=
  letI := group P
  inv_mul_cancel_left p q

lemma compose_inverse_cancel (p q : P) : compose p (compose (inverse p) q) = q :=
  letI := group P
  mul_inv_cancel_left p q

lemma compose_identity (p : P) : compose p identity = p :=
  letI := group P
  mul_one p

lemma compose_inverse (p : P) : compose p (inverse p) = identity :=
  letI := group P
  mul_inv_cancel p

lemma inverse_inverse (p : P) : inverse (inverse p) = p :=
  letI := group P
  inv_inv p

lemma inverse_compose_rev (p q : P) : inverse (compose p q) = compose (inverse q) (inverse p) :=
  letI := group P
  mul_inv_rev p q

lemma inverse_inverse_compose (p q : P) :
    inverse (compose (inverse p) q) = compose (inverse q) p := by
  let := group P
  have h : ((p⁻¹ * q)⁻¹ : P) = q⁻¹ * p := by rw [mul_inv_rev, inv_inv]
  exact h

end LawfulRigidMotion

noncomputable instance : Scalar ℝ where
  sqrt := Real.sqrt
  sin := Real.sin
  cos := Real.cos

lemma Scalar.two_eq : (Scalar.two : ℝ) = 2 := one_add_one_eq_two

/-! ### Vectors -/

namespace Vec3

variable (u v w : Vec3 ℝ)

@[simp] lemma zero_x : (zero : Vec3 ℝ).x = 0 := rfl
@[simp] lemma zero_y : (zero : Vec3 ℝ).y = 0 := rfl
@[simp] lemma zero_z : (zero : Vec3 ℝ).z = 0 := rfl
@[simp] lemma add_x : (v + w).x = v.x + w.x := rfl
@[simp] lemma add_y : (v + w).y = v.y + w.y := rfl
@[simp] lemma add_z : (v + w).z = v.z + w.z := rfl
@[simp] lemma neg_x : (-v).x = -v.x := rfl
@[simp] lemma neg_y : (-v).y = -v.y := rfl
@[simp] lemma neg_z : (-v).z = -v.z := rfl

protected lemma add_assoc : u + v + w = u + (v + w) := by
  ext <;> simp [add_assoc]

@[simp] protected lemma zero_add : zero + v = v := by
  ext <;> simp

@[simp] protected lemma neg_add_cancel : -v + v = zero := by
  ext <;> simp

end Vec3

/-! ### Rotations -/

namespace Quaternion

variable (p q r : Quaternion ℝ) (v w : Vec3 ℝ)

lemma normSq_eq : q.normSq = q.x * q.x + q.y * q.y + q.z * q.z + q.w * q.w := rfl

lemma normSq_mul : (p.mul q).normSq = p.normSq * q.normSq := by
  simp only [normSq_eq, mul]
  ring

@[simp] lemma normSq_conj : q.conj.normSq = q.normSq := by
  simp only [normSq_eq, conj]
  ring

@[simp] lemma normSq_identity : (identity : Quaternion ℝ).normSq = 1 := by
  simp [normSq_eq, identity]

lemma mul_assoc : (p.mul q).mul r = p.mul (q.mul r) := by
  ext <;> simp only [mul] <;> ring

@[simp] lemma identity_mul : identity.mul q = q := by
  ext <;> simp [mul, identity]

variable {p q}

lemma conj_mul (hq : q.normSq = 1) : q.conj.mul q = identity := by
  rw [normSq_eq] at hq
  ext <;> simp only [mul, conj, identity]
  · ring
  · ring
  · ring
  · linear_combination hq

/-- A quaternion of length one is its own direction. -/
lemma normalize_of_unit (hq : q.normSq = 1) : q.normalize = q := by
  have hnorm : q.norm = 1 := by
    rw [norm, hq]
    exact Real.sqrt_one
  ext <;> simp [normalize, hnorm]

lemma normSq_mul_of_unit (hp : p.normSq = 1) (hq : q.normSq = 1) : (p.mul q).normSq = 1 := by
  rw [normSq_mul, hp, hq, one_mul]

/-- Of unit quaternions the composition is the product. -/
lemma compose_of_unit (hp : p.normSq = 1) (hq : q.normSq = 1) : p.compose q = p.mul q :=
  normalize_of_unit (normSq_mul_of_unit hp hq)

variable (p q)

lemma rotate_x : (q.rotate v).x = (q.x * q.x - q.y * q.y - q.z * q.z + q.w * q.w) * v.x +
    2 * (q.x * q.y - q.z * q.w) * v.y + 2 * (q.x * q.z + q.y * q.w) * v.z := by
  rw [← Scalar.two_eq]
  rfl

lemma rotate_y : (q.rotate v).y = 2 * (q.x * q.y + q.z * q.w) * v.x +
    (-(q.x * q.x) + q.y * q.y - q.z * q.z + q.w * q.w) * v.y +
    2 * (q.y * q.z - q.x * q.w) * v.z := by
  rw [← Scalar.two_eq]
  rfl

lemma rotate_z : (q.rotate v).z = 2 * (q.x * q.z - q.y * q.w) * v.x +
    2 * (q.y * q.z + q.x * q.w) * v.y +
    (-(q.x * q.x) - q.y * q.y + q.z * q.z + q.w * q.w) * v.z := by
  rw [← Scalar.two_eq]
  rfl

/-- Rotating by a product is rotating twice. -/
lemma rotate_mul : (p.mul q).rotate v = p.rotate (q.rotate v) := by
  ext <;> simp only [rotate_x, rotate_y, rotate_z, mul] <;> ring

lemma rotate_add : q.rotate (v + w) = q.rotate v + q.rotate w := by
  ext <;> simp only [rotate_x, rotate_y, rotate_z, Vec3.add_x, Vec3.add_y, Vec3.add_z] <;> ring

@[simp] lemma rotate_identity : (identity : Quaternion ℝ).rotate v = v := by
  ext <;> simp [rotate_x, rotate_y, rotate_z, identity]

end Quaternion

/-! ### Poses -/

/-- A pose over the reals whose rotation has length one. -/
@[ext] structure UnitPose where
  pose : Pose ℝ
  unit : pose.rotation.normSq = 1

namespace UnitPose

/-- The pose of the base frame itself. -/
noncomputable def identity : UnitPose := ⟨Pose.identity, Quaternion.normSq_identity⟩

/-- The composition; its rotation is the product of the rotations. -/
noncomputable def compose (p q : UnitPose) : UnitPose where
  pose := p.pose.compose q.pose
  unit := by
    show (p.pose.rotation.compose q.pose.rotation).normSq = 1
    rw [Quaternion.compose_of_unit p.unit q.unit]
    exact Quaternion.normSq_mul_of_unit p.unit q.unit

/-- The pose of the base frame in the frame. -/
noncomputable def inverse (p : UnitPose) : UnitPose where
  pose := p.pose.inverse
  unit := (Quaternion.normSq_conj _).trans p.unit

noncomputable instance : RigidMotion UnitPose where
  identity := identity
  compose := compose
  inverse := inverse

lemma compose_pose (p q : UnitPose) : (compose p q).pose =
    ⟨p.pose.position + p.pose.rotation.rotate q.pose.position,
      p.pose.rotation.mul q.pose.rotation⟩ := by
  rw [← Quaternion.compose_of_unit p.unit q.unit]
  rfl

protected lemma compose_assoc (p q r : UnitPose) :
    compose (compose p q) r = compose p (compose q r) := by
  apply UnitPose.ext
  simp only [compose_pose, Quaternion.rotate_mul, Quaternion.rotate_add, Quaternion.mul_assoc,
    Vec3.add_assoc]

protected lemma identity_compose (p : UnitPose) : compose identity p = p := by
  apply UnitPose.ext
  rw [compose_pose]
  simp [identity, Pose.identity]

protected lemma inverse_compose (p : UnitPose) : compose (inverse p) p = identity := by
  apply UnitPose.ext
  rw [compose_pose]
  simp [inverse, Pose.inverse, identity, Pose.identity, Quaternion.conj_mul p.unit]

/-- **Poses in exact arithmetic form a group.** -/
instance : LawfulRigidMotion UnitPose where
  compose_assoc := UnitPose.compose_assoc
  identity_compose := UnitPose.identity_compose
  inverse_compose := UnitPose.inverse_compose

end UnitPose

end SceneFrames
