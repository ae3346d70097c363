import SceneFrames.Geometry.Closeness
import SceneFrames.Proofs.Geometry.RigidMotion

/-!
Poses up to a tolerance, in exact arithmetic.

For a tolerance that is not negative, two poses are close when their twelve coordinates differ by
at most the tolerance, place by place. What is left without any tolerance are the poses that
transform all points alike. They have one position and one rotation matrix, and of a unit
quaternion the matrix forgets the sign only: the entries of the matrix give back the products of
the components two by two, and the products give back the quaternion up to its sign.
-/

namespace SceneFrames

noncomputable instance : OrderedScalar ℝ where
  abs := abs
  le x y := decide (x ≤ y)
  same x y := decide (x = y)
  isFinite _ := true

variable {s t x y : ℝ}

lemma closeTo_iff (ht : 0 ≤ t) : closeTo t x y = true ↔ |x - y| ≤ t := by
  have hclose : closeTo t x y = true ↔ |x - y| ≤ t ∨ x = y := by
    simp [closeTo, OrderedScalar.le, OrderedScalar.abs, OrderedScalar.same,
      OrderedScalar.isFinite]
  rw [hclose, or_iff_left_iff_imp]
  rintro rfl
  simpa using ht

/-! ### Opposite quaternions -/

namespace Quaternion

/-- The opposite quaternion, which is the same rotation. -/
instance : Neg (Quaternion ℝ) where
  neg q := ⟨-q.x, -q.y, -q.z, -q.w⟩

variable (p q : Quaternion ℝ)

@[simp] lemma neg_x : (-q).x = -q.x := rfl
@[simp] lemma neg_y : (-q).y = -q.y := rfl
@[simp] lemma neg_z : (-q).z = -q.z := rfl
@[simp] lemma neg_w : (-q).w = -q.w := rfl

@[simp] lemma normSq_neg : (-q).normSq = q.normSq := by
  simp [normSq_eq]

@[simp] lemma toMatrix_neg : (-q).toMatrix = q.toMatrix := by
  simp [toMatrix]

/-- Quaternions whose components have the same products two by two. -/
structure SameProducts : Prop where
  xx : p.x * p.x = q.x * q.x
  yy : p.y * p.y = q.y * q.y
  zz : p.z * p.z = q.z * q.z
  ww : p.w * p.w = q.w * q.w
  xy : p.x * p.y = q.x * q.y
  xz : p.x * p.z = q.x * q.z
  yz : p.y * p.z = q.y * q.z
  xw : p.x * p.w = q.x * q.w
  yw : p.y * p.w = q.y * q.w
  zw : p.z * p.w = q.z * q.w

variable {p q}

/-- The products are read off the matrix: the squares from its diagonal and the length, and the
others from sums and differences of opposite entries. -/
lemma sameProducts_of_toMatrix_eq (hp : p.normSq = 1) (hq : q.normSq = 1)
    (h : p.toMatrix = q.toMatrix) : SameProducts p q := by
  simp only [toMatrix, Matrix3.mk.injEq, Vec3.mk.injEq, Scalar.two_eq] at h
  obtain ⟨⟨h00, h01, h02⟩, ⟨h10, h11, h12⟩, h20, h21, h22⟩ := h
  rw [normSq_eq] at hp hq
  constructor <;> linarith

/-- The inner product of two quaternions. -/
def inner (p q : Quaternion ℝ) : ℝ := p.x * q.x + p.y * q.y + p.z * q.z + p.w * q.w

/-- A unit quaternion with the same products is the other one times their inner product. -/
lemma SameProducts.scaled (h : SameProducts p q) (hq : q.normSq = 1) :
    q.x = inner p q * p.x ∧ q.y = inner p q * p.y ∧ q.z = inner p q * p.z ∧
      q.w = inner p q * p.w := by
  rw [normSq_eq] at hq
  obtain ⟨hxx, hyy, hzz, hww, hxy, hxz, hyz, hxw, hyw, hzw⟩ := h
  unfold inner
  refine ⟨?_, ?_, ?_, ?_⟩
  · linear_combination -q.x * hq - q.x * hxx - q.y * hxy - q.z * hxz - q.w * hxw
  · linear_combination -q.y * hq - q.x * hxy - q.y * hyy - q.z * hyz - q.w * hyw
  · linear_combination -q.z * hq - q.x * hxz - q.y * hyz - q.z * hzz - q.w * hzw
  · linear_combination -q.w * hq - q.x * hxw - q.y * hyw - q.z * hzw - q.w * hww

/-- **A rotation matrix determines its unit quaternion up to the sign.** -/
theorem toMatrix_eq_iff (hp : p.normSq = 1) (hq : q.normSq = 1) :
    p.toMatrix = q.toMatrix ↔ p = q ∨ p = -q := by
  constructor
  · intro h
    obtain ⟨hx, hy, hz, hw⟩ := (sameProducts_of_toMatrix_eq hp hq h).scaled hq
    have hinner : inner p q * inner p q = 1 := by
      calc inner p q * inner p q
          = inner p q * (p.x * q.x + p.y * q.y + p.z * q.z + p.w * q.w) := rfl
        _ = q.x * (inner p q * p.x) + q.y * (inner p q * p.y) + q.z * (inner p q * p.z) +
            q.w * (inner p q * p.w) := by ring
        _ = q.normSq := by rw [← hx, ← hy, ← hz, ← hw, normSq_eq]
        _ = 1 := hq
    rcases mul_self_eq_one_iff.mp hinner with hone | hone
    · rw [hone] at hx hy hz hw
      left
      ext <;> linarith
    · rw [hone] at hx hy hz hw
      right
      ext <;> simp only [neg_x, neg_y, neg_z, neg_w] <;> linarith
  · rintro (rfl | rfl)
    · rfl
    · exact toMatrix_neg q

/-- A matrix is known by what it does to the three unit vectors. -/
lemma toMatrix_eq_of_rotate_eq (h : ∀ v, p.rotate v = q.rotate v) : p.toMatrix = q.toMatrix := by
  have h0 := h ⟨1, 0, 0⟩
  have h1 := h ⟨0, 1, 0⟩
  have h2 := h ⟨0, 0, 1⟩
  simp only [rotate, Matrix3.apply, Vec3.dot, mul_one, mul_zero, add_zero, zero_add,
    Vec3.mk.injEq] at h0 h1 h2
  ext
  · exact h0.1
  · exact h1.1
  · exact h2.1
  · exact h0.2.1
  · exact h1.2.1
  · exact h2.2.1
  · exact h0.2.2
  · exact h1.2.2
  · exact h2.2.2

end Quaternion

/-! ### Close poses -/

namespace Pose

variable {p q : Pose ℝ}

lemma length_coordinates (p : Pose ℝ) : p.coordinates.length = 12 := rfl

lemma coordinates_eq_iff : p.coordinates = q.coordinates ↔
    p.position = q.position ∧ p.rotation.toMatrix = q.rotation.toMatrix := by
  simp only [coordinates, Vec3.toList, Matrix3.toList, List.cons_append, List.nil_append,
    List.cons.injEq, and_true, Vec3.ext_iff, Matrix3.ext_iff, and_assoc]

/-- Close poses have coordinates that differ by at most the tolerance. -/
lemma isClose_iff (ht : 0 ≤ t) : isClose t p q = true ↔
    List.Forall₂ (fun x y => |x - y| ≤ t) p.coordinates q.coordinates := by
  rw [isClose, allClose, List.all_eq_true, List.forall₂_iff_zip]
  constructor
  · exact fun h => ⟨by simp [length_coordinates], fun hm => (closeTo_iff ht).mp (h _ hm)⟩
  · exact fun h m hm => (closeTo_iff ht).mpr (h.2 hm)

lemma isClose_self (ht : 0 ≤ t) : isClose t p p = true := by
  rw [isClose_iff ht, List.forall₂_same]
  exact fun x _ => by simpa using ht

lemma isClose_symm (ht : 0 ≤ t) (h : isClose t p q = true) : isClose t q p = true := by
  rw [isClose_iff ht] at h ⊢
  exact h.flip.imp fun x y hxy => abs_sub_comm y x ▸ hxy

lemma isClose_mono (hs : 0 ≤ s) (hst : s ≤ t) (h : isClose s p q = true) :
    isClose t p q = true := by
  rw [isClose_iff hs] at h
  rw [isClose_iff (hs.trans hst)]
  exact h.imp fun x y hxy => hxy.trans hst

/-- Without a tolerance, close poses have the same position and the same matrix. -/
lemma isClose_zero_iff : isClose 0 p q = true ↔
    p.position = q.position ∧ p.rotation.toMatrix = q.rotation.toMatrix := by
  have hzero : (fun x y : ℝ => |x - y| ≤ 0) = Eq := by
    funext x y
    rw [abs_nonpos_iff, sub_eq_zero]
  rw [isClose_iff le_rfl, hzero, List.forall₂_eq_eq_eq, coordinates_eq_iff]

/-- Poses that transform all points alike have the same position and the same matrix. -/
lemma transform_eq_iff : (∀ v, p.transform v = q.transform v) ↔
    p.position = q.position ∧ p.rotation.toMatrix = q.rotation.toMatrix := by
  constructor
  · intro h
    have hrotate_zero : ∀ r : Quaternion ℝ, r.rotate Vec3.zero = Vec3.zero := fun r => by
      ext <;> simp [Quaternion.rotate_x, Quaternion.rotate_y, Quaternion.rotate_z]
    have hposition : p.position = q.position := by
      simpa [transform, hrotate_zero] using h Vec3.zero
    refine ⟨hposition, Quaternion.toMatrix_eq_of_rotate_eq fun v => ?_⟩
    have hv := h v
    simp only [transform, hposition, Vec3.ext_iff, Vec3.add_x, Vec3.add_y, Vec3.add_z,
      add_left_inj] at hv
    exact Vec3.ext_iff.mpr hv
  · rintro ⟨hposition, hmatrix⟩ v
    rw [transform, transform, Quaternion.rotate, Quaternion.rotate, hposition, hmatrix]

end Pose

namespace UnitPose

/-- The same pose, written with the opposite quaternion. -/
noncomputable def opposite (a : UnitPose) : UnitPose where
  pose := ⟨a.pose.position, -a.pose.rotation⟩
  unit := (Quaternion.normSq_neg _).trans a.unit

lemma coordinates_opposite (a : UnitPose) :
    a.opposite.pose.coordinates = a.pose.coordinates :=
  Pose.coordinates_eq_iff.mpr ⟨rfl, Quaternion.toMatrix_neg _⟩

/-- **Poses up to a tolerance.** Closeness is reflexive and symmetric, grows with the tolerance,
and does not see the sign of a quaternion. Without a tolerance, close poses are equal up to that
sign, and are those that transform every point alike. -/
theorem isClose_tolerance (a b : UnitPose) (hs : 0 ≤ s) (hst : s ≤ t) :
    Pose.isClose s a.pose a.pose = true ∧
      (Pose.isClose s a.pose b.pose = true ↔ Pose.isClose s b.pose a.pose = true) ∧
      (Pose.isClose s a.pose b.pose = true → Pose.isClose t a.pose b.pose = true) ∧
      Pose.isClose s a.opposite.pose b.pose = Pose.isClose s a.pose b.pose ∧
      Pose.isClose s a.pose b.opposite.pose = Pose.isClose s a.pose b.pose ∧
      (Pose.isClose 0 a.pose b.pose = true ↔ a.pose.position = b.pose.position ∧
        (a.pose.rotation = b.pose.rotation ∨ a.pose.rotation = -b.pose.rotation)) ∧
      (Pose.isClose 0 a.pose b.pose = true ↔
        ∀ v, a.pose.transform v = b.pose.transform v) := by
  refine ⟨Pose.isClose_self hs, ⟨Pose.isClose_symm hs, Pose.isClose_symm hs⟩,
    Pose.isClose_mono hs hst, ?_, ?_, ?_, ?_⟩
  · rw [Pose.isClose, coordinates_opposite, Pose.isClose]
  · rw [Pose.isClose, coordinates_opposite, Pose.isClose]
  · rw [Pose.isClose_zero_iff, Quaternion.toMatrix_eq_iff a.unit b.unit]
  · rw [Pose.isClose_zero_iff, Pose.transform_eq_iff]

/-- One unit apart, and turned by opposite quaternions: close up to one, and so up to two, but not
without a tolerance. -/
theorem isClose_tolerance_one_apart :
    let b : UnitPose :=
      ⟨⟨⟨1, 0, 0⟩, -Quaternion.identity⟩,
        (Quaternion.normSq_neg _).trans Quaternion.normSq_identity⟩
    (0 : ℝ) ≤ 1 ∧ (1 : ℝ) ≤ 2 ∧
      Pose.isClose 1 identity.pose b.pose = true ∧
      Pose.isClose 1 b.pose identity.pose = true ∧
      Pose.isClose 2 identity.pose b.pose = true ∧
      ¬ Pose.isClose 0 identity.pose b.pose = true := by
  intro b
  have hs : (0 : ℝ) ≤ 1 := zero_le_one
  have hst : (1 : ℝ) ≤ 2 := one_le_two
  obtain ⟨-, hsymm, hmono, -, -, hzero, -⟩ := isClose_tolerance identity b hs hst
  have hone : Pose.isClose 1 identity.pose b.pose = true := by
    rw [Pose.isClose_iff hs]
    simp [b, identity, Pose.identity, Pose.coordinates, Vec3.toList, Matrix3.toList,
      Quaternion.toMatrix, Quaternion.identity]
  refine ⟨hs, hst, hone, hsymm.mp hone, hmono hone, fun h => ?_⟩
  have hx := congrArg Vec3.x (hzero.mp h).1
  norm_num [identity, Pose.identity, b] at hx

end UnitPose

end SceneFrames
