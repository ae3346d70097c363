import SceneFrames.Geometry.Scalar

/-!
Vectors with three components and square matrices with three rows.
-/

namespace SceneFrames

universe u

/-- A vector with three components. -/
@[ext] structure Vec3 (R : Type u) where
  x : R
  y : R
  z : R
  deriving Repr, BEq

/-- A square matrix by its three rows. -/
@[ext] structure Matrix3 (R : Type u) where
  row0 : Vec3 R
  row1 : Vec3 R
  row2 : Vec3 R
  deriving Repr, BEq

namespace Vec3

variable {R : Type u}

/-- The components in order. -/
def toList (v : Vec3 R) : List R := [v.x, v.y, v.z]

/-- The vector of three components; a list of any other length has none. -/
def ofList? : List R → Option (Vec3 R)
  | [x, y, z] => some ⟨x, y, z⟩
  | _ => none

@[simp] theorem ofList?_toList (v : Vec3 R) : ofList? v.toList = some v := rfl

/-- Every component under a function. -/
def map {S : Type u} (f : R → S) (v : Vec3 R) : Vec3 S := ⟨f v.x, f v.y, f v.z⟩

variable [Scalar R]

/-- The zero vector. -/
def zero : Vec3 R := ⟨0, 0, 0⟩

instance : Add (Vec3 R) where
  add v w := ⟨v.x + w.x, v.y + w.y, v.z + w.z⟩

instance : Neg (Vec3 R) where
  neg v := ⟨-v.x, -v.y, -v.z⟩

/-- The sum of the products of components. -/
def dot (v w : Vec3 R) : R := v.x * w.x + v.y * w.y + v.z * w.z

/-- The vector at right angles to both. -/
def cross (v w : Vec3 R) : Vec3 R :=
  ⟨v.y * w.z - v.z * w.y, v.z * w.x - v.x * w.z, v.x * w.y - v.y * w.x⟩

/-- The length. -/
def norm (v : Vec3 R) : R := Scalar.sqrt (v.dot v)

/-- Every component divided by a number. -/
def divide (v : Vec3 R) (n : R) : Vec3 R := ⟨v.x / n, v.y / n, v.z / n⟩

end Vec3

namespace Matrix3

variable {R : Type u}

/-- The entries row by row. -/
def toList (m : Matrix3 R) : List R := m.row0.toList ++ m.row1.toList ++ m.row2.toList

/-- Columns as rows. -/
def transpose (m : Matrix3 R) : Matrix3 R :=
  ⟨⟨m.row0.x, m.row1.x, m.row2.x⟩, ⟨m.row0.y, m.row1.y, m.row2.y⟩,
    ⟨m.row0.z, m.row1.z, m.row2.z⟩⟩

variable [Scalar R]

/-- The unit matrix. -/
def one : Matrix3 R := ⟨⟨1, 0, 0⟩, ⟨0, 1, 0⟩, ⟨0, 0, 1⟩⟩

/-- The matrix applied to a vector. -/
def apply (m : Matrix3 R) (v : Vec3 R) : Vec3 R := ⟨m.row0.dot v, m.row1.dot v, m.row2.dot v⟩

/-- The matrix times its transpose: the products of its rows. -/
def gram (m : Matrix3 R) : Matrix3 R := ⟨m.apply m.row0, m.apply m.row1, m.apply m.row2⟩

end Matrix3

end SceneFrames
