import SceneFrames.Geometry.Closeness

/-!
The rotation of a matrix. A matrix that is a rotation up to rounding is read off directly. Any
other with a positive determinant stands for the rotation nearest to it, whose quaternion is
the dominant eigenvector of a symmetric matrix with four rows.
-/

namespace SceneFrames

namespace Matrix3

/-- One step of elimination: the multiple of the pivot row that clears a row's first entry is
taken away from the row's other two. -/
def eliminate (pivot row : Vec3 Float) : Float × Float :=
  let f := row.x / pivot.x
  (row.y - f * pivot.y, row.z - f * pivot.z)

/-- The determinant of the two rows that are left after the first column is cleared. -/
def determinant2 (r s : Float × Float) : Float :=
  if r.1.abs < s.1.abs then -(s.1 * (r.2 - r.1 / s.1 * s.2))
  else if r.1 == 0 then 0
  else r.1 * (s.2 - s.1 / r.1 * r.2)

/-- The determinant, by elimination with the greatest entry of a column as its pivot. -/
def determinant (m : Matrix3 Float) : Float :=
  let a := m.row0.x.abs
  let b := m.row1.x.abs
  let c := m.row2.x.abs
  if a == 0 && b == 0 && c == 0 then 0
  else if a < c && b < c then
    -(m.row2.x * determinant2 (eliminate m.row2 m.row1) (eliminate m.row2 m.row0))
  else if a < b then
    -(m.row1.x * determinant2 (eliminate m.row1 m.row0) (eliminate m.row1 m.row2))
  else m.row0.x * determinant2 (eliminate m.row0 m.row1) (eliminate m.row0 m.row2)

/-- The rows are at right angles and of length one, up to rounding. -/
def isOrthonormal (m : Matrix3 Float) : Bool :=
  (m.gram.toList.zip (Matrix3.one (R := Float)).toList).all fun p =>
    ((p.1 - p.2).abs ≤ 1e-12 + 1e-5 * p.2.abs && p.2.isFinite) || p.1 == p.2

/-- The quaternion of a rotation matrix, computed from its greatest component. -/
def toQuaternion (m : Matrix3 Float) : Quaternion Float :=
  let trace := m.row0.x + m.row1.y + m.row2.z
  let raw : Quaternion Float :=
    if m.row0.x ≥ m.row1.y && m.row0.x ≥ m.row2.z && m.row0.x ≥ trace then
      ⟨1 - trace + 2 * m.row0.x, m.row1.x + m.row0.y, m.row2.x + m.row0.z, m.row2.y - m.row1.z⟩
    else if m.row1.y ≥ m.row2.z && m.row1.y ≥ trace then
      ⟨m.row0.y + m.row1.x, 1 - trace + 2 * m.row1.y, m.row2.y + m.row1.z, m.row0.z - m.row2.x⟩
    else if m.row2.z ≥ trace then
      ⟨m.row0.z + m.row2.x, m.row1.z + m.row2.y, 1 - trace + 2 * m.row2.z, m.row1.x - m.row0.y⟩
    else ⟨m.row2.y - m.row1.z, m.row0.z - m.row2.x, m.row1.x - m.row0.y, 1 + trace⟩
  raw.normalize

end Matrix3

/-- A square matrix with four rows, by its rows. -/
abbrev Matrix4 := List (List Float)

namespace Matrix4

/-- The product with itself of a symmetric matrix. -/
def square (m : Matrix4) : Matrix4 :=
  m.map fun row => m.map fun column => ((row.zip column).map fun p => p.1 * p.2).sum

/-- The sum of the diagonal. -/
def trace (m : Matrix4) : Float := ((List.range 4).map fun i => (m.getD i []).getD i 0).sum

/-- Every entry divided by the sum of the diagonal. -/
def scaled (m : Matrix4) : Matrix4 := m.map fun row => row.map (· / m.trace)

/-- Squared and scaled again and again, a symmetric matrix without negative eigenvalues tends
to the projection on its dominant eigenvector. -/
def project : Nat → Matrix4 → Matrix4
  | 0, m => m
  | n + 1, m => project n m.scaled.square

/-- The row with the greatest diagonal entry. -/
def greatestRow (m : Matrix4) : List Float :=
  (((List.range 4).foldl
    (fun (best : Float × List Float) i =>
      let row := m.getD i []
      if best.1 < row.getD i 0 then (row.getD i 0, row) else best)
    (-1, [])).2)

end Matrix4

namespace Matrix3

/-- The symmetric matrix whose dominant eigenvector is the quaternion of the rotation nearest
to `m`, moved so that no eigenvalue is negative. -/
def alignment (m : Matrix3 Float) : Matrix4 :=
  let shift := 2 * Float.sqrt (m.toList.map fun x => x * x).sum
  let a := m.row0
  let b := m.row1
  let c := m.row2
  [[a.x - b.y - c.z + shift, a.y + b.x, a.z + c.x, c.y - b.z],
   [a.y + b.x, b.y - a.x - c.z + shift, b.z + c.y, a.z - c.x],
   [a.z + c.x, b.z + c.y, c.z - a.x - b.y + shift, b.x - a.y],
   [c.y - b.z, a.z - c.x, b.x - a.y, a.x + b.y + c.z + shift]]

/-- The rotation nearest to a matrix with a positive determinant. -/
def nearestRotation (m : Matrix3 Float) : Quaternion Float :=
  match (Matrix4.project 64 m.alignment).greatestRow with
  | [x, y, z, w] => (⟨x, y, z, w⟩ : Quaternion Float).normalize
  | _ => Quaternion.identity

/-- The rotation of a matrix; one whose determinant is not positive has none, and neither has
one with an entry that is not finite. -/
def rotation? (m : Matrix3 Float) : Option (Quaternion Float) :=
  if m.determinant ≤ 0 || m.toList.any (!·.isFinite) then none
  else some (if m.isOrthonormal then m.toQuaternion else m.nearestRotation)

end Matrix3

end SceneFrames
