import SceneFrames.Geometry.Orthonormal

/-!
Poses from grids of numbers. A grid is a number or a row of grids; it has a shape when the rows
of one depth have one length. Each constructor asks for a shape and says what is wrong with any
other.
-/

namespace SceneFrames

/-- Why a grid of numbers makes no pose. -/
inductive GridFault
  /-- The position has not three components. -/
  | positionShape
  /-- A grid has the wrong shape, or none. -/
  | shape
  /-- A matrix has no fourth column. -/
  | missingColumn
  /-- A quaternion or a matrix stands for no rotation. -/
  | noRotation
  /-- A position is not written to. -/
  | readOnly
  /-- There is no component at the index. -/
  | outOfRange
  deriving DecidableEq, Repr

/-- Numbers in rows of rows. -/
inductive Grid
  | number (value : Float)
  | row (items : List Grid)
  deriving Inhabited

namespace Grid

/-- The shape that all of some shapes share. -/
def common : List (Option (List Nat)) → Option (List Nat)
  | [] => some []
  | s :: ss => if ss.all (· == s) then s else none

mutual

/-- The number of items at each depth, when rows of one depth agree. -/
def shape : Grid → Option (List Nat)
  | number _ => some []
  | row items => (common (shapes items)).map (items.length :: ·)

/-- The shape of each grid. -/
def shapes : List Grid → List (Option (List Nat))
  | [] => []
  | g :: gs => g.shape :: shapes gs

end

mutual

/-- The numbers in order. -/
def numbers : Grid → List Float
  | number x => [x]
  | row items => allNumbers items

/-- The numbers of each grid in order. -/
def allNumbers : List Grid → List Float
  | [] => []
  | g :: gs => g.numbers ++ allNumbers gs

end

/-- The items of a row. -/
def items : Grid → List Grid
  | number _ => []
  | row gs => gs

/-- The vector of a grid with three numbers in a row. -/
def vector? (g : Grid) : Option (Vec3 Float) :=
  if g.shape == some [3] then Vec3.ofList? g.numbers else none

end Grid

/-- The quaternion after a check that it stands for a rotation. -/
def Quaternion.checked (q : Quaternion Float) : Except GridFault (Quaternion Float) :=
  if q.norm == 0 || q.norm.isNaN then .error .noRotation else .ok q.normalize

/-- The rotation of four numbers. -/
def Grid.rotation (g : Grid) : Except GridFault (Quaternion Float) :=
  match g.shape, g.numbers with
  | some [4], [x, y, z, w] => Quaternion.checked ⟨x, y, z, w⟩
  | _, _ => .error .shape

/-- The position of three numbers. -/
def Grid.position (g : Grid) : Except GridFault (Vec3 Float) :=
  match g.shape, g.vector? with
  | some _, some v => .ok v
  | some _, none => .error .positionShape
  | none, _ => .error .shape

namespace Pose

/-- The pose of an optional position and an optional quaternion. -/
def ofGrids (position quaternion : Option Grid) : Except GridFault (Pose Float) := do
  let q ← (quaternion.map Grid.rotation).getD (.ok Quaternion.identity)
  let v ← (position.map Grid.position).getD (.ok Vec3.zero)
  return ⟨v, q⟩

/-- The pose of a position and of roll, pitch and yaw. -/
def ofAngleGrids (position angles : Grid) : Except GridFault (Pose Float) :=
  match angles.vector? with
  | none => .error .shape
  | some a => (position.position).map fun v => ofRollPitchYaw v a

/-- The pose of a homogeneous matrix, of which the last row is not looked at. -/
def ofMatrixGrid (matrix : Grid) : Except GridFault (Pose Float) :=
  match matrix.shape with
  | none => .error .shape
  | some (_ :: columns :: _) =>
    if columns ≤ 3 then .error .missingColumn
    else
      match (matrix.items.take 3).map Grid.numbers with
      | [a0 :: a1 :: a2 :: a3 :: _, b0 :: b1 :: b2 :: b3 :: _, c0 :: c1 :: c2 :: c3 :: _] =>
        match Matrix3.rotation? ⟨⟨a0, a1, a2⟩, ⟨b0, b1, b2⟩, ⟨c0, c1, c2⟩⟩ with
        | some q => .ok ⟨⟨a3, b3, c3⟩, q⟩
        | none => .error .noRotation
      | _ => .error .shape
  | some _ => .error .missingColumn

/-- The composition of poses, after a check that the product of their rotations is one. -/
def composeChecked (p q : Pose Float) : Except GridFault (Pose Float) :=
  (p.rotation.mul q.rotation).checked.map fun r =>
    ⟨p.position + p.rotation.rotate q.position, r⟩

/-- The pose that is read back from the matrix of a pose. -/
def roundTrip (p : Pose Float) : Except GridFault (Pose Float) :=
  match p.rotation.toMatrix.rotation? with
  | some q => .ok ⟨p.position, q⟩
  | none => .error .noRotation

/-- The points of a grid, which is one point or a row of points, mapped to the base frame. -/
def transformGrid (p : Pose Float) (points : Grid) : Except GridFault (List (Vec3 Float)) :=
  match points.shape with
  | some [3] => .ok (points.vector?.toList.map p.transform)
  | some [_, 3] => .ok ((points.items.filterMap Grid.vector?).map p.transform)
  | _ => .error .shape

/-- What an attempt to write a component of the position meets with. An index may count from
the end. -/
def writePosition (_ : Pose Float) (index : Int) : GridFault :=
  if -3 ≤ index && index < 3 then .readOnly else .outOfRange

end Pose

end SceneFrames
