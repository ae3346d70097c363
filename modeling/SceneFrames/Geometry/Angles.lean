import SceneFrames.Geometry.Quaternion

/-!
Roll, pitch and yaw of a rotation. Near a pitch of a quarter turn only one combination of roll
and yaw is determined; yaw is then zero and roll carries the whole turn.
-/

namespace SceneFrames

/-- The ratio of a circle's circumference to its diameter. -/
def pi : Float := 3.141592653589793

/-- The width of the band around a pitch of a quarter turn. -/
def lockWidth : Float := 1e-7

/-- The length of the hypotenuse. -/
def hypotenuse (a b : Float) : Float := Float.sqrt (a * a + b * b)

/-- An angle moved by a whole turn into the half turns around zero. -/
def wrapAngle (a : Float) : Float :=
  if a < -pi then a + 2 * pi else if a > pi then a - 2 * pi else a

namespace Quaternion

/-- The roll, pitch and yaw angles of a rotation. -/
def rollPitchYaw (q : Quaternion Float) : Vec3 Float :=
  let a := q.w - q.y
  let b := q.x + q.z
  let c := q.y + q.w
  let d := q.z - q.x
  let middle := 2 * Float.atan2 (hypotenuse c d) (hypotenuse a b)
  let halfSum := Float.atan2 b a
  let halfDiff := Float.atan2 d c
  let pitch := wrapAngle (middle - pi / 2)
  if middle.abs ≤ lockWidth then ⟨wrapAngle (2 * halfSum), pitch, 0⟩
  else if (middle - pi).abs ≤ lockWidth then ⟨wrapAngle (2 * halfDiff * (-1)), pitch, 0⟩
  else ⟨wrapAngle (halfSum - halfDiff), pitch, wrapAngle (halfSum + halfDiff)⟩

end Quaternion

end SceneFrames
