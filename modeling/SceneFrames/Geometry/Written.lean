import SceneFrames.Geometry.Angles
import SceneFrames.Geometry.Pose
import SceneFrames.Number.Layout

/-!
Poses in words: position and angles with six significant digits each.
-/

namespace SceneFrames

open Number

/-- A number with six significant digits. -/
def shortText (x : Float) : String := String.ofList (generalText (Binary64.ofFloat x).magnitude)

namespace Pose

/-- Position, roll, pitch and yaw. -/
def text (p : Pose Float) : String :=
  " ".intercalate ((p.position.toList ++ p.rotation.rollPitchYaw.toList).map shortText)

/-- The pose with its type. -/
def description (p : Pose Float) : String := "Pose(" ++ p.text ++ ")"

end Pose

end SceneFrames
