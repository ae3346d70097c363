import SceneFrames.Geometry.Pose
import SceneFrames.Problem

/-!
Frame records: the frames that the members of a scope declare. The empty name stands for the
root frame of the scope.
-/

namespace SceneFrames

/-- A declared frame: its pose, the frame that the pose is relative to, and what declares it. -/
structure FrameRecord (P : Type) where
  name : String
  pose : P
  relativeTo : String := ""
  kind : String := "frame"
  line : Option Int := none

namespace FrameRecord

variable {P : Type}

/-- Where the declaration stands in its source. -/
def location (r : FrameRecord P) : String := lineSuffix r.line

/-- How a message cites the frame. -/
def citation (r : FrameRecord P) : Citation := ⟨r.kind, r.line⟩

end FrameRecord

end SceneFrames
