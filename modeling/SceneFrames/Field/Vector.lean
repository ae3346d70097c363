import SceneFrames.Field.Fault
import SceneFrames.Geometry.Pose
import SceneFrames.Number.Numeral
import SceneFrames.Text.Blank

/-!
Vectors and poses as texts: real numbers between blanks. A wrong number of words is said first,
a word that is no number next, and a number that is not finite last.
-/

namespace SceneFrames

open Text Number

/-- Reads one word as a real number. -/
def readWord (w : List Char) : Except ValueFault Binary64 :=
  match readReal? w with
  | some b => .ok b
  | none => .error (.notReal (String.ofList w))

/-- Reads a text as a vector of a size. -/
def readVector (text : String) (size : Int) : Except ValueFault (List Binary64) :=
  let ws := words text.toList
  if (ws.length : Int) ≠ size then .error (.wrongCount size ws.length text)
  else
    match ws.mapM readWord with
    | .error fault => .error fault
    | .ok bs => if bs.all Binary64.isFinite then .ok bs else .error (.notFinite text)

/-- Reads a text as three numbers. -/
def readTriple (text : String) : Except ValueFault (Vec3 Float) :=
  match readVector text 3 with
  | .ok [x, y, z] => .ok ⟨x.toFloat, y.toFloat, z.toFloat⟩
  | .ok bs => .error (.wrongCount 3 bs.length text)
  | .error fault => .error fault

/-- Reads a text as a pose: a position, then roll, pitch and yaw. -/
def readPose (text : String) : Except ValueFault (Pose Float) :=
  match readVector text 6 with
  | .ok [x, y, z, roll, pitch, yaw] =>
    .ok (Pose.ofRollPitchYaw ⟨x.toFloat, y.toFloat, z.toFloat⟩
      ⟨roll.toFloat, pitch.toFloat, yaw.toFloat⟩)
  | .ok bs => .error (.wrongCount 6 bs.length text)
  | .error fault => .error fault

end SceneFrames
