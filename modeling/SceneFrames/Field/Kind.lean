import SceneFrames.Field.Vector
import SceneFrames.Number.Integer
import SceneFrames.Text.LetterCase

/-!
Kinds of fields, the values of each kind, and how a text is read as one.
-/

namespace SceneFrames

open Text Number

/-- What a field of an element can hold. -/
inductive FieldKind
  | text | integer | real | flag | pose | vector
  deriving DecidableEq, Repr

/-- The values of a kind. -/
abbrev FieldKind.Value : FieldKind → Type
  | text => String
  | integer => Int
  | real => Binary64
  | flag => Bool
  | pose => Pose Float
  | vector => Vec3 Float

/-- Reads a text as a whole number. -/
def readIntegerField (s : String) : Except ValueFault Int :=
  match readInteger (trim s.toList) with
  | .ok n => .ok n
  | .error .malformed => .error (.notInteger (trimmed s))
  | .error (.tooLong digits) => .error (.integerTooLong digits)

/-- Reads a text as true or false, in letters of any case or as a digit. -/
def readFlag (s : String) : Except ValueFault Bool :=
  let word := lowered (trimmed s)
  if word = "true" || word = "1" then .ok true
  else if word = "false" || word = "0" then .ok false
  else .error (.notFlag word)

/-- Reads a text as a value of a kind. -/
def FieldKind.read : (k : FieldKind) → String → Except ValueFault k.Value
  | text, s => .ok (trimmed s)
  | integer, s => readIntegerField s
  | real, s => readWord (trim s.toList)
  | flag, s => readFlag s
  | pose, s => readPose s
  | vector, s => readTriple s

end SceneFrames
