import SceneFrames.Number.Numeral

/-!
Written whole numbers: an optional sign and decimal digits of any script, with single
underscores between digits, up to a greatest number of digits.
-/

namespace SceneFrames.Number

open SceneFrames.Text

/-- The greatest number of digits of a whole number that is read. -/
def maxIntegerDigits : Nat := 4300

/-- Why a text is no whole number that can be read. -/
inductive IntegerFault
  /-- It is not written as a whole number. -/
  | malformed
  /-- It begins with more digits than are read. -/
  | tooLong (digits : Nat)
  deriving DecidableEq, Repr

/-- The text up to where digits and underscores end. -/
def digitRun (cs : List Char) : List Char := cs.takeWhile fun c => isPlainDigit c || c = '_'

/-- Reads the digits of a whole number. The underscores of the leading digits are looked at
first, their number next, and what follows them last. -/
def readDigits (cs : List Char) : Except IntegerFault Nat :=
  match withoutUnderscores? ' ' (digitRun cs) with
  | none => .error .malformed
  | some ds =>
    if maxIntegerDigits < ds.length then .error (.tooLong ds.length)
    else if ds.isEmpty || !(cs.drop (digitRun cs).length).isEmpty then .error .malformed
    else .ok (digitsValue (ds.map plainDigitValue))

/-- Reads a text without outer blanks as a whole number. -/
def readInteger (cs : List Char) : Except IntegerFault Int :=
  let (negative, rest) := takeSign (cs.map fun c => (plainChar? c).getD '?')
  (readDigits rest).map fun n => if negative then -(n : Int) else n

end SceneFrames.Number
