import SceneFrames.Text.Quoted

/-!
What is wrong with a text that should be a value, and how that is said.
-/

namespace SceneFrames

/-- Why a text is not a value of the kind that is asked for. -/
inductive ValueFault
  /-- It is no real number. -/
  | notReal (text : String)
  /-- It is no whole number. -/
  | notInteger (text : String)
  /-- It is a whole number with more digits than are read. -/
  | integerTooLong (digits : Nat)
  /-- It is neither true nor false. -/
  | notFlag (text : String)
  /-- It has another number of words than a vector of the size. -/
  | wrongCount (expected : Int) (found : Nat) (text : String)
  /-- One of its numbers is not finite. -/
  | notFinite (text : String)
  deriving DecidableEq, Repr

/-- The most characters of a quoted text that the message on whole numbers shows. -/
def shownIntegerWidth : Nat := 200

/-- The wording of a fault. -/
def ValueFault.message : ValueFault → String
  | notReal text => "could not convert string to float: " ++ Text.quoted text
  | notInteger text =>
    "invalid literal for int() with base 10: " ++
      String.ofList ((Text.quote text.toList).take shownIntegerWidth)
  | integerTooLong digits =>
    "Exceeds the limit (4300 digits) for integer string conversion: value has " ++
      toString digits ++ " digits; use sys.set_int_max_str_digits() to increase the limit"
  | notFlag text => "'" ++ text ++ "' is not a boolean"
  | wrongCount expected found text =>
    "Expected " ++ toString expected ++ " values but found " ++ toString found ++ " in '" ++
      text ++ "'"
  | notFinite text => "Non-finite value in '" ++ text ++ "'"

end SceneFrames
