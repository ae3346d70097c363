import SceneFrames.Text.Pieces

/-!
Options: how documents are found and read.
-/

namespace SceneFrames

/-- Where documents are searched for, and whether the old name of the attribute that names a base
frame is still understood. -/
structure Options where
  searchPaths : List String := []
  allowsLegacyBase : Bool := true
  deriving DecidableEq, Repr, Inhabited

/-- The variable of the environment that lists search paths. -/
def searchPathVariable : String := "SDF_PATH"

/-- The paths in a list with colons between them; empty ones do not count. -/
def splitSearchPaths (value : String) : List String :=
  (Text.piecesOf ':' value).filter (· ≠ "")

/-- The options where none are given, in an environment with a list of search paths. -/
def Options.ofEnvironment (value : String) : Options := { searchPaths := splitSearchPaths value }

end SceneFrames
